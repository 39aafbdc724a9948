import CardHost.Proofs.Mappings
import CardHost.Proofs.SimulatedCommands

namespace CardHost

open Bus

namespace Controller

/-- Calls of the handler, each with the line asserted, that lead from one state to another. -/
inductive Called {H : Type} [Hardware H] [InterruptLine H] : Nat → Controller H → Controller H → Prop
  | nothing (c : Controller H) : Called 0 c c
  | call {n : Nat} {c c' : Controller H}
    (asserted : InterruptLine.asserted c.bus.hardware = true) (rest : Called n c.interrupt c') :
    Called (n + 1) c c'

section Called

variable {H : Type} [Hardware H] [InterruptLine H] {c c' c'' : Controller H} {n n' : Nat}

theorem Called.trans (h : Called n c c') (h' : Called n' c' c'') : Called (n + n') c c'' := by
  induction h with
  | nothing => rwa [Nat.zero_add]
  | @call n _ _ asserted _ ih =>
    rw [Nat.add_right_comm]
    exact .call asserted (ih h')

theorem Called.one (asserted : InterruptLine.asserted c.bus.hardware = true)
    (h : c.interrupt = c') : Called 1 c c' :=
  .call asserted (h ▸ .nothing _)

theorem Called.serveLine (h : Called n c c')
    (quiet : InterruptLine.asserted c'.bus.hardware = false) {limit : Nat} (enough : n ≤ limit) :
    c.serveLine limit = (n, c') := by
  induction h generalizing limit with
  | nothing c =>
    cases limit with
    | zero => rfl
    | succ limit =>
      simp only [Controller.serveLine, pump]
      rw [if_neg (by rw [quiet]; decide)]
  | @call n c c' asserted _ ih =>
    obtain ⟨limit, rfl⟩ : ∃ m, limit = m + 1 := ⟨limit - 1, by omega⟩
    have hrest := ih quiet (Nat.le_of_succ_le_succ enough)
    simp only [Controller.serveLine, pump] at hrest ⊢
    rw [if_pos asserted, hrest]

end Called

end Controller

namespace Simulator

theorem anyBit_status_eq (s : Simulator) (bits : UInt32) :
    anyBit s.status bits =
      (anyBit s.latched bits ||
        (s.register Register.receiveCount == 0) && anyBit Status.endReceive bits ||
        (s.register Register.receiveCount == 0 && s.register Register.receiveNextCount == 0) &&
          anyBit Status.receiveFull bits ||
        (s.register Register.transmitCount == 0) && anyBit Status.endTransmit bits ||
        (s.register Register.transmitCount == 0 && s.register Register.transmitNextCount == 0) &&
          anyBit Status.transmitEmpty bits ||
        !s.cardBusy && anyBit Status.notBusy bits) := by
  have line : anyBit (if s.cardBusy then 0 else Status.notBusy) bits =
      (!s.cardBusy && anyBit Status.notBusy bits) := by
    cases s.cardBusy with
    | false => rfl
    | true => exact anyBit_zero bits
  simp only [status, anyBit_or, anyBit_ite, line]

theorem anyBit_status_error (s : Simulator) {bits : UInt32} (error : Status.errors &&& bits = bits) :
    anyBit s.status bits = anyBit s.latched bits := by
  have other (word : UInt32) (h : word &&& Status.errors = 0) : anyBit word bits = false := by
    rw [← error, ← anyBit_and, h]
    exact anyBit_zero bits
  rw [anyBit_status_eq, other Status.endReceive rfl, other Status.receiveFull rfl,
    other Status.endTransmit rfl, other Status.transmitEmpty rfl, other Status.notBusy rfl]
  simp only [Bool.and_false, Bool.or_false]

theorem anyBit_status_errors (s : Simulator) :
    anyBit s.status Status.errors = anyBit s.latched Status.errors :=
  s.anyBit_status_error (UInt32.and_self)

theorem quiet_of_masked {s : Simulator} (masked : s.mask = 0) : InterruptLine.asserted s = false := by
  change anyBit s.status s.mask = false
  rw [masked, anyBit, UInt32.and_zero]
  rfl

def hasEnded (s : Simulator) : Stage → Prop
  | .receiving | .filling => s.register Register.receiveCount = 0
  | .sending => s.register Register.transmitCount = 0
  | .settling => True
  | .ready => anyBit s.latched Status.commandReady = true

theorem Still.anyBit_status_iff {s : Simulator} (h : s.Still) (stage : Stage) :
    anyBit s.status stage.bit = true ↔ anyBit s.latched stage.bit = true ∨ s.hasEnded stage := by
  rw [anyBit_status_eq, h.receiveNext, h.transmitNext, h.line]
  cases stage <;> simp +decide [hasEnded, Stage.bit]

theorem Still.anyBit_status {s : Simulator} (h : s.Still) {stage : Stage} (ended : s.hasEnded stage) :
    anyBit s.status stage.bit = true :=
  (h.anyBit_status_iff stage).mpr (.inr ended)

def turned (s : Simulator) (stage : Stage) : Simulator :=
  { s with mask := stage.mask, receiveOn := false, transmitOn := false }

theorem Healthy.turned {s : Simulator} (h : s.Healthy) (stage : Stage) : (s.turned stage).Healthy :=
  ⟨⟨h.still.arrived, h.still.awaited, h.still.line, h.still.receiveNext, h.still.transmitNext⟩,
    h.enabled, h.injected, h.loads⟩

theorem Healthy.masked {s : Simulator} (h : s.Healthy) (mask : UInt32) :
    ({ s with mask } : Simulator).Healthy :=
  ⟨⟨h.still.arrived, h.still.awaited, h.still.line, h.still.receiveNext, h.still.transmitNext⟩,
    h.enabled, h.injected, h.loads⟩

end Simulator

theorem ResponseFlags.words_le (f : ResponseFlags) : f.words ≤ 4 := by
  unfold words
  split
  · split <;> decide
  · decide

def Memory.restored (m : Memory) (soc : Soc) (id : BufferId) : Memory :=
  if soc.swapsBytes then m.set id (m.get id).reverseWords else m

theorem Memory.restored_alike (m : Memory) (soc : Soc) (id : BufferId) : m.Alike (m.restored soc id) := by
  unfold restored
  split
  · exact m.alike_set _ _ (Bytes.length_reverseWords _)
  · exact .refl _

namespace Controller

variable {c : Controller Simulator} {a : Active} {command : Command BufferId}

theorem observed_simulated (c : Controller Simulator) :
    c.observed = c.bus.hardware.status &&& c.bus.hardware.mask := rfl

theorem anyBit_observed_error {stage : Stage} (mask : c.bus.hardware.mask = stage.mask) {bits : UInt32}
    (error : Status.errors &&& bits = bits) :
    anyBit c.observed bits = anyBit c.bus.hardware.latched bits := by
  have hmask : stage.mask &&& bits = bits := by
    rw [← error, ← UInt32.and_assoc]
    congr 1
    cases stage <;> rfl
  rw [observed_simulated, mask, anyBit_and, hmask, Simulator.anyBit_status_error _ error]

theorem anyBit_observed_errors {stage : Stage} (mask : c.bus.hardware.mask = stage.mask) :
    anyBit c.observed Status.errors = anyBit c.bus.hardware.latched Status.errors :=
  anyBit_observed_error mask UInt32.and_self

theorem ofStatus?_observed {stage : Stage} (mask : c.bus.hardware.mask = stage.mask) (opcode : UInt32) :
    CommandError.ofStatus? c.observed opcode =
      CommandError.ofStatus? c.bus.hardware.latched opcode := by
  have seen (bits : UInt32) (error : Status.errors &&& bits = bits) :
      anyBit c.observed bits = anyBit c.bus.hardware.latched bits := anyBit_observed_error mask error
  simp only [CommandError.ofStatus?, seen Status.responseCrc (by decide),
    seen (Status.responseTimeout ||| Status.dataTimeout) (by decide),
    seen (Status.responseCrc ||| Status.dataCrc) (by decide),
    seen (Status.overrun ||| Status.underrun) (by decide)]

theorem interrupt_idle (attached : c.detached = false) (idle : c.active = none) :
    c.interrupt = { c with bus := { c.bus with hardware := { c.bus.hardware with mask := 0 } } } := by
  have hcurrent : c.current? = none := current?_of_idle idle
  have hmask : c.bus.hardware.mask &&& ~~~Status.all = 0 := UInt32.and_zero
  rw [interrupt_eq attached, hcurrent]
  change c.write Register.disable Status.all = _
  rw [Controller.write, write_disable, hmask]

def serveStage (c : Controller Simulator) (command : Command BufferId) :
    Stage → Controller Simulator
  | .receiving => c.serveReceived command
  | .filling => c.serveFull
  | .sending => c.serveSent command
  | .settling => c.serveIdleLine
  | .ready => c.conclude command none

theorem interrupt_stage {stage : Stage} (attached : c.detached = false)
    (current : c.current? = some command) (mask : c.bus.hardware.mask = stage.mask) :
    c.interrupt =
      if anyBit c.bus.hardware.latched Status.errors then c.serveError command c.observed
      else if anyBit c.bus.hardware.status stage.bit then c.serveStage command stage else c := by
  have observed (other : Stage) :
      anyBit c.observed other.bit = (decide (stage = other) && anyBit c.bus.hardware.status other.bit) := by
    rw [observed_simulated, mask, Stage.anyBit_mask]
  have hsent : anyBit c.observed Status.transmitEmpty = _ := observed .sending
  have hfull : anyBit c.observed Status.receiveFull = _ := observed .filling
  have hreceived : anyBit c.observed Status.endReceive = _ := observed .receiving
  have hline : anyBit c.observed Status.notBusy = _ := observed .settling
  have hready : anyBit c.observed Status.commandReady = _ := observed .ready
  have hseen : ({ c with bus := c.seen } : Controller Simulator) = c := rfl
  rw [interrupt_eq attached, current, ← anyBit_observed_errors mask]
  simp only [hseen, serveStages, hsent, hfull, hreceived, hline, hready]
  cases stage <;> simp [serveStage]

theorem asserted_stage {stage : Stage} (mask : c.bus.hardware.mask = stage.mask) :
    InterruptLine.asserted c.bus.hardware =
      (anyBit c.bus.hardware.latched Status.errors || anyBit c.bus.hardware.status stage.bit) := by
  change anyBit c.bus.hardware.status c.bus.hardware.mask = _
  rw [mask, Stage.mask, anyBit_bits_or, Simulator.anyBit_status_errors]

structure Waits (c : Controller Simulator) (command : Command BufferId) (stage : Stage) : Prop where
  attached : c.detached = false
  current : c.current? = some command
  healthy : c.bus.hardware.Healthy
  mask : c.bus.hardware.mask = stage.mask
  clean : anyBit c.bus.hardware.latched Status.errors = false
  ended : c.bus.hardware.hasEnded stage

theorem Waits.called {stage : Stage} (h : c.Waits command stage) :
    Called 1 c (c.serveStage command stage) := by
  have hbit := h.healthy.still.anyBit_status h.ended
  refine .one ?_ ?_
  · rw [asserted_stage h.mask, hbit, Bool.or_true]
  · rw [interrupt_stage h.attached h.current h.mask, h.clean, hbit]
    rfl

theorem called_error {stage : Stage} {e : CommandError} (attached : c.detached = false)
    (current : c.current? = some command) (mask : c.bus.hardware.mask = stage.mask)
    (faulty : anyBit c.bus.hardware.latched Status.errors = true)
    (error : CommandError.ofStatus? c.observed command.opcode = some e) :
    Called 1 c (c.unload.conclude command (some e)) := by
  refine .one ?_ ?_
  · rw [asserted_stage mask, faulty, Bool.true_or]
  · rw [interrupt_stage attached current mask, if_pos faulty, serveError, error]

theorem unload_simulated (mapped : c.mapped = 1) :
    c.unload = { c with bus := { c.bus with mapping := none }, mapped := 0 } := by
  rw [unload, if_neg (by rw [mapped]; decide), mapped]
  rfl

theorem serveReceived_ordered (ha : c.active = some a) (hc : a.current? = some command)
    (mapped : c.mapped = 1) (mask : c.bus.hardware.mask = Stage.receiving.mask) :
    c.serveReceived command =
      c.proceed
        ⟨c.bus.hardware.turned .filling,
          (command.data.map (·.buffer)).elim c.bus.memory (c.bus.memory.restored c.board.soc), none⟩ 0
        (a.replace (c.accounted command)) := by
  have hunload : (c.sync .afterRead).unload =
      { c with bus := { c.bus with mapping := none }, mapped := 0 } :=
    unload_simulated (c := c.sync .afterRead) mapped
  have hrestore : ((c.sync .afterRead).unload).restoreOrder command =
      { c with
        bus := { c.bus with
          memory := (command.data.map (·.buffer)).elim c.bus.memory
            (c.bus.memory.restored c.board.soc)
          mapping := none }
        mapped := 0 } := by
    rw [hunload]
    cases hd : command.data with
    | none =>
      simp only [restoreOrder, hd]
      rfl
    | some data =>
      simp only [restoreOrder, hd, Option.map_some, Option.elim_some, Memory.restored]
      split <;> rfl
  have halike : c.bus.memory.Alike ((command.data.map (·.buffer)).elim c.bus.memory
      (c.bus.memory.restored c.board.soc)) := by
    cases command.data with
    | none => exact .refl _
    | some data => exact c.bus.memory.restored_alike c.board.soc data.buffer
  generalize (command.data.map (·.buffer)).elim c.bus.memory (c.bus.memory.restored c.board.soc) =
    memory at hrestore halike ⊢
  have haccount := accountMoved_eq (c := { c with
    bus := { c.bus with memory, mapping := none }, mapped := 0 }) command ha hc (.inl rfl)
  rw [accounted_congr (c := c) halike] at haccount
  have hmask : (c.bus.hardware.mask &&& ~~~Status.endReceive) ||| Status.receiveFull =
      Stage.filling.mask := by
    rw [mask]
    exact Stage.mask_next (show Stage.receiving ≠ .ready by decide)
  simp only [serveReceived]
  rw [hrestore, haccount, writeAll_eq, writeAll_cons, write_disable, writeAll_cons, write_enable,
    writeAll_cons, write_stop, writeAll_nil]
  simp only [hmask]
  rfl

theorem serveReceived_simulated {data : Payload BufferId} (ha : c.active = some a)
    (hc : a.current? = some command) (hd : command.data = some data) (mapped : c.mapped = 1)
    (mask : c.bus.hardware.mask = Stage.receiving.mask) :
    c.serveReceived command =
      c.proceed
        ⟨c.bus.hardware.turned .filling, c.bus.memory.restored c.board.soc data.buffer, none⟩ 0
        (a.replace (c.accounted command)) := by
  have hserve := serveReceived_ordered ha hc mapped mask
  rwa [hd] at hserve

theorem serveStage_settles {stage : Stage} (last : stage = .filling ∨ stage = .settling)
    (mask : c.bus.hardware.mask = stage.mask) (command : Command BufferId) :
    c.serveStage command stage =
      { c with bus := { c.bus with hardware := { c.bus.hardware with mask := Stage.ready.mask } } } := by
  have hmask : (c.bus.hardware.mask &&& ~~~stage.bit) ||| Status.commandReady = Stage.ready.mask := by
    rw [mask]
    obtain rfl | rfl := last <;> exact Stage.mask_next (by decide)
  have switched : c.writeAll [(Register.disable, stage.bit), (Register.enable, Status.commandReady)] =
      { c with bus := { c.bus with hardware := { c.bus.hardware with mask := Stage.ready.mask } } } := by
    rw [writeAll_eq, writeAll_cons, write_disable, writeAll_cons, write_enable, writeAll_nil]
    simp only [hmask]
  obtain rfl | rfl := last <;> exact switched

theorem serveSent_simulated (ha : c.active = some a) (hc : a.current? = some command)
    (mapped : c.mapped = 1) (mask : c.bus.hardware.mask = Stage.sending.mask) :
    c.serveSent command =
      c.proceed ⟨c.bus.hardware.turned .settling, c.bus.memory, none⟩ 0
        (a.replace (c.accounted command)) := by
  have hmask : (c.bus.hardware.mask &&& ~~~Status.transmitEmpty) ||| Status.notBusy =
      Stage.settling.mask := by
    rw [mask]
    exact Stage.mask_next (show Stage.sending ≠ .ready by decide)
  have hwrites : c.writeAll [(Register.channelControl, Channel.stop),
      (Register.disable, Status.transmitEmpty), (Register.enable, Status.notBusy)] =
        { c with bus := { c.bus with hardware := c.bus.hardware.turned .settling } } := by
    rw [writeAll_eq, writeAll_cons, write_stop, writeAll_cons, write_disable, writeAll_cons,
      write_enable, writeAll_nil]
    simp only [hmask]
    rfl
  have hunload := unload_simulated (c := ({ c with
    bus := { c.bus with hardware := c.bus.hardware.turned .settling } } :
      Controller Simulator).sync .afterWrite) mapped
  have haccount := accountMoved_eq (c := { c with
    bus := ⟨c.bus.hardware.turned .settling, c.bus.memory, none⟩, mapped := 0 })
    command ha hc (.inl rfl)
  simp only [serveSent]
  rw [hwrites, hunload]
  exact haccount

def responseWords (s : Simulator) (i n : Nat) : List UInt32 :=
  (List.range' i n).map fun j => s.read (Register.response + 4 * j)

theorem responseWords_take (s : Simulator) {n : Nat} (few : n ≤ 4) :
    (responseWords s 0 4).take n = responseWords s 0 n := by
  match n, few with
  | 0, _ | 1, _ | 2, _ | 3, _ | 4, _ => rfl

theorem responseWords_eq (s : Simulator) : responseWords s 0 4 =
    [s.register Register.response, s.register (Register.response + 4),
      s.register (Register.response + 8), s.register (Register.response + 12)] := rfl

theorem responseWords_setResponse (s : Simulator) (words : Response) :
    responseWords (s.setResponse words) 0 4 = words.toList := by
  have hlist : words.toList = [words.word 0, words.word 1, words.word 2, words.word 3] := by
    rcases words with ⟨⟨words⟩, size⟩
    match words, size with
    | [_, _, _, _], _ => rfl
  rw [responseWords_eq, hlist]
  simp [Simulator.setResponse, Simulator.register_setRegister, Register.response]

theorem readResponse_simulated (ha : c.active = some a) (hc : a.current? = some command)
    (i n : Nat) :
    c.readResponse i n = c.proceed c.bus c.mapped (a.replace
      { command with
        response := fillResponse command.response i (responseWords c.bus.hardware i n) }) := by
  induction n generalizing c a command i with
  | zero => exact (proceed_self ha hc).symm
  | succ n ih =>
    have hm := modifyCurrent_eq (c := (c.read (Register.response + 4 * i)).2) ha hc fun cmd =>
      { cmd with
        response := cmd.response.setIfInBounds i (c.read (Register.response + 4 * i)).1 }
    simp only [readResponse]
    rw [ih (congrArg Controller.active hm) (Active.current?_replace hc _) (i + 1), hm,
      Active.replace_replace]
    rfl

theorem conclude_simulated (found : Command BufferId) (error : Option CommandError)
    (ha : c.active = some a) (hc : a.current? = some command) :
    c.conclude found error =
      (c.proceed { c.bus with hardware := { c.bus.hardware with mask := 0 } } c.mapped
        (a.replace (answered command error
          (responseWords { c.bus.hardware with mask := 0 } 0 found.flags.words)))).advance := by
  have hm := modifyCurrent_eq (c := c) ha hc fun cmd => { cmd with error }
  have he := readResponse_simulated
    (c := (c.modifyCurrent fun cmd => { cmd with error }).write Register.disable Status.all)
    (congrArg Controller.active hm) (Active.current?_replace hc _) 0 found.flags.words
  have hmask : c.bus.hardware.mask &&& ~~~Status.all = 0 := UInt32.and_zero
  have hwrite : c.bus.write Register.disable Status.all =
      { c.bus with hardware := { c.bus.hardware with mask := 0 } } := by
    rw [write_disable, hmask]
  have hbus : ((c.modifyCurrent fun cmd => { cmd with error }).write Register.disable Status.all).bus =
      { c.bus with hardware := { c.bus.hardware with mask := 0 } } := hwrite
  simp only [conclude]
  rw [he, hbus, hm, Active.replace_replace]
  rfl

end Controller

end CardHost
