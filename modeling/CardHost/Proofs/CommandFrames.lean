import CardHost.Proofs.CommandStages
import CardHost.Proofs.FailedStops
import CardHost.Proofs.OrderlyFaults
import CardHost.Proofs.Serially

namespace CardHost

open Bus

structure Payload.Keeps (handed last : Payload Bytes) : Prop where
  flags : last.flags = handed.flags
  length : last.buffer.length = handed.buffer.length
  bytes : handed.flags.isRead = false → last.buffer = handed.buffer

namespace Command

/-- A command that differs from the one handed in at most in its outcome, and in the bytes that it reads. -/
structure Keeps (handed last : Command Bytes) : Prop where
  opcode : last.opcode = handed.opcode
  argument : last.argument = handed.argument
  flags : last.flags = handed.flags
  data : Option.Rel Payload.Keeps handed.data last.data

/-- A command that has ended differs from the one handed in only in its results. Of the response these are the
words that it expects; a transfer that failed has none but its error. -/
structure Returns (handed last : Command Bytes) : Prop extends Keeps handed last where
  response : ∀ i, handed.flags.words ≤ i → last.response.word i = handed.response.word i
  failed : last.error ≠ none → handed.transfers = true →
    last.data = handed.data.map fun data => { data with moved := 0 }

variable {handed last last' : Command Bytes}

theorem Keeps.refl (handed : Command Bytes) : handed.Keeps handed := by
  refine ⟨rfl, rfl, rfl, ?_⟩
  cases handed.data with
  | none => exact .none
  | some data => exact .some ⟨rfl, rfl, fun _ => rfl⟩

theorem Keeps.of_blank (h : handed.Keeps last) (same : last'.blank = last.blank) : handed.Keeps last' := by
  obtain ⟨opcode, argument, flags, data, error, response⟩ := last
  obtain ⟨opcode', argument', flags', data', error', response'⟩ := last'
  simp only [blank, Command.mk.injEq, and_true] at same
  obtain ⟨rfl, rfl, rfl, same⟩ := same
  refine ⟨h.opcode, h.argument, h.flags, ?_⟩
  have kept : Option.Rel Payload.Keeps handed.data data := h.data
  cases data' with
  | none =>
    rw [Option.map_none, eq_comm, Option.map_eq_none_iff] at same
    rwa [same] at kept
  | some data' =>
    obtain ⟨data, rfl, hsame⟩ := Option.map_eq_some_iff.mp same.symm
    obtain ⟨hbuffer, hflags, -⟩ := Payload.mk.inj hsame
    generalize handed.data = before at kept
    cases kept with
    | some kept => exact .some ⟨hflags ▸ kept.flags, hbuffer ▸ kept.length, hbuffer ▸ kept.bytes⟩

theorem Keeps.move {command : Command BufferId} {f g : BufferId → Bytes} (h : handed.Keeps (command.map f))
    (same : ∀ data, command.data = some data → (g data.buffer).length = (f data.buffer).length ∧
      (data.flags.isRead = false → g data.buffer = f data.buffer)) : handed.Keeps (command.map g) := by
  refine ⟨h.opcode, h.argument, h.flags, ?_⟩
  have kept : Option.Rel Payload.Keeps handed.data (command.data.map (·.map f)) := h.data
  change Option.Rel Payload.Keeps handed.data (command.data.map (·.map g))
  cases hd : command.data with
  | none => rwa [hd] at kept
  | some data =>
    obtain ⟨length, bytes⟩ := same data hd
    rw [hd, Option.map_some] at kept
    generalize handed.data = before at kept ⊢
    cases kept with
    | some kept =>
      refine .some ⟨kept.flags, length.trans kept.length, fun isWrite => ?_⟩
      exact (bytes (kept.flags.symm ▸ isWrite)).trans (kept.bytes isWrite)

theorem returns_unsent (handed : Command Bytes) : handed.Returns handed.unsent := by
  refine ⟨(Keeps.refl handed).of_blank ?_, fun _ _ => rfl, fun _ _ => rfl⟩
  cases hd : handed.data <;> simp [blank, unsent, hd]

end Command

namespace Controller

open Simulator

variable {c c' : Controller Simulator} {a : Active} {command : Command BufferId} {handed : Command Bytes}
  {stage : Stage} {left : Bool} {id : BufferId}

structure Underway (c : Controller Simulator) (handed : Command Bytes) (command : Command BufferId) :
    Prop where
  keeps : handed.Keeps (command.map c.buffer)
  response : command.response = handed.response
  failed : anyBit c.bus.hardware.latched Status.errors = true → handed.transfers = true →
    (command.map c.buffer).data = handed.data.map fun data => { data with moved := 0 }
  reads : c.bus.hardware.mask = Stage.receiving.mask →
    ∀ data, command.data = some data → data.flags.isRead = true

theorem Underway.of_eq (h : c.Underway handed command) (memory : c'.bus.memory = c.bus.memory)
    (latched : c'.bus.hardware.latched = c.bus.hardware.latched)
    (mask : c'.bus.hardware.mask = c.bus.hardware.mask) : c'.Underway handed command := by
  have buffer : c'.buffer = c.buffer := by
    unfold Controller.buffer
    rw [memory]
  constructor
  case keeps =>
    rw [buffer]
    exact h.keeps
  case response => exact h.response
  case failed =>
    rw [buffer, latched]
    exact h.failed
  case reads =>
    rw [mask]
    exact h.reads

section Launch

theorem map_restaged {B : Type} (f : BufferId → B) (command : Command BufferId) :
    ((restaged command).map f).data = (command.map f).data.map fun data => { data with moved := 0 } := by
  cases hd : command.data <;> simp [restaged, Command.map, Payload.map, hd]

theorem underway_transfer (bytes : command.map c.buffer = handed) {bus : Bus Simulator} {data : Payload BufferId}
    (hd : command.data = some data) (length : (bus.memory.get data.buffer).length = (c.buffer data.buffer).length)
    (same : data.flags.isRead = false ∨ anyBit bus.hardware.latched Status.errors = true →
      bus.memory.get data.buffer = c.buffer data.buffer)
    (reads : bus.hardware.mask = Stage.receiving.mask → data.flags.isRead = true) :
    (c.proceed bus 1 (a.replace (restaged command))).Underway handed (restaged command) := by
  have kept : handed.Keeps ((restaged command).map c.buffer) := by
    refine (Command.Keeps.refl handed).of_blank ?_
    rw [Command.blank_map, blank_restaged, ← Command.blank_map, bytes]
  have only {data' : Payload BufferId} (hd' : (restaged command).data = some data') :
      data'.buffer = data.buffer ∧ data'.flags = data.flags := by
    rw [restaged, hd, Option.map_some] at hd'
    cases hd'
    exact ⟨rfl, rfl⟩
  refine ⟨kept.move fun data' hd' => ?_, ?_, fun faulty _ => ?_, fun mask data' hd' => ?_⟩
  · obtain ⟨hbuffer, hflags⟩ := only hd'
    rw [hbuffer, hflags]
    exact ⟨length, fun isWrite => same (.inl isWrite)⟩
  · rw [← bytes]
    rfl
  · rw [map_restaged, ← bytes]
    have unmoved : command.map (c.proceed bus 1 (a.replace (restaged command))).buffer = command.map c.buffer := by
      refine Command.map_congr fun id hid => ?_
      simp only [Command.buffers, hd, Option.toList_some, List.map_cons, List.map_nil, List.mem_singleton] at hid
      rw [hid]
      exact same (.inr faulty)
    rw [unmoved]
  · rw [(only hd').2]
    exact reads mask

theorem staging_ok {data : Payload BufferId} {mapped : UInt32 × Nat} (ha : c.active = some a)
    (hc : a.current? = some command) (hd : command.data = some data)
    (maps : (c.staging data).mapData data = (.ok mapped, c')) :
    c.mapped = 0 ∧ c.bus.hardware.failNextLoad = false ∧
      if data.flags.isRead then (c.buffer data.buffer).length ≤ maxMapping
      else c.fetched (c.buffer data.buffer) ≤ (c.buffer c.bounce).length := by
  rw [staging_eq ha hc hd (c.prepareData_simulated _)] at maps
  have room := mapData_ok_simulated maps
  exact room

def Wires (c : Controller Simulator) (a : Active) (handed : Command Bytes) (command : Command BufferId) : Prop :=
  ∃ command', (c.launch command).active = some (a.replace command') ∧ (c.launch command).tickets = c.tickets ∧
    command'.blank = command.blank ∧ (c.launch command).Underway handed command'

theorem wires_quiet (clear : c.Clear) (ha : c.active = some a) (hc : a.current? = some command)
    (bytes : command.map c.buffer = handed) (quiet : command.transfers = false) : c.Wires a handed command := by
  obtain ⟨armed, -, hlaunch⟩ := launch_quiet clear.mask quiet
  obtain ⟨goesOn, t, responds⟩ := armed.responds (c.wireWord command)
  obtain rfl : goesOn = false := responds.quiet (c.wireWord_starts_nothing command quiet)
  rw [Wires, hlaunch t responds]
  refine ⟨command, ?_, rfl, rfl, ?_, ?_, fun _ moves => ?_, fun mask => ?_⟩
  · rw [Active.replace_current hc]
    exact ha
  · change handed.Keeps (command.map c.buffer)
    rw [bytes]
    exact .refl handed
  · rw [← bytes]
    rfl
  · rw [← bytes, Command.transfers_map, quiet] at moves
    cases moves
  · cases Stage.mask_inj.mp mask

theorem wires_read (launchable : c.Launchable) (orderly : c.bus.hardware.Orderly) (ha : c.active = some a)
    (hc : a.current? = some command) (bytes : command.map c.buffer = handed) {data : Payload BufferId}
    (hd : command.data = some data) (isRead : data.flags.isRead = true)
    (fits : (c.buffer data.buffer).length ≤ maxMapping) : c.Wires a handed command := by
  have armed : (c.bus.hardware.armedRead (c.buffer data.buffer).length command.argument).Orderly := by
    obtain ⟨registers, frame⟩ := c.bus.hardware.armedRead_frame (c.buffer data.buffer).length command.argument
    rw [frame]
    exact orderly.of_eq rfl rfl rfl
  rw [Wires, launch_read_simulated launchable ha hc hd isRead fits]
  refine ⟨restaged command, rfl, rfl, blank_restaged _, underway_transfer bytes hd ?_ ?_ fun _ => isRead⟩
  · exact (performs_writeAll _ _).alike.2 data.buffer
  · rintro (isWrite | faulty)
    · cases isRead.symm.trans isWrite
    · exact congrArg (·.get data.buffer) (issued_faulty armed _ _ faulty)

theorem wires_write (launchable : c.Launchable) (mask : c.bus.hardware.mask = 0) (ha : c.active = some a)
    (hc : a.current? = some command) (bytes : command.map c.buffer = handed) {data : Payload BufferId}
    (hd : command.data = some data) (isRead : data.flags.isRead = false) (isWrite : data.flags.isWrite = true)
    (room : c.fetched (c.buffer data.buffer) ≤ (c.buffer c.bounce).length)
    (fits : (c.buffer c.bounce).length ≤ maxMapping) (apart : c.bounce ≠ data.buffer) :
    c.Wires a handed command := by
  rw [Wires, launch_write_simulated launchable ha hc hd isRead isWrite room (Nat.le_trans room fits)]
  generalize hbus : Bus.mk (c.bus.hardware.armedWrite _ _ _) _ _ = armed
  have masked : armed.mask = 0 := by
    rw [← hbus]
    exact mask
  have unmoved (l : List (Nat × UInt32)) :
      (armed.writeAll l).memory.get data.buffer = c.buffer data.buffer := by
    rw [writeAll_get, ← hbus, Memory.get_set, if_neg fun same => apart same.1]
    · rfl
    · rw [← hbus]
      rintro m ⟨⟩
      exact apart
  refine ⟨restaged command, rfl, rfl, blank_restaged _,
    underway_transfer bytes hd (congrArg List.length (unmoved _)) (fun _ => unmoved _) fun receiving => ?_⟩
  have sending := (performs_writeAll armed [(Register.command, c.wireWord command),
    (Register.channelControl, Channel.transmitOn),
    (Register.enable, Status.errors ||| Status.transmitEmpty)]).mask rfl
  have enabled : Stage.receiving.mask = Stage.sending.mask := by
    rw [masked] at sending
    exact receiving.symm.trans (sending.trans UInt32.zero_or)
  cases Stage.mask_inj.mp enabled

theorem launch_underway (clear : c.Clear) (orderly : c.bus.hardware.Orderly) (ha : c.active = some a)
    (hc : a.current? = some command) (beside : c.bounce ∉ command.buffers)
    (bytes : command.map c.buffer = handed) :
    c.Wires a handed command ∨
      (c.launch command).active = none ∧
        (c.launch command).tickets = delivered c.tickets (a.replace (unmapped command)) ∧
        (unmapped command).map (c.launch command).buffer = handed.unsent := by
  by_cases quiet : command.transfers = false
  · exact .inl (wires_quiet clear ha hc bytes quiet)
  obtain ⟨data, hd, moves⟩ : ∃ data, command.data = some data ∧ data.flags.transfers = true := by
    rw [Command.transfers] at quiet
    cases hd : command.data with
    | none => exact (quiet (by rw [hd]; rfl)).elim
    | some data => exact ⟨data, rfl, by simpa [hd] using quiet⟩
  rcases maps : (c.staging data).mapData data with ⟨e | mapped, c'⟩
  · right
    obtain ⟨memory, -, others, hlaunch⟩ := launch_failed_simulated ha hc hd moves (congrArg Prod.fst maps)
    have unmoved : command.map memory.get = command.map c.buffer := by
      refine Command.map_congr fun id hid => others id ?_
      rintro rfl
      exact beside hid
    rw [hlaunch]
    refine ⟨rfl, rfl, ?_⟩
    rw [Command.map_unmapped, ← bytes, ← unmoved]
    rfl
  · left
    obtain ⟨free, loads, room⟩ := staging_ok ha hc hd maps
    have launchable := clear.launchable free loads
    cases isRead : data.flags.isRead with
    | true =>
      rw [isRead, if_pos rfl] at room
      exact wires_read launchable orderly ha hc bytes hd isRead room
    | false =>
      rw [isRead, if_neg (by decide)] at room
      rw [DataFlags.transfers, isRead, Bool.false_or] at moves
      refine wires_write launchable clear.mask ha hc bytes hd isRead moves room ?_ ?_
      · rw [clear.settled.bounce]
        decide
      · intro same
        exact beside (same ▸ by simp [Command.buffers, hd])

end Launch

section Interrupt

def ended (c : Controller Simulator) (mapping : Option Mapping) (a : Active) : Controller Simulator :=
  c.proceed ⟨{ c.bus.hardware with mask := 0 }, c.bus.memory, mapping⟩ (if mapping.isSome then 1 else 0) a

theorem ended_clear (settled : c.Settled) (mapping : Option Mapping) : (c.ended mapping a).Clear := by
  refine ⟨⟨?_, settled.soc, settled.bounce⟩, rfl, rfl⟩
  exact ⟨settled.still.arrived, settled.still.awaited, settled.still.line, settled.still.receiveNext,
    settled.still.transmitNext⟩

inductive Continues (c : Controller Simulator) (a : Active) (command : Command BufferId) :
    Controller Simulator → Prop
  | waits : Continues c a command c
  | receives (mask : c.bus.hardware.mask = Stage.receiving.mask)
    (clean : anyBit c.bus.hardware.latched Status.errors = false) :
    Continues c a command (c.proceed
      ⟨c.bus.hardware.turned .filling,
        (command.data.map (·.buffer)).elim c.bus.memory (c.bus.memory.restored c.board.soc), none⟩ 0
      (a.replace (c.accounted command)))
  | sends (clean : anyBit c.bus.hardware.latched Status.errors = false) :
    Continues c a command (c.proceed ⟨c.bus.hardware.turned .settling, c.bus.memory, none⟩ 0
      (a.replace (c.accounted command)))
  | settles (clean : anyBit c.bus.hardware.latched Status.errors = false) :
    Continues c a command
      { c with bus := { c.bus with hardware := { c.bus.hardware with mask := Stage.ready.mask } } }

theorem unload_of_counted (count : c.Counted) :
    c.unload = { c with bus := { c.bus with mapping := none }, mapped := 0 } := by
  unfold Counted at count
  cases hm : c.bus.mapping with
  | none =>
    rw [hm] at count
    have free : c.mapped = 0 := count
    rw [unload, if_pos free, ← hm, ← free]
  | some m =>
    rw [hm] at count
    exact unload_simulated count

theorem conclude_ended (found : Command BufferId) (error : Option CommandError) (ha : c.active = some a)
    (hc : a.current? = some command) (count : c.Counted) :
    ∃ words, words.length = found.flags.words ∧
      c.conclude found error = (c.ended c.bus.mapping (a.replace (answered command error words))).advance := by
  refine ⟨responseWords { c.bus.hardware with mask := 0 } 0 found.flags.words, ?_, ?_⟩
  · rw [responseWords, List.length_map, List.length_range']
  · rw [conclude_simulated found error ha hc, ended, ← show c.mapped = _ from count]

theorem interrupt_continues (works : c.Works left stage) (attached : c.detached = false) (ha : c.active = some a)
    (hc : a.current? = some command) :
    c.Continues a command c.interrupt ∨ ∃ mapping error words, words.length = command.flags.words ∧
      (error ≠ none → anyBit c.bus.hardware.latched Status.errors = true) ∧ error ≠ some .noMemory ∧
      c.interrupt = (c.ended mapping (a.replace (answered command error words))).advance := by
  have mask : c.bus.hardware.mask = stage.mask := works.mask
  rw [interrupt_stage attached (current?_of_active ha hc) mask]
  by_cases faulty : anyBit c.bus.hardware.latched Status.errors = true
  · right
    rw [if_pos faulty, serveError]
    cases judged : CommandError.ofStatus? c.observed command.opcode with
    | none =>
      obtain ⟨words, length, he⟩ := conclude_ended command none ha hc works.count
      exact ⟨_, none, words, length, fun _ => faulty, (Option.some_ne_none _).symm, he⟩
    | some e =>
      dsimp only
      rw [unload_of_counted works.count]
      obtain ⟨words, length, he⟩ := conclude_ended
        (c := { c with bus := { c.bus with mapping := none }, mapped := 0 }) command (some e) ha hc rfl
      have ends : c.Ends command c.observed _ _ command (some e) :=
        .failed e ((anyBit_observed_errors mask).trans faulty) judged
      exact ⟨none, some e, words, length, fun _ => faulty, ends.error_ne, he⟩
  · have clean := Bool.eq_false_iff.mpr faulty
    have mapped (data : stage.isData = true) : c.mapped = 1 := by
      rw [works.count, works.mapping, data, Bool.or_true]
      rfl
    rw [if_neg faulty]
    split
    · cases stage with
      | receiving =>
        rw [serveStage, serveReceived_ordered ha hc (mapped rfl) mask]
        exact .inl (.receives mask clean)
      | filling =>
        rw [serveStage_settles (.inl rfl) mask]
        exact .inl (.settles clean)
      | sending =>
        rw [serveStage, serveSent_simulated ha hc (mapped rfl) mask]
        exact .inl (.sends clean)
      | settling =>
        rw [serveStage_settles (.inr rfl) mask]
        exact .inl (.settles clean)
      | ready =>
        right
        obtain ⟨words, length, he⟩ := conclude_ended command none ha hc works.count
        exact ⟨_, none, words, length, fun error => (error rfl).elim, (Option.some_ne_none _).symm, he⟩
    · exact .inl .waits

theorem Continues.underway (h : c.Continues a command c') (ha : c.active = some a)
    (hc : a.current? = some command) (underway : c.Underway handed command) :
    ∃ command', c'.active = some (a.replace command') ∧ c'.tickets = c.tickets ∧
      command'.blank = command.blank ∧ c'.Underway handed command' := by
  have active : c.active = some (a.replace command) := by rw [Active.replace_current hc, ha]
  have accounted {f : BufferId → Bytes} (kept : handed.Keeps (command.map f)) :
      handed.Keeps ((c.accounted command).map f) := by
    refine kept.of_blank ?_
    rw [Command.blank_map, blank_accounted, Command.blank_map]
  have unfailed {P : Prop} (clean : anyBit c.bus.hardware.latched Status.errors = false)
      (faulty : anyBit c.bus.hardware.latched Status.errors = true) : P :=
    Bool.noConfusion (faulty.symm.trans clean)
  cases h with
  | waits => exact ⟨command, active, rfl, rfl, underway⟩
  | receives mask clean =>
    refine ⟨_, rfl, rfl, blank_accounted _, accounted (underway.keeps.move fun data hd => ?_),
      underway.response, unfailed clean, fun filling => ?_⟩
    · rw [hd, Option.map_some, Option.elim_some]
      refine ⟨(c.bus.memory.restored_alike c.board.soc data.buffer).2 data.buffer, fun isWrite => ?_⟩
      cases (underway.reads mask data hd).symm.trans isWrite
    · cases Stage.mask_inj.mp filling
  | sends clean =>
    refine ⟨_, rfl, rfl, blank_accounted _, accounted underway.keeps, underway.response, unfailed clean,
      fun settling => ?_⟩
    cases Stage.mask_inj.mp settling
  | settles clean =>
    refine ⟨command, active, rfl, rfl, underway.keeps, underway.response, unfailed clean, fun ready => ?_⟩
    cases Stage.mask_inj.mp ready

theorem Continues.retains (h : c.Continues a command c') (ha : c.active = some a) (closed : c.Sealed id)
    (other : id ∉ command.buffers) : Retains id c c' := by
  have freed (hardware : Simulator) (memory : Memory) (a : Active) :
      (c.proceed ⟨hardware, memory, none⟩ 0 a).Sealed id := ⟨closed.bounce, .inl nofun⟩
  cases h with
  | waits => exact ⟨closed, rfl⟩
  | receives =>
    refine ⟨freed _ _ _, ?_⟩
    cases hd : command.data with
    | none => rfl
    | some data =>
      have apart := Command.buffer_ne other hd
      change (c.bus.memory.restored c.board.soc data.buffer).get id = _
      unfold Memory.restored
      split
      · rw [Memory.get_set, if_neg fun same => apart same.1]
        rfl
      · rfl
  | sends => exact ⟨freed _ _ _, rfl⟩
  | settles =>
    refine ⟨⟨closed.bounce, closed.mapping.imp_right fun left => ?_⟩, rfl⟩
    obtain ⟨stage, works⟩ := left.works a ha
    have mapping := works.mapping
    rw [Bool.true_or] at mapping
    exact Works.balanced .ready ⟨works.count, rfl, mapping, nofun⟩ ha

theorem Underway.returns (h : c.Underway handed command) {error : Option CommandError} {words : List UInt32}
    (length : words.length = command.flags.words)
    (faulty : error ≠ none → anyBit c.bus.hardware.latched Status.errors = true) :
    handed.Returns ((answered command error words).map c.buffer) := by
  have flags : handed.flags = command.flags := h.keeps.flags.symm
  refine ⟨h.keeps.of_blank ?_, fun i beyond => ?_, fun error moves => h.failed (faulty error) moves⟩
  · rw [Command.blank_map, Command.blank_map]
    rfl
  · rw [flags, ← length] at beyond
    have room : 0 + words.length ≤ 4 := by
      rw [length, Nat.zero_add]
      exact command.flags.words_le
    change (fillResponse command.response 0 words).word i = _
    rw [word_fillResponse _ _ _ room, if_pos (Nat.zero_le i), Nat.sub_zero, List.getElem?_eq_none beyond,
      h.response]
    rfl

end Interrupt

end Controller

end CardHost
