import CardHost.Proofs.BlockTransfers
import CardHost.Proofs.Latching

namespace CardHost

open Bus

def Reply.words : Reply → List UInt32
  | .none => []
  | .short word | .shortNoCrc word => [word]
  | .long words => words.toList

def Reply.Passes (opcode : UInt32) : Reply → Prop
  | .shortNoCrc _ => opcode = Opcode.sendOpCond ∨ opcode = AppOpcode.sendOpCond
  | _ => True

def CommandError.ofEnd? (status opcode : UInt32) : Option CommandError :=
  if anyBit status Status.errors then ofStatus? status opcode else none

namespace Simulator

inductive Answers (s : Simulator) (word : UInt32) (s' : Simulator) : Prop
  | timedOut (late : anyBit s'.latched Status.responseTimeout = true)
    (crc : anyBit s'.latched Status.responseCrc = false)
    (silent : s.enabled = true →
      (s.card.execute (word &&& CommandWord.number) (s.register Register.argument)).1 = none)
  | executed (enabled : s.enabled = true) (reply : Option Reply)
    (executes : s.card.execute (word &&& CommandWord.number) (s.register Register.argument) =
      (reply, s'.card))
    (answer : anyBit word CommandWord.responseKind = true → ∃ r, reply = some r ∧
      r.words <+: Controller.responseWords s' 0 4)
    (flagged : anyBit s'.latched Status.errors = true →
      anyBit s'.latched Status.responseCrc = true ∧ ∃ unchecked, reply = some (.shortNoCrc unchecked))

theorem responseWords_latch (s : Simulator) (bits : UInt32) :
    Controller.responseWords (s.latch bits) 0 4 = Controller.responseWords s 0 4 := by
  rw [Controller.responseWords_eq, Controller.responseWords_eq]
  rfl

theorem words_accept (s : Simulator) (reply : Reply) (expected : Bool) (bits : UInt32) :
    reply.words <+: Controller.responseWords ((s.accept reply expected).latch bits) 0 4 := by
  have hset (words : Response) {answer : List UInt32} (first : answer <+: words.toList) :
      answer <+: Controller.responseWords (s.setResponse words) 0 4 := by
    rw [Controller.responseWords_setResponse]
    exact first
  rw [responseWords_latch]
  cases reply with
  | none => exact List.nil_prefix
  | short word => exact hset (.ofWord word) ⟨[0, 0, 0], rfl⟩
  | shortNoCrc word =>
    rw [accept, responseWords_latch]
    exact hset (.ofWord word) ⟨[0, 0, 0], rfl⟩
  | long words => exact hset words List.prefix_rfl

theorem flagged_accept {s : Simulator} (clean : anyBit s.latched Status.errors = false) (reply : Reply)
    (expected : Bool)
    (flagged : anyBit ((s.accept reply expected).latch Status.commandReady).latched
      Status.errors = true) :
    anyBit ((s.accept reply expected).latch Status.commandReady).latched Status.responseCrc = true ∧
      ∃ unchecked, some reply = some (.shortNoCrc unchecked) := by
  have hready : anyBit Status.commandReady Status.errors = false := by decide
  rw [anyBit_latch, hready, Bool.or_false] at flagged
  cases reply with
  | shortNoCrc unchecked =>
    refine ⟨?_, unchecked, rfl⟩
    change anyBit (s.latched ||| _) Status.errors = true at flagged
    rw [anyBit_or, clean, Bool.false_or, anyBit_ite] at flagged
    rw [(Bool.and_eq_true_iff.mp flagged).1, anyBit_latch, accept, anyBit_latch]
    simp +decide
  | none | short word | long words =>
    change anyBit s.latched Status.errors = true at flagged
    rw [clean] at flagged
    cases flagged

theorem anyBit_cleared (s : Simulator) {bits : UInt32}
    (among : ~~~(Status.commandReady ||| Status.errors) &&& bits = 0) :
    anyBit s.cleared.latched bits = false :=
  anyBit_apart s.latched among

theorem Responds.shown {s s' : Simulator} {word : UInt32} {goesOn : Bool} (h : s.Responds word goesOn s')
    (injected : s.injected = 0) : s.Answers word s' := by
  have checked : anyBit s.cleared.latched Status.responseCrc = false := s.anyBit_cleared (by decide)
  have clean : anyBit s.cleared.latched Status.errors = false := s.anyBit_cleared (by decide)
  cases h with
  | disabled disabled =>
    refine .timedOut ?_ ?_ fun enabled => ?_
    · rw [anyBit_latch, Bool.or_eq_true_iff]
      exact .inr rfl
    · rw [anyBit_latch, checked]
      rfl
    · cases disabled.symm.trans enabled
  | fault _ fault => exact (fault injected).elim
  | silent card enabled _ silent =>
    cases expected : anyBit word CommandWord.responseKind with
    | true =>
      refine .timedOut ?_ ?_ fun _ => congrArg Prod.fst silent
      · rw [if_pos rfl, anyBit_latch, anyBit_latch, Bool.or_assoc, Bool.or_eq_true_iff]
        exact .inr rfl
      · rw [if_pos rfl, anyBit_latch, anyBit_latch]
        change (anyBit s.cleared.latched _ || _ || _) = false
        rw [checked]
        rfl
    | false =>
      refine .executed enabled none silent (fun answer => ?_) fun flagged => ?_
      · cases expected.symm.trans answer
      · rw [if_neg (by decide), anyBit_latch, anyBit_latch] at flagged
        change (anyBit s.cleared.latched _ || _ || _) = true at flagged
        rw [clean] at flagged
        cases flagged
  | answers reply card enabled _ executes =>
    have flagged := flagged_accept (s := { s.cleared with card }) clean reply
    refine .executed enabled (some reply) ?_ (fun _ => ⟨reply, rfl, words_accept _ _ _ _⟩) (flagged _)
    have hcard := card_accept ({ s.cleared with card } : Simulator) reply (anyBit word CommandWord.responseKind)
    rw [executes]
    exact congrArg (some reply, ·) hcard.symm

theorem issue_answers {s : Simulator} (injected : s.injected = 0) {word : UInt32}
    (starts : word &&& CommandWord.transfer ≠ CommandWord.startTransfer) (mapped : Option Bytes) :
    (s.issue word mapped).2 = none ∧ (s.issue word mapped).1.failNextLoad = s.failNextLoad ∧
      s.Answers word (s.issue word mapped).1 := by
  obtain ⟨goesOn, s', responds⟩ := s.responds word
  obtain rfl := responds.quiet starts
  rw [responds.issue mapped]
  refine ⟨rfl, ?_, responds.shown injected⟩
  obtain ⟨latched, injected, card, registers, rfl, -⟩ := responds.frame
  rfl

structure Executes {B : Type} (s s' : Simulator) (command last : Command B) : Prop where
  enabled : s.enabled = true
  execution : ∃ reply, s.card.execute (command.opcode &&& CommandWord.number) command.argument =
      (reply, s'.card) ∧
    (command.flags.present = true → ∃ r, reply = some r ∧
      r.words.take command.flags.words <+: last.response.toList)

def Succeeds {B : Type} (s : Simulator) (command last : Command B) : Prop :=
  s.enabled = true → ∀ reply card,
    s.card.execute (command.opcode &&& CommandWord.number) command.argument = (some reply, card) →
    reply.Passes command.opcode → last.error = none

structure Frames (s s' : Simulator) : Prop where
  still : s'.Still
  enabled : s'.enabled = s.enabled
  mask : s'.mask = s.mask
  soc : s'.soc = s.soc
  injected : s'.injected = 0
  loads : s'.failNextLoad = s.failNextLoad
  card : s.card.Attempts s'.card

theorem armedPlain_answers {s : Simulator} (still : s.Still) (injected : s.injected = 0)
    (argument : UInt32) {word : UInt32}
    (starts : word &&& CommandWord.transfer ≠ CommandWord.startTransfer) (mapped : Option Bytes) :
    ∃ s', (s.armedPlain argument).write mapped Register.command word = (s', none) ∧ s.Frames s' ∧
      anyBit s'.latched Status.commandReady = true ∧
      ((s.armedPlain argument).setRegister Register.command word).Answers word s' := by
  obtain ⟨registers, harm, hreceive, htransmit⟩ := s.armedPlain_frame argument
  generalize hissued : (s.armedPlain argument).setRegister Register.command word = issued
  have hstill : issued.Still := by
    rw [← hissued]
    refine Still.setRegister_other ?_ _ _ (by decide)
    rw [harm]
    exact ⟨still.arrived, still.awaited, still.line, hreceive, htransmit⟩
  have hframe : issued.enabled = s.enabled ∧ issued.mask = s.mask ∧ issued.soc = s.soc ∧
      issued.injected = 0 ∧ issued.failNextLoad = s.failNextLoad ∧
      issued.card = s.card := by
    rw [← hissued, harm]
    exact ⟨rfl, rfl, rfl, injected, rfl, rfl⟩
  obtain ⟨henabled, hmask, hsoc, hinjected, hloads, hcard⟩ := hframe
  have hwrite : (s.armedPlain argument).write mapped Register.command word = issued.issue word mapped := by
    rw [← hissued]
    rfl
  have halike := issued.alike_issue word mapped
  obtain ⟨hmoved, hfail, hanswers⟩ := issue_answers hinjected starts mapped
  refine ⟨(issued.issue word mapped).1, ?_, ⟨?_, halike.enabled.trans henabled,
    halike.mask.trans hmask, halike.soc.trans hsoc, ?_, hfail.trans hloads,
    hcard ▸ issued.card_issue starts mapped⟩,
    issued.issue_ready word mapped, hanswers⟩
  · rw [hwrite, ← hmoved]
  · obtain hs | ⟨s', -, -, hstart, -⟩ := hstill.issue word mapped
    · exact hs
    · exact (starts hstart).elim
  · rcases issued.injected_issue word mapped with hi | hi
    · exact hi.trans hinjected
    · exact hi

end Simulator

namespace Controller

variable {c : Controller Simulator} {a : Active} {command : Command BufferId}

theorem called_ready (attached : c.detached = false) (current : c.current? = some command)
    (count : c.mapped = 0) (still : c.bus.hardware.Still) (mask : c.bus.hardware.mask = Stage.ready.mask)
    (ready : anyBit c.bus.hardware.latched Status.commandReady = true) :
    Called 1 c (c.conclude command
      (if anyBit c.bus.hardware.latched Status.errors then
        CommandError.ofStatus? c.observed command.opcode else none)) := by
  have hunload : c.unload = c := by rw [unload, if_pos count]
  have hbit : anyBit c.bus.hardware.status Stage.ready.bit = true := still.anyBit_status ready
  refine .one ?_ ?_
  · rw [asserted_stage mask, hbit, Bool.or_true]
  · rw [interrupt_stage attached current mask]
    split
    · unfold serveError
      split
      · next e he => rw [hunload, he]
      · next he => rw [he]
    · rfl

theorem toList_fillResponse (response : Response) (i : Nat) (words : List UInt32)
    (room : i + words.length ≤ 4) :
    (fillResponse response i words).toList =
      response.toList.take i ++ words ++ response.toList.drop (i + words.length) := by
  induction words generalizing response i with
  | nil => simp [fillResponse]
  | cons word words ih =>
    rw [List.length_cons] at room ⊢
    have hlength : response.toList.length = 4 := response.length_toList
    have hrest : (response.toList.set i word).drop (i + 1 + words.length) =
        response.toList.drop (i + 1 + words.length) := List.drop_set_of_lt (by omega)
    rw [fillResponse, ih _ _ (by omega), Vector.toList_setIfInBounds, hrest,
      List.take_succ_eq_append_getElem (by rw [List.length_set]; omega), List.getElem_set_self,
      List.take_set_of_le (Nat.le_refl i)]
    simp [Nat.add_assoc, Nat.add_comm 1]

theorem words_fillResponse (s : Simulator) {words : List UInt32}
    (answer : words <+: responseWords s 0 4) (response : Response) {n : Nat} (few : n ≤ 4) :
    words.take n <+: (fillResponse response 0 (responseWords s 0 n)).toList := by
  have hlength : (responseWords s 0 n).length = n := by
    rw [responseWords, List.length_map, List.length_range']
  obtain ⟨rest, hrest⟩ := answer
  rw [toList_fillResponse _ _ _ (by omega), ← responseWords_take s few, ← hrest, List.take_append]
  exact ⟨_, (List.append_assoc ..).symm⟩

structure Primed (c : Controller Simulator) (a : Active) (command : Command BufferId) : Prop where
  attached : c.detached = false
  active : c.active = some a
  current : a.current? = some command
  count : c.mapped = 0
  mapping : c.bus.mapping = none
  mask : c.bus.hardware.mask = 0
  still : c.bus.hardware.Still
  injected : c.bus.hardware.injected = 0

theorem Primed.launched (h : c.Primed a command) (data : command.data = none) :
    ∃ s, c.launch command =
        { c with bus := ⟨{ s with mask := Stage.ready.mask }, c.bus.memory, none⟩ } ∧
      c.bus.hardware.Frames s ∧ anyBit s.latched Status.commandReady = true ∧
      ((c.bus.hardware.armedPlain command.argument).setRegister Register.command
        (c.wireWord command)).Answers (c.wireWord command) s ∧
      (c.bus.hardware.armedPlain command.argument).write none Register.command (c.wireWord command) =
        (s, none) := by
  have hlaunch := launch_plain_simulated (c := c) data
  generalize hbus : ({ c.bus with hardware := c.bus.hardware.armedPlain command.argument } :
    Bus Simulator) = bus at hlaunch
  have hhardware : bus.hardware = c.bus.hardware.armedPlain command.argument := by rw [← hbus]
  have hmemory : bus.memory = c.bus.memory := by rw [← hbus]
  have hmapping : bus.mapping = none := by rw [← hbus, h.mapping]
  have hmapped : bus.mapped = none := by rw [Bus.mapped, hmapping]; rfl
  obtain ⟨s, hwritten, hframes, hready, hanswers⟩ := Simulator.armedPlain_answers h.still h.injected
    command.argument (c.wireWord_starts_nothing command (by rw [data]; rfl)) none
  have hissue : bus.hardware.write bus.mapped Register.command (c.wireWord command) = (s, none) := by
    rw [hhardware, hmapped, hwritten]
  have hmask : s.mask ||| (Status.errors ||| Status.commandReady) = Stage.ready.mask := by
    rw [hframes.mask, h.mask]
    exact UInt32.zero_or
  rw [writeAll_cons, bus.write_unmoved hissue, writeAll_cons, write_enable, writeAll_nil] at hlaunch
  simp only [hmask, hmemory, hmapping] at hlaunch
  exact ⟨s, hlaunch, hframes, hready, hanswers, hwritten⟩

theorem execute_armed (c : Controller Simulator) (command : Command BufferId) :
    let armed := (c.bus.hardware.armedPlain command.argument).setRegister Register.command
      (c.wireWord command)
    armed.enabled = c.bus.hardware.enabled ∧
      armed.card.execute (c.wireWord command &&& CommandWord.number)
          (armed.register Register.argument) =
        c.bus.hardware.card.execute (command.opcode &&& CommandWord.number) command.argument := by
  intro armed
  obtain ⟨registers, harm, -, -⟩ := c.bus.hardware.armedPlain_frame command.argument
  have hargument : armed.register Register.argument = command.argument := by
    rw [Simulator.register_setRegister, if_neg (by decide)]
    exact c.bus.hardware.register_armedPlain command.argument
  have henabled : (c.bus.hardware.armedPlain command.argument).enabled = c.bus.hardware.enabled := by
    rw [harm]
  have hcard : (c.bus.hardware.armedPlain command.argument).card = c.bus.hardware.card := by rw [harm]
  rw [hargument, wireWord_number]
  exact ⟨henabled, congrArg (fun card : Card => card.execute _ _) hcard⟩

theorem Primed.executes {s : Simulator} {last : Command BufferId}
    (answers : ((c.bus.hardware.armedPlain command.argument).setRegister Register.command
      (c.wireWord command)).Answers (c.wireWord command) s)
    (inTime : anyBit s.latched Status.responseTimeout = true →
      anyBit s.latched Status.responseCrc = true)
    (answered : ∀ words, words <+: responseWords s 0 4 →
      words.take command.flags.words <+: last.response.toList) :
    c.bus.hardware.Executes s command last := by
  obtain ⟨henabled, hexecute⟩ := c.execute_armed command
  cases answers with
  | timedOut late crc =>
    rw [inTime late] at crc
    cases crc
  | executed enabled reply executes answer =>
    rw [hexecute] at executes
    have hkind := c.wireWord_responseKind command
    refine ⟨henabled.symm.trans enabled, reply, executes, fun present => ?_⟩
    obtain ⟨r, hr, hwords⟩ := answer (hkind.trans present)
    exact ⟨r, hr, answered _ hwords⟩

theorem Primed.passes {s : Simulator}
    (answers : ((c.bus.hardware.armedPlain command.argument).setRegister Register.command
      (c.wireWord command)).Answers (c.wireWord command) s)
    (enabled : c.bus.hardware.enabled = true) {reply : Reply} {card : Card}
    (executes : c.bus.hardware.card.execute (command.opcode &&& CommandWord.number) command.argument =
      (some reply, card))
    (passes : reply.Passes command.opcode) (flagged : anyBit s.latched Status.errors = true) :
    CommandError.ofStatus? s.latched command.opcode = none := by
  obtain ⟨henabled, hexecute⟩ := c.execute_armed command
  cases answers with
  | timedOut late crc silent =>
    have h := silent (henabled.trans enabled)
    rw [hexecute, executes] at h
    cases h
  | executed on reply' executes' answer hflagged =>
    obtain ⟨crc, unchecked, hunchecked⟩ := hflagged flagged
    rw [hexecute, executes] at executes'
    have hreply : reply = .shortNoCrc unchecked :=
      Option.some.inj ((congrArg Prod.fst executes').trans hunchecked)
    have hexempt : (command.opcode == Opcode.sendOpCond || command.opcode == AppOpcode.sendOpCond) =
        true := by
      rw [hreply] at passes
      rw [Bool.or_eq_true, beq_iff_eq, beq_iff_eq]
      exact passes
    rw [CommandError.ofStatus?, crc, hexempt]
    rfl

theorem Primed.concludes (h : c.Primed a command) (data : command.data = none) (final : a.pending? = none) :
    ∃ s, Called 1 (c.launch command) (c.concluded { s with mask := 0 } c.bus.memory
        (a.replace (answered command (CommandError.ofEnd? s.latched command.opcode)
          (responseWords { s with mask := 0 } 0 command.flags.words)))) ∧
      c.bus.hardware.Frames s ∧
      ((c.bus.hardware.armedPlain command.argument).setRegister Register.command
        (c.wireWord command)).Answers (c.wireWord command) s ∧
      (c.bus.hardware.armedPlain command.argument).write none Register.command (c.wireWord command) =
        (s, none) := by
  obtain ⟨s, hlaunch, hframes, hready, hanswers, hwritten⟩ := h.launched data
  let launched : Controller Simulator :=
    { c with bus := ⟨{ s with mask := Stage.ready.mask }, c.bus.memory, none⟩ }
  have hstill : launched.bus.hardware.Still :=
    ⟨hframes.still.arrived, hframes.still.awaited, hframes.still.line, hframes.still.receiveNext,
      hframes.still.transmitNext⟩
  have hcurrent : launched.current? = some command := by
    change c.active.bind Active.current? = _
    rw [h.active]
    exact h.current
  have hcalled := called_ready (c := launched) h.attached hcurrent h.count hstill rfl hready
  have herror : (if anyBit launched.bus.hardware.latched Status.errors then
      CommandError.ofStatus? launched.observed command.opcode else none) =
        CommandError.ofEnd? s.latched command.opcode := by
    rw [ofStatus?_observed (show launched.bus.hardware.mask = Stage.ready.mask from rfl)]
    rfl
  rw [herror, conclude_simulated (c := launched) command _ h.active h.current] at hcalled
  generalize hlast : answered command (CommandError.ofEnd? s.latched command.opcode) (responseWords
    { launched.bus.hardware with mask := 0 } 0 command.flags.words) = last at hcalled
  have hadvance : (launched.proceed
      { launched.bus with hardware := { launched.bus.hardware with mask := 0 } } launched.mapped
      (a.replace last)).advance = c.concluded { s with mask := 0 } c.bus.memory (a.replace last) := by
    have hcount : launched.mapped = 0 := h.count
    rw [hcount]
    exact advance_ends (c := launched) ((Active.pending?_replace a last).trans final)
  rw [hadvance, ← hlast] at hcalled
  refine ⟨s, ?_, hframes, hanswers, hwritten⟩
  rw [hlaunch]
  exact hcalled

theorem late_end {s : Simulator} (late : anyBit s.latched Status.responseTimeout = true)
    (crc : anyBit s.latched Status.responseCrc = false) (opcode : UInt32) :
    CommandError.ofEnd? s.latched opcode = some .timeout := by
  have hbits : Status.errors = Status.errors ||| Status.responseTimeout := by decide
  have hfaulty : anyBit s.latched Status.errors = true := by
    rw [hbits, anyBit_bits_or, late, Bool.or_true]
  rw [CommandError.ofEnd?, if_pos hfaulty, CommandError.ofStatus?, crc, Bool.false_and,
    if_neg (by decide), anyBit_bits_or, late, Bool.true_or, if_pos rfl]

theorem Primed.served (h : c.Primed a command) (data : command.data = none)
    (final : a.pending? = none) :
    ∃ s last, Called 1 (c.launch command) (c.concluded s c.bus.memory (a.replace last)) ∧
      c.bus.hardware.Frames s ∧ last.data = none ∧
      (last.error = none → c.bus.hardware.Executes s command last) ∧
      c.bus.hardware.Succeeds command last := by
  obtain ⟨s, hcalled, hframes, hanswers, -⟩ := h.concludes data final
  generalize herror : CommandError.ofEnd? s.latched command.opcode = error at hcalled
  have hstill : ({ s with mask := 0 } : Simulator).Still :=
    ⟨hframes.still.arrived, hframes.still.awaited, hframes.still.line, hframes.still.receiveNext,
      hframes.still.transmitNext⟩
  refine ⟨{ s with mask := 0 }, _, hcalled, ?_, data, fun noError => ?_, ?_⟩
  · exact ⟨hstill, hframes.enabled, h.mask.symm, hframes.soc, hframes.injected, hframes.loads,
      hframes.card⟩
  · have hnone : error = none := noError
    refine Primed.executes (s := { s with mask := 0 }) ?_ ?_ ?_
    · cases hanswers with
      | timedOut late crc silent => exact .timedOut late crc silent
      | executed enabled reply executes answer flagged =>
        exact .executed enabled reply executes answer flagged
    · intro late
      cases crc : anyBit s.latched Status.responseCrc with
      | true => rfl
      | false =>
        rw [late_end late crc, hnone] at herror
        cases herror
    · intro words hwords
      exact words_fillResponse _ hwords _ command.flags.words_le
  · intro enabled reply card executes passes
    change error = none
    rw [← herror, CommandError.ofEnd?]
    split
    · next flagged => exact Primed.passes (s := s) hanswers enabled executes passes flagged
    · rfl

theorem Calm.primed (h : c.Calm) {command : Command Bytes} (data : command.data = none) :
    (c.take ⟨command, none⟩).Primed (c.accepted ⟨command, none⟩)
      { command with data := none } where
  attached := h.attached
  active := rfl
  current := by
    change some (c.bus.memory.place ⟨command, none⟩).1.command = _
    rw [Memory.place]
    simp only [Memory.placeCommand, data]
  count := h.count
  mapping := h.mapping
  mask := h.mask
  still := h.settled.still
  injected := h.injected

theorem Calm.concluded_take (h : c.Calm) (request : Request Bytes) (s : Simulator) (memory : Memory)
    (a : Active) : (c.take request).concluded s memory a =
      { c with bus := ⟨s, memory, none⟩, tickets := delivered (c.take request).tickets a } := by
  obtain ⟨-, idle, count, -⟩ := h
  cases c
  cases idle
  cases count
  rfl

theorem Calm.finishes_called (h : c.Calm) {command : Command Bytes} (data : command.data = none)
    {s : Simulator} {last : Command BufferId} (frames : c.bus.hardware.Frames s)
    (called : Called 1 ((c.take ⟨command, none⟩).launch { command with data := none })
      ((c.take ⟨command, none⟩).concluded s (c.take ⟨command, none⟩).bus.memory
        ((c.accepted ⟨command, none⟩).replace last))) :
    ∃ served, c.Finishes ⟨command, none⟩ 1 served
        ⟨last.map (c.take ⟨command, none⟩).bus.memory.get, none⟩ ∧
      (∃ bus tickets, served = { c with bus, tickets }) ∧ served.bus.hardware = s := by
  have hcommand : (c.accepted ⟨command, none⟩).request.command = { command with data := none } :=
    Option.some.inj (h.primed data).current
  rw [← hcommand] at called
  have hsettled : ((c.take ⟨command, none⟩).concluded s (c.take ⟨command, none⟩).bus.memory
      ((c.accepted ⟨command, none⟩).replace last)).Settled :=
    ⟨frames.still, frames.soc.trans h.settled.soc, (h.settled.take ⟨command, none⟩).bounce⟩
  have hfinishes := h.composed.finishes called (Active.ticket_replace _ last) hsettled
    (frames.mask.trans h.mask) frames.injected (frames.loads.trans h.loads)
  exact ⟨_, hfinishes, ⟨_, _, h.concluded_take ..⟩, rfl⟩

theorem Calm.plain_finishes (h : c.Calm) {command : Command Bytes} (data : command.data = none) :
    ∃ served last, c.Finishes ⟨command, none⟩ 1 served ⟨last, none⟩ ∧
      (∃ bus tickets, served = { c with bus, tickets }) ∧
      served.bus.hardware.enabled = c.bus.hardware.enabled ∧
      c.bus.hardware.card.Attempts served.bus.hardware.card ∧
      (last.error = none → c.bus.hardware.Executes served.bus.hardware command last) ∧
      c.bus.hardware.Succeeds command last := by
  obtain ⟨s, last, hcalled, hframes, hdata, hexecuted, hsucceeds⟩ := (h.primed data).served rfl rfl
  obtain ⟨served, hfinishes, hframe, rfl⟩ := h.finishes_called data hframes hcalled
  refine ⟨served, _, hfinishes, hframe, hframes.enabled, hframes.card, fun noError => ?_, hsucceeds⟩
  obtain ⟨enabled, reply, executes, answer⟩ := hexecuted noError
  exact ⟨enabled, reply, executes, answer⟩

end Controller

end CardHost
