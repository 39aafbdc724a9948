import CardHost.Proofs.BringUp

namespace CardHost

namespace CommandError

theorem ofEnd?_or {before : UInt32} (clean : anyBit before Status.errors = false) (bits opcode : UInt32) :
    ofEnd? (before ||| bits) opcode = ofEnd? bits opcode := by
  have seen (error : UInt32) (among : Status.errors = Status.errors ||| error) :
      anyBit (before ||| bits) error = anyBit bits error := by
    rw [among, anyBit_bits_or, Bool.or_eq_false_iff] at clean
    rw [anyBit_or, clean.2, Bool.false_or]
  have herrors : anyBit (before ||| bits) Status.errors = anyBit bits Status.errors := by
    rw [anyBit_or, clean, Bool.false_or]
  simp only [ofEnd?, ofStatus?, herrors, seen Status.responseCrc (by decide),
    seen (Status.responseTimeout ||| Status.dataTimeout) (by decide),
    seen (Status.responseCrc ||| Status.dataCrc) (by decide),
    seen (Status.overrun ||| Status.underrun) (by decide)]

def ofReply? (expected : Bool) (opcode : UInt32) : Option Reply → Option CommandError
  | none => if expected then some .timeout else none
  | some (.shortNoCrc _) =>
    if expected && !(opcode == Opcode.sendOpCond || opcode == AppOpcode.sendOpCond) then some .badCrc else none
  | some _ => none

theorem ofReply?_unexpected (opcode : UInt32) (reply : Option Reply) : ofReply? false opcode reply = none := by
  rcases reply with _ | _ | _ | _ | _ <;> rfl

end CommandError

def Reply.registers? : Reply → Option Response
  | .none => Option.none
  | .short word | .shortNoCrc word => some (.ofWord word)
  | .long words => some words

namespace Simulator

def answeredBy (s : Simulator) (expected : Bool) : Option Reply → Simulator
  | none => (s.latch (if expected then Status.responseTimeout else 0)).latch Status.commandReady
  | some reply => (s.accept reply expected).latch Status.commandReady

theorem card_answeredBy (s : Simulator) (expected : Bool) (reply : Option Reply) :
    (s.answeredBy expected reply).card = s.card := by
  rcases reply with _ | _ | _ | _ | _ <;> rfl

theorem ofEnd?_answeredBy {s : Simulator} (clean : anyBit s.latched Status.errors = false) (expected : Bool)
    (reply : Option Reply) (opcode : UInt32) :
    CommandError.ofEnd? (s.answeredBy expected reply).latched opcode =
      CommandError.ofReply? expected opcode reply := by
  have hready : CommandError.ofEnd? (s.latched ||| Status.commandReady) opcode = none :=
    CommandError.ofEnd?_or clean _ opcode
  have hended (bits : UInt32) : CommandError.ofEnd? (s.latched ||| bits ||| Status.commandReady) opcode =
      CommandError.ofEnd? (bits ||| Status.commandReady) opcode := by
    rw [UInt32.or_assoc, CommandError.ofEnd?_or clean]
  rcases reply with _ | _ | _ | _ | _
  · refine (hended _).trans ?_
    cases expected <;> rfl
  · exact hready
  · exact hready
  · refine (hended _).trans ?_
    cases expected with
    | false => rfl
    | true =>
      unfold CommandError.ofReply? CommandError.ofEnd? CommandError.ofStatus?
      cases opcode == Opcode.sendOpCond || opcode == AppOpcode.sendOpCond <;> rfl
  · exact hready

theorem responseWords_answeredBy (s : Simulator) (expected : Bool) {reply : Option Reply} {words : Response}
    (sets : reply.bind Reply.registers? = some words) :
    Controller.responseWords (s.answeredBy expected reply) 0 4 = words.toList := by
  have hset (words : Response) (bits : UInt32) :
      Controller.responseWords ((s.setResponse words).latch bits) 0 4 = words.toList := by
    rw [responseWords_latch, Controller.responseWords_setResponse]
  rcases reply with _ | _ | word | word | answer
  · cases sets
  · cases sets
  · cases sets
    exact hset _ _
  · cases sets
    rw [answeredBy, accept, responseWords_latch]
    exact hset _ _
  · cases sets
    exact hset _ _

structure Ends (s : Simulator) (word : UInt32) (s' : Simulator) : Prop where
  card : s'.card = if s.enabled then
    (s.card.execute (word &&& CommandWord.number) (s.register Register.argument)).2 else s.card
  error : ∀ opcode, CommandError.ofEnd? s'.latched opcode = if s.enabled then
    CommandError.ofReply? (anyBit word CommandWord.responseKind) opcode
      (s.card.execute (word &&& CommandWord.number) (s.register Register.argument)).1 else some .timeout
  response : s.enabled = true → ∀ words,
    (s.card.execute (word &&& CommandWord.number) (s.register Register.argument)).1.bind Reply.registers? =
      some words → Controller.responseWords s' 0 4 = words.toList

theorem Responds.ends {s s' : Simulator} {word : UInt32} {goesOn : Bool} (h : s.Responds word goesOn s')
    (injected : s.injected = 0) : s.Ends word s' := by
  have clean : anyBit s.cleared.latched Status.errors = false := s.anyBit_cleared (by decide)
  have answered (card : Card) {reply : Option Reply} (enabled : s.enabled = true)
      (executes : s.card.execute (word &&& CommandWord.number) (s.register Register.argument) = (reply, card)) :
      s.Ends word (({ s.cleared with card } : Simulator).answeredBy
        (anyBit word CommandWord.responseKind) reply) := by
    refine ⟨?_, fun opcode => ?_, fun _ words sets => ?_⟩
    · rw [card_answeredBy, enabled, executes]
      rfl
    · rw [ofEnd?_answeredBy (s := { s.cleared with card }) clean, enabled, executes]
      rfl
    · rw [executes] at sets
      exact responseWords_answeredBy _ _ sets
  cases h with
  | disabled disabled =>
    refine ⟨by rw [disabled]; rfl, fun opcode => ?_, fun enabled => ?_⟩
    · rw [disabled]
      exact (CommandError.ofEnd?_or clean _ opcode).trans rfl
    · cases disabled.symm.trans enabled
  | fault _ fault => exact (fault injected).elim
  | silent card enabled _ executes => exact answered card enabled executes
  | answers reply card enabled _ executes => exact answered card enabled executes

theorem issue_ends {s : Simulator} (injected : s.injected = 0) {word : UInt32}
    (starts : word &&& CommandWord.transfer ≠ CommandWord.startTransfer) (mapped : Option Bytes) :
    s.Ends word (s.issue word mapped).1 := by
  obtain ⟨goesOn, s', responds⟩ := s.responds word
  obtain rfl := responds.quiet starts
  rw [responds.issue mapped]
  exact responds.ends injected

structure Obeys {B : Type} (s s' : Simulator) (command last : Command B) : Prop where
  enabled : s'.enabled = s.enabled
  card : s'.card = if s.enabled then
    (s.card.execute (command.opcode &&& CommandWord.number) command.argument).2 else s.card
  error : last.error = if s.enabled then CommandError.ofReply? command.flags.present command.opcode
    (s.card.execute (command.opcode &&& CommandWord.number) command.argument).1 else some .timeout
  answer : ∃ read : List UInt32, read.length = command.flags.words ∧
    last = { command with
      error := last.error, response := Controller.fillResponse command.response 0 read } ∧
    (s.enabled = true → ∀ words,
      (s.card.execute (command.opcode &&& CommandWord.number) command.argument).1.bind Reply.registers? =
        some words → read = words.toList.take command.flags.words)

end Simulator

namespace Controller

variable {c : Controller Simulator} {a : Active} {command : Command BufferId}

theorem Primed.obeys (h : c.Primed a command) (data : command.data = none) (final : a.pending? = none) :
    ∃ s last, Called 1 (c.launch command) (c.concluded s c.bus.memory (a.replace last)) ∧
      c.bus.hardware.Frames s ∧ c.bus.hardware.Obeys s command last := by
  obtain ⟨s, hcalled, hframes, -, hwritten⟩ := h.concludes data final
  let armed := (c.bus.hardware.armedPlain command.argument).setRegister Register.command (c.wireWord command)
  have hissue : armed.issue (c.wireWord command) none = (s, none) := hwritten
  have hkept : armed.injected = c.bus.hardware.injected ∧ armed.card = c.bus.hardware.card := by
    obtain ⟨registers, harm, -, -⟩ := c.bus.hardware.armedPlain_frame command.argument
    have hset : armed.injected = (c.bus.hardware.armedPlain command.argument).injected ∧
        armed.card = (c.bus.hardware.armedPlain command.argument).card := ⟨rfl, rfl⟩
    rw [harm] at hset
    exact hset
  have hends := Simulator.issue_ends (hkept.1.trans h.injected)
    (c.wireWord_starts_nothing command (by rw [data]; rfl)) none
  obtain ⟨henabled, hexecute⟩ := c.execute_armed command
  rw [hissue] at hends
  obtain ⟨hcard, herror, hresponse⟩ := hends
  rw [henabled, hexecute, c.wireWord_responseKind command] at herror
  rw [henabled, hexecute, hkept.2] at hcard
  rw [henabled, hexecute] at hresponse
  have hstill : ({ s with mask := 0 } : Simulator).Still :=
    ⟨hframes.still.arrived, hframes.still.awaited, hframes.still.line, hframes.still.receiveNext,
      hframes.still.transmitNext⟩
  refine ⟨{ s with mask := 0 }, _, hcalled, ?_, hframes.enabled, hcard, herror command.opcode,
    _, ?_, rfl, fun enabled words sets => ?_⟩
  · exact ⟨hstill, hframes.enabled, h.mask.symm, hframes.soc, hframes.injected, hframes.loads, hframes.card⟩
  · rw [responseWords, List.length_map, List.length_range']
  · rw [← responseWords_take _ command.flags.words_le]
    exact congrArg (List.take _) (hresponse enabled words sets)

theorem Calm.obeys (h : c.Calm) {command : Command Bytes} (data : command.data = none) :
    ∃ served last, c.Finishes ⟨command, none⟩ 1 served ⟨last, none⟩ ∧
      (∃ bus tickets, served = { c with bus, tickets }) ∧
      c.bus.hardware.Obeys served.bus.hardware command last := by
  obtain ⟨s, last, hcalled, hframes, henabled, hcard, herror, read, hlength, hlast, hread⟩ :=
    (h.primed data).obeys rfl rfl
  obtain ⟨served, hfinishes, hframe, rfl⟩ := h.finishes_called data hframes hcalled
  refine ⟨served, _, hfinishes, hframe, henabled, hcard, herror, read, hlength, ?_, hread⟩
  rw [hlast]
  cases command
  cases data
  rfl

end Controller

namespace Session

theorem Served.obeys {s : Session Simulator} (h : s.Served) {cmd : Command Bytes} (data : cmd.data = none) :
    ∃ last s', (Session.command cmd).run.run s =
        (last.error.elim (.ok last) fun e => .error (.command cmd.opcode e), s') ∧ s'.Served ∧
      (∃ bus tickets, s' = { s with controller := { s.controller with bus, tickets } }) ∧
      s.controller.bus.hardware.Obeys s'.controller.bus.hardware cmd last := by
  obtain ⟨served, last, hfinishes, hframe, hobeys⟩ := h.calm.obeys data
  obtain ⟨s', hrun, hserved, hsame, hbus⟩ := h.finishes hfinishes hframe
  have hopcode : last.opcode = cmd.opcode := by
    obtain ⟨read, -, hlast, -⟩ := hobeys.answer
    rw [hlast]
  rw [← hbus] at hobeys
  rw [hopcode] at hrun
  exact ⟨last, s', hrun, hserved, hsame, hobeys⟩

end Session

end CardHost
