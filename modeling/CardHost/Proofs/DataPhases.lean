import CardHost.Proofs.CardPhases
import CardHost.Proofs.SimulatedService

namespace CardHost

open Bus

namespace Simulator

variable {s s' : Simulator} {word : UInt32} {goesOn : Bool}

def progress : UInt32 :=
  Status.endReceive ||| Status.receiveFull ||| Status.transmitEmpty ||| Status.notBusy

structure Orderly (s : Simulator) : Prop where
  card : s.card.Consistent
  latched : anyBit s.latched progress = false
  injected : Status.errors &&& s.injected = s.injected

theorem anyBit_progress_of_errors {bits : UInt32} (errors : Status.errors &&& bits = bits) :
    anyBit bits progress = false := by
  rw [← errors, UInt32.and_comm, anyBit_and, show Status.errors &&& progress = 0 by decide, anyBit, UInt32.and_zero]
  rfl

theorem Orderly.latch (h : s.Orderly) {bits : UInt32} (other : anyBit bits progress = false) :
    (s.latch bits).Orderly := by
  refine ⟨h.card, ?_, h.injected⟩
  rw [Simulator.latch, anyBit_or, h.latched, other]
  rfl

theorem Orderly.of_eq (h : s.Orderly) (card : s'.card = s.card) (latched : s'.latched = s.latched)
    (injected : s'.injected = s.injected) : s'.Orderly := by
  constructor
  case card =>
    rw [card]
    exact h.card
  case latched =>
    rw [latched]
    exact h.latched
  case injected =>
    rw [injected]
    exact h.injected

theorem Orderly.replaceCard (h : s.Orderly) {card : Card} (consistent : card.Consistent) :
    ({ s with card } : Simulator).Orderly :=
  ⟨consistent, h.latched, h.injected⟩

theorem Orderly.anyBit_status (h : s.Orderly) (still : s.Still) (stage : Stage) :
    anyBit s.status stage.bit = true ↔ s.hasEnded stage := by
  have hlatched := h.latched
  simp only [progress, anyBit_bits_or, Bool.or_eq_false_iff] at hlatched
  obtain ⟨⟨⟨receiving, filling⟩, sending⟩, settling⟩ := hlatched
  rw [still.anyBit_status_iff]
  cases stage with
  | ready => exact or_self_iff
  | receiving => simp [Stage.bit, receiving]
  | filling => simp [Stage.bit, filling]
  | sending => simp [Stage.bit, sending]
  | settling => simp [Stage.bit, settling]

theorem Orderly.cleared (h : s.Orderly) : s.cleared.Orderly := by
  refine ⟨h.card, ?_, h.injected⟩
  have hprogress : ~~~(Status.commandReady ||| Status.errors) &&& progress = progress := by decide
  rw [Simulator.cleared, anyBit_and, hprogress]
  exact h.latched

theorem Orderly.accept (h : s.Orderly) (reply : Reply) (expected : Bool) :
    (s.accept reply expected).Orderly := by
  have answered (words : Response) : (s.setResponse words).Orderly := h.of_eq rfl rfl rfl
  cases reply with
  | none => exact h
  | short word => exact answered _
  | shortNoCrc word =>
    refine (answered _).latch ?_
    cases expected <;> rfl
  | long words => exact answered _

theorem Orderly.responds (h : s.Orderly) (responds : s.Responds word goesOn s') : s'.Orderly := by
  have hcard : (s.card.execute (word &&& CommandWord.number)
      (s.register Register.argument)).2.Consistent := h.card.execute _ _
  cases responds with
  | disabled => exact h.cleared.latch rfl
  | fault =>
    have sound : ({ s.cleared with injected := 0 } : Simulator).Orderly :=
      ⟨h.card, h.cleared.latched, UInt32.and_zero⟩
    refine sound.latch ?_
    rw [anyBit_or, anyBit_progress_of_errors h.injected]
    rfl
  | silent card enabled injected executes =>
    rw [executes] at hcard
    refine ((h.cleared.replaceCard hcard).latch ?_).latch rfl
    rw [anyBit_ite, show anyBit Status.responseTimeout progress = false from rfl, Bool.and_false]
  | answers reply card enabled injected executes =>
    rw [executes] at hcard
    exact ((h.cleared.replaceCard hcard).accept _ _).latch rfl

theorem Orderly.responds_faulty (h : s.Orderly) (responds : s.Responds word false s')
    (expected : anyBit word CommandWord.responseKind = true)
    (starts : word &&& CommandWord.transfer = CommandWord.startTransfer) :
    anyBit s'.latched Status.errors = true := by
  have error (s : Simulator) {bits : UInt32} (hbits : anyBit bits Status.errors = true) :
      anyBit (s.latch bits).latched Status.errors = true := by
    rw [Simulator.latch, anyBit_or, hbits, Bool.or_true]
  have ready (s : Simulator) (faulty : anyBit s.latched Status.errors = true) :
      anyBit (s.latch Status.commandReady).latched Status.errors = true := by
    rw [Simulator.latch, anyBit_or, faulty, Bool.true_or]
  generalize hgoesOn : false = goesOn at responds
  cases responds with
  | disabled => exact error _ rfl
  | fault enabled injected =>
    refine error _ ?_
    rw [anyBit_or, anyBit, UInt32.and_comm, h.injected, bne_iff_ne.mpr injected, Bool.true_or]
  | silent card =>
    rw [if_pos expected]
    exact ready _ (error _ rfl)
  | answers =>
    rw [starts] at hgoesOn
    cases hgoesOn

theorem Orderly.responds_unarmed (h : s.Orderly) (responds : s.Responds word true s')
    (faulty : anyBit s'.latched Status.errors = true) : s'.card.phase = none := by
  generalize hgoesOn : true = goesOn at responds
  cases responds with
  | disabled => cases hgoesOn
  | fault => cases hgoesOn
  | silent => cases hgoesOn
  | answers reply card enabled injected executes =>
    have clean : anyBit s.cleared.latched Status.errors = false := by
      have hc := anyBit_clear s.latched (Status.commandReady ||| Status.errors)
      rw [anyBit_bits_or, Bool.or_eq_false_iff] at hc
      exact hc.2
    rw [Simulator.latch, anyBit_or, show anyBit Status.commandReady Status.errors = false from rfl,
      Bool.or_false] at faulty
    cases reply with
    | none =>
      rw [Simulator.accept, clean] at faulty
      cases faulty
    | short =>
      rw [Simulator.accept] at faulty
      cases clean.symm.trans faulty
    | shortNoCrc word => exact h.card.phase_of_shortNoCrc executes
    | long =>
      rw [Simulator.accept] at faulty
      cases clean.symm.trans faulty

inductive Fetches (s : Simulator) (count : Nat) : Bool → Simulator → Option Bytes → Prop
  | nothing : Fetches s count false s none
  | failed (error : DeviceError) (card : Card) (fails : s.card.readData count = (.error error, card)) :
    Fetches s count true ({ s with card }.latch Status.dataTimeout) none
  | fetched (data : Bytes) (card : Card) (registers : RegisterFile)
    (reads : s.card.readData count = (.ok data, card)) (zero : registers.get Register.receiveCount = 0)
    (others : ∀ offset < Register.receivePointer, registers.get offset = s.register offset) :
    Fetches s count true { s with card, arrived := none, registers } (some data)

theorem fetches (s : Simulator) (on : s.receiveOn = true) {word : UInt32}
    (direction : anyBit word CommandWord.fromCard = true) (bytes : Bytes)
    (length : s.blockLength = bytes.length) (pointer : s.register Register.receivePointer = busBase)
    (count : (s.register Register.receiveCount).toNat * 4 = bytes.length) (goesOn : Bool) :
    ∃ s' data, s.Fetches bytes.length goesOn s' data ∧
      (if goesOn then s.startData word (some bytes) else (s, none)) = (s', data.map s.inMemory) := by
  cases goesOn with
  | false => exact ⟨_, _, .nothing, rfl⟩
  | true =>
    obtain ⟨registers, hzero, hothers, hdata⟩ := startData_front on direction length pointer
      (by rw [count, Nat.min_self]) (Nat.le_refl bytes.length)
    rw [if_pos rfl, hdata]
    rcases hread : s.card.readData bytes.length with ⟨e | data, card⟩
    · exact ⟨_, _, .failed e card hread, rfl⟩
    · have hlength := Card.length_readData hread
      have hall : s.inMemory (data.take bytes.length) ++ bytes.drop bytes.length = s.inMemory data := by
        rw [List.drop_length, List.append_nil, ← hlength, List.take_length]
      refine ⟨_, _, .fetched data card registers hread hzero hothers, ?_⟩
      dsimp only
      rw [hall]
      rfl

theorem Fetches.length {count : Nat} {data : Bytes} (h : s.Fetches count goesOn s' (some data)) :
    data.length = count := by
  cases h with
  | fetched data card registers reads => exact Card.length_readData reads

theorem Fetches.ended {count : Nat} {data : Bytes} (h : s.Fetches count goesOn s' (some data)) :
    s'.register Register.receiveCount = 0 := by
  cases h with
  | fetched data card registers reads zero => exact zero

theorem Orderly.fetches_clean (h : s.Orderly) {s'' : Simulator} (responds : s.Responds word goesOn s')
    {count : Nat} {data : Bytes} (fetches : s'.Fetches count goesOn s'' (some data)) :
    anyBit s''.latched Status.errors = false := by
  cases fetches with
  | fetched data card registers reads =>
    refine Bool.eq_false_iff.mpr fun faulty => ?_
    have unarmed : s'.card.phase = none := h.responds_unarmed responds faulty
    rw [Card.readData, unarmed] at reads
    cases reads

theorem Orderly.fetches (h : s.Orderly) {count : Nat} {data : Option Bytes}
    (fetches : s.Fetches count goesOn s' data) : s'.Orderly := by
  have hread : (s.card.readData count).2.Consistent := h.card.readData count
  cases fetches with
  | nothing => exact h
  | failed error card fails =>
    rw [fails] at hread
    exact (h.replaceCard hread).latch rfl
  | fetched data card registers reads =>
    rw [reads] at hread
    exact ⟨hread, h.latched, h.injected⟩

inductive Sends (s : Simulator) (source : Bytes) : Bool → Simulator → Prop
  | nothing : Sends s source false { s with transmitOn := true }
  | unready (idle : s.card.expectsWrite = false) :
    Sends s source true { s.latch Status.dataTimeout with transmitOn := true }
  | failed (error : DeviceError) (card : Card) (registers : RegisterFile) (lastSent : Bytes)
    (ready : s.card.expectsWrite = true) (fails : s.card.writeData source = (.error error, card))
    (zero : registers.get Register.transmitCount = 0)
    (others : ∀ offset < Register.transmitPointer, registers.get offset = s.register offset) :
    Sends s source true
      ({ s with transmitOn := true, registers, lastSent, card }.latch Status.dataCrc)
  | sent (card : Card) (registers : RegisterFile) (lastSent : Bytes)
    (ready : s.card.expectsWrite = true) (takes : s.card.writeData source = (.ok (), card))
    (zero : registers.get Register.transmitCount = 0)
    (others : ∀ offset < Register.transmitPointer, registers.get offset = s.register offset) :
    Sends s source true { s with transmitOn := true, registers, lastSent, card }

theorem Still.sends (h : s.Still) (off : s.transmitOn = false) {word : UInt32}
    (direction : anyBit word CommandWord.fromCard = false) {source bytes : Bytes}
    (pointer : s.register Register.transmitPointer = busBase) {fetched : Nat}
    (count : (s.register Register.transmitCount).toNat * 4 = fetched) (room : fetched ≤ bytes.length)
    (enough : s.soc.secondRevision = true → Staging.minLength ≤ fetched)
    (carries : (s.inMemory (bytes.take fetched)).take s.blockLength = source) (goesOn : Bool) :
    ∃ waiting s', s.Sends source goesOn s' ∧
      (if goesOn then s.startData word (some bytes) else (s, none)) = (waiting, none) ∧
      waiting.write (some bytes) Register.channelControl Channel.transmitOn = (s', none) := by
  have switched {s : Simulator} (still : s.Still) :
      s.write (some bytes) Register.channelControl Channel.transmitOn =
        ({ s with transmitOn := true }, none) := by
    have on : ({ s with transmitOn := true } : Simulator).Still :=
      ⟨still.arrived, still.awaited, still.line, still.receiveNext, still.transmitNext⟩
    refine (s.switchChannels_transmitOn (some bytes)).trans ?_
    rw [on.pumpTransmit]
  cases goesOn with
  | false => exact ⟨s, _, .nothing, rfl, switched h⟩
  | true =>
    rw [if_pos rfl, startData, if_neg (by rw [direction]; decide)]
    cases expects : s.card.expectsWrite with
    | false =>
      rw [if_neg (by decide)]
      exact ⟨_, _, .unready expects, rfl, switched (h.latch _)⟩
    | true =>
      have waits : ({ s with awaited := some s.blockLength, cardBusy := true } :
          Simulator).pumpTransmit (some bytes) =
            { s with awaited := some s.blockLength, cardBusy := true } := pumpTransmit_off (by exact off) _
      obtain ⟨registers, hzero, hothers, hpump⟩ := pumpTransmit_carries (s := { s with
        awaited := some s.blockLength, cardBusy := true, transmitOn := true }) rfl rfl pointer count room
        enough carries
      have hwrite : ({ s with awaited := some s.blockLength, cardBusy := true } : Simulator).write
          (some bytes) Register.channelControl Channel.transmitOn =
            (({ s with awaited := some s.blockLength, cardBusy := true, transmitOn := true } :
              Simulator).pumpTransmit (some bytes), none) :=
        switchChannels_transmitOn _ _
      rw [if_pos rfl, waits]
      refine ⟨_, _, ?_, rfl, hwrite⟩
      rw [hpump]
      -- The channel leaves the line and what it waited for as they were before.
      have hreset (card : Card) : ({ s with
          awaited := none, cardBusy := false, transmitOn := true, registers,
          lastSent := bytes.take fetched, card } : Simulator) =
            { s with transmitOn := true, registers, lastSent := bytes.take fetched, card } := by
        rw [← h.awaited, ← h.line]
      rcases hwritten : s.card.writeData source with ⟨e | ⟨⟩, card⟩
      · dsimp only
        rw [hreset card]
        exact .failed e card registers _ expects hwritten hzero hothers
      · dsimp only
        rw [hreset card]
        exact .sent card registers _ expects hwritten hzero hothers

theorem Sends.waits {source : Bytes} (h : s.Sends source false s') :
    s'.latched = s.latched ∧ s'.register Register.transmitCount = s.register Register.transmitCount := by
  cases h
  exact ⟨rfl, rfl⟩

theorem Sends.ended {source : Bytes} (h : s.Sends source true s')
    (clean : anyBit s'.latched Status.errors = false) : s'.register Register.transmitCount = 0 := by
  have error (s : Simulator) {bits : UInt32} (hbits : anyBit bits Status.errors = true)
      (hclean : anyBit (s.latch bits).latched Status.errors = false) : False := by
    rw [Simulator.latch, anyBit_or, hbits, Bool.or_true] at hclean
    cases hclean
  cases h with
  | unready => exact (error _ rfl clean).elim
  | failed => exact (error _ rfl clean).elim
  | sent _ _ _ _ _ zero => exact zero

theorem Orderly.sends (h : s.Orderly) {source : Bytes} (sends : s.Sends source goesOn s') :
    s'.Orderly := by
  have hwritten : (s.card.writeData source).2.Consistent := h.card.writeData source
  cases sends with
  | nothing => exact h.of_eq rfl rfl rfl
  | unready => exact (h.latch rfl).of_eq rfl rfl rfl
  | failed error card registers lastSent ready fails =>
    rw [fails] at hwritten
    exact ((h.replaceCard hwritten).latch rfl).of_eq rfl rfl rfl
  | sent card registers lastSent ready takes =>
    rw [takes] at hwritten
    exact ⟨hwritten, h.latched, h.injected⟩

end Simulator

end CardHost
