import CardHost.Card.BringUp
import CardHost.Proofs.CardCalls
import Mathlib.Algebra.GroupWithZero.Nat

namespace CardHost

namespace Card

namespace Call

def isQuery : Call → Bool
  | .execute index _ => index == Opcode.sendStatus
  | _ => false

def count? : Call → Option Nat
  | .read count => some count
  | _ => none

def data? : Call → Option Bytes
  | .write data => some data
  | _ => none

def reads (call : Call) : Bool := call.isQuery || call.count?.isSome

def writes (call : Call) : Bool := call.isQuery || call.data?.isSome

def moves (call : Call) : Bool := call.reads || call.writes

end Call

namespace Result

def read? : Result → Option (Except DeviceError Bytes)
  | .read result => some result
  | _ => none

def written? : Result → Option (Except DeviceError Unit)
  | .written result => some result
  | _ => none

def hasMoved : Result → Bool
  | .read (.ok _) | .written (.ok _) => true
  | _ => false

end Result

def counts (calls : List Call) : List Nat := calls.filterMap Call.count?

def payloads (calls : List Call) : List Bytes := calls.filterMap Call.data?

def Fits (size offset : Nat) (lengths : List Nat) : Prop := lengths ≠ [] → offset + lengths.sum ≤ size

theorem Fits.cons {size offset length : Nat} {rest : List Nat} (h : Fits size offset (length :: rest)) :
    offset + length ≤ size ∧ Fits size (offset + length) rest := by
  have hall := h (List.cons_ne_nil _ _)
  rw [List.sum_cons, ← Nat.add_assoc] at hall
  exact ⟨Nat.le_trans (Nat.le_add_right _ _) hall, fun _ => hall⟩

theorem cases_reads {call : Call} (h : call.reads = true) :
    (∃ argument, call = .execute Opcode.sendStatus argument) ∨ ∃ count, call = .read count := by
  cases call with
  | execute index argument =>
    have query : index = Opcode.sendStatus := by simpa [Call.reads, Call.isQuery, Call.count?] using h
    exact .inl ⟨argument, query ▸ rfl⟩
  | read count => exact .inr ⟨count, rfl⟩
  | write | store => cases h

theorem cases_writes {call : Call} (h : call.writes = true) :
    (∃ argument, call = .execute Opcode.sendStatus argument) ∨ ∃ data, call = .write data := by
  cases call with
  | execute index argument =>
    have query : index = Opcode.sendStatus := by simpa [Call.writes, Call.isQuery, Call.data?] using h
    exact .inl ⟨argument, query ▸ rfl⟩
  | write data => exact .inr ⟨data, rfl⟩
  | read | store => cases h

theorem after_query {card : Card} (plain : card.applicationNext = false) (argument : UInt32) :
    card.after (.execute Opcode.sendStatus argument) = card ∨
      card.after (.execute Opcode.sendStatus argument) = card.answer.2 := by
  have hquery : card.execute Opcode.sendStatus argument =
      if card.isAddressed argument then card.answer else (none, card) := by
    rw [execute, if_neg (by rw [plain]; decide)]
    rfl
  rw [after, hquery]
  split
  · exact .inr rfl
  · exact .inl rfl

structure Flows (card : Card) (phase : Option DataPhase) (medium : Medium) : Prop where
  plain : card.applicationNext = false
  state : card.state = phase.elim .transfer DataPhase.state
  phase : card.phase = phase
  medium : card.medium = medium

namespace Flows

variable {card : Card} {phase : Option DataPhase} {medium : Medium} {offset : Nat} {calls : List Call}

theorem query (h : card.Flows phase medium) (argument : UInt32) :
    (card.after (.execute Opcode.sendStatus argument)).Flows phase medium := by
  obtain he | he := after_query h.plain argument
  · rw [he]
    exact h
  · rw [he]
    exact ⟨h.plain, h.state, h.phase, h.medium⟩

theorem failRange (h : card.Flows phase medium) : card.failRange.Flows none medium :=
  ⟨h.plain, rfl, rfl, h.medium⟩

theorem latchIllegal (h : card.Flows phase medium) : card.latchIllegal.Flows phase medium :=
  ⟨h.plain, h.state, h.phase, h.medium⟩

theorem read_within (h : card.Flows (some (.reading offset true)) medium) {count : Nat}
    (within : offset + count ≤ medium.size) :
    card.result (.read count) = .read (.ok (medium.slice offset count)) ∧
      (card.after (.read count)).Flows (some (.reading (offset + count) true)) medium := by
  have hread : card.readData count =
      (.ok (medium.slice offset count), { card with phase := some (.reading (offset + count) true) }) := by
    simp only [readData, h.phase, h.medium, Medium.read, if_neg (Nat.not_lt_of_le within), if_true]
  rw [result, after, hread]
  exact ⟨rfl, h.plain, h.state, rfl, h.medium⟩

theorem read_beyond (h : card.Flows (some (.reading offset true)) medium) {count : Nat}
    (beyond : medium.size < offset + count) :
    card.result (.read count) = .read (.error .readPastEnd) ∧
      (card.after (.read count)).Flows none medium := by
  have hread : card.readData count = (.error .readPastEnd, card.failRange) := by
    simp only [readData, h.phase, h.medium, Medium.read, if_pos beyond]
  rw [result, after, hread]
  exact ⟨rfl, h.failRange⟩

theorem write_within (h : card.Flows (some (.writing offset true)) medium) {data : Bytes}
    (within : offset + data.length ≤ medium.size) :
    card.result (.write data) = .written (.ok ()) ∧
      (card.after (.write data)).Flows (some (.writing (offset + data.length) true))
        (medium.patch offset data) := by
  have hwrite : card.writeData data = (.ok (), { card with
      medium := medium.patch offset data
      phase := some (.writing (offset + data.length) true) }) := by
    simp only [writeData, h.phase, h.medium, Medium.write, if_neg (Nat.not_lt_of_le within), if_true]
  rw [result, after, hwrite]
  exact ⟨rfl, h.plain, h.state, rfl, rfl⟩

theorem write_beyond (h : card.Flows (some (.writing offset true)) medium) {data : Bytes}
    (beyond : medium.size < offset + data.length) :
    card.result (.write data) = .written (.error .writePastEnd) ∧
      (card.after (.write data)).Flows none medium := by
  have hwrite : card.writeData data = (.error .writePastEnd, card.failRange) := by
    simp only [writeData, h.phase, h.medium, Medium.write, if_pos beyond]
  rw [result, after, hwrite]
  exact ⟨rfl, h.failRange⟩

theorem read_unarmed (h : card.Flows none medium) (count : Nat) :
    (card.result (.read count)).hasMoved = false ∧ (card.after (.read count)).Flows none medium := by
  have hread : card.readData count = (.error .noReadPhase, card.latchIllegal) := by
    simp only [readData, h.phase]
  rw [result, after, hread]
  exact ⟨rfl, h.latchIllegal⟩

theorem write_unarmed (h : card.Flows none medium) (data : Bytes) :
    (card.result (.write data)).hasMoved = false ∧ (card.after (.write data)).Flows none medium := by
  have hwrite : card.writeData data = (.error .noWritePhase, card.latchIllegal) := by
    simp only [writeData, h.phase]
  rw [result, after, hwrite]
  exact ⟨rfl, h.latchIllegal⟩

theorem unarmed (h : card.Flows none medium) (moving : calls.all Call.moves = true) :
    (card.afterAll calls).Flows none medium ∧ ∀ result ∈ card.results calls, result.hasMoved = false := by
  induction calls generalizing card with
  | nil => exact ⟨h, fun _ none => nomatch none⟩
  | cons call rest ih =>
    obtain ⟨first, others⟩ := Bool.and_eq_true_iff.mp moving
    have step : (card.result call).hasMoved = false ∧ (card.after call).Flows none medium := by
      rcases Bool.or_eq_true_iff.mp first with reads | writes
      · obtain ⟨argument, rfl⟩ | ⟨count, rfl⟩ := cases_reads reads
        · exact ⟨rfl, h.query argument⟩
        · exact h.read_unarmed count
      · obtain ⟨argument, rfl⟩ | ⟨data, rfl⟩ := cases_writes writes
        · exact ⟨rfl, h.query argument⟩
        · exact h.write_unarmed data
    obtain ⟨after, failed⟩ := ih step.2 others
    exact ⟨after, List.forall_mem_cons.mpr ⟨step.1, failed⟩⟩

theorem reads (h : card.Flows (some (.reading offset true)) medium) (reading : calls.all Call.reads = true)
    (fits : Fits medium.size offset (counts calls)) :
    (card.afterAll calls).Flows (some (.reading (offset + (counts calls).sum) true)) medium ∧
      ∃ pieces : List Bytes, (card.results calls).filterMap Result.read? = pieces.map .ok ∧
        pieces.map List.length = counts calls ∧
        pieces.flatten = medium.slice offset (counts calls).sum := by
  induction calls generalizing card offset with
  | nil => exact ⟨h, [], rfl, rfl, rfl⟩
  | cons call rest ih =>
    obtain ⟨first, others⟩ := Bool.and_eq_true_iff.mp reading
    obtain ⟨argument, rfl⟩ | ⟨count, rfl⟩ := cases_reads first
    · exact ih (h.query argument) others fits
    · have hcounts : counts (.read count :: rest) = count :: counts rest := rfl
      rw [hcounts] at fits
      obtain ⟨within, fits⟩ := fits.cons
      obtain ⟨hread, after⟩ := h.read_within within
      obtain ⟨last, pieces, hpieces, hlengths, hflatten⟩ := ih after others fits
      rw [hcounts, List.sum_cons, ← Nat.add_assoc]
      refine ⟨last, medium.slice offset count :: pieces, ?_, ?_, ?_⟩
      · rw [results, hread]
        exact congrArg (.ok (medium.slice offset count) :: ·) hpieces
      · rw [List.map_cons, Medium.length_slice, hlengths]
      · rw [List.flatten_cons, hflatten, medium.slice_add]

theorem writes (h : card.Flows (some (.writing offset true)) medium) (writing : calls.all Call.writes = true)
    (fits : Fits medium.size offset ((payloads calls).map List.length)) :
    (card.afterAll calls).Flows
        (some (.writing (offset + ((payloads calls).map List.length).sum) true))
        (medium.patch offset (payloads calls).flatten) ∧
      ∀ result ∈ (card.results calls).filterMap Result.written?, result = .ok () := by
  induction calls generalizing card offset medium with
  | nil => exact ⟨(medium.patch_nil offset).symm ▸ h, fun _ none => nomatch none⟩
  | cons call rest ih =>
    obtain ⟨first, others⟩ := Bool.and_eq_true_iff.mp writing
    obtain ⟨argument, rfl⟩ | ⟨data, rfl⟩ := cases_writes first
    · exact ih (h.query argument) others fits
    · have hpayloads : payloads (.write data :: rest) = data :: payloads rest := rfl
      rw [hpayloads, List.map_cons] at fits
      obtain ⟨within, fits⟩ := fits.cons
      obtain ⟨hwrite, after⟩ := h.write_within within
      obtain ⟨last, taken⟩ := ih after others fits
      rw [hpayloads, List.map_cons, List.sum_cons, ← Nat.add_assoc, List.flatten_cons, medium.patch_append]
      refine ⟨last, ?_⟩
      rw [results, hwrite]
      exact List.forall_mem_cons.mpr ⟨rfl, taken⟩

end Flows

structure Moving (card : Card) : Prop where
  plain : card.applicationNext = false
  transferring : card.isTransferring

theorem Flows.moving {card : Card} {phase : Option DataPhase} {medium : Medium}
    (h : card.Flows phase medium) : card.Moving := by
  refine ⟨h.plain, ?_⟩
  rw [isTransferring, h.state]
  rcases phase with _ | _ | _ | _ | _
  · exact .inl rfl
  · exact .inr (.inl rfl)
  · exact .inr (.inr rfl)
  · exact .inr (.inl rfl)
  · exact .inr (.inl rfl)

namespace Moving

variable {card : Card} {calls : List Call}

theorem query (h : card.Moving) (argument : UInt32) :
    (card.after (.execute Opcode.sendStatus argument)).Moving := by
  obtain he | he := after_query h.plain argument
  · rw [he]
    exact h
  · rw [he]
    exact ⟨h.plain, h.transferring⟩

theorem read (h : card.Moving) (count : Nat) : (card.after (.read count)).Moving := by
  rw [after, readData]
  split
  · split
    · exact ⟨h.plain, .inl rfl⟩
    · split
      · exact ⟨h.plain, h.transferring⟩
      · exact ⟨h.plain, .inl rfl⟩
  · exact ⟨h.plain, .inl rfl⟩
  · exact ⟨h.plain, .inl rfl⟩
  all_goals exact ⟨h.plain, h.transferring⟩

theorem write (h : card.Moving) (data : Bytes) : (card.after (.write data)).Moving := by
  rw [after, writeData]
  split
  · split
    · exact ⟨h.plain, .inl rfl⟩
    · dsimp only
      split
      · exact ⟨h.plain, h.transferring⟩
      · exact ⟨h.plain, .inl rfl⟩
  · exact ⟨h.plain, h.transferring⟩

theorem all (h : card.Moving) (moving : calls.all Call.moves = true) : (card.afterAll calls).Moving := by
  induction calls generalizing card with
  | nil => exact h
  | cons call rest ih =>
    obtain ⟨first, others⟩ := Bool.and_eq_true_iff.mp moving
    refine ih ?_ others
    rcases Bool.or_eq_true_iff.mp first with reads | writes
    · obtain ⟨argument, rfl⟩ | ⟨count, rfl⟩ := cases_reads reads
      · exact h.query argument
      · exact h.read count
    · obtain ⟨argument, rfl⟩ | ⟨data, rfl⟩ := cases_writes writes
      · exact h.query argument
      · exact h.write data

end Moving

def Stops (opened : Card) : Prop :=
  ∀ calls : List Call, calls.all Call.moves = true → ∀ argument,
    ∃ status stopped, (opened.afterAll calls).execute Opcode.stopTransmission argument =
        (some (.short status), stopped) ∧
      stopped.state = .transfer ∧ stopped.phase = none ∧ stopped.medium = (opened.afterAll calls).medium

theorem Flows.stops {opened : Card} {phase : Option DataPhase} {medium : Medium}
    (h : opened.Flows phase medium) : opened.Stops := by
  intro calls moving argument
  have hmoving := h.moving.all moving
  obtain ⟨status, hstop⟩ := execute_stop hmoving.transferring hmoving.plain argument
  exact ⟨status, _, hstop, rfl, rfl, rfl⟩

structure CutOff (card : Card) (call : Call) (medium : Medium) : Prop where
  failed : (card.result call).hasMoved = false
  state : (card.after call).state = .transfer
  phase : (card.after call).phase = none
  kept : (card.after call).medium = medium
  later : ∀ later : List Call, later.all Call.moves = true →
    (∀ result ∈ (card.after call).results later, result.hasMoved = false) ∧
      ((card.after call).afterAll later).medium = medium

theorem Flows.cutOff {card : Card} {call : Call} {medium : Medium} (h : (card.after call).Flows none medium)
    (failed : (card.result call).hasMoved = false) : card.CutOff call medium where
  failed := failed
  state := h.state
  phase := h.phase
  kept := h.medium
  later later moving := by
    obtain ⟨after, none⟩ := h.unarmed moving
    exact ⟨none, after.medium⟩

structure ReadsOn (opened : Card) (medium : Medium) (offset : Nat) : Prop where
  within : ∀ calls : List Call, calls.all Call.reads = true → Fits medium.size offset (counts calls) →
    (∃ pieces : List Bytes, (opened.results calls).filterMap Result.read? = pieces.map .ok ∧
      pieces.map List.length = counts calls ∧
      pieces.flatten = medium.slice offset (counts calls).sum) ∧
    (opened.afterAll calls).medium = medium
  beyond : ∀ calls : List Call, calls.all Call.reads = true → Fits medium.size offset (counts calls) →
    ∀ count, medium.size < offset + (counts calls).sum + count →
      (opened.afterAll calls).CutOff (.read count) medium
  stops : opened.Stops

structure WritesOn (opened : Card) (medium : Medium) (offset : Nat) : Prop where
  within : ∀ calls : List Call, calls.all Call.writes = true →
    Fits medium.size offset ((payloads calls).map List.length) →
    (∀ result ∈ (opened.results calls).filterMap Result.written?, result = .ok ()) ∧
      (opened.afterAll calls).medium = medium.patch offset (payloads calls).flatten
  beyond : ∀ calls : List Call, calls.all Call.writes = true →
    Fits medium.size offset ((payloads calls).map List.length) →
    ∀ data : Bytes, medium.size < offset + (payloads calls).flatten.length + data.length →
      (opened.afterAll calls).CutOff (.write data) (medium.patch offset (payloads calls).flatten)
  stops : opened.Stops

theorem Flows.readsOn {opened : Card} {medium : Medium} {offset : Nat}
    (h : opened.Flows (some (.reading offset true)) medium) : opened.ReadsOn medium offset where
  within calls reading fits := by
    obtain ⟨after, pieces⟩ := h.reads reading fits
    exact ⟨pieces, after.medium⟩
  beyond calls reading fits count beyond := by
    obtain ⟨failed, after⟩ := (h.reads reading fits).1.read_beyond beyond
    exact after.cutOff (by rw [failed]; rfl)
  stops := h.stops

theorem Flows.writesOn {opened : Card} {medium : Medium} {offset : Nat}
    (h : opened.Flows (some (.writing offset true)) medium) : opened.WritesOn medium offset where
  within calls writing fits := by
    obtain ⟨after, taken⟩ := h.writes writing fits
    exact ⟨taken, after.medium⟩
  beyond calls writing fits data beyond := by
    rw [List.length_flatten] at beyond
    obtain ⟨failed, after⟩ := (h.writes writing fits).1.write_beyond beyond
    exact after.cutOff (by rw [failed]; rfl)
  stops := h.stops

end Card

/-- After the command that opens a phase of many blocks, the pieces that are read or written follow each other in
what a selected card stores, as far as they fit. Nothing but a write that is taken changes any of it. -/
theorem open_phases_contiguous (card : Card) :
    (card.state = .transfer → card.applicationNext = false → ∀ argument,
      (card.after (.execute Opcode.readBlocks argument)).ReadsOn card.medium (card.byteOffset argument) ∧
        (card.after (.execute Opcode.writeBlocks argument)).WritesOn card.medium (card.byteOffset argument)) ∧
      card.KeepsMedium := by
  refine ⟨fun selected plain argument => ?_, card.keepsMedium⟩
  have hread := Card.execute_transfer selected plain ⟨false, true⟩ argument
  have hwrite := Card.execute_transfer selected plain ⟨true, true⟩ argument
  have hreading : (card.after (.execute Opcode.readBlocks argument)).Flows
      (some (.reading (card.byteOffset argument) true)) card.medium := by
    rw [Card.after, show Opcode.readBlocks = (⟨false, true⟩ : Transfer).opcode from rfl, hread]
    exact ⟨plain, rfl, rfl, rfl⟩
  have hwriting : (card.after (.execute Opcode.writeBlocks argument)).Flows
      (some (.writing (card.byteOffset argument) true)) card.medium := by
    rw [Card.after, show Opcode.writeBlocks = (⟨true, true⟩ : Transfer).opcode from rfl, hwrite]
    exact ⟨plain, rfl, rfl, rfl⟩
  exact ⟨hreading.readsOn, hwriting.writesOn⟩

theorem open_phases_of_two_blocks :
    let card := (Card.ofMedium (.blank 1024)).bringUp 0x40300000
    let query : Card.Call := .execute Opcode.sendStatus 0x12340000
    let block : Bytes := List.replicate 512 7
    let reading := card.after (.execute Opcode.readBlocks 0)
    let writing := card.after (.execute Opcode.writeBlocks 0)
    card.state = .transfer ∧ card.applicationNext = false ∧
      (reading.afterAll [.read 512, query, .read 512]).CutOff (.read 512) card.medium ∧
      (writing.afterAll [.write block, query, .write block]).CutOff (.write block)
        (card.medium.patch 0 [block, block].flatten) := by
  intro card query block reading writing
  have selected : card.state = .transfer := by decide
  have plain : card.applicationNext = false := by decide
  have size : card.medium.size = 1024 := by decide
  obtain ⟨reads, writes⟩ := (open_phases_contiguous card).1 selected plain 0
  have start : card.byteOffset 0 = 0 := by decide
  rw [start] at reads writes
  have length : block.length = 512 := List.length_replicate
  have within : [block, block].flatten.length = 1024 := by
    rw [List.flatten_cons, List.flatten_cons, List.flatten_nil, List.append_nil, List.length_append, length]
  have sent : Card.payloads [.write block, query, .write block] = [block, block] := rfl
  refine ⟨selected, plain, ?_, ?_⟩
  · refine reads.beyond [.read 512, query, .read 512] rfl (fun _ => ?_) 512 ?_
    all_goals
      rw [size]
      decide
  · refine writes.beyond [.write block, query, .write block] rfl (fun _ => ?_) block ?_
    · refine Nat.le_of_eq ?_
      rw [← List.length_flatten, size, sent, within]
    · rw [size, sent, within, length]
      decide

end CardHost
