import CardHost.Proofs.CardCalls
import CardHost.Proofs.ClockPlan

namespace CardHost

namespace Medium

def read? (m : Medium) (offset count : Nat) : Option (Except DeviceError Bytes) := do
  let stop ← Clock.word? 64 (offset + count)
  return if stop > m.size then .error .readPastEnd else .ok (m.slice offset count)

def write? (m : Medium) (offset : Nat) (data : Bytes) : Option (Except DeviceError Medium) := do
  let stop ← Clock.word? 64 (offset + data.length)
  return if stop > m.size then .error .writePastEnd else .ok (m.patch offset data)

theorem read?_eq (m : Medium) {offset count : Nat} (fits : offset + count < 2 ^ 64) :
    m.read? offset count = some (m.read offset count) := by
  rw [read?, Clock.word?_of_lt fits]
  rfl

theorem write?_eq (m : Medium) {offset : Nat} {data : Bytes} (fits : offset + data.length < 2 ^ 64) :
    m.write? offset data = some (m.write offset data) := by
  rw [write?, Clock.word?_of_lt fits]
  rfl

theorem end_le_of_read {m : Medium} {offset count : Nat} {bytes : Bytes} (read : m.read offset count = .ok bytes) :
    offset + count ≤ m.size := by
  unfold Medium.read at read
  split at read
  · cases read
  · next inside => exact Nat.le_of_not_lt inside

theorem end_le_of_write {m m' : Medium} {offset : Nat} {data : Bytes} (written : m.write offset data = .ok m') :
    offset + data.length ≤ m.size := by
  unfold Medium.write at written
  split at written
  · cases written
  · next inside => exact Nat.le_of_not_lt inside

end Medium

def DataPhase.place : DataPhase → Nat
  | .reading offset _ | .writing offset _ => offset
  | .configuration | .sdStatus => 0

namespace Card

/-! What a card works out, step by step in words. There is no result if a step leaves its word. -/

def byteOffset? (card : Card) (argument : UInt32) : Option Nat :=
  if card.highCapacity then Clock.word? 64 (argument.toNat * sectorSize) else some argument.toNat

def executePlain? (card : Card) (index argument : UInt32) : Option (Option Reply × Card) :=
  if index = Opcode.readBlock ∨ index = Opcode.readBlocks then
    if card.state = .transfer then do
      return card.arm (.reading (← card.byteOffset? argument) (index == Opcode.readBlocks)) .data
    else some (none, card)
  else if index = Opcode.writeBlock ∨ index = Opcode.writeBlocks then
    if card.state = .transfer then do
      return card.arm (.writing (← card.byteOffset? argument) (index == Opcode.writeBlocks)) .receive
    else some (none, card)
  else some (card.executePlain index argument)

def negotiate? (card : Card) (argument : UInt32) : Option (Option Reply × Card) :=
  if ¬ (argument &&& voltages = 0 ∧ argument ≠ 0) ∧ card.powerUpPolls > 0 then do
    let powerUpPolls ← Clock.difference? card.powerUpPolls 1
    return (some (.shortNoCrc voltages), { card with powerUpPolls })
  else some (card.negotiate argument)

def executeApplication? (card : Card) (index argument : UInt32) : Option (Option Reply × Card) :=
  if index = AppOpcode.sendOpCond ∧ card.state = .idle then card.negotiate? argument
  else some (card.executeApplication index argument)

def execute? (card : Card) (index argument : UInt32) : Option (Option Reply × Card) :=
  if card.applicationNext then { card with applicationNext := false }.executeApplication? index argument
  else card.executePlain? index argument

def readData? (card : Card) (count : Nat) : Option (Except DeviceError Bytes × Card) :=
  match card.phase with
  | some (.reading offset unbounded) => do
    match ← card.medium.read? offset count with
    | .error e => return (.error e, card.failRange)
    | .ok bytes =>
      if unbounded then
        return (.ok bytes, { card with phase := some (.reading (← Clock.word? 64 (offset + count)) true) })
      else return (.ok bytes, card.endPhase)
  | _ => some (card.readData count)

def writeData? (card : Card) (data : Bytes) : Option (Except DeviceError Unit × Card) :=
  match card.phase with
  | some (.writing offset unbounded) => do
    match ← card.medium.write? offset data with
    | .error e => return (.error e, card.failRange)
    | .ok medium =>
      let card := { card with medium }
      if unbounded then
        return (.ok (), { card with phase := some (.writing (← Clock.word? 64 (offset + data.length)) true) })
      else return (.ok (), card.endPhase)
  | _ => some (card.writeData data)

structure Bounded (card : Card) : Prop where
  size : card.medium.size < 2 ^ 63
  place : ∀ phase, card.phase = some phase → phase.place < 2 ^ 63

variable {card card' : Card}

theorem byteOffset_lt (card : Card) (argument : UInt32) : card.byteOffset argument < 2 ^ 41 := by
  have hargument := argument.toNat_lt
  unfold byteOffset sectorSize
  split <;> omega

theorem byteOffset?_eq (card : Card) (argument : UInt32) :
    card.byteOffset? argument = some (card.byteOffset argument) := by
  have hlt := card.byteOffset_lt argument
  unfold byteOffset at hlt ⊢
  unfold byteOffset?
  split
  · next high =>
    rw [if_pos high] at hlt
    exact Clock.word?_of_lt (Nat.lt_trans hlt (by decide))
  · rfl

theorem executePlain_read {index : UInt32} (reads : index = Opcode.readBlock ∨ index = Opcode.readBlocks)
    (card : Card) (argument : UInt32) :
    card.executePlain index argument =
      if card.state = .transfer then
        card.arm (.reading (card.byteOffset argument) (index == Opcode.readBlocks)) .data
      else (none, card) := by
  rcases reads with rfl | rfl <;> rfl

theorem executePlain_write {index : UInt32} (writes : index = Opcode.writeBlock ∨ index = Opcode.writeBlocks)
    (card : Card) (argument : UInt32) :
    card.executePlain index argument =
      if card.state = .transfer then
        card.arm (.writing (card.byteOffset argument) (index == Opcode.writeBlocks)) .receive
      else (none, card) := by
  rcases writes with rfl | rfl <;> rfl

theorem executePlain?_eq (card : Card) (index argument : UInt32) :
    card.executePlain? index argument = some (card.executePlain index argument) := by
  unfold executePlain?
  simp only [byteOffset?_eq, Option.bind_eq_bind, Option.bind_some, Option.pure_def]
  split
  · next reads =>
    rw [executePlain_read reads]
    split <;> rfl
  · split
    · next writes =>
      rw [executePlain_write writes]
      split <;> rfl
    · rfl

theorem negotiate?_eq (card : Card) (argument : UInt32) :
    card.negotiate? argument = some (card.negotiate argument) := by
  unfold negotiate?
  split
  · next polled =>
    have hpolls : Clock.difference? card.powerUpPolls 1 = some (card.powerUpPolls - 1) := if_pos polled.2
    rw [hpolls, negotiate, if_neg polled.1, if_pos polled.2]
    rfl
  · rfl

theorem execute?_eq (card : Card) (index argument : UInt32) :
    card.execute? index argument = some (card.execute index argument) := by
  unfold execute? execute
  split
  · unfold executeApplication?
    split
    · next inquires =>
      obtain ⟨rfl, idle⟩ := inquires
      rw [negotiate?_eq, executeApplication, if_pos rfl, if_pos idle]
    · rfl
  · exact card.executePlain?_eq index argument

theorem readData?_eq (h : card.Bounded) {count : Nat} (small : count < 2 ^ 63) :
    card.readData? count = some (card.readData count) := by
  unfold readData?
  split
  · next offset unbounded armed =>
    have hplace : offset < 2 ^ 63 := h.place _ armed
    have hsum : Clock.word? 64 (offset + count) = some (offset + count) := Clock.word?_of_lt (by omega)
    rw [card.medium.read?_eq (by omega), Option.bind_eq_bind, Option.bind_some, hsum, readData, armed]
    dsimp only
    cases card.medium.read offset count with
    | error => rfl
    | ok => cases unbounded <;> rfl
  · rfl

theorem writeData?_eq (h : card.Bounded) {data : Bytes} (small : data.length < 2 ^ 63) :
    card.writeData? data = some (card.writeData data) := by
  unfold writeData?
  split
  · next offset unbounded armed =>
    have hplace : offset < 2 ^ 63 := h.place _ armed
    have hsum : Clock.word? 64 (offset + data.length) = some (offset + data.length) :=
      Clock.word?_of_lt (by omega)
    rw [card.medium.write?_eq (by omega), Option.bind_eq_bind, Option.bind_some, hsum, writeData, armed]
    dsimp only
    cases card.medium.write offset data with
    | error => rfl
    | ok => cases unbounded <;> rfl
  · rfl

def Reaches (card card' : Card) : Prop := ∃ calls, card' = card.afterAll calls

theorem Reaches.refl (card : Card) : card.Reaches card := ⟨[], rfl⟩

theorem Reaches.trans {card'' : Card} (h : card.Reaches card') (h' : card'.Reaches card'') : card.Reaches card'' := by
  obtain ⟨calls, rfl⟩ := h
  obtain ⟨calls', rfl⟩ := h'
  exact ⟨calls ++ calls', List.foldl_append.symm⟩

theorem Reaches.call (card : Card) (call : Call) : card.Reaches (card.after call) := ⟨[call], rfl⟩

theorem bounded_ofMedium {medium : Medium} (small : medium.size < 2 ^ 63) : (ofMedium medium).Bounded :=
  ⟨small, nofun⟩

theorem Bounded.of_eq (h : card.Bounded) (size : card'.medium.size = card.medium.size)
    (phase : card'.phase = card.phase) : card'.Bounded := by
  refine ⟨size.trans_lt h.size, fun armed at_phase => h.place armed ?_⟩
  rw [← phase, at_phase]

theorem Bounded.unarmed (h : card.Bounded) (size : card'.medium.size = card.medium.size)
    (phase : card'.phase = none) : card'.Bounded := by
  refine ⟨size.trans_lt h.size, fun armed at_phase => ?_⟩
  cases phase.symm.trans at_phase

theorem Bounded.armed (h : card.Bounded) (phase : DataPhase) (near : phase.place < 2 ^ 63)
    (size : card'.medium.size = card.medium.size) (at_phase : card'.phase = some phase) : card'.Bounded := by
  refine ⟨size.trans_lt h.size, fun other at_other => ?_⟩
  cases at_phase.symm.trans at_other
  exact near

theorem Bounded.ite {condition : Prop} [Decidable condition] {r r' : Option Reply × Card}
    (h : r.2.Bounded) (h' : r'.2.Bounded) : (if condition then r else r').2.Bounded := by
  split
  · exact h
  · exact h'

theorem Bounded.markApplication {r : Option Reply × Card} (h : r.2.Bounded) :
    (Card.markApplication r).2.Bounded := by
  unfold Card.markApplication
  split <;> exact h

theorem Bounded.executePlain (h : card.Bounded) (index argument : UInt32) :
    (card.executePlain index argument).2.Bounded := by
  have near : card.byteOffset argument < 2 ^ 63 := Nat.lt_trans (card.byteOffset_lt argument) (by decide)
  -- One command after the other: only those that open a data phase set a place.
  unfold Card.executePlain
  dsimp only
  refine .ite (h.unarmed rfl rfl) ?_
  refine .ite (.ite h h) ?_
  refine .ite (.ite (h.of_eq rfl rfl) h) ?_
  refine .ite (.ite (h.of_eq rfl rfl) h) ?_
  refine .ite ?_ ?_
  · unfold Card.select
    dsimp only
    split <;> exact h.of_eq rfl rfl
  refine .ite (.ite h h) ?_
  refine .ite (h.unarmed rfl rfl) ?_
  refine .ite (.ite (h.of_eq rfl rfl) h) ?_
  refine .ite (.ite ?_ h) ?_
  · unfold Card.setBlockLength
    split <;> exact h.of_eq rfl rfl
  refine .ite (.ite (h.armed (.reading _ _) near rfl rfl) h) ?_
  refine .ite (.ite (h.armed (.writing _ _) near rfl rfl) h) ?_
  exact .ite (h.of_eq rfl rfl) h

theorem Bounded.executeApplication (h : card.Bounded) (index argument : UInt32) :
    (card.executeApplication index argument).2.Bounded := by
  have start : (0 : Nat) < 2 ^ 63 := by decide
  unfold Card.executeApplication
  dsimp only
  refine .ite (.ite ?_ h) ?_
  · unfold Card.negotiate
    dsimp only
    exact .ite h (.ite (h.of_eq rfl rfl) (.ite (h.of_eq rfl rfl) h))
  refine .ite h ?_
  refine .ite (.markApplication (h.of_eq rfl rfl)) ?_
  refine .ite (.markApplication (h.armed .configuration start rfl rfl)) ?_
  exact .ite (.markApplication (h.armed .sdStatus start rfl rfl)) h

theorem Bounded.execute (h : card.Bounded) (index argument : UInt32) : (card.execute index argument).2.Bounded := by
  unfold Card.execute
  split
  · exact (h.of_eq rfl rfl : ({ card with applicationNext := false } : Card).Bounded).executeApplication _ _
  · exact h.executePlain index argument

theorem Bounded.readData (h : card.Bounded) (count : Nat) : (card.readData count).2.Bounded := by
  unfold Card.readData
  split
  · next offset unbounded armed =>
    split
    · exact h.unarmed rfl rfl
    · next bytes read =>
      have inside : offset + count ≤ card.medium.size := Medium.end_le_of_read read
      split
      · exact h.armed (.reading (offset + count) true) (Nat.lt_of_le_of_lt inside h.size) rfl rfl
      · exact h.unarmed rfl rfl
  · exact h.unarmed rfl rfl
  · exact h.unarmed rfl rfl
  · exact h.of_eq rfl rfl
  · exact h.of_eq rfl rfl

theorem Bounded.writeData (h : card.Bounded) (data : Bytes) : (card.writeData data).2.Bounded := by
  unfold Card.writeData
  split
  · next offset unbounded armed =>
    split
    · exact h.unarmed rfl rfl
    · next medium written =>
      have same : medium.size = card.medium.size := Medium.size_write written
      have inside : offset + data.length ≤ card.medium.size := Medium.end_le_of_write written
      dsimp only
      split
      · exact h.armed (.writing (offset + data.length) true) (Nat.lt_of_le_of_lt inside h.size)
          same rfl
      · exact h.unarmed same rfl
  · exact h.of_eq rfl rfl

theorem Bounded.after (h : card.Bounded) (call : Call) : (card.after call).Bounded := by
  cases call with
  | execute index argument => exact h.execute index argument
  | read count => exact h.readData count
  | write data => exact h.writeData data
  | store offset data =>
    cases written : card.medium.write offset data with
    | error e =>
      simp only [Card.after, written, Except.toOption, Option.getD_none]
      exact h
    | ok medium =>
      simp only [Card.after, written, Except.toOption, Option.getD_some]
      exact h.of_eq (Medium.size_write written) rfl

theorem Bounded.afterAll (h : card.Bounded) (calls : List Call) : (card.afterAll calls).Bounded := by
  induction calls generalizing card with
  | nil => exact h
  | cons call rest ih => exact ih (h.after call)

theorem Bounded.reaches (h : card.Bounded) (reaches : card.Reaches card') : card'.Bounded := by
  obtain ⟨calls, rfl⟩ := reaches
  exact h.afterAll calls

theorem bounded_used {medium : Medium} (small : medium.size < 2 ^ 63) (calls : List Call) :
    (used medium calls).Bounded := (bounded_ofMedium small).afterAll calls

end Card

end CardHost
