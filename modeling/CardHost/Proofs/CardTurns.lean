import CardHost.Proofs.Bench

namespace CardHost

theorem Medium.size_write {m m' : Medium} {offset : Nat} {data : Bytes}
    (written : m.write offset data = .ok m') : m'.size = m.size := by
  unfold write at written
  split at written
  · cases written
  · cases written
    rfl

def DataPhase.state : DataPhase → CardState
  | .writing _ _ => .receive
  | .reading _ _ | .configuration | .sdStatus => .data

namespace CardState

def movesData : CardState → Bool
  | .data | .receive => true
  | _ => false

def stopped : CardState → CardState
  | .data | .receive => .transfer
  | other => other

theorem movesData_stopped (state : CardState) : state.stopped.movesData = false := by
  cases state <;> rfl

end CardState

theorem DataPhase.movesData_state (phase : DataPhase) : phase.state.movesData = true := by
  cases phase <;> rfl

/-- The part of a card that tells which commands it accepts; the next command being an application command,
the block length and the latched errors are left out. -/
structure Standing where
  state : CardState
  phase : Option DataPhase
  powerUpPolls : Nat
  highCapacity : Bool
  address : UInt16
  fourWire : Bool
  size : Nat

def Card.standing (card : Card) : Standing :=
  ⟨card.state, card.phase, card.powerUpPolls, card.highCapacity, card.address, card.fourWire, card.medium.size⟩

namespace Standing

inductive Turns (s : Standing) : Standing → Prop where
  | stays : Turns s s
  | resets : Turns s
      { s with
        state := .idle, phase := none, powerUpPolls := 1, highCapacity := false, address := 0,
        fourWire := false }
  | polls (idle : s.state = .idle) : Turns s { s with powerUpPolls := s.powerUpPolls - 1 }
  | negotiates (idle : s.state = .idle) (highCapacity : Bool) : Turns s { s with state := .ready, highCapacity }
  | identifies (ready : s.state = .ready) : Turns s { s with state := .identify }
  | publishes (named : s.state = .identify ∨ s.state = .standby) :
      Turns s { s with state := .standby, address := Card.publishedAddress }
  | selects (standby : s.state = .standby) : Turns s { s with state := .transfer }
  | deselects (transfer : s.state = .transfer) : Turns s { s with state := .standby }
  | widens (transfer : s.state = .transfer) (fourWire : Bool) : Turns s { s with fourWire }
  | arms (transfer : s.state = .transfer) (phase : DataPhase) :
      Turns s { s with state := phase.state, phase := some phase }
  | continues {phase next : DataPhase} (armed : s.phase = some phase) (same : next.state = phase.state) :
      Turns s { s with phase := some next }
  | ends {phase : DataPhase} (armed : s.phase = some phase) : Turns s { s with state := .transfer, phase := none }
  | stops : Turns s { s with state := s.state.stopped, phase := none }

theorem Turns.ite {s : Standing} {condition : Prop} [Decidable condition] {r r' : Option Reply × Card}
    (h : condition → s.Turns r.2.standing) (h' : ¬ condition → s.Turns r'.2.standing) :
    s.Turns (if condition then r else r').2.standing := by
  split
  · next holds => exact h holds
  · next fails => exact h' fails

theorem Turns.markApplication {s : Standing} {r : Option Reply × Card} (h : s.Turns r.2.standing) :
    s.Turns (Card.markApplication r).2.standing := by
  unfold Card.markApplication
  split <;> exact h

end Standing

namespace Card

open Standing

theorem negotiate_turns (card : Card) (idle : card.state = .idle) (argument : UInt32) :
    card.standing.Turns (card.negotiate argument).2.standing := by
  unfold negotiate
  dsimp only
  refine .ite (fun _ => .stays) fun _ => ?_
  refine .ite (fun _ => .polls idle) fun _ => ?_
  exact .ite (fun _ => .negotiates idle _) fun _ => .stays

theorem select_turns (card : Card) (argument : UInt32) :
    card.standing.Turns (card.select argument).2.standing := by
  unfold select
  dsimp only
  split
  · next standby _ => exact .selects standby
  · next transfer _ => exact .deselects transfer
  · exact .stays
  · exact .stays

theorem setBlockLength_standing (card : Card) (length : UInt32) :
    (card.setBlockLength length).standing = card.standing := by
  unfold setBlockLength
  split <;> rfl

theorem stop_turns (card : Card) : card.standing.Turns card.stop.2.standing := by
  have h : card.stop.2.standing = { card.standing with state := card.state.stopped, phase := none } := by
    unfold stop
    cases card.state <;> rfl
  rw [h]
  exact .stops

theorem executePlain_turns (card : Card) (index argument : UInt32) :
    card.standing.Turns (card.executePlain index argument).2.standing := by
  unfold executePlain
  dsimp only
  refine .ite (fun _ => .resets) fun _ => ?_
  refine .ite (fun _ => .ite (fun _ => .stays) fun _ => .stays) fun _ => ?_
  refine .ite (fun _ => .ite (fun ready => .identifies ready) fun _ => .stays) fun _ => ?_
  refine .ite (fun _ => .ite (fun named => .publishes named) fun _ => .stays) fun _ => ?_
  refine .ite (fun _ => card.select_turns argument) fun _ => ?_
  refine .ite (fun _ => .ite (fun _ => .stays) fun _ => .stays) fun _ => ?_
  refine .ite (fun _ => card.stop_turns) fun _ => ?_
  refine .ite (fun _ => .ite (fun _ => .stays) fun _ => .stays) fun _ => ?_
  refine .ite (fun _ => .ite (fun _ => ?_) fun _ => .stays) fun _ => ?_
  · change card.standing.Turns (card.setBlockLength argument).standing
    rw [setBlockLength_standing]
    exact .stays
  refine .ite (fun _ => .ite (fun transfer => .arms transfer (.reading _ _)) fun _ => .stays) fun _ => ?_
  refine .ite (fun _ => .ite (fun transfer => .arms transfer (.writing _ _)) fun _ => .stays) fun _ => ?_
  exact .ite (fun _ => .stays) fun _ => .stays

theorem executeApplication_turns (card : Card) (index argument : UInt32) :
    card.standing.Turns (card.executeApplication index argument).2.standing := by
  unfold executeApplication
  dsimp only
  refine .ite (fun _ => .ite (fun idle => card.negotiate_turns idle argument) fun _ => .stays) fun _ => ?_
  refine .ite (fun _ => .stays) fun other => ?_
  have transfer : card.state = .transfer := Decidable.not_not.mp other
  refine .ite (fun _ => .markApplication (.widens transfer _)) fun _ => ?_
  refine .ite (fun _ => .markApplication (.arms transfer .configuration)) fun _ => ?_
  exact .ite (fun _ => .markApplication (.arms transfer .sdStatus)) fun _ => .stays

theorem execute_turns (card : Card) (index argument : UInt32) :
    card.standing.Turns (card.execute index argument).2.standing := by
  unfold execute
  split
  · exact executeApplication_turns { card with applicationNext := false } index argument
  · exact card.executePlain_turns index argument

theorem readData_turns (card : Card) (count : Nat) :
    card.standing.Turns (card.readData count).2.standing := by
  unfold readData
  split
  · next offset unbounded armed =>
    have same : (DataPhase.reading (offset + count) true).state = (DataPhase.reading offset unbounded).state := rfl
    split
    · exact .ends armed
    · split
      · exact .continues armed same
      · exact .ends armed
  · next armed => exact .ends armed
  · next armed => exact .ends armed
  · exact .stays
  · exact .stays

theorem writeData_turns (card : Card) (data : Bytes) :
    card.standing.Turns (card.writeData data).2.standing := by
  unfold writeData
  split
  · next offset unbounded armed =>
    have same : (DataPhase.writing (offset + data.length) true).state =
        (DataPhase.writing offset unbounded).state := rfl
    split
    · exact .ends armed
    · next medium written =>
      have hsize : ({ card with medium } : Card).standing = card.standing := by
        simp only [standing, Medium.size_write written]
      dsimp only
      split
      · have h : card.standing.Turns
            { card.standing with phase := some (.writing (offset + data.length) true) } :=
          .continues armed same
        rwa [← hsize] at h ⊢
      · have h : card.standing.Turns { card.standing with state := .transfer, phase := none } :=
          .ends armed
        rwa [← hsize] at h ⊢
  · exact .stays

theorem after_turns (card : Card) (call : Call) : card.standing.Turns (card.after call).standing := by
  cases call with
  | execute index argument => exact card.execute_turns index argument
  | read count => exact card.readData_turns count
  | write data => exact card.writeData_turns data
  | store offset data =>
    have h : (card.after (.store offset data)).standing = card.standing := by
      cases hw : card.medium.write offset data with
      | error e => simp only [after, hw, standing, Except.toOption, Option.getD_none]
      | ok medium => simp only [after, hw, standing, Except.toOption, Option.getD_some, Medium.size_write hw]
    rw [h]
    exact .stays

end Card

end CardHost
