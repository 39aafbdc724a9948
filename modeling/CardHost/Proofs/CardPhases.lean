import CardHost.Proofs.CardTransfers
import CardHost.Proofs.CardTurns

namespace CardHost

namespace Card

structure Consistent (card : Card) : Prop where
  armed : ∀ phase, card.phase = some phase → card.state = phase.state
  unarmed : card.phase = none → card.state.movesData = false

variable {card card' : Card}

theorem Consistent.phase_eq_none (h : card.Consistent) (still : card.state.movesData = false) :
    card.phase = none := by
  cases hp : card.phase with
  | none => rfl
  | some phase =>
    rw [h.armed phase hp, phase.movesData_state] at still
    cases still

theorem consistent_ofMedium (medium : Medium) : (ofMedium medium).Consistent := ⟨nofun, fun _ => rfl⟩

theorem Consistent.turns (h : card.Consistent) {s : Standing} (turns : card.standing.Turns s) :
    (∀ phase, s.phase = some phase → s.state = phase.state) ∧
      (s.phase = none → s.state.movesData = false) := by
  -- Outside a data phase the state moves no data, so a turn between such states arms nothing.
  have still (state : CardState) (at_state : card.state = state) (quiet : state.movesData = false)
      (phase : DataPhase) : card.phase ≠ some phase := by
    rw [h.phase_eq_none (by rw [at_state, quiet])]
    nofun
  cases turns with
  | stays => exact ⟨h.armed, h.unarmed⟩
  | resets => exact ⟨nofun, fun _ => rfl⟩
  | polls => exact ⟨h.armed, h.unarmed⟩
  | negotiates idle => exact ⟨fun phase hp => (still _ idle rfl phase hp).elim, fun _ => rfl⟩
  | identifies ready => exact ⟨fun phase hp => (still _ ready rfl phase hp).elim, fun _ => rfl⟩
  | publishes named =>
    refine ⟨fun phase hp => ?_, fun _ => rfl⟩
    rcases named with named | named
    · exact (still _ named rfl phase hp).elim
    · exact (still _ named rfl phase hp).elim
  | selects standby => exact ⟨fun phase hp => (still _ standby rfl phase hp).elim, fun _ => rfl⟩
  | deselects transfer => exact ⟨fun phase hp => (still _ transfer rfl phase hp).elim, fun _ => rfl⟩
  | widens => exact ⟨h.armed, h.unarmed⟩
  | arms _ phase =>
    refine ⟨fun other hp => ?_, nofun⟩
    cases hp
    rfl
  | continues armed same =>
    refine ⟨fun other hp => ?_, nofun⟩
    cases hp
    exact (h.armed _ armed).trans same.symm
  | ends => exact ⟨nofun, fun _ => rfl⟩
  | stops => exact ⟨nofun, fun _ => card.state.movesData_stopped⟩

theorem Consistent.of_turns (h : card.Consistent) (turns : card.standing.Turns card'.standing) :
    card'.Consistent :=
  ⟨(h.turns turns).1, (h.turns turns).2⟩

theorem Consistent.execute (h : card.Consistent) (index argument : UInt32) :
    (card.execute index argument).2.Consistent :=
  h.of_turns (card.execute_turns index argument)

theorem Consistent.attempts (h : card.Consistent) (attempts : card.Attempts card') : card'.Consistent := by
  rcases attempts with rfl | ⟨index, argument, rfl⟩
  · exact h
  · exact h.execute index argument

theorem Consistent.readData (h : card.Consistent) (count : Nat) :
    (card.readData count).2.Consistent :=
  h.of_turns (card.readData_turns count)

theorem Consistent.writeData (h : card.Consistent) (data : Bytes) :
    (card.writeData data).2.Consistent :=
  h.of_turns (card.writeData_turns data)

theorem Consistent.after (h : card.Consistent) (call : Call) : (card.after call).Consistent :=
  h.of_turns (card.after_turns call)

/-- A card that was made from a medium and used by itself before it went into a slot. -/
def used (medium : Medium) (calls : List Call) : Card := calls.foldl after (ofMedium medium)

theorem used_keeps {P : Card → Prop} (after : ∀ card, P card → ∀ call, P (card.after call)) {medium : Medium}
    (start : P (ofMedium medium)) (calls : List Call) : P (used medium calls) := by
  have run (card : Card) (h : P card) : P (calls.foldl Card.after card) := by
    induction calls generalizing card with
    | nil => exact h
    | cons call rest ih => exact ih _ (after card h call)
  exact run _ start

theorem consistent_used (medium : Medium) (calls : List Call) : (used medium calls).Consistent :=
  used_keeps (fun _ h => h.after) (consistent_ofMedium medium) calls

theorem ite_ne {condition : Prop} [Decidable condition] {r r' other : Option Reply × Card}
    (h : r ≠ other) (h' : r' ≠ other) : (if condition then r else r') ≠ other := by
  split
  · exact h
  · exact h'

theorem executePlain_ne_shortNoCrc (card card' : Card) (index argument word : UInt32) :
    card.executePlain index argument ≠ (some (.shortNoCrc word), card') := by
  have select : card.select argument ≠ (some (.shortNoCrc word), card') := by
    unfold Card.select
    dsimp only
    split <;> (intro h; cases h)
  unfold Card.executePlain
  dsimp only
  repeat' apply ite_ne
  all_goals first | exact select | (intro h; cases h)

theorem Consistent.phase_of_shortNoCrc (h : card.Consistent) {index argument word : UInt32}
    (answers : card.execute index argument = (some (.shortNoCrc word), card')) :
    card'.phase = none := by
  unfold Card.execute at answers
  split at answers
  · have hplain : ({ card with applicationNext := false } : Card).Consistent := ⟨h.armed, h.unarmed⟩
    generalize ({ card with applicationNext := false } : Card) = card at hplain answers
    unfold executeApplication at answers
    dsimp only at answers
    split at answers
    · split at answers
      · next idle =>
        have hphase := hplain.phase_eq_none (by rw [idle]; rfl)
        have hsame : (card.negotiate argument).2.phase = card.phase := by
          unfold Card.negotiate
          dsimp only
          repeat' split
          all_goals rfl
        rw [answers] at hsame
        exact hsame.trans hphase
      · cases answers
    · repeat' split at answers
      all_goals cases answers
  · exact (card.executePlain_ne_shortNoCrc card' index argument word answers).elim

end Card

end CardHost
