import CardHost.Proofs.CardPhases

namespace CardHost

namespace CardState

def isAddressed : CardState → Bool
  | .standby | .transfer | .data | .receive => true
  | _ => false

theorem isAddressed_stopped (state : CardState) : state.stopped.isAddressed = state.isAddressed := by
  cases state <;> rfl

theorem isAddressed_of_movesData {state : CardState} (h : state.movesData = true) : state.isAddressed = true := by
  cases state <;> first | rfl | cases h

end CardState

namespace Standing.Turns

variable {s s' : Standing}

theorem running (turns : s.Turns s') (h : s.state ≠ .program) : s'.state ≠ .program := by
  cases turns with
  | stays | polls | widens | continues => exact h
  | arms _ phase => cases phase <;> nofun
  | stops =>
    intro halted
    cases hs : s.state <;> simp_all [CardState.stopped]
  | _ => nofun

theorem polls_le (turns : s.Turns s') (h : s.powerUpPolls ≤ 1) : s'.powerUpPolls ≤ 1 := by
  cases turns with
  | resets => exact Nat.le_refl 1
  | polls => exact Nat.le_trans (Nat.sub_le _ _) h
  | _ => exact h

theorem size_eq (turns : s.Turns s') : s'.size = s.size := by
  cases turns <;> rfl

theorem negotiated (turns : s.Turns s') (h : s.highCapacity = true → s.state ≠ .idle) :
    s'.highCapacity = true → s'.state ≠ .idle := by
  cases turns with
  | stays | polls | widens | continues => exact h
  | resets => nofun
  | arms _ phase => cases phase <;> nofun
  | stops =>
    intro high idle
    have hs := h high
    cases he : s.state <;> simp_all [CardState.stopped]
  | _ => nofun

theorem keeps_addressed (turns : s.Turns s') (armed : ∀ phase, s.phase = some phase → s.state.isAddressed = true)
    (address : s.address ≠ 0 ↔ s.state.isAddressed = true)
    (width : s.fourWire = true → s.state.isAddressed = true) :
    (s'.address ≠ 0 ↔ s'.state.isAddressed = true) ∧ (s'.fourWire = true → s'.state.isAddressed = true) := by
  cases turns with
  | stays | polls | continues => exact ⟨address, width⟩
  | resets => exact ⟨⟨fun h => (h rfl).elim, nofun⟩, nofun⟩
  | negotiates idle =>
    rw [idle] at address width
    exact ⟨address, width⟩
  | identifies ready =>
    rw [ready] at address width
    exact ⟨address, width⟩
  | publishes =>
    have published : Card.publishedAddress ≠ 0 := by decide
    exact ⟨⟨fun _ => rfl, fun _ => published⟩, fun _ => rfl⟩
  | selects standby =>
    rw [standby] at address
    exact ⟨address, fun _ => rfl⟩
  | deselects transfer =>
    rw [transfer] at address
    exact ⟨address, fun _ => rfl⟩
  | widens transfer =>
    refine ⟨address, fun _ => ?_⟩
    dsimp only
    rw [transfer]
    rfl
  | arms transfer phase =>
    have hphase := CardState.isAddressed_of_movesData phase.movesData_state
    rw [transfer] at address
    exact ⟨address.trans ⟨fun _ => hphase, fun _ => rfl⟩, fun _ => hphase⟩
  | ends open_phase =>
    have hstate := armed _ open_phase
    exact ⟨address.trans ⟨fun _ => rfl, fun _ => hstate⟩, fun _ => rfl⟩
  | stops =>
    dsimp only
    rw [CardState.isAddressed_stopped]
    exact ⟨address, width⟩

end Standing.Turns

namespace Card

structure Coherent (card : Card) (size : Nat) : Prop where
  reading : ((∃ offset unbounded, card.phase = some (.reading offset unbounded)) ∨
    card.phase = some .configuration ∨ card.phase = some .sdStatus) ↔ card.state = .data
  writing : (∃ offset unbounded, card.phase = some (.writing offset unbounded)) ↔ card.state = .receive
  unarmed : card.phase = none ↔ card.state ≠ .data ∧ card.state ≠ .receive
  running : card.state ≠ .program
  addressed : card.address ≠ 0 ↔ card.state ∈ [.standby, .transfer, .data, .receive]
  negotiated : card.highCapacity = true → card.state ≠ .idle
  widened : card.fourWire = true → card.state ∈ [.standby, .transfer, .data, .receive]
  polls : card.powerUpPolls ≤ 1
  size : card.medium.size = size

variable {card card' : Card} {size : Nat}

theorem mem_addressed (state : CardState) :
    state ∈ [.standby, .transfer, .data, .receive] ↔ state.isAddressed = true := by
  cases state <;> decide

theorem Coherent.consistent (h : card.Coherent size) : card.Consistent := by
  refine ⟨fun phase armed => ?_, fun none => ?_⟩
  · cases phase with
    | reading => exact h.reading.mp (.inl ⟨_, _, armed⟩)
    | configuration => exact h.reading.mp (.inr (.inl armed))
    | sdStatus => exact h.reading.mp (.inr (.inr armed))
    | writing => exact h.writing.mp ⟨_, _, armed⟩
  · obtain ⟨data, receive⟩ := h.unarmed.mp none
    cases hs : card.state <;> first | rfl | contradiction

theorem coherent_ofMedium (medium : Medium) : (ofMedium medium).Coherent medium.size where
  reading := by simp [ofMedium]
  writing := by simp [ofMedium]
  unarmed := by simp [ofMedium]
  running := nofun
  addressed := by simp [ofMedium]
  negotiated := nofun
  widened := nofun
  polls := Nat.le_refl 1
  size := rfl

theorem Consistent.phases (h : card.Consistent) :
    (((∃ offset unbounded, card.phase = some (.reading offset unbounded)) ∨
      card.phase = some .configuration ∨ card.phase = some .sdStatus) ↔ card.state = .data) ∧
    ((∃ offset unbounded, card.phase = some (.writing offset unbounded)) ↔ card.state = .receive) ∧
    (card.phase = none ↔ card.state ≠ .data ∧ card.state ≠ .receive) := by
  cases hp : card.phase with
  | none =>
    have still := h.unarmed hp
    cases hs : card.state <;> simp_all [CardState.movesData]
  | some phase =>
    have armed := h.armed phase hp
    cases phase <;> simp_all [DataPhase.state]

theorem Coherent.of_turns (h : card.Coherent size) (turns : card.standing.Turns card'.standing) :
    card'.Coherent size := by
  have armed (phase : DataPhase) (hp : card.phase = some phase) : card.state.isAddressed = true := by
    rw [h.consistent.armed phase hp]
    exact CardState.isAddressed_of_movesData phase.movesData_state
  obtain ⟨addressed, widened⟩ := turns.keeps_addressed armed
    (h.addressed.trans (mem_addressed _)) fun wide => (mem_addressed _).mp (h.widened wide)
  obtain ⟨reading, writing, unarmed⟩ := (h.consistent.of_turns turns).phases
  exact
    { reading, writing, unarmed
      running := turns.running h.running
      addressed := addressed.trans (mem_addressed _).symm
      negotiated := turns.negotiated h.negotiated
      widened := fun wide => (mem_addressed _).mpr (widened wide)
      polls := turns.polls_le h.polls
      size := turns.size_eq.trans h.size }

theorem Coherent.after (h : card.Coherent size) (call : Call) : (card.after call).Coherent size :=
  h.of_turns (card.after_turns call)

/-- Whatever is asked of a card after it was powered up, its fields belong together. -/
theorem used_coherent (medium : Medium) (calls : List Call) : (used medium calls).Coherent medium.size := by
  have step (card : Card) (h : card.Coherent medium.size) (call : Call) : (card.after call).Coherent medium.size :=
    h.after call
  exact used_keeps step (coherent_ofMedium medium) calls

end Card

end CardHost
