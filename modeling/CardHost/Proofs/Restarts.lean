import CardHost.Proofs.CardCalls

namespace CardHost

namespace Card

theorem execute_goIdle {card : Card} (plain : card.applicationNext = false) (argument : UInt32) :
    card.execute Opcode.goIdle argument =
      (some .none,
        { ofMedium card.medium with blockLength := card.blockLength, latched := card.latched }) := by
  have hreset : card.executePlain Opcode.goIdle argument = (some .none, card.goIdle) := rfl
  have hidle : card.goIdle =
      { ofMedium card.medium with
        applicationNext := card.applicationNext
        blockLength := card.blockLength
        latched := card.latched } := rfl
  rw [execute, if_neg (by rw [plain]; decide), hreset, hidle, plain]
  rfl

theorem execute_goIdle_application {card : Card} (application : card.applicationNext = true)
    (argument : UInt32) :
    card.execute Opcode.goIdle argument = (none, { card with applicationNext := false }) := by
  have hsilent : ({ card with applicationNext := false } : Card).executeApplication Opcode.goIdle argument =
      if card.state ≠ .transfer then (none, { card with applicationNext := false })
      else (none, { card with applicationNext := false }) := rfl
  rw [execute, if_pos application, hsilent, ite_self]

def Akin (card card' : Card) : Prop := ∃ blockLength, card = { card' with blockLength }

structure Alike (r r' : Option Reply × Card) : Prop where
  said : r.1 = r'.1
  akin : r.2.Akin r'.2

theorem Alike.ite {condition : Prop} [Decidable condition] {r₁ r₁' r₂ r₂' : Option Reply × Card}
    (h₁ : Alike r₁ r₁') (h₂ : Alike r₂ r₂') :
    Alike (if condition then r₁ else r₂) (if condition then r₁' else r₂') := by
  split
  · exact h₁
  · exact h₂

theorem Alike.markApplication {r r' : Option Reply × Card} (h : Alike r r') :
    Alike (Card.markApplication r) (Card.markApplication r') := by
  obtain ⟨reply, card⟩ := r
  obtain ⟨reply', card'⟩ := r'
  obtain ⟨said, akin⟩ := h
  cases (show reply = reply' from said)
  rcases reply with _ | _ | _ | _ | _ <;> exact ⟨rfl, akin⟩

section Execute

variable (card : Card) (blockLength : UInt32)

theorem alike_silent : Alike (none, { card with blockLength }) (none, card) := ⟨rfl, _, rfl⟩

theorem alike_answer : Alike ({ card with blockLength } : Card).answer card.answer := ⟨rfl, _, rfl⟩

theorem alike_select (argument : UInt32) :
    Alike (({ card with blockLength } : Card).select argument) (card.select argument) := by
  unfold select
  dsimp only [isAddressed]
  split <;> exact ⟨rfl, _, rfl⟩

theorem alike_setBlockLength (length : UInt32) :
    Alike (({ card with blockLength } : Card).setBlockLength length).answer (card.setBlockLength length).answer := by
  unfold setBlockLength
  dsimp only
  split
  · exact ⟨rfl, _, rfl⟩
  · exact ⟨rfl, length, rfl⟩

theorem alike_executePlain (index argument : UInt32) :
    Alike (({ card with blockLength } : Card).executePlain index argument) (card.executePlain index argument) := by
  have silent := card.alike_silent blockLength
  have answer := card.alike_answer blockLength
  unfold executePlain
  dsimp only [isAddressed]
  refine .ite ⟨rfl, _, rfl⟩ ?_
  refine .ite (.ite ⟨rfl, _, rfl⟩ silent) ?_
  refine .ite (.ite ⟨rfl, _, rfl⟩ silent) ?_
  refine .ite (.ite ⟨rfl, _, rfl⟩ silent) ?_
  refine .ite (card.alike_select blockLength argument) ?_
  refine .ite (.ite ⟨rfl, _, rfl⟩ silent) ?_
  refine .ite ⟨rfl, _, rfl⟩ ?_
  refine .ite (.ite answer silent) ?_
  refine .ite (.ite (card.alike_setBlockLength blockLength argument) silent) ?_
  refine .ite (.ite ⟨rfl, _, rfl⟩ silent) ?_
  refine .ite (.ite ⟨rfl, _, rfl⟩ silent) ?_
  exact .ite ⟨rfl, _, rfl⟩ silent

theorem alike_negotiate (argument : UInt32) :
    Alike (({ card with blockLength } : Card).negotiate argument) (card.negotiate argument) := by
  unfold negotiate
  dsimp only
  refine .ite (card.alike_silent blockLength) ?_
  refine .ite ⟨rfl, _, rfl⟩ ?_
  exact .ite ⟨rfl, _, rfl⟩ ⟨rfl, _, rfl⟩

theorem alike_executeApplication (index argument : UInt32) :
    Alike (({ card with blockLength } : Card).executeApplication index argument)
      (card.executeApplication index argument) := by
  have silent := card.alike_silent blockLength
  unfold executeApplication
  dsimp only
  refine .ite (.ite (card.alike_negotiate blockLength argument) silent) ?_
  refine .ite silent ?_
  refine .ite (.markApplication ⟨rfl, _, rfl⟩) ?_
  refine .ite (.markApplication ⟨rfl, _, rfl⟩) ?_
  exact .ite (.markApplication ⟨rfl, _, rfl⟩) silent

end Execute

theorem Akin.execute {card card' : Card} (h : card.Akin card') (index argument : UInt32) :
    Alike (card.execute index argument) (card'.execute index argument) := by
  obtain ⟨blockLength, rfl⟩ := h
  rw [Card.execute, Card.execute]
  dsimp only
  split
  · exact alike_executeApplication { card' with applicationNext := false } blockLength index argument
  · exact card'.alike_executePlain blockLength index argument

end Card

end CardHost
