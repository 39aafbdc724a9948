import CardHost.Proofs.DeviceFile
import Mathlib.Algebra.Group.Nat.Defs
import Mathlib.Order.Bounds.Basic

namespace CardHost

namespace Card

def capacityUnit : Nat := 512 * 1024

def capacities (size : Nat) : Set Nat := {capacity | capacityUnit ∣ capacity ∧ capacity ≤ min size (2 ^ 41)}

theorem reportedCapacity_greatest {size : Nat} (large : capacityUnit ≤ size) :
    IsGreatest (capacities size) (reportedCapacity size) := by
  have hunit : capacityUnit = 524288 := rfl
  rw [hunit] at large
  constructor
  · refine ⟨Nat.dvd_mul_left _ _, ?_⟩
    unfold reportedCapacity
    omega
  · rintro capacity ⟨⟨units, rfl⟩, fits⟩
    rw [hunit] at fits ⊢
    have hunits : units ≤ size / 524288 := by omega
    unfold reportedCapacity
    omega

theorem reportedCapacity_small {size : Nat} (small : size < capacityUnit) :
    reportedCapacity size = capacityUnit := by
  have hunits : size / 524288 = 0 := Nat.div_eq_of_lt small
  rw [reportedCapacity, hunits]
  rfl

end Card

namespace Session

structure Within (s : Session Simulator) : Prop where
  blocks : ∀ block < s.blockCount.toNat, block * blockSize + blockSize ≤ s.stored.size
  positions : ∀ position < ({ session := s } : Device Simulator).size.toNat, position < s.stored.size

theorem Within.of_capacity {s : Session Simulator} (h : s.info.capacity.toNat ≤ s.stored.size) :
    s.Within where
  blocks block below := by
    have hcount : s.blockCount.toNat = s.info.capacity.toNat / blockSize := UInt64.toNat_div _ _
    rw [hcount] at below
    have hwhole := Nat.div_mul_le_self s.info.capacity.toNat blockSize
    calc block * blockSize + blockSize = (block + 1) * blockSize := (Nat.succ_mul _ _).symm
      _ ≤ s.info.capacity.toNat / blockSize * blockSize := Nat.mul_le_mul_right _ below
      _ ≤ s.stored.size := Nat.le_trans hwhole h
  positions position below := Nat.lt_of_lt_of_le below h

end Session

/-- A card with room for one unit or more publishes the most that it has room for, and a session on it reaches
nothing past its end. A smaller card publishes one unit. -/
theorem published_capacity_greatest :
    (∀ card : Card,
      (Card.capacityUnit ≤ card.medium.size →
        IsGreatest (Card.capacities card.medium.size) (CardInfo.capacityOfCsd card.csd).toNat) ∧
      (card.medium.size < Card.capacityUnit →
        (CardInfo.capacityOfCsd card.csd).toNat = Card.capacityUnit)) ∧
    ∀ c : Controller Simulator, c.Calm → ∀ patience info s,
      Session.start c patience true = (.ok info, s) →
        info.capacity = CardInfo.capacityOfCsd c.bus.hardware.card.csd ∧
          (Card.capacityUnit ≤ c.bus.hardware.card.medium.size → s.Within) := by
  refine ⟨fun card => ?_, fun c calm patience info s started => ?_⟩
  · rw [Card.capacityOfCsd_csd]
    exact ⟨Card.reportedCapacity_greatest, Card.reportedCapacity_small⟩
  · obtain ⟨hinfo, hstored, hcapacity, -⟩ := Session.start_reports calm started
    refine ⟨?_, fun large => .of_capacity ?_⟩
    · rw [← Card.capacityOfCsd_csd] at hcapacity
      exact UInt64.toNat_inj.mp hcapacity
    · rw [hinfo, hcapacity, hstored]
      exact Card.reportedCapacity_le_size large

theorem published_capacity_of_unit_card :
    IsGreatest (Card.capacities 524289)
        (CardInfo.capacityOfCsd (Card.ofMedium (.blank 524289)).csd).toNat ∧
      ∃ info s, Session.start .onUnitCard 1000 true = (.ok info, s) ∧ s.Within := by
  obtain ⟨cards, sessions⟩ := published_capacity_greatest
  refine ⟨(cards (.ofMedium (.blank 524289))).1 (by decide), ?_⟩
  have vacant : Controller.onUnitCard.Vacant :=
    ⟨⟨0, Board.reference .sam9260, .default, _, [], rfl, rfl⟩, rfl, rfl, rfl, rfl, rfl⟩
  have hok : (Session.start .onUnitCard 1000 true).1.isOk = true := by decide +kernel
  rcases started : Session.start .onUnitCard 1000 true with ⟨e | info, s⟩
  · rw [started] at hok
    cases hok
  · exact ⟨info, s, rfl, (sessions _ vacant.calm _ _ _ started).2 (by decide)⟩

theorem published_capacity_exceeds_small_card :
    let card := Card.ofMedium (.blank 1024)
    card.medium.size < (CardInfo.capacityOfCsd card.csd).toNat ∧
      ¬ IsGreatest (Card.capacities card.medium.size) (CardInfo.capacityOfCsd card.csd).toNat := by
  intro card
  have exceeds : card.medium.size < (CardInfo.capacityOfCsd card.csd).toNat := by decide
  exact ⟨exceeds, fun greatest => Nat.not_le_of_lt exceeds (Nat.le_trans greatest.1.2 (Nat.min_le_left _ _))⟩

end CardHost
