import CardHost.Proofs.Bits
import CardHost.Proofs.Launches
import Mathlib.Algebra.Group.Nat.Defs

namespace CardHost

namespace Mode

/-- The bits that the start sets for good: the divider of the power save mode, which is 3, the bit of the
channels, and the proof bits. -/
def steady (soc : Soc) : UInt32 :=
  channels ||| 0x300 ||| (if soc.secondRevision then readProof ||| writeProof else 0)

def word (soc : Soc) (divider : UInt32) (length : Nat) : UInt32 :=
  divider &&& Mode.divider ||| steady soc ||| (UInt32.ofNat length <<< 16) &&& blockLength

theorem steady_and (soc : Soc) {bits : UInt32} (bare : steady .rm9200 &&& bits = steady .rm9200)
    (proof : steady .sam9260 &&& bits = steady .sam9260) : steady soc &&& bits = steady soc := by
  unfold steady at *
  cases soc.secondRevision with
  | false => exact bare
  | true => exact proof

theorem startMode_eq (soc : Soc) : Controller.startMode soc = word soc 0x4a 0 := by
  unfold Controller.startMode word steady
  cases soc.secondRevision <;> decide

theorem and_divider {divider : UInt32} (fits : divider ≤ Mode.divider) :
    divider &&& Mode.divider = divider := by
  apply UInt32.toNat_inj.mp
  rw [UInt32.toNat_and, show Mode.divider.toNat = 2 ^ 8 - 1 from rfl, Nat.and_two_pow_sub_one_eq_mod]
  exact Nat.mod_eq_of_lt (Nat.lt_succ_of_le (UInt32.le_iff_toNat_le.mp fits))

theorem redivide_word (soc : Soc) (divider : UInt32) {divider' : UInt32}
    (fits : divider' ≤ Mode.divider) (length : Nat) :
    (word soc divider length &&& ~~~Mode.divider) ||| divider' = word soc divider' length := by
  have hd : divider &&& Mode.divider &&& ~~~Mode.divider = 0 := by
    rw [UInt32.and_assoc, Bits.and_not_self, UInt32.and_zero]
  have hl : (UInt32.ofNat length <<< 16) &&& blockLength &&& ~~~Mode.divider =
      (UInt32.ofNat length <<< 16) &&& blockLength := by
    rw [UInt32.and_assoc, show blockLength &&& ~~~Mode.divider = blockLength by decide]
  rw [word, Bits.or_and, Bits.or_and, hd, hl, steady_and soc (by decide) (by decide), UInt32.zero_or,
    UInt32.or_comm, ← UInt32.or_assoc, word, and_divider fits]

theorem blockMode_word (soc : Soc) (divider : UInt32) (length length' : Nat) :
    Controller.blockMode (word soc divider length) length' = word soc divider length' := by
  have hd : divider &&& Mode.divider &&& ~~~blockLength = divider &&& Mode.divider := by
    rw [UInt32.and_assoc, show Mode.divider &&& ~~~blockLength = Mode.divider by decide]
  have hl : (UInt32.ofNat length <<< 16) &&& blockLength &&& ~~~blockLength = 0 := by
    rw [UInt32.and_assoc, Bits.and_not_self, UInt32.and_zero]
  have hs : steady soc ||| channels = steady soc := by
    unfold steady
    cases soc.secondRevision <;> decide
  rw [Controller.blockMode, word, Bits.or_and, Bits.or_and, hd, hl,
    steady_and soc (by decide) (by decide), UInt32.or_zero, UInt32.or_assoc, UInt32.or_comm _ channels,
    UInt32.or_assoc, ← UInt32.or_assoc _ channels, hs, ← UInt32.or_assoc, word]

def ofFields (proof : Bool) (divider length : Nat) : Nat :=
  divider + 3 * 2 ^ 8 + proof.toNat * 2 ^ 11 + proof.toNat * 2 ^ 12 + 2 ^ 15 + length % 2 ^ 16 * 2 ^ 16

theorem toNat_word (soc : Soc) {divider : UInt32} (fits : divider ≤ Mode.divider) (length : Nat) :
    (word soc divider length).toNat = ofFields soc.secondRevision divider.toNat length := by
  have hfits : divider.toNat < 2 ^ 8 := Nat.lt_succ_of_le (UInt32.le_iff_toNat_le.mp fits)
  have hl : ((UInt32.ofNat length <<< 16) &&& blockLength).toNat = (length % 2 ^ 16) <<< 16 := by
    have hshift : (length % 2 ^ 32) <<< 16 % 2 ^ 32 = (length % 2 ^ 16) <<< 16 := by
      rw [Nat.shiftLeft_eq, Nat.shiftLeft_eq]
      omega
    rw [UInt32.toNat_and, UInt32.toNat_shiftLeft, UInt32.toNat_ofNat',
      show (16 : UInt32).toNat % 32 = 16 from rfl, hshift,
      show blockLength.toNat = (2 ^ 16 - 1) <<< 16 from rfl, ← Nat.shiftLeft_and_distrib,
      Nat.and_two_pow_sub_one_eq_mod, Nat.mod_mod]
  have hs : (steady soc).toNat = (3 + 2 ^ 3 * soc.secondRevision.toNat +
      2 ^ 4 * soc.secondRevision.toNat + 2 ^ 7) <<< 8 := by
    unfold steady
    cases soc.secondRevision <;> rfl
  have hproof : soc.secondRevision.toNat ≤ 1 := Bool.toNat_le _
  rw [word, and_divider fits, UInt32.toNat_or, UInt32.toNat_or, hl, hs, Nat.or_comm divider.toNat,
    ← Nat.shiftLeft_add_eq_or_of_lt hfits, Nat.or_comm, ← Nat.shiftLeft_add_eq_or_of_lt, ofFields,
    Nat.shiftLeft_eq, Nat.shiftLeft_eq]
  · omega
  · rw [Nat.shiftLeft_eq]
    omega

end Mode

end CardHost
