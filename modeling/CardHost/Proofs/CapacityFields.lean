import CardHost.Proofs.ClockPlan
import CardHost.Session
import Mathlib.Logic.Function.Defs

namespace CardHost

namespace CardInfo

/-- The four words as one register, the first word at its upper end. -/
def registerOfCsd (csd : Response) : BitVec 128 :=
  (csd.word 0).toBitVec ++ (csd.word 1).toBitVec ++ (csd.word 2).toBitVec ++ (csd.word 3).toBitVec

def field (register : BitVec 128) (high low : Nat) : Nat := (register.extractLsb high low).toNat

def capacityOfFields (register : BitVec 128) : Nat :=
  if field register 127 126 = 1 then (field register 69 48 + 1) * 524288
  else (field register 73 62 + 1) * 2 ^ (field register 49 47 + 2 + field register 83 80)

/-- An exact number moved to the left. There is none if it is moved out of the word, or a bit of it is. -/
def raised? (bits n amount : Nat) : Option Nat :=
  if amount < bits then Clock.word? bits (n <<< amount) else none

def capacityOfCsd? (csd : Response) : Option Nat :=
  if (csd.word 0).toNat >>> 30 = 1 then do
    let upper ← raised? 32 ((csd.word 1).toNat &&& 0x3f) 16
    let units ← Clock.word? 64 ((upper ||| (csd.word 2).toNat >>> 16) + 1)
    Clock.word? 64 ((← Clock.word? 64 (units * 512)) * 1024)
  else do
    let upper ← raised? 32 ((csd.word 1).toNat &&& 0x3ff) 2
    let blocks ← Clock.word? 64 ((upper ||| (csd.word 2).toNat >>> 30) + 1)
    let multiplierBits ← Clock.word? 32 (((csd.word 2).toNat >>> 15 &&& 0x7) + 2)
    raised? 64 blocks (← Clock.word? 32 (multiplierBits + ((csd.word 1).toNat >>> 16 &&& 0xf)))

theorem toNat_registerOfCsd (csd : Response) :
    (registerOfCsd csd).toNat =
      (((csd.word 0).toNat * 2 ^ 32 + (csd.word 1).toNat) * 2 ^ 32 + (csd.word 2).toNat) * 2 ^ 32 +
        (csd.word 3).toNat := by
  have join {n : Nat} (upper : BitVec n) (lower : UInt32) :
      (upper ++ lower.toBitVec).toNat = upper.toNat * 2 ^ 32 + lower.toNat := by
    rw [BitVec.toNat_append, ← Nat.shiftLeft_add_eq_or_of_lt lower.toBitVec.isLt, Nat.shiftLeft_eq]
    rfl
  rw [registerOfCsd, join, join, join]
  rfl

theorem registerOfCsd_surjective : Function.Surjective registerOfCsd := by
  intro register
  have hlt := register.isLt
  let word (i : Nat) : UInt32 := UInt32.ofNat (register.toNat / 2 ^ (32 * i))
  have hword (i : Nat) : (word i).toNat = register.toNat / 2 ^ (32 * i) % 2 ^ 32 := UInt32.toNat_ofNat'
  refine ⟨#v[word 3, word 2, word 1, word 0], BitVec.eq_of_toNat_eq ?_⟩
  rw [toNat_registerOfCsd]
  change (((word 3).toNat * 2 ^ 32 + (word 2).toNat) * 2 ^ 32 + (word 1).toNat) * 2 ^ 32 + (word 0).toNat = _
  rw [hword, hword, hword, hword]
  omega

theorem field_registerOfCsd (csd : Response) (high low : Nat) :
    field (registerOfCsd csd) high low =
      ((((csd.word 0).toNat * 2 ^ 32 + (csd.word 1).toNat) * 2 ^ 32 + (csd.word 2).toNat) * 2 ^ 32 +
        (csd.word 3).toNat) / 2 ^ low % 2 ^ (high - low + 1) := by
  rw [field, BitVec.extractLsb_toNat, toNat_registerOfCsd, Nat.shiftRight_eq_div_pow]

theorem shiftLeft_or {upper lower amount : Nat} (low : lower < 2 ^ amount) :
    upper <<< amount ||| lower = upper * 2 ^ amount + lower := by
  rw [← Nat.shiftLeft_add_eq_or_of_lt low, Nat.shiftLeft_eq]

/-- Where the fields of both layouts lie in the words. Two of them begin in one word and end in the next. -/
structure Laid (csd : Response) : Prop where
  layout : (csd.word 0).toNat >>> 30 = field (registerOfCsd csd) 127 126
  units : ((csd.word 1).toNat &&& 0x3f) <<< 16 ||| (csd.word 2).toNat >>> 16 = field (registerOfCsd csd) 69 48
  blocks : ((csd.word 1).toNat &&& 0x3ff) <<< 2 ||| (csd.word 2).toNat >>> 30 = field (registerOfCsd csd) 73 62
  multiplier : (csd.word 2).toNat >>> 15 &&& 0x7 = field (registerOfCsd csd) 49 47
  length : (csd.word 1).toNat >>> 16 &&& 0xf = field (registerOfCsd csd) 83 80

theorem laid (csd : Response) : Laid csd := by
  have h0 := (csd.word 0).toNat_lt
  have h1 := (csd.word 1).toNat_lt
  have h2 := (csd.word 2).toNat_lt
  have h3 := (csd.word 3).toNat_lt
  have masked (n mask width : Nat) (ones : mask = 2 ^ width - 1) : n &&& mask = n % 2 ^ width := by
    rw [ones, Nat.and_two_pow_sub_one_eq_mod]
  constructor
  · rw [field_registerOfCsd, Nat.shiftRight_eq_div_pow]
    omega
  · rw [field_registerOfCsd, Nat.shiftRight_eq_div_pow, shiftLeft_or (by omega), masked _ 0x3f 6 rfl]
    omega
  · rw [field_registerOfCsd, Nat.shiftRight_eq_div_pow, shiftLeft_or (by omega), masked _ 0x3ff 10 rfl]
    omega
  · rw [field_registerOfCsd, Nat.shiftRight_eq_div_pow, masked _ 0x7 3 rfl]
    omega
  · rw [field_registerOfCsd, Nat.shiftRight_eq_div_pow, masked _ 0xf 4 rfl]
    omega

theorem raised?_eq {bits n amount : Nat} (small : amount < bits) (fits : n * 2 ^ amount < 2 ^ bits) :
    raised? bits n amount = some (n <<< amount) := by
  rw [raised?, if_pos small]
  exact Clock.word?_of_lt (by rwa [Nat.shiftLeft_eq])

theorem masked_fits (n : Nat) {mask amount : Nat} (fits : mask * 2 ^ amount < 2 ^ 32) :
    (n &&& mask) * 2 ^ amount < 2 ^ 32 :=
  Nat.lt_of_le_of_lt (Nat.mul_le_mul_right _ Nat.and_le_right) fits

theorem toNat_joined {upper lower mask : UInt32} (amount : Nat) (small : amount < 32)
    (fits : mask.toNat * 2 ^ amount < 2 ^ 32) :
    (((upper &&& mask) <<< UInt32.ofNat amount) ||| lower).toNat =
      (upper.toNat &&& mask.toNat) <<< amount ||| lower.toNat := by
  have hamount : (UInt32.ofNat amount).toNat % 32 = amount := by
    rw [UInt32.toNat_ofNat']
    omega
  rw [UInt32.toNat_or, UInt32.toNat_shiftLeft, hamount, UInt32.toNat_and, Nat.shiftLeft_eq,
    Nat.mod_eq_of_lt (masked_fits _ fits)]

section Ranges

variable (register : BitVec 128)

theorem field_lt (high low : Nat) : field register high low < 2 ^ (high - low + 1) := BitVec.isLt _

theorem exponent_le : field register 49 47 + 2 + field register 83 80 ≤ 24 := by
  have hmultiplier := field_lt register 49 47
  have hlength := field_lt register 83 80
  omega

theorem capacity_lt_of_blocks :
    (field register 73 62 + 1) * 2 ^ (field register 49 47 + 2 + field register 83 80) < 2 ^ 64 := by
  have hblocks := field_lt register 73 62
  have hpower := Nat.pow_le_pow_right (n := 2) (by decide) (exponent_le register)
  exact Nat.lt_of_le_of_lt (Nat.mul_le_mul hblocks hpower) (by decide)

end Ranges

section Words

variable (csd : Response)

theorem layout_iff : (csd.word 0 >>> 30 == 1) = true ↔ field (registerOfCsd csd) 127 126 = 1 := by
  rw [beq_iff_eq, ← UInt32.toNat_inj, ← (laid csd).layout]
  exact Iff.rfl

theorem toNat_units :
    (((csd.word 1 &&& 0x3f) <<< 16) ||| (csd.word 2 >>> 16)).toNat = field (registerOfCsd csd) 69 48 :=
  (toNat_joined 16 (by decide) (by decide)).trans (laid csd).units

theorem toNat_blocks :
    (((csd.word 1 &&& 0x3ff) <<< 2) ||| (csd.word 2 >>> 30)).toNat = field (registerOfCsd csd) 73 62 :=
  (toNat_joined 2 (by decide) (by decide)).trans (laid csd).blocks

theorem toNat_exponent :
    let multiplierBits := (csd.word 2 >>> 15) &&& (0x7 : UInt32)
    let lengthBits := (csd.word 1 >>> 16) &&& (0xf : UInt32)
    (multiplierBits + 2 + lengthBits).toNat =
      field (registerOfCsd csd) 49 47 + 2 + field (registerOfCsd csd) 83 80 := by
  intro multiplierBits lengthBits
  have hmultiplier : multiplierBits.toNat = field (registerOfCsd csd) 49 47 := (laid csd).multiplier
  have hlength : lengthBits.toNat = field (registerOfCsd csd) 83 80 := (laid csd).length
  have htwo : (2 : UInt32).toNat = 2 := rfl
  have hsmall := exponent_le (registerOfCsd csd)
  rw [UInt32.toNat_add, UInt32.toNat_add, hmultiplier, hlength, htwo]
  omega

theorem capacityOfCsd_word :
    capacityOfCsd csd =
      if csd.word 0 >>> 30 == 1 then
        ((((csd.word 1 &&& 0x3f) <<< 16) ||| (csd.word 2 >>> 16)).toUInt64 + 1) * 512 * 1024
      else
        let lengthBits := (csd.word 1 >>> 16) &&& (0xf : UInt32)
        let multiplierBits := (csd.word 2 >>> 15) &&& (0x7 : UInt32)
        ((((csd.word 1 &&& 0x3ff) <<< 2) ||| (csd.word 2 >>> 30)).toUInt64 + 1) <<<
          (multiplierBits + 2 + lengthBits).toUInt64 := rfl

theorem toNat_capacityOfCsd : (capacityOfCsd csd).toNat = capacityOfFields (registerOfCsd csd) := by
  have hone : (1 : UInt64).toNat = 1 := rfl
  rw [capacityOfCsd_word, capacityOfFields]
  simp only [layout_iff]
  split
  · have hunits := field_lt (registerOfCsd csd) 69 48
    have hfactors : (512 : UInt64).toNat = 512 ∧ (1024 : UInt64).toNat = 1024 := by decide
    rw [UInt64.toNat_mul, UInt64.toNat_mul, UInt64.toNat_add, UInt32.toNat_toUInt64, toNat_units, hone,
      hfactors.1, hfactors.2]
    omega
  · have hblocks := field_lt (registerOfCsd csd) 73 62
    have hexponent := exponent_le (registerOfCsd csd)
    have hcount : (field (registerOfCsd csd) 73 62 + 1) % 2 ^ 64 = field (registerOfCsd csd) 73 62 + 1 := by omega
    rw [UInt64.toNat_shiftLeft, UInt64.toNat_add, UInt32.toNat_toUInt64, UInt32.toNat_toUInt64, toNat_blocks,
      toNat_exponent, hone, hcount, Nat.shiftLeft_eq, Nat.mod_eq_of_lt (a := _ + _) (by omega)]
    exact Nat.mod_eq_of_lt (capacity_lt_of_blocks _)

theorem capacityOfCsd?_eq : capacityOfCsd? csd = some (capacityOfFields (registerOfCsd csd)) := by
  obtain ⟨layout, units, blocks, multiplier, length⟩ := laid csd
  rw [capacityOfCsd?, capacityOfFields, layout]
  split
  · have hupper : raised? 32 ((csd.word 1).toNat &&& 0x3f) 16 = some (((csd.word 1).toNat &&& 0x3f) <<< 16) :=
      raised?_eq (by decide) (masked_fits _ (by decide))
    have hsmall := field_lt (registerOfCsd csd) 69 48
    generalize field (registerOfCsd csd) 69 48 = count at units hsmall
    have hcount : Clock.word? 64 (count + 1) = some (count + 1) := Clock.word?_of_lt (by omega)
    have hblocks : Clock.word? 64 ((count + 1) * 512) = some ((count + 1) * 512) := Clock.word?_of_lt (by omega)
    simp only [hupper, units, hcount, hblocks, Option.bind_eq_bind, Option.bind_some, Nat.mul_assoc]
    exact Clock.word?_of_lt (by omega)
  · have hupper : raised? 32 ((csd.word 1).toNat &&& 0x3ff) 2 = some (((csd.word 1).toNat &&& 0x3ff) <<< 2) :=
      raised?_eq (by decide) (masked_fits _ (by decide))
    have hsmall := field_lt (registerOfCsd csd) 73 62
    have hexponent := exponent_le (registerOfCsd csd)
    have hfits := capacity_lt_of_blocks (registerOfCsd csd)
    have hcount : Clock.word? 64 (field (registerOfCsd csd) 73 62 + 1) = some (field (registerOfCsd csd) 73 62 + 1) :=
      Clock.word?_of_lt (by omega)
    have hfactor : Clock.word? 32 (field (registerOfCsd csd) 49 47 + 2) =
        some (field (registerOfCsd csd) 49 47 + 2) := Clock.word?_of_lt (by omega)
    have hsum : Clock.word? 32 (field (registerOfCsd csd) 49 47 + 2 + field (registerOfCsd csd) 83 80) =
        some (field (registerOfCsd csd) 49 47 + 2 + field (registerOfCsd csd) 83 80) := Clock.word?_of_lt (by omega)
    simp only [hupper, blocks, multiplier, length, hcount, hfactor, hsum, Option.bind_eq_bind, Option.bind_some]
    rw [raised?_eq (by omega) hfits, Nat.shiftLeft_eq]

end Words

/-- Whatever the register holds, the capacity is the one that the fields of its layout say, and no step on the way
loses a bit. -/
theorem capacity_by_fields :
    Function.Surjective registerOfCsd ∧
      ∀ csd : Response,
        (capacityOfCsd csd).toNat = capacityOfFields (registerOfCsd csd) ∧
          capacityOfCsd? csd = some (capacityOfCsd csd).toNat := by
  refine ⟨registerOfCsd_surjective, fun csd => ⟨toNat_capacityOfCsd csd, ?_⟩⟩
  rw [capacityOfCsd?_eq, toNat_capacityOfCsd]

end CardInfo

end CardHost
