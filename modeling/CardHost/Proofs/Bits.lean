import CardHost.Register

namespace CardHost

namespace Bits

theorem or_and (a b c : UInt32) : (a ||| b) &&& c = (a &&& c) ||| (b &&& c) := by
  apply UInt32.toBitVec_inj.mp
  exact BitVec.and_or_distrib_right

theorem and_or (a b c : UInt32) : a &&& (b ||| c) = (a &&& b) ||| (a &&& c) := by
  apply UInt32.toBitVec_inj.mp
  exact BitVec.and_or_distrib_left

theorem or_eq_zero {a b : UInt32} : a ||| b = 0 ↔ a = 0 ∧ b = 0 := by
  simp only [← UInt32.toBitVec_inj, UInt32.toBitVec_or]
  exact BitVec.or_eq_zero_iff

theorem not_and_self (bits : UInt32) : ~~~bits &&& bits = 0 := by
  apply UInt32.toBitVec_inj.mp
  exact BitVec.not_and_self bits.toBitVec

theorem and_not_self (bits : UInt32) : bits &&& ~~~bits = 0 := by
  rw [UInt32.and_comm, not_and_self]

theorem or_eq_replace (word bits : UInt32) : word ||| bits = (word &&& ~~~bits) ||| bits := by
  apply UInt32.toBitVec_inj.mp
  apply BitVec.eq_of_getElem_eq
  intro i hi
  simp only [UInt32.toBitVec_or, UInt32.toBitVec_and, UInt32.toBitVec_not, BitVec.getElem_or,
    BitVec.getElem_and, BitVec.getElem_not]
  cases word.toBitVec[i] <;> cases bits.toBitVec[i] <;> rfl

theorem field_replace {bits value : UInt32} (fits : value &&& bits = value) (word : UInt32) :
    ((word &&& ~~~bits) ||| value) &&& bits = value := by
  rw [or_and, UInt32.and_assoc, not_and_self, UInt32.and_zero, UInt32.zero_or, fits]

theorem rest_replace {bits value : UInt32} (fits : value &&& bits = value) (word : UInt32) :
    ((word &&& ~~~bits) ||| value) &&& ~~~bits = word &&& ~~~bits := by
  have outside : value &&& ~~~bits = 0 := by
    rw [← fits, UInt32.and_assoc, and_not_self, UInt32.and_zero]
  rw [or_and, UInt32.and_assoc, UInt32.and_self, outside, UInt32.or_zero]

end Bits

theorem anyBit_or (a b bits : UInt32) : anyBit (a ||| b) bits = (anyBit a bits || anyBit b bits) := by
  have h := Bits.or_eq_zero (a := a &&& bits) (b := b &&& bits)
  rw [Bool.eq_iff_iff]
  simp only [anyBit, Bits.or_and, bne_iff_ne, Bool.or_eq_true, ne_eq, h]
  exact Decidable.not_and_iff_or_not

theorem anyBit_bits_or (a bits bits' : UInt32) :
    anyBit a (bits ||| bits') = (anyBit a bits || anyBit a bits') := by
  have h := Bits.or_eq_zero (a := a &&& bits) (b := a &&& bits')
  rw [Bool.eq_iff_iff]
  simp only [anyBit, Bits.and_or, bne_iff_ne, Bool.or_eq_true, ne_eq, h]
  exact Decidable.not_and_iff_or_not

@[simp] theorem anyBit_zero (bits : UInt32) : anyBit 0 bits = false := by
  simp [anyBit]

theorem anyBit_ite (p : Bool) (word bits : UInt32) :
    anyBit (if p then word else 0) bits = (p && anyBit word bits) := by
  cases p with
  | false => exact anyBit_zero bits
  | true => rfl

theorem anyBit_and (a b bits : UInt32) : anyBit (a &&& b) bits = anyBit a (b &&& bits) := by
  rw [anyBit, UInt32.and_assoc, anyBit]

theorem anyBit_apart (word : UInt32) {mask bits : UInt32} (apart : mask &&& bits = 0) :
    anyBit (word &&& mask) bits = false := by
  rw [anyBit_and, apart, anyBit, UInt32.and_zero]
  rfl

theorem anyBit_clear (word bits : UInt32) : anyBit (word &&& ~~~bits) bits = false :=
  anyBit_apart word (Bits.not_and_self bits)

end CardHost
