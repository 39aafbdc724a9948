import CardHost.Hardware.Scripted
import CardHost.Proofs.Bits
import CardHost.Proofs.Operations

namespace CardHost

open Bus

/-- The mask takes what is enabled and loses what is disabled. Besides, only a reset may clear it. -/
class HonestMask (H : Type) [Hardware H] where
  mask : H → UInt32
  read_mask (h : H) : (Hardware.read h Register.mask).1 = mask h
  mask_read (h : H) (offset : Nat) : mask (Hardware.read h offset).2 = mask h
  mask_enable (h : H) (mapped : Option Bytes) (value : UInt32) :
    mask (Hardware.write h mapped Register.enable value).1 = mask h ||| value
  mask_disable (h : H) (mapped : Option Bytes) (value : UInt32) :
    mask (Hardware.write h mapped Register.disable value).1 = mask h &&& ~~~value
  mask_write (h : H) (mapped : Option Bytes) (offset : Nat) (value : UInt32)
    (other : offset ≠ Register.enable ∧ offset ≠ Register.disable) :
    mask (Hardware.write h mapped offset value).1 = mask h ∨
      offset = Register.control ∧ anyBit value Control.softReset = true ∧
        mask (Hardware.write h mapped offset value).1 = 0
  mask_load (h : H) (loaded : Bool) (bytes : Bytes) (direction : Direction) :
    mask (Hardware.load h loaded bytes direction).2 = mask h
  mask_sync (h : H) (point : SyncPoint) : mask (Hardware.sync h point) = mask h
  mask_unload (h : H) : mask (Hardware.unload h) = mask h

instance : HonestMask Scripted where
  mask s := s.mask
  read_mask _ := rfl
  mask_read _ _ := rfl
  mask_enable _ _ _ := rfl
  mask_disable _ _ _ := rfl
  mask_write s mapped offset value other := by
    left
    simp only [Hardware.write, Scripted.write, other.1, other.2, if_false]
  mask_load s _ _ _ := by
    simp only [Hardware.load]
    split <;> rfl
  mask_sync _ _ := rfl
  mask_unload _ := rfl

def maskAfter (mask : UInt32) : Access → UInt32
  | .write offset value =>
    if offset = Register.enable then mask ||| value
    else if offset = Register.disable then mask &&& ~~~value
    else mask
  | _ => mask

def Access.resets : Access → Bool
  | .write offset value => offset == Register.control && anyBit value Control.softReset
  | _ => false

def Access.enables : Access → Bool
  | .write offset _ => offset == Register.enable
  | _ => false

namespace Bus

variable {H : Type} [Hardware H] [HonestMask H]

def mask (b : Bus H) : UInt32 := HonestMask.mask b.hardware

theorem mask_read (b : Bus H) (offset : Nat) : (b.read offset).2.mask = b.mask :=
  HonestMask.mask_read b.hardware offset

theorem read_mask (b : Bus H) : (b.read Register.mask).1 = b.mask :=
  HonestMask.read_mask b.hardware

theorem mask_load (b : Bus H) (buffer : BufferId) (length : Nat) (direction : Direction) :
    (b.load buffer length direction).2.mask = b.mask := by
  have h := HonestMask.mask_load b.hardware b.mapping.isSome ((b.memory.get buffer).take length)
    direction
  simp only [mask, load]
  split <;> next heq => rwa [heq] at h

theorem mask_write (b : Bus H) {offset : Nat} {value : UInt32}
    (steady : (Access.write offset value).resets = false) :
    (b.write offset value).mask = maskAfter b.mask (.write offset value) := by
  rw [mask, (b.write_frame offset value).2.2, maskAfter]
  split
  · next h =>
    subst h
    exact HonestMask.mask_enable b.hardware b.mapped value
  · next he =>
    split
    · next h =>
      subst h
      exact HonestMask.mask_disable b.hardware b.mapped value
    · next hd =>
      obtain h | ⟨rfl, hr, -⟩ := HonestMask.mask_write b.hardware b.mapped offset value ⟨he, hd⟩
      · exact h
      · simp [Access.resets, hr] at steady

theorem mask_write_zero (b : Bus H) {offset : Nat} {value : UInt32} (h : b.mask = 0)
    (quiet : (Access.write offset value).enables = false) : (b.write offset value).mask = 0 := by
  rw [mask, (b.write_frame offset value).2.2]
  have he : offset ≠ Register.enable := by simpa [Access.enables] using quiet
  by_cases hd : offset = Register.disable
  · subst hd
    rw [HonestMask.mask_disable, show HonestMask.mask b.hardware = 0 from h, UInt32.zero_and]
  · obtain h' | ⟨-, -, h'⟩ := HonestMask.mask_write b.hardware b.mapped offset value ⟨he, hd⟩
    · exact h'.trans h
    · exact h'

namespace Performs

variable {b b' : Bus H} {l : List Access}

theorem mask (h : Performs b l b') (steady : l.any Access.resets = false) :
    b'.mask = l.foldl maskAfter b.mask := by
  induction h with
  | done => rfl
  | @read b _ rest offset _ ih =>
    exact (ih steady).trans (congrArg (rest.foldl maskAfter) (b.mask_read offset))
  | @write b _ _ offset value _ ih =>
    rw [List.any_cons, Bool.or_eq_false_iff] at steady
    rw [ih steady.2, b.mask_write steady.1, List.foldl_cons]
  | @load b _ rest buffer length direction _ ih =>
    exact (ih steady).trans
      (congrArg (rest.foldl maskAfter) (b.mask_load buffer length direction))
  | @sync b _ rest point _ ih =>
    exact (ih steady).trans
      (congrArg (rest.foldl maskAfter) (HonestMask.mask_sync b.hardware point))
  | @unload b _ rest _ ih =>
    exact (ih steady).trans (congrArg (rest.foldl maskAfter) (HonestMask.mask_unload b.hardware))
  | edit memory alike _ ih => exact ih steady

theorem mask_zero (h : Performs b l b') (clear : b.mask = 0)
    (quiet : l.any Access.enables = false) : b'.mask = 0 := by
  induction h with
  | done => exact clear
  | @read b _ _ offset _ ih => exact ih ((b.mask_read offset).trans clear) quiet
  | @write b _ _ offset value _ ih =>
    rw [List.any_cons, Bool.or_eq_false_iff] at quiet
    exact ih (b.mask_write_zero clear quiet.1) quiet.2
  | @load b _ _ buffer length direction _ ih =>
    exact ih ((b.mask_load buffer length direction).trans clear) quiet
  | @sync b _ _ point _ ih => exact ih ((HonestMask.mask_sync b.hardware point).trans clear) quiet
  | @unload b _ _ _ ih => exact ih ((HonestMask.mask_unload b.hardware).trans clear) quiet
  | edit memory alike _ ih => exact ih clear quiet

end Performs

end Bus

end CardHost
