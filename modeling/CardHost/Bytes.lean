namespace CardHost

abbrev Bytes := List UInt8

namespace Bytes

def reverseWords : Bytes → Bytes
  | a :: b :: c :: d :: rest => d :: c :: b :: a :: reverseWords rest
  | rest => rest

def overlay (top base : Bytes) : Bytes := top.take base.length ++ base.drop top.length

def zeros (n : Nat) : Bytes := List.replicate n 0

theorem reverseWords_reverseWords (b : Bytes) : reverseWords (reverseWords b) = b := by
  fun_induction reverseWords b with
  | case1 a b c d rest ih => simp [reverseWords, ih]
  | case2 rest h => simp [reverseWords]

@[simp] theorem length_reverseWords (b : Bytes) : (reverseWords b).length = b.length := by
  fun_induction reverseWords b with
  | case1 a b c d rest ih => simp [ih]
  | case2 rest h => rfl

@[simp] theorem length_overlay (top base : Bytes) : (overlay top base).length = base.length := by
  simp only [overlay, List.length_append, List.length_take, List.length_drop]
  omega

def toNat : Bytes → Nat
  | [] => 0
  | b :: rest => b.toNat + 256 * toNat rest

def number (b : Bytes) (offset count : Nat) : Nat := toNat ((b.drop offset).take count)

end Bytes

end CardHost
