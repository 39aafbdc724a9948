import CardHost.Failure

namespace CardHost.Staging

def capacity : Nat := 512

/-- Writes below this length are padded on chips that lose shorter ones. -/
def minLength : Nat := 12

def length (source : Bytes) (pad : Bool) (minimum : Nat) : Nat :=
  if pad && source.length < minimum then minimum else source.length

def layout (source : Bytes) (pad : Bool) (minimum : Nat) (swap : Bool) : Bytes :=
  (if swap then source.reverseWords else source) ++
    Bytes.zeros (length source pad minimum - source.length)

def stage (bounce source : Bytes) (pad : Bool) (minimum : Nat) (swap : Bool) :
    Except MappingError (Nat × Bytes) :=
  let n := length source pad minimum
  if n > bounce.length then .error (.tooLarge n bounce.length)
  else .ok (n, (layout source pad minimum swap).overlay bounce)

end CardHost.Staging
