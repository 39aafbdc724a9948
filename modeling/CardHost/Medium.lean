import CardHost.ByteSource

namespace CardHost

/-- `byte` matters below `size` only. -/
structure Medium where
  size : Nat
  byte : Nat → UInt8

namespace Medium

def blank (size : Nat) : Medium := ⟨size, fun _ => 0⟩

def ofByteArray (bytes : ByteArray) : Medium :=
  ⟨bytes.size, fun i => if h : i < bytes.size then bytes[i] else 0⟩

def slice (m : Medium) (offset count : Nat) : Bytes :=
  (List.range count).map fun i => m.byte (offset + i)

def patch (m : Medium) (offset : Nat) (data : Bytes) : Medium :=
  let new := data.toArray
  { m with
    byte := fun i =>
      if offset ≤ i then
        match new[i - offset]? with
        | some b => b
        | none => m.byte i
      else m.byte i }

def read (m : Medium) (offset count : Nat) : Except DeviceError Bytes :=
  if offset + count > m.size then .error .readPastEnd else .ok (m.slice offset count)

def write (m : Medium) (offset : Nat) (data : Bytes) : Except DeviceError Medium :=
  if offset + data.length > m.size then .error .writePastEnd else .ok (m.patch offset data)

def toByteArray (m : Medium) : ByteArray :=
  m.size.fold (fun i _ bytes => bytes.push (m.byte i)) (ByteArray.emptyWithCapacity m.size)

@[simp] theorem length_slice (m : Medium) (offset count : Nat) :
    (m.slice offset count).length = count := by
  simp [slice]

@[simp] theorem size_patch (m : Medium) (offset : Nat) (data : Bytes) :
    (m.patch offset data).size = m.size := rfl

theorem byte_patch (m : Medium) (offset : Nat) (data : Bytes) (i : Nat) :
    (m.patch offset data).byte i =
      if offset ≤ i then (data[i - offset]?).getD (m.byte i) else m.byte i := by
  simp only [patch, List.getElem?_toArray]
  split
  · cases data[i - offset]? <;> rfl
  · rfl

theorem patch_nil (m : Medium) (offset : Nat) : m.patch offset [] = m := by
  refine congrArg (Medium.mk m.size) (funext fun i => ?_)
  exact ite_self _

instance : ByteSource Medium where
  size m := m.size
  readAt offset count := return (← get).slice offset (min count ((← get).size - offset))

end Medium

end CardHost
