import CardHost.ByteSource
import CardHost.Session

namespace CardHost

inductive SeekFrom where
  | start (offset : UInt64)
  | current (delta : Int)
  | fromEnd (delta : Int)
  deriving Repr, DecidableEq

structure Device (H : Type) where
  session : Session H
  position : UInt64 := 0

namespace Device

variable {H : Type} [Hardware H] [InterruptLine H]

omit [Hardware H] [InterruptLine H] in
def size (d : Device H) : UInt64 := d.session.info.capacity

omit [Hardware H] [InterruptLine H] in
def block (d : Device H) : UInt64 := d.position / UInt64.ofNat blockSize

omit [Hardware H] [InterruptLine H] in
def within (d : Device H) : Nat := d.position.toNat % blockSize

omit [Hardware H] [InterruptLine H] in
def span (d : Device H) (count : Nat) : Nat :=
  min (min (blockSize - d.within) count) (d.size.toNat - d.position.toNat)

omit [Hardware H] [InterruptLine H] in
def forward (d : Device H) (count : Nat) : Device H :=
  { d with position := d.position + UInt64.ofNat count }

def run {α : Type} (act : Session.Action H α) (d : Device H) : Except DeviceError α × Device H :=
  match act.run.run d.session with
  | (.ok a, session) => (.ok a, { d with session })
  | (.error e, session) => (.error (.session e), { d with session })

def read (d : Device H) (count : Nat) : Except DeviceError Bytes × Device H :=
  if d.position ≥ d.size ∨ count = 0 then (.ok [], d)
  else
    match run (Session.readBlock d.block (Bytes.zeros blockSize)) d with
    | (.error e, d) => (.error e, d)
    | (.ok block, d) => (.ok ((block.drop d.within).take (d.span count)), d.forward (d.span count))

def fetchRest (d : Device H) (count : Nat) : Except DeviceError Bytes × Device H :=
  if count = blockSize then (.ok (Bytes.zeros blockSize), d)
  else run (Session.readBlock d.block (Bytes.zeros blockSize)) d

def write (d : Device H) (data : Bytes) : Except DeviceError Nat × Device H :=
  if data = [] then (.ok 0, d)
  else if d.position ≥ d.size then (.error .writePastEnd, d)
  else
    let n := d.span data.length
    match d.fetchRest n with
    | (.error e, d) => (.error e, d)
    | (.ok block, d) =>
      let block := block.take d.within ++ data.take n ++ block.drop (d.within + n)
      match run (Session.writeBlock d.block block) d with
      | (.error e, d) => (.error e, d)
      | (.ok (), d) => (.ok n, d.forward n)

def offset? (position : UInt64) (delta : Int) : Option UInt64 :=
  let target := (position.toNat : Int) + delta
  if 0 ≤ target ∧ target < UInt64.size then some (UInt64.ofNat target.toNat) else none

omit [Hardware H] [InterruptLine H] in
def seek (d : Device H) (target : SeekFrom) : Except DeviceError UInt64 × Device H :=
  let position? := match target with
    | .start offset => some offset
    | .current delta => offset? d.position delta
    | .fromEnd delta => offset? d.size delta
  match position? with
  | none => (.error .seekBeforeStart, d)
  | some position => (.ok position, { d with position })

def readExact (d : Device H) (count : Nat) : Except DeviceError Bytes × Device H :=
  go count count d
where
  /-- Each step brings a byte at least, so that `count` of them are enough. -/
  go : Nat → Nat → Device H → Except DeviceError Bytes × Device H
    | _, 0, d => (.ok [], d)
    | 0, _, d => (.error .shortRead, d)
    | fuel + 1, count, d =>
      match d.read count with
      | (.error e, d) => (.error e, d)
      | (.ok [], d) => (.error .shortRead, d)
      | (.ok bytes, d) =>
        let (rest, d) := go fuel (count - bytes.length) d
        (rest.map (bytes ++ ·), d)

def writeAll (d : Device H) (data : Bytes) : Except DeviceError Unit × Device H :=
  go data.length data d
where
  go : Nat → Bytes → Device H → Except DeviceError Unit × Device H
    | _, [], d => (.ok (), d)
    | 0, _, d => (.error .shortWrite, d)
    | fuel + 1, data, d =>
      match d.write data with
      | (.error e, d) => (.error e, d)
      | (.ok 0, d) => (.error .shortWrite, d)
      | (.ok n, d) => go fuel (data.drop n) d

instance : ByteSource (Device H) where
  size d := d.size.toNat
  readAt position count := fun d => { d with position := UInt64.ofNat position }.read count

end Device

end CardHost
