import CardHost.Proofs.DeviceAccess

namespace CardHost

structure File where
  contents : Bytes
  position : Nat := 0

namespace File

def span (f : File) (count : Nat) : Nat :=
  min (min count (f.contents.length - f.position)) (blockSize - f.position % blockSize)

theorem span_le (f : File) (count : Nat) : f.span count ≤ count :=
  Nat.le_trans (Nat.min_le_left _ _) (Nat.min_le_left _ _)

theorem span_le_rest (f : File) (count : Nat) : f.span count ≤ f.contents.length - f.position :=
  Nat.le_trans (Nat.min_le_left _ _) (Nat.min_le_right _ _)

def read (f : File) (count : Nat) : Except DeviceError Bytes × File :=
  (.ok ((f.contents.drop f.position).take (f.span count)),
    { f with position := f.position + f.span count })

def write (f : File) (data : Bytes) : Except DeviceError Nat × File :=
  if data ≠ [] ∧ f.contents.length ≤ f.position then (.error .writePastEnd, f)
  else
    let n := f.span data.length
    (.ok n, {
      contents := f.contents.take f.position ++ data.take n ++ f.contents.drop (f.position + n)
      position := f.position + n })

def destination (f : File) : SeekFrom → Int
  | .start offset => offset.toNat
  | .current delta => f.position + delta
  | .fromEnd delta => f.contents.length + delta

def seek (f : File) (target : SeekFrom) : Except DeviceError Nat × File :=
  let position := f.destination target
  if 0 ≤ position ∧ position < UInt64.size then
    (.ok position.toNat, { f with position := position.toNat })
  else (.error .seekBeforeStart, f)

end File

inductive DeviceCall where
  | seek (target : SeekFrom)
  | read (count : Nat)
  | write (data : Bytes)

inductive DeviceAnswer where
  | moved (position : Nat)
  | brought (bytes : Bytes)
  | took (count : Nat)
  deriving Repr, DecidableEq

def File.call (f : File) : DeviceCall → Except DeviceError DeviceAnswer × File
  | .seek target => (f.seek target).map (·.map .moved) id
  | .read count => (f.read count).map (·.map .brought) id
  | .write data => (f.write data).map (·.map .took) id

def File.calls (f : File) : List DeviceCall → List (Except DeviceError DeviceAnswer) × File
  | [] => ([], f)
  | call :: rest => ((f.call call).1 :: ((f.call call).2.calls rest).1, ((f.call call).2.calls rest).2)

def File.Writes (f : File) : DeviceCall → Nat → Prop
  | .write data, i => f.position ≤ i ∧ i < f.position + f.span data.length
  | _, _ => False

def File.WritesIn (f : File) : List DeviceCall → Nat → Prop
  | [], _ => False
  | call :: rest, i => f.Writes call i ∨ (f.call call).2.WritesIn rest i

namespace Device

section Calls

variable {H : Type} [Hardware H] [InterruptLine H]

def call (d : Device H) : DeviceCall → Except DeviceError DeviceAnswer × Device H
  | .seek target => (d.seek target).map (·.map fun position => .moved position.toNat) id
  | .read count => (d.read count).map (·.map .brought) id
  | .write data => (d.write data).map (·.map .took) id

def calls (d : Device H) : List DeviceCall → List (Except DeviceError DeviceAnswer) × Device H
  | [] => ([], d)
  | call :: rest => ((d.call call).1 :: ((d.call call).2.calls rest).1, ((d.call call).2.calls rest).2)

end Calls

structure Mirrors (d : Device Simulator) (f : File) : Prop where
  ready : d.session.Ready
  blocks : d.session.info.highCapacity = true
  size : d.size.toNat = f.contents.length
  aligned : blockSize ∣ f.contents.length
  short : f.contents.length ≤ UInt32.size * blockSize
  fits : f.contents.length ≤ d.session.stored.size
  position : d.position.toNat = f.position
  contents : f.contents = d.session.stored.slice 0 f.contents.length

structure Becomes (d d' : Device Simulator) (f' : File) (writes : Nat → Prop) : Prop where
  mirrors : d'.Mirrors f'
  length : d'.size = d.size
  size : d'.session.stored.size = d.session.stored.size
  others : ∀ i, ¬ writes i → d'.session.stored.byte i = d.session.stored.byte i

namespace Mirrors

variable {d : Device Simulator} {f : File}

theorem of_accesses (h : d.Mirrors f) {session : Session Simulator} {medium : Medium} {position : UInt64}
    {f' : File} (accesses : d.session.Accesses session medium)
    (size : medium.size = d.session.stored.size) (length : f'.contents.length = f.contents.length)
    (place : position.toNat = f'.position)
    (contents : f'.contents = medium.slice 0 f.contents.length) :
    ({ session, position } : Device Simulator).Mirrors f' := by
  have hsize : session.info.capacity.toNat = f'.contents.length := by
    rw [accesses.info, length]
    exact h.size
  have hstored : session.stored = medium := accesses.medium
  exact {
    ready := accesses.ready
    blocks := (congrArg CardInfo.highCapacity accesses.info).trans h.blocks
    size := hsize
    aligned := length ▸ h.aligned
    short := length ▸ h.short
    fits := by
      change f'.contents.length ≤ session.stored.size
      rw [length, hstored, size]
      exact h.fits
    position := place
    contents := by
      change f'.contents = session.stored.slice 0 f'.contents.length
      rw [length, hstored]
      exact contents }

theorem span_eq (h : d.Mirrors f) (count : Nat) : d.span count = f.span count := by
  unfold Device.span File.span Device.within
  rw [h.size, h.position]
  omega

theorem forward_position (h : d.Mirrors f) (count : Nat)
    (inside : f.position + count ≤ f.contents.length) :
    (d.forward count).position.toNat = f.position + count := by
  have hshort := h.short
  change (d.position + UInt64.ofNat count).toNat = _
  rw [UInt64.toNat_add, UInt64.toNat_ofNat', h.position]
  unfold UInt32.size blockSize at hshort
  omega

theorem ge_size_iff (h : d.Mirrors f) : d.position ≥ d.size ↔ f.contents.length ≤ f.position := by
  rw [ge_iff_le, UInt64.le_iff_toNat_le, h.size, h.position]

theorem toNat_block (h : d.Mirrors f) : d.block.toNat = f.position / blockSize := by
  have hsize : (UInt64.ofNat blockSize).toNat = blockSize := by decide
  rw [Device.block, UInt64.toNat_div, hsize, h.position]

theorem stores (h : d.Mirrors f) (inside : f.position < f.contents.length) :
    d.session.Stores d.block := by
  obtain ⟨blocks, hblocks⟩ := h.aligned
  have hshort := h.short
  have hfits := h.fits
  have hblock := h.toNat_block
  have hbound : f.position / blockSize < blocks := by
    unfold blockSize at hblocks ⊢
    omega
  constructor
  · rw [CardInfo.numbers, if_pos h.blocks, hblock]
    unfold UInt32.size blockSize at *
    omega
  · rw [hblock]
    unfold blockSize at *
    omega

theorem lt_size (h : d.Mirrors f) (inside : f.position < f.contents.length) : d.position < d.size := by
  rw [UInt64.lt_iff_toNat_lt, h.size, h.position]
  exact inside

theorem destination_eq (h : d.Mirrors f) (target : SeekFrom) :
    d.destination target = f.destination target := by
  cases target with
  | start offset => rfl
  | current delta => exact congrArg (fun n : Nat => (n : Int) + delta) h.position
  | fromEnd delta => exact congrArg (fun n : Nat => (n : Int) + delta) h.size

theorem seek (h : d.Mirrors f) (target : SeekFrom) :
    (d.seek target).1.map (·.toNat) = (f.seek target).1 ∧
      d.Becomes (d.seek target).2 (f.seek target).2 (f.Writes (.seek target)) := by
  rw [d.seek_eq, h.destination_eq]
  unfold File.seek
  dsimp only
  split
  · next legal =>
    have hnumber : (UInt64.ofNat (f.destination target).toNat).toNat = (f.destination target).toNat := by
      unfold UInt64.size at legal
      rw [UInt64.toNat_ofNat']
      omega
    refine ⟨congrArg Except.ok hnumber, ?_, rfl, rfl, fun _ _ => rfl⟩
    exact ⟨h.ready, h.blocks, h.size, h.aligned, h.short, h.fits, hnumber, h.contents⟩
  · exact ⟨rfl, h, rfl, rfl, fun _ _ => rfl⟩

theorem slice_contents (h : d.Mirrors f) {start count : Nat} (inside : start + count ≤ f.contents.length) :
    (f.contents.drop start).take count = d.session.stored.slice start count := by
  have hcontents := congrArg (fun bytes : Bytes => (bytes.drop start).take count) h.contents
  rw [Medium.slice_drop, Medium.slice_take, Nat.zero_add, Nat.min_eq_left (by omega)] at hcontents
  exact hcontents

theorem read (h : d.Mirrors f) (count : Nat) :
    (d.read count).1 = (f.read count).1 ∧
      d.Becomes (d.read count).2 (f.read count).2 (f.Writes (.read count)) := by
  have hspan := f.span_le_rest count
  by_cases ends : d.position ≥ d.size ∨ count = 0
  · have hnothing : f.span count = 0 := by
      have hcount := f.span_le count
      rw [h.ge_size_iff] at ends
      omega
    have hread : f.read count = (.ok [], f) := by
      rw [File.read, hnothing]
      rfl
    rw [Device.read, if_pos ends, hread]
    exact ⟨rfl, h, rfl, rfl, fun _ _ => rfl⟩
  · rw [h.ge_size_iff, not_or, Nat.not_le] at ends
    have hread := read_stored h.ready (h.stores ends.1) (h.lt_size ends.1) ends.2
    rw [h.span_eq, h.position] at hread
    obtain ⟨session, hread, haccesses⟩ := hread
    have hlength := f.span_le_rest count
    have hposition := h.forward_position (f.span count) (by omega)
    rw [hread]
    refine ⟨congrArg Except.ok ?_, h.of_accesses haccesses rfl rfl hposition h.contents,
      congrArg CardInfo.capacity haccesses.info, congrArg Medium.size haccesses.medium,
      fun i _ => congrArg (·.byte i) haccesses.medium⟩
    rw [h.slice_contents (by omega)]

theorem written (h : d.Mirrors f) {data : Bytes} (some : data ≠ [])
    (inside : f.position < f.contents.length) :
    ∃ session, d.write data = (.ok (f.span data.length),
        ({ d with session } : Device Simulator).forward (f.span data.length)) ∧
      d.session.Accesses session
        (d.session.stored.patch f.position (data.take (f.span data.length))) := by
  have hwrite := write_stored h.ready (h.stores inside) (h.lt_size inside) some
  rwa [h.span_eq, h.position] at hwrite

theorem write (h : d.Mirrors f) (data : Bytes) :
    (d.write data).1 = (f.write data).1 ∧
      d.Becomes (d.write data).2 (f.write data).2 (f.Writes (.write data)) := by
  by_cases empty : data = []
  · have hwrite : f.write data = (.ok 0, f) := by
      have hnothing : f.span data.length = 0 := by
        rw [empty]
        exact Nat.le_zero.mp (f.span_le 0)
      rw [File.write, if_neg (fun refused => refused.1 empty), hnothing]
      simp
    rw [Device.write, if_pos empty, hwrite]
    exact ⟨rfl, h, rfl, rfl, fun _ _ => rfl⟩
  · by_cases ends : f.contents.length ≤ f.position
    · rw [Device.write, if_neg empty, if_pos (h.ge_size_iff.mpr ends), File.write, if_pos ⟨empty, ends⟩]
      exact ⟨rfl, h, rfl, rfl, fun _ _ => rfl⟩
    · obtain ⟨session, hwrite, haccesses⟩ := h.written empty (Nat.lt_of_not_le ends)
      have hlength : (data.take (f.span data.length)).length = f.span data.length := by
        rw [List.length_take, Nat.min_eq_left (f.span_le data.length)]
      have hrest := f.span_le_rest data.length
      rw [hwrite, File.write, if_neg (fun refused => ends refused.2)]
      refine ⟨rfl, h.of_accesses haccesses rfl ?_ (h.forward_position _ (by omega)) ?_,
        congrArg CardInfo.capacity haccesses.info,
        (congrArg Medium.size haccesses.medium).trans (Medium.size_patch ..), fun i other => ?_⟩
      · simp only [List.length_append, List.length_drop, hlength, List.length_take]
        omega
      · have hslice := d.session.stored.slice_patch_within 0 f.position f.contents.length
          (data.take (f.span data.length)) (by omega)
        rw [← h.contents, hlength, Nat.zero_add] at hslice
        exact hslice.symm
      · refine (congrArg (·.byte i) haccesses.medium).trans (Medium.byte_patch_outside _ ?_)
        rw [hlength]
        unfold File.Writes at other
        omega

theorem call (h : d.Mirrors f) (c : DeviceCall) :
    (d.call c).1 = (f.call c).1 ∧ d.Becomes (d.call c).2 (f.call c).2 (f.Writes c) := by
  cases c with
  | seek target =>
    obtain ⟨hanswer, hbecomes⟩ := h.seek target
    refine ⟨?_, hbecomes⟩
    change (d.seek target).1.map _ = (f.seek target).1.map _
    rw [← hanswer]
    cases (d.seek target).1 <;> rfl
  | read count =>
    obtain ⟨hanswer, hbecomes⟩ := h.read count
    exact ⟨congrArg (Except.map DeviceAnswer.brought) hanswer, hbecomes⟩
  | write data =>
    obtain ⟨hanswer, hbecomes⟩ := h.write data
    exact ⟨congrArg (Except.map DeviceAnswer.took) hanswer, hbecomes⟩

theorem calls (h : d.Mirrors f) (l : List DeviceCall) :
    (d.calls l).1 = (f.calls l).1 ∧ d.Becomes (d.calls l).2 (f.calls l).2 (f.WritesIn l) := by
  induction l generalizing d f with
  | nil => exact ⟨rfl, h, rfl, rfl, fun _ _ => rfl⟩
  | cons c rest ih =>
    obtain ⟨hanswer, hbecomes⟩ := h.call c
    obtain ⟨hanswers, hrest⟩ := ih hbecomes.mirrors
    constructor
    · change (d.call c).1 :: _ = (f.call c).1 :: _
      rw [hanswer, hanswers]
    · refine ⟨hrest.mirrors, hrest.length.trans hbecomes.length, hrest.size.trans hbecomes.size, ?_⟩
      intro i other
      have hother := not_or.mp other
      exact (hrest.others i hother.2).trans (hbecomes.others i hother.1)

end Mirrors

end Device

namespace File

theorem Writes.inside {f : File} {c : DeviceCall} {i : Nat} (h : f.Writes c i) :
    i < f.contents.length := by
  cases c with
  | write data =>
    have hrest := f.span_le_rest data.length
    unfold Writes at h
    omega
  | seek | read => cases h

theorem length_call (f : File) (c : DeviceCall) : (f.call c).2.contents.length = f.contents.length := by
  cases c with
  | seek target =>
    change (f.seek target).2.contents.length = _
    unfold seek
    dsimp only
    split <;> rfl
  | read count => rfl
  | write data =>
    have hrest := f.span_le_rest data.length
    have hspan := f.span_le data.length
    change (f.write data).2.contents.length = _
    unfold write
    split
    · rfl
    · simp only [List.length_append, List.length_drop, List.length_take]
      omega

theorem WritesIn.inside {f : File} {l : List DeviceCall} {i : Nat} (h : f.WritesIn l i) :
    i < f.contents.length := by
  induction l generalizing f with
  | nil => cases h
  | cons c rest ih =>
    rcases h with h | h
    · exact h.inside
    · rw [← f.length_call c]
      exact ih h

end File

namespace Device

structure IsFile (d : Device Simulator) (medium : Medium) (f : File) (l : List DeviceCall) : Prop where
  inside : d.size.toNat ≤ medium.size
  answers : (d.calls l).1 = (f.calls l).1
  position : (d.calls l).2.position.toNat = (f.calls l).2.position
  contents : (d.calls l).2.session.stored.slice 0 d.size.toNat = (f.calls l).2.contents
  size : (d.calls l).2.session.stored.size = medium.size
  others : ∀ i, ¬ f.WritesIn l i → (d.calls l).2.session.stored.byte i = medium.byte i
  beyond : ∀ i, d.size.toNat ≤ i → (d.calls l).2.session.stored.byte i = medium.byte i

end Device

/-- Whatever calls are made of a device on a card that is addressed in blocks, it behaves as a file. -/
theorem device_is_file {c : Controller Simulator} (vacant : c.Vacant) {patience : Nat} {info : CardInfo}
    {s : Session Simulator} (started : Session.start c patience true = (.ok info, s))
    (blocks : info.highCapacity = true) (large : 512 * 1024 ≤ c.bus.hardware.card.medium.size)
    (l : List DeviceCall) :
    ({ session := s } : Device Simulator).IsFile c.bus.hardware.card.medium
      { contents := c.bus.hardware.card.medium.slice 0 s.info.capacity.toNat } l := by
  obtain ⟨hinfo, hstored, hcapacity, -⟩ := Session.start_reports vacant.calm started
  rw [← hinfo] at hcapacity blocks
  have hinside : s.info.capacity.toNat ≤ c.bus.hardware.card.medium.size := by
    rw [hcapacity]
    exact Card.reportedCapacity_le_size large
  generalize hf : ({ contents := c.bus.hardware.card.medium.slice 0 s.info.capacity.toNat } : File) = f
  have hlength : f.contents.length = s.info.capacity.toNat := by
    rw [← hf]
    exact Medium.length_slice ..
  have hmirrors : ({ session := s } : Device Simulator).Mirrors f := {
    ready := Session.start_ready vacant.calm started
    blocks := blocks
    size := hlength.symm
    aligned := by
      rw [hlength, hcapacity]
      exact Card.blockSize_dvd_reportedCapacity _
    short := by
      rw [hlength, hcapacity]
      exact Card.reportedCapacity_le _
    fits := by
      rw [hlength, hstored]
      exact hinside
    position := by
      rw [← hf]
      rfl
    contents := by
      rw [hlength, hstored, ← hf] }
  -- One call preserves `Mirrors`, and a list of calls does by induction.
  obtain ⟨hanswers, hbecomes⟩ := hmirrors.calls l
  have hafter := hbecomes.mirrors
  have hlengths : ((f.calls l).2).contents.length = s.info.capacity.toNat := by
    rw [← hafter.size, hbecomes.length]
    rfl
  have hothers (i : Nat) (other : ¬ f.WritesIn l i) :
      (({ session := s } : Device Simulator).calls l).2.session.stored.byte i =
        c.bus.hardware.card.medium.byte i :=
    (hbecomes.others i other).trans (congrArg (·.byte i) hstored)
  exact {
    inside := hinside
    answers := hanswers
    position := hafter.position
    contents := by
      rw [hafter.contents, hlengths]
      rfl
    size := hbecomes.size.trans (congrArg Medium.size hstored)
    others := hothers
    beyond := fun i past => hothers i fun written =>
      Nat.not_le_of_lt written.inside (hlength.symm ▸ past) }

def Controller.onUnitCard : Controller Simulator :=
  .attach 0 (Board.reference .sam9260) .default { soc := .sam9260, card := .ofMedium (.blank 524289) }

theorem device_is_file_on_unit_card :
    ∃ info s, Session.start .onUnitCard 1000 true = (.ok info, s) ∧
      ({ session := s } : Device Simulator).IsFile (.blank 524289)
        { contents := (Medium.blank 524289).slice 0 s.info.capacity.toNat }
        [.seek (.start 500), .write (List.replicate 100 0xa5), .seek (.current (-12)), .read 20,
          .seek (.fromEnd 0), .write [1], .seek (.current (-524289))] := by
  have vacant : Controller.onUnitCard.Vacant :=
    ⟨⟨0, Board.reference .sam9260, .default, _, [], rfl, rfl⟩, rfl, rfl, rfl, rfl, rfl⟩
  have hok : (Session.start .onUnitCard 1000 true).1.isOk = true := by decide +kernel
  have hblocks : (Session.start .onUnitCard 1000 true).2.info.highCapacity = true := by decide +kernel
  rcases started : Session.start .onUnitCard 1000 true with ⟨e | info, s⟩
  · rw [started] at hok
    cases hok
  · obtain ⟨hinfo, -, -, -⟩ := Session.start_reports vacant.calm started
    rw [started] at hblocks
    exact ⟨info, s, rfl, device_is_file vacant started (hinfo ▸ hblocks) (by decide) _⟩

end CardHost
