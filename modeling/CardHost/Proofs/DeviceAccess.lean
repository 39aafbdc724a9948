import CardHost.Device
import CardHost.Proofs.ReportedCapacity
import CardHost.Proofs.SectorAccess

namespace CardHost

namespace Medium

theorem getElem_slice (m : Medium) (offset count : Nat) {i : Nat}
    (inside : i < (m.slice offset count).length) :
    (m.slice offset count)[i] = m.byte (offset + i) := by
  simp [slice]

theorem slice_drop (m : Medium) (offset count skipped : Nat) :
    (m.slice offset count).drop skipped = m.slice (offset + skipped) (count - skipped) := by
  apply List.ext_getElem
  · simp
  · intro i h h'
    simp only [List.getElem_drop, getElem_slice, Nat.add_assoc]

theorem slice_take (m : Medium) (offset count taken : Nat) :
    (m.slice offset count).take taken = m.slice offset (min taken count) := by
  apply List.ext_getElem
  · simp
  · intro i h h'
    simp only [List.getElem_take, getElem_slice]

theorem byte_patch_outside (m : Medium) {offset i : Nat} {data : Bytes}
    (outside : i < offset ∨ offset + data.length ≤ i) : (m.patch offset data).byte i = m.byte i := by
  rw [byte_patch]
  split
  · rw [List.getElem?_eq_none (by omega), Option.getD_none]
  · rfl

theorem byte_patch_inside (m : Medium) {o i : Nat} {data : Bytes} (inside : i < data.length) :
    (m.patch o data).byte (o + i) = data[i] := by
  rw [byte_patch, if_pos (Nat.le_add_right o i), Nat.add_sub_cancel_left,
    List.getElem?_eq_getElem inside, Option.getD_some]

theorem slice_patch_within (m : Medium) (offset skipped count : Nat) (data : Bytes)
    (enclosed : skipped + data.length ≤ count) :
    (m.patch (offset + skipped) data).slice offset count =
      (m.slice offset count).take skipped ++ data ++
        (m.slice offset count).drop (skipped + data.length) := by
  apply List.ext_getElem
  · simp only [length_slice, List.length_append, List.length_take, List.length_drop]
    omega
  · intro i h h'
    rw [getElem_slice]
    simp only [List.append_assoc, List.getElem_append, List.length_take, length_slice]
    split
    · rw [byte_patch_outside _ (by omega), List.getElem_take, getElem_slice]
    · split
      · next inside =>
        rw [← m.byte_patch_inside (o := offset + skipped) inside]
        congr 1
        omega
      · rw [byte_patch_outside _ (by omega), List.getElem_drop, getElem_slice]
        congr 1
        omega

theorem patch_slice_patch (m : Medium) {offset count start : Nat} {data : Bytes}
    (lower : offset ≤ start) (upper : start + data.length ≤ offset + count) :
    m.patch offset ((m.patch start data).slice offset count) = m.patch start data := by
  have hbyte (i : Nat) : (m.patch offset ((m.patch start data).slice offset count)).byte i =
      (m.patch start data).byte i := by
    by_cases inside : offset ≤ i ∧ i < offset + count
    · obtain ⟨k, rfl⟩ := Nat.exists_eq_add_of_le inside.1
      rw [byte_patch_inside _ (by rw [length_slice]; omega), getElem_slice]
    · rw [byte_patch_outside _ (by rw [length_slice]; omega), byte_patch_outside _ (by omega)]
  exact congrArg (Medium.mk m.size) (funext hbyte)

end Medium

namespace Session

variable {s : Session Simulator} {block : UInt64} {buffer : Bytes}

structure Stores (s : Session Simulator) (block : UInt64) : Prop where
  numbers : s.info.numbers block
  inside : blockSize * block.toNat + blockSize ≤ s.stored.size

theorem Accesses.stores {s' : Session Simulator} {medium : Medium} (h : s.Accesses s' medium)
    (size : medium.size = s.stored.size) (stored : s.Stores block) : s'.Stores block where
  numbers := h.info ▸ stored.numbers
  inside := by
    have hstored : s'.stored = medium := h.medium
    rw [hstored, size]
    exact stored.inside

theorem Stores.place (h : s.Stores block) : s.info.sectorOffset block = blockSize * block.toNat :=
  (s.info.sectorOffset_eq_iff block).mpr h.numbers

theorem Stores.fits (h : s.Stores block) :
    s.info.sectorOffset block + blockSize ≤ s.controller.bus.hardware.card.medium.size := by
  rw [h.place]
  exact h.inside

theorem Ready.readBlock_stored (h : s.Ready) (stored : s.Stores block) (size : buffer.length = blockSize) :
    ∃ s', (Session.readBlock block buffer).run.run s =
        (.ok (s.stored.slice (blockSize * block.toNat) blockSize), s') ∧
      s.Accesses s' s.stored := by
  obtain ⟨answer, s', hrun, haccesses, hanswer⟩ := h.readBlock block size
  rw [if_pos stored.fits, stored.place] at hanswer
  exact ⟨s', hanswer ▸ hrun, haccesses⟩

theorem Ready.writeBlock_stored (h : s.Ready) (stored : s.Stores block) (size : buffer.length = blockSize) :
    ∃ s', (Session.writeBlock block buffer).run.run s = (.ok (), s') ∧
      s.Accesses s' (s.stored.patch (blockSize * block.toNat) buffer) := by
  obtain ⟨answer, s', hrun, hanswer⟩ := h.writeBlock block size
  rw [if_pos stored.fits, stored.place] at hanswer
  exact ⟨s', hanswer.1 ▸ hrun, hanswer.2⟩

end Session

namespace Device

theorem span_le_block {H : Type} (d : Device H) (count : Nat) : d.within + d.span count ≤ blockSize := by
  have hspan : d.span count ≤ blockSize - d.within :=
    Nat.le_trans (Nat.min_le_left _ _) (Nat.min_le_left _ _)
  have hwithin : d.within < blockSize := Nat.mod_lt _ (by decide)
  omega

theorem span_le {H : Type} (d : Device H) (count : Nat) : d.span count ≤ count :=
  Nat.le_trans (Nat.min_le_left _ _) (Nat.min_le_right _ _)

theorem block_add_within {H : Type} (d : Device H) : blockSize * d.block.toNat + d.within = d.position.toNat := by
  have hsize : (UInt64.ofNat blockSize).toNat = blockSize := by decide
  rw [Device.block, UInt64.toNat_div, hsize]
  exact Nat.div_add_mod _ _

def destination {H : Type} (d : Device H) : SeekFrom → Int
  | .start offset => offset.toNat
  | .current delta => d.position.toNat + delta
  | .fromEnd delta => d.size.toNat + delta

theorem seek_by {H : Type} (d : Device H) (position : UInt64) (delta : Int) :
    (match offset? position delta with
      | none => (.error .seekBeforeStart, d)
      | some position => (.ok position, { d with position })) =
      if 0 ≤ (position.toNat : Int) + delta ∧ (position.toNat : Int) + delta < UInt64.size then
        (.ok (UInt64.ofNat ((position.toNat : Int) + delta).toNat),
          { d with position := UInt64.ofNat ((position.toNat : Int) + delta).toNat })
      else ((.error .seekBeforeStart, d) : Except DeviceError UInt64 × Device H) := by
  unfold offset?
  by_cases legal : 0 ≤ (position.toNat : Int) + delta ∧ (position.toNat : Int) + delta < UInt64.size
  · simp only [if_pos legal]
  · simp only [if_neg legal]

theorem seek_eq {H : Type} (d : Device H) (target : SeekFrom) :
    d.seek target =
      if 0 ≤ d.destination target ∧ d.destination target < UInt64.size then
        (.ok (UInt64.ofNat (d.destination target).toNat),
          { d with position := UInt64.ofNat (d.destination target).toNat })
      else (.error .seekBeforeStart, d) := by
  cases target with
  | start offset =>
    have hbound := offset.toNat_lt_size
    have hdestination : d.destination (.start offset) = offset.toNat := rfl
    rw [hdestination, if_pos (by omega), Int.toNat_natCast, UInt64.ofNat_toNat]
    rfl
  | current delta => exact d.seek_by d.position delta
  | fromEnd delta => exact d.seek_by d.size delta

variable {d : Device Simulator}

theorem read_stored (ready : d.session.Ready) (stored : d.session.Stores d.block) (inside : d.position < d.size)
    {count : Nat} (asked : count ≠ 0) :
    ∃ session, d.read count = (.ok (d.session.stored.slice d.position.toNat (d.span count)),
        ({ d with session } : Device Simulator).forward (d.span count)) ∧
      d.session.Accesses session d.session.stored := by
  have hzeros : (Bytes.zeros blockSize).length = blockSize := List.length_replicate
  obtain ⟨session, hrun, haccesses⟩ := ready.readBlock_stored stored hzeros
  refine ⟨session, ?_, haccesses⟩
  have hends : ¬ (d.position ≥ d.size ∨ count = 0) := by
    rintro (ends | none)
    · exact UInt64.not_le.mpr inside ends
    · exact asked none
  have hspan : ({ d with session } : Device Simulator).span count = d.span count :=
    congrArg (fun info : CardInfo => min (min (blockSize - d.within) count)
      (info.capacity.toNat - d.position.toNat)) haccesses.info
  have hblock := d.span_le_block count
  rw [Device.read, if_neg hends, Device.run, hrun]
  dsimp only
  rw [hspan, Medium.slice_drop, Medium.slice_take]
  rw [show ({ d with session } : Device Simulator).within = d.within from rfl, d.block_add_within,
    Nat.min_eq_left (by omega)]

theorem fetchRest_stored (ready : d.session.Ready) (stored : d.session.Stores d.block) (data : Bytes) :
    ∃ session block, d.fetchRest (d.span data.length) = (.ok block, { d with session }) ∧
      d.session.Accesses session d.session.stored ∧
      block.take d.within ++ data.take (d.span data.length) ++
          block.drop (d.within + d.span data.length) =
        (d.session.stored.patch d.position.toNat (data.take (d.span data.length))).slice
          (blockSize * d.block.toNat) blockSize := by
  have hlength : (data.take (d.span data.length)).length = d.span data.length := by
    rw [List.length_take, Nat.min_eq_left (d.span_le data.length)]
  have hblock := d.span_le_block data.length
  have hpatched := d.session.stored.slice_patch_within (blockSize * d.block.toNat) d.within blockSize
    (data.take (d.span data.length)) (by rw [hlength]; exact hblock)
  rw [hlength, d.block_add_within] at hpatched
  have hzeros : (Bytes.zeros blockSize).length = blockSize := List.length_replicate
  by_cases whole : d.span data.length = blockSize
  · have hstart : d.within = 0 := by omega
    refine ⟨d.session, Bytes.zeros blockSize, ?_, ⟨ready, rfl, rfl⟩, ?_⟩
    · rw [Device.fetchRest, if_pos whole]
    · have hnothing {bytes : Bytes} (length : bytes.length = blockSize) :
          bytes.drop (0 + blockSize) = [] :=
        List.drop_of_length_le (by omega)
      rw [hpatched, hstart, whole, hnothing hzeros, hnothing (Medium.length_slice ..), List.take_zero,
        List.take_zero]
  · obtain ⟨session, hrun, haccesses⟩ := ready.readBlock_stored stored hzeros
    refine ⟨session, _, ?_, haccesses, hpatched.symm⟩
    rw [Device.fetchRest, if_neg whole, Device.run, hrun]

theorem write_stored (ready : d.session.Ready) (stored : d.session.Stores d.block) (inside : d.position < d.size)
    {data : Bytes} (some : data ≠ []) :
    ∃ session, d.write data = (.ok (d.span data.length),
        ({ d with session } : Device Simulator).forward (d.span data.length)) ∧
      d.session.Accesses session
        (d.session.stored.patch d.position.toNat (data.take (d.span data.length))) := by
  obtain ⟨session, block, hfetch, haccesses, hblock⟩ := fetchRest_stored ready stored data
  generalize hnew : block.take d.within ++ data.take (d.span data.length) ++
    block.drop (d.within + d.span data.length) = new at hblock
  have hsize : new.length = blockSize := by
    rw [hblock]
    exact Medium.length_slice ..
  obtain ⟨session', hstore, hstored⟩ := haccesses.ready.writeBlock_stored (haccesses.stores rfl stored) hsize
  have hpatched : session.stored.patch (blockSize * d.block.toNat) new =
      d.session.stored.patch d.position.toNat (data.take (d.span data.length)) := by
    have hkept : session.stored = d.session.stored := haccesses.medium
    have hend := d.span_le_block data.length
    have hplace := d.block_add_within
    rw [hkept, hblock]
    exact Medium.patch_slice_patch _ (by omega) (by rw [List.length_take]; omega)
  rw [hpatched] at hstored
  refine ⟨session', ?_, hstored.ready, hstored.info.trans haccesses.info, hstored.medium⟩
  have hwithin : ({ d with session } : Device Simulator).within = d.within := rfl
  rw [Device.write, if_neg some, if_neg (UInt64.not_le.mpr inside)]
  dsimp only
  rw [hfetch]
  dsimp only
  rw [hwithin, hnew, Device.run, show ({ d with session } : Device Simulator).block = d.block from rfl, hstore]

end Device

end CardHost
