import CardHost.Hardware.Scripted
import CardHost.Proofs.TransferCommands

namespace CardHost

namespace Bytes

def mirrored (length position : Nat) : Nat :=
  if position / 4 * 4 + 4 ≤ length then position / 4 * 4 + (3 - position % 4) else position

theorem mirrored_add_four (length position : Nat) :
    mirrored (length + 4) (position + 4) = mirrored length position + 4 := by
  have hword : (position + 4) / 4 * 4 = position / 4 * 4 + 4 := by omega
  have hplace : (position + 4) % 4 = position % 4 := by omega
  unfold mirrored
  rw [hword, hplace]
  split <;> split <;> omega

theorem mirrored_first (length : Nat) {position : Nat} (first : position < 4) :
    mirrored (length + 4) position = 3 - position := by
  have hword : position / 4 * 4 = 0 := by omega
  have hplace : position % 4 = position := Nat.mod_eq_of_lt first
  rw [mirrored, hword, hplace, if_pos (by omega), Nat.zero_add]

theorem mirrored_partial {length : Nat} (short : length < 4) (position : Nat) :
    mirrored length position = position := by
  unfold mirrored
  exact if_neg (by omega)

theorem getElem?_reverseWords (b : Bytes) (i : Nat) : (reverseWords b)[i]? = b[mirrored b.length i]? := by
  fun_induction reverseWords b generalizing i with
  | case1 a b c d rest ih =>
    rcases Nat.lt_or_ge i 4 with first | later
    · rw [List.length_cons, List.length_cons, List.length_cons, List.length_cons, mirrored_first _ first]
      rcases i with _ | _ | _ | _ | i
      · rfl
      · rfl
      · rfl
      · rfl
      · omega
    · obtain ⟨j, rfl⟩ := Nat.exists_eq_add_of_le' later
      change (reverseWords rest)[j]? = (a :: b :: c :: d :: rest)[mirrored (rest.length + 4) (j + 4)]?
      rw [ih, mirrored_add_four]
      rfl
  | case2 rest short =>
    have hlength : rest.length < 4 := by
      rcases rest with _ | ⟨a, _ | ⟨b, _ | ⟨c, _ | ⟨d, rest⟩⟩⟩⟩
      · decide
      · simp
      · simp
      · simp
      · exact (short a b c d rest rfl).elim
    rw [mirrored_partial hlength]

theorem getElem?_overlay {top base : Bytes} (fits : top.length ≤ base.length) (i : Nat) :
    (top.overlay base)[i]? = if i < top.length then top[i]? else base[i]? := by
  rw [overlay, List.take_of_length_le fits]
  split
  · next within => exact List.getElem?_append_left within
  · next beyond =>
    rw [List.getElem?_append_right (Nat.le_of_not_lt beyond), List.getElem?_drop,
      Nat.add_sub_cancel' (Nat.le_of_not_lt beyond)]

end Bytes

namespace Staging

def ordered (source : Bytes) (swap : Bool) : Bytes := if swap then source.reverseWords else source

structure Holds (bounce source : Bytes) (swap : Bool) (n : Nat) (staged : Bytes) : Prop where
  length : staged.length = bounce.length
  data : ∀ i < source.length, staged[i]? = source[if swap then Bytes.mirrored source.length i else i]?
  padding : ∀ i < n, source.length ≤ i → staged[i]? = some 0
  rest : ∀ i, n ≤ i → staged[i]? = bounce[i]?
  restored : ordered (staged.take source.length) swap = source

theorem length_ordered (source : Bytes) (swap : Bool) : (ordered source swap).length = source.length := by
  cases swap with
  | false => rfl
  | true => exact Bytes.length_reverseWords source

theorem getElem?_ordered (source : Bytes) (swap : Bool) (i : Nat) :
    (ordered source swap)[i]? = source[if swap then Bytes.mirrored source.length i else i]? := by
  cases swap with
  | false => rfl
  | true => exact Bytes.getElem?_reverseWords source i

theorem ordered_ordered (source : Bytes) (swap : Bool) : ordered (ordered source swap) swap = source := by
  cases swap with
  | false => rfl
  | true => exact Bytes.reverseWords_reverseWords source

section Room

variable {bounce source : Bytes} {pad : Bool} {minimum : Nat} (swap : Bool)

theorem getElem?_layout (i : Nat) :
    (layout source pad minimum swap)[i]? =
      if i < source.length then (ordered source swap)[i]?
      else if i < length source pad minimum then some 0 else none := by
  have hordered := length_ordered source swap
  change (ordered source swap ++ _)[i]? = _
  by_cases within : i < source.length
  · rw [if_pos within, List.getElem?_append_left (by rwa [hordered])]
  · rw [if_neg within, List.getElem?_append_right (by omega), hordered, Bytes.zeros, List.getElem?_replicate]
    have hshift : i - source.length < length source pad minimum - source.length ↔ i < length source pad minimum := by
      omega
    simp only [hshift]

variable (room : length source pad minimum ≤ bounce.length)

include room

theorem take_overlay_layout :
    ((layout source pad minimum swap).overlay bounce).take source.length = ordered source swap := by
  have hle := le_length source pad minimum
  have hlayout := length_layout source pad minimum swap
  have hordered := length_ordered source swap
  calc ((layout source pad minimum swap).overlay bounce).take source.length
    _ = (((layout source pad minimum swap).overlay bounce).take (layout source pad minimum swap).length).take
          source.length := by
        rw [List.take_take, hlayout, Nat.min_eq_left hle]
    _ = (layout source pad minimum swap).take source.length := by
        rw [Bytes.take_overlay (by rwa [hlayout])]
    _ = ordered source swap := by
        rw [← hordered]
        exact List.take_left

theorem holds_overlay :
    Holds bounce source swap (length source pad minimum) ((layout source pad minimum swap).overlay bounce) := by
  have hle := le_length source pad minimum
  have hlayout := length_layout source pad minimum swap
  have hbyte (i : Nat) : ((layout source pad minimum swap).overlay bounce)[i]? =
      if i < length source pad minimum then (layout source pad minimum swap)[i]? else bounce[i]? := by
    rw [Bytes.getElem?_overlay (by rwa [hlayout]), hlayout]
  constructor
  case length => exact Bytes.length_overlay _ _
  case data =>
    intro i within
    rw [hbyte, if_pos (Nat.lt_of_lt_of_le within hle), getElem?_layout, if_pos within, getElem?_ordered]
  case padding =>
    intro i within beyond
    rw [hbyte, if_pos within, getElem?_layout, if_neg (Nat.not_lt_of_le beyond), if_pos within]
  case rest =>
    intro i beyond
    rw [hbyte, if_neg (Nat.not_lt_of_le beyond)]
  case restored => rw [take_overlay_layout swap room, ordered_ordered]

end Room

end Staging

namespace Controller

variable {H : Type} [Hardware H]

theorem load_memory (c : Controller H) (id : BufferId) (length : Nat) (direction : Direction) :
    (c.load id length direction).2.bus.memory = c.bus.memory := by
  unfold load Bus.load
  dsimp only
  split
  · rfl
  · rcases Hardware.load c.bus.hardware c.bus.mapping.isSome ((c.bus.memory.get id).take length) direction with
      ⟨_ | _, _⟩ <;> rfl

theorem mapData_overlong {c : Controller H} {data : Payload BufferId} (toCard : data.flags.isRead = false)
    {e : MappingError}
    (overlong : Staging.stage (c.buffer c.bounce) (c.buffer data.buffer) c.board.soc.secondRevision
      Staging.minLength c.board.soc.swapsBytes = .error e) :
    c.mapData data = (.error e, c) := by
  simp only [mapData, toCard, overlong, Bool.false_eq_true, if_false]

theorem mapData_staged {c : Controller H} {data : Payload BufferId} (toCard : data.flags.isRead = false)
    {n : Nat} {bytes : Bytes}
    (staged : Staging.stage (c.buffer c.bounce) (c.buffer data.buffer) c.board.soc.secondRevision
      Staging.minLength c.board.soc.swapsBytes = .ok (n, bytes)) :
    (c.mapData data).2.bus.memory = c.bus.memory.set c.bounce bytes := by
  have hload := (c.setBuffer c.bounce bytes).load_memory c.bounce n .toCard
  simp only [mapData, toCard, staged, Bool.false_eq_true, if_false]
  generalize (c.setBuffer c.bounce bytes).load c.bounce n .toCard = loaded at hload ⊢
  rcases loaded with ⟨_ | _, _⟩ <;> exact hload

end Controller

/-- A write is staged whole or not at all. If it is too long for the bounce buffer, nothing is changed. Otherwise the
bounce buffer holds its data, with the bytes of every whole word reversed if the chip wants that, zeros up to the staged
length, and beyond it what was there. Reversing the words twice gives the data back. -/
theorem staging_exact :
    (∀ (bounce source : Bytes) (pad : Bool) (minimum : Nat) (swap : Bool),
      let n := if pad = true ∧ source.length < minimum then minimum else source.length
      if bounce.length < n then
        Staging.stage bounce source pad minimum swap = .error (.tooLarge n bounce.length)
      else
        ∃ staged, Staging.stage bounce source pad minimum swap = .ok (n, staged) ∧
          Staging.Holds bounce source swap n staged) ∧
    (∀ b : Bytes, b.reverseWords.reverseWords = b) ∧
    ∀ {H : Type} [Hardware H] (c : Controller H) (data : Payload BufferId), data.flags.isRead = false →
      let result := Staging.stage (c.buffer c.bounce) (c.buffer data.buffer) c.board.soc.secondRevision
        Staging.minLength c.board.soc.swapsBytes
      (∀ e, result = .error e → c.mapData data = (.error e, c)) ∧
        ∀ n staged, result = .ok (n, staged) →
          (c.mapData data).2.bus.memory = c.bus.memory.set c.bounce staged := by
  refine ⟨fun bounce source pad minimum swap => ?_, Bytes.reverseWords_reverseWords, fun c data toCard => ?_⟩
  · intro n
    have hn : Staging.length source pad minimum = n := by
      simp only [Staging.length, Bool.and_eq_true, decide_eq_true_eq]
      rfl
    rw [← hn]
    split
    · next overlong => exact if_pos overlong
    · next room => exact ⟨_, if_neg room, Staging.holds_overlay swap (Nat.le_of_not_lt room)⟩
  · intro result
    exact ⟨fun _ => Controller.mapData_overlong toCard, fun _ _ => Controller.mapData_staged toCard⟩

def Controller.overfull : Controller Scripted :=
  let c := Controller.attach 0 (Board.reference .sam9260) .default ({} : Scripted)
  { c with bus.memory := (c.bus.memory.add (Bytes.zeros 513)).2 }

theorem overlong_write_stages_nothing :
    DataFlags.write.isRead = false ∧
      Controller.overfull.mapData ⟨1, .write, 0⟩ = (.error (.tooLarge 513 512), Controller.overfull) := by
  have toCard : DataFlags.write.isRead = false := rfl
  have bounce : (Controller.overfull.buffer Controller.overfull.bounce).length = 512 := by decide +kernel
  have source : (Controller.overfull.buffer 1).length = 513 := by decide +kernel
  refine ⟨toCard, (staging_exact.2.2 Controller.overfull ⟨1, .write, 0⟩ toCard).1 _ ?_⟩
  simp [Staging.stage, Staging.length, Staging.minLength, bounce, source]

end CardHost
