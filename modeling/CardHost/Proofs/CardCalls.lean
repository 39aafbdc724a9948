import CardHost.Proofs.CardPhases
import CardHost.Proofs.DeviceAccess

namespace CardHost

namespace Medium

theorem slice_add (m : Medium) (offset count count' : Nat) :
    m.slice offset (count + count') = m.slice offset count ++ m.slice (offset + count) count' := by
  have hfirst := m.slice_take offset (count + count') count
  have hrest := m.slice_drop offset (count + count') count
  rw [Nat.min_eq_left (Nat.le_add_right _ _)] at hfirst
  rw [Nat.add_sub_cancel_left] at hrest
  rw [← hfirst, ← hrest, List.take_append_drop]

theorem patch_append (m : Medium) (offset : Nat) (data data' : Bytes) :
    m.patch offset (data ++ data') = (m.patch offset data).patch (offset + data.length) data' := by
  have hbyte (i : Nat) : (m.patch offset (data ++ data')).byte i =
      ((m.patch offset data).patch (offset + data.length) data').byte i := by
    by_cases before : i < offset + data.length
    · rw [byte_patch_outside _ (.inl before), byte_patch, byte_patch]
      split
      · rw [List.getElem?_append_left (by omega)]
      · rfl
    · rw [byte_patch, byte_patch, if_pos (by omega), if_pos (by omega),
        List.getElem?_append_right (by omega), byte_patch_outside _ (.inr (by omega)), Nat.sub_sub]
  exact congrArg (Medium.mk m.size) (funext hbyte)

end Medium

namespace Card

inductive Result where
  | replied (reply : Option Reply)
  | read (result : Except DeviceError Bytes)
  | written (result : Except DeviceError Unit)
  | stored

def result (card : Card) : Call → Result
  | .execute index argument => .replied (card.execute index argument).1
  | .read count => .read (card.readData count).1
  | .write data => .written (card.writeData data).1
  | .store _ _ => .stored

def afterAll (card : Card) (calls : List Call) : Card := calls.foldl after card

def results (card : Card) : List Call → List Result
  | [] => []
  | call :: rest => card.result call :: (card.after call).results rest

theorem readData_medium (card : Card) (count : Nat) : (card.readData count).2.medium = card.medium := by
  unfold readData
  split
  · split
    · rfl
    · split <;> rfl
  all_goals rfl

theorem writeData_medium {card : Card} {data : Bytes} {e : DeviceError}
    (fails : (card.writeData data).1 = .error e) : (card.writeData data).2.medium = card.medium := by
  unfold writeData at fails ⊢
  split at fails
  · split at fails
    · rfl
    · dsimp only at fails
      split at fails <;> cases fails
  · rfl

structure KeepsMedium (card : Card) : Prop where
  execute : ∀ index argument, (card.execute index argument).2.medium = card.medium
  read : ∀ count, (card.readData count).2.medium = card.medium
  write : ∀ data e, (card.writeData data).1 = .error e → (card.writeData data).2.medium = card.medium

theorem keepsMedium (card : Card) : card.KeepsMedium :=
  ⟨card.execute_medium, card.readData_medium, fun _ _ => writeData_medium⟩

end Card

end CardHost
