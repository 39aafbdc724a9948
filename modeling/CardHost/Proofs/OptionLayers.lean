import CardHost.Options
import Mathlib.Data.List.Basic
import Mathlib.Logic.Function.Basic

namespace CardHost

inductive Switch where
  | fourWire
  | overclock
  deriving Repr, DecidableEq

namespace Switch

def suffix : Switch → String
  | fourWire => Hint.fourWire
  | overclock => Hint.overclock

def value (options : Options) : Switch → Bool
  | fourWire => options.fourWire
  | overclock => options.overclock

def hintName (s : Switch) (unit : UInt32) : String := Hint.name unit s.suffix

def resolved (hints : String → Option String) (unit : UInt32) (explicit : Switch → Option Bool) : Options :=
  .resolve hints unit (explicit fourWire) (explicit overclock)

inductive Settles (explicit : Option Bool) (hint : Option String) (default : Bool) : Bool → Prop where
  | explicitly {value : Bool} (given : explicit = some value) : Settles explicit hint default value
  | hinted {value : Bool} {raw : String} (unset : explicit = none) (present : hint = some raw)
      (reads : Hint.parse? raw = some value) : Settles explicit hint default value
  | unreadable {raw : String} (unset : explicit = none) (present : hint = some raw)
      (garbled : Hint.parse? raw = none) : Settles explicit hint default default
  | unhinted (unset : explicit = none) (absent : hint = none) : Settles explicit hint default default

section Layers

variable (hints : String → Option String) (unit : UInt32) (explicit : Switch → Option Bool) (s : Switch)

theorem value_resolved :
    s.value (resolved hints unit explicit) =
      (explicit s).getD (((hints (s.hintName unit)).bind Hint.parse?).getD (s.value .default)) := by
  cases s <;> rfl

theorem settles_iff (explicit : Option Bool) (hint : Option String) (default value : Bool) :
    Settles explicit hint default value ↔ explicit.getD ((hint.bind Hint.parse?).getD default) = value := by
  constructor
  · intro settles
    cases settles with
    | explicitly given => rw [given, Option.getD_some]
    | hinted unset present reads =>
      rw [unset, present, Option.getD_none, Option.bind_some, reads, Option.getD_some]
    | unreadable unset present garbled =>
      rw [unset, present, Option.getD_none, Option.bind_some, garbled, Option.getD_none]
    | unhinted unset absent => rw [unset, absent, Option.getD_none, Option.bind_none, Option.getD_none]
  · rintro rfl
    cases explicit with
    | some value => exact .explicitly rfl
    | none =>
      cases hint with
      | none => exact .unhinted rfl rfl
      | some raw =>
        cases reads : Hint.parse? raw with
        | none =>
          rw [Option.getD_none, Option.bind_some, reads, Option.getD_none]
          exact .unreadable rfl rfl reads
        | some value =>
          rw [Option.getD_none, Option.bind_some, reads, Option.getD_some]
          exact .hinted rfl rfl reads

end Layers

theorem toList_hintName (s : Switch) (unit : UInt32) :
    (s.hintName unit).toList = "AT91_MCI_".toList ++ (Nat.toDigits 10 unit.toNat ++ '_' :: s.suffix.toList) := by
  rw [hintName, Hint.name, String.toList_append, String.toList_append, String.toList_append, Nat.toString_eq_repr,
    Nat.toList_repr, List.append_assoc, List.append_assoc]
  rfl

theorem underscore_notMem_toDigits (n : Nat) : '_' ∉ Nat.toDigits 10 n := by
  intro mem
  exact absurd (Nat.isDigit_of_mem_toDigits (by decide) (by decide) mem) (by decide)

theorem underscore_notMem_suffix (s : Switch) : '_' ∉ s.suffix.toList := by
  cases s <;> decide

theorem suffix_injective : Function.Injective suffix := by
  intro s s' same
  cases s <;> cases s' <;> first | rfl | exact absurd same (by decide)

theorem toDigits_injective : Function.Injective (Nat.toDigits 10) := by
  intro n m same
  calc n = Nat.ofDigitChars 10 (Nat.toDigits 10 n) 0 := Nat.ofDigitChars_ten_toDigits.symm
    _ = Nat.ofDigitChars 10 (Nat.toDigits 10 m) 0 := by rw [same]
    _ = m := Nat.ofDigitChars_ten_toDigits

theorem hintName_inj {s s' : Switch} {unit unit' : UInt32} :
    s.hintName unit = s'.hintName unit' ↔ s = s' ∧ unit = unit' := by
  constructor
  · intro same
    have lists := congrArg String.toList same
    rw [toList_hintName, toList_hintName, List.append_cancel_left_eq,
      List.append_cons_inj_of_notMem (underscore_notMem_toDigits _) (underscore_notMem_suffix s)] at lists
    obtain ⟨digits, -, suffixes⟩ := lists
    exact ⟨suffix_injective (String.toList_inj.mp suffixes), UInt32.toNat_inj.mp (toDigits_injective digits)⟩
  · rintro ⟨rfl, rfl⟩
    rfl

theorem value_resolved_congr {hints hints' : String → Option String} {unit : UInt32} {s : Switch}
    (same : hints (s.hintName unit) = hints' (s.hintName unit)) (explicit : Switch → Option Bool) :
    s.value (resolved hints unit explicit) = s.value (resolved hints' unit explicit) := by
  rw [value_resolved, value_resolved, same]

theorem options_ext {options options' : Options} (same : ∀ s, value options s = value options' s) :
    options = options' := by
  obtain ⟨fourWire, overclock⟩ := options
  obtain ⟨fourWire', overclock'⟩ := options'
  exact congrArg₂ Options.mk (same .fourWire) (same .overclock)

end Switch

open Switch

/-- Each option comes from the first layer that settles it: an explicit setting, a hint of its own name that can
be read, the default. No two hints share a name, so a unit's options depend on its own two hints only, and none
of them on the hint of the other or of another unit. -/
theorem options_settled_in_layers :
    (∀ (hints : String → Option String) (unit : UInt32) (explicit : Switch → Option Bool) (s : Switch) (value : Bool),
      s.value (resolved hints unit explicit) = value ↔
        Settles (explicit s) (hints (s.hintName unit)) (s.value .default) value) ∧
    (Function.Injective fun hint : Switch × UInt32 => hint.1.hintName hint.2) ∧
    (∀ (hints hints' : String → Option String) (unit : UInt32),
      (∀ s : Switch, hints (s.hintName unit) = hints' (s.hintName unit)) →
        ∀ explicit, resolved hints unit explicit = resolved hints' unit explicit) ∧
    ∀ (hints : String → Option String) (s s' : Switch) (unit unit' : UInt32), (s', unit') ≠ (s, unit) →
      ∀ raw explicit,
        s.value (resolved (Function.update hints (s'.hintName unit') raw) unit explicit) =
          s.value (resolved hints unit explicit) := by
  refine ⟨fun hints unit explicit s value => ?_, fun hint hint' same => ?_, fun hints hints' unit same explicit => ?_,
    fun hints s s' unit unit' other raw explicit => ?_⟩
  · rw [settles_iff, value_resolved]
  · obtain ⟨s, unit⟩ := hintName_inj.mp same
    exact Prod.ext s unit
  · exact options_ext fun s => value_resolved_congr (same s) explicit
  · apply value_resolved_congr
    have apart : s.hintName unit ≠ s'.hintName unit' := by
      intro same
      obtain ⟨rfl, rfl⟩ := hintName_inj.mp same
      exact other rfl
    exact Function.update_of_ne apart _ _

theorem hints_of_unit_fourteen_apart :
    let hints : String → Option String := fun name => if name = "AT91_MCI_1_4WIRE" then some " YES " else none
    let hints' := Function.update hints (Switch.fourWire.hintName 14) (some "0")
    hints' "AT91_MCI_14_4WIRE" = some "0" ∧
      ((Switch.fourWire, (14 : UInt32)) ≠ (.fourWire, 1) ∧
        Switch.fourWire.value (resolved hints' 1 fun _ => none) = true) ∧
      (∀ s : Switch, hints (s.hintName 1) = hints' (s.hintName 1)) ∧
        resolved hints 1 (fun _ => none) = resolved hints' 1 fun _ => none := by
  intro hints hints'
  obtain ⟨layers, -, own, others⟩ := options_settled_in_layers
  have apart : (Switch.fourWire, (14 : UInt32)) ≠ (.fourWire, 1) := by decide
  have same (s : Switch) : hints (s.hintName 1) = hints' (s.hintName 1) := by
    cases s <;> decide +kernel
  refine ⟨by decide +kernel, ⟨apart, ?_⟩, same, own hints hints' 1 same _⟩
  rw [others hints .fourWire .fourWire 1 14 apart]
  exact (layers _ _ _ _ _).mpr (.hinted rfl (show _ = some " YES " by decide +kernel) (by decide +kernel))

end CardHost
