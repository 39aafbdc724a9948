import CardHost.Clock
import Mathlib.Algebra.Group.Nat.Defs
import Mathlib.Order.Bounds.Basic

namespace CardHost.Clock

theorem toNat_rate (master divider : UInt32) :
    (rate master divider).toNat = master.toNat / (2 * (divider.toNat + 1)) := by
  have hm := master.toNat_lt
  have hd := divider.toNat_lt
  have steps : ((divider.toUInt64 + 1) * 2).toNat = 2 * (divider.toNat + 1) := by
    simp only [UInt64.toNat_mul, UInt64.toNat_add, UInt32.toNat_toUInt64, UInt64.toNat_ofNat]
    omega
  have narrow := Nat.lt_of_le_of_lt (Nat.div_le_self _ (2 * (divider.toNat + 1))) hm
  rw [rate, UInt64.toNat_toUInt32, UInt64.toNat_div, steps, UInt32.toNat_toUInt64]
  exact Nat.mod_eq_of_lt narrow

theorem toNat_half {requested : UInt32} (master : UInt32) :
    (master / requested / 2).toNat = master.toNat / (2 * requested.toNat) := by
  rw [UInt32.toNat_div, UInt32.toNat_div, Nat.div_div_eq_div_mul, Nat.mul_comm]
  rfl

theorem exact_fit_iff (requested master : UInt32) :
    (master.toUInt64 % (requested.toUInt64 * 2) == 0) = true ↔
      2 * requested.toNat ∣ master.toNat := by
  have hr := requested.toNat_lt
  have double : (requested.toUInt64 * 2).toNat = 2 * requested.toNat := by
    simp only [UInt64.toNat_mul, UInt32.toNat_toUInt64, UInt64.toNat_ofNat]
    omega
  rw [beq_iff_eq, ← UInt64.toNat_inj, UInt64.toNat_mod, double, UInt32.toNat_toUInt64,
    Nat.dvd_iff_mod_eq_zero]
  rfl

theorem toNat_rawDivider (requested master : UInt32) :
    (rawDivider requested master).toNat =
      if 2 * requested.toNat ∣ master.toNat then master.toNat / (2 * requested.toNat) - 1
      else master.toNat / (2 * requested.toNat) := by
  rw [← toNat_half, rawDivider]
  simp only [exact_fit_iff]
  split
  · generalize master / requested / 2 = half
    by_cases h : half = 0
    · subst h
      rfl
    · have hpos : half.toNat ≠ 0 := fun h' => h (UInt32.toNat_inj.mp h')
      have hle : (1 : UInt32) ≤ half := UInt32.le_iff_toNat_le.mpr (Nat.one_le_iff_ne_zero.mpr hpos)
      rw [if_neg (by simpa using h), UInt32.toNat_sub_of_le _ _ hle]
      rfl
  · rfl

theorem rawDivider_le_iff {requested : UInt32} (asked : requested ≠ 0) (master : UInt32) (d : Nat) :
    (rawDivider requested master).toNat ≤ d ↔ master.toNat ≤ 2 * (d + 1) * requested.toNat := by
  have hr : 0 < 2 * requested.toNat := by
    have : requested.toNat ≠ 0 := fun h => asked (UInt32.toNat_inj.mp h)
    omega
  have order : 2 * (d + 1) * requested.toNat = 2 * requested.toNat * (d + 1) := by
    rw [Nat.mul_right_comm]
  rw [toNat_rawDivider, order]
  generalize 2 * requested.toNat = r at hr
  split
  · next fits =>
    obtain ⟨q, hq⟩ := fits
    rw [hq, Nat.mul_div_cancel_left q hr, Nat.mul_le_mul_left_iff hr]
    omega
  · next uneven =>
    have split := Nat.div_lt_iff_lt_mul (x := master.toNat) (y := d + 1) hr
    rw [Nat.mul_comm] at split
    rw [← Nat.lt_add_one_iff, split]
    refine ⟨Nat.le_of_lt, fun h => Nat.lt_of_le_of_ne h fun he => uneven ?_⟩
    exact ⟨d + 1, he⟩

theorem rawDivider_anti {requested more : UInt32} (asked : requested ≠ 0) (master : UInt32)
    (h : requested ≤ more) : (rawDivider more master).toNat ≤ (rawDivider requested master).toNat := by
  have hle := UInt32.le_iff_toNat_le.mp h
  have hmore : more ≠ 0 := by
    rintro rfl
    exact asked (UInt32.toNat_inj.mp (Nat.le_zero.mp hle))
  apply (rawDivider_le_iff hmore master _).mpr
  have hown := (rawDivider_le_iff asked master _).mp (Nat.le_refl _)
  exact Nat.le_trans hown (Nat.mul_le_mul_left _ hle)

theorem toNat_min_maxDivider (divider : UInt32) :
    (min divider maxDivider).toNat = min 255 divider.toNat := by
  change (if divider ≤ maxDivider then divider else maxDivider).toNat = _
  have h : divider ≤ maxDivider ↔ divider.toNat ≤ 255 := UInt32.le_iff_toNat_le
  split
  · next le => exact (Nat.min_eq_right (h.mp le)).symm
  · next gt => exact (Nat.min_eq_left (Nat.le_of_not_le fun le => gt (h.mpr le))).symm

theorem divider_le (requested master : UInt32) (overclock : Bool) :
    (plan requested master overclock).divider ≤ Mode.divider := by
  unfold plan
  split
  · exact UInt32.le_iff_toNat_le.mpr (Nat.zero_le _)
  · exact UInt32.le_iff_toNat_le.mpr ((toNat_min_maxDivider _).trans_le (Nat.min_le_left ..))

def word? (bits n : Nat) : Option Nat := if n < 2 ^ bits then some n else none

def quotient? (n d : Nat) : Option Nat := if d = 0 then none else some (n / d)

def remainder? (n d : Nat) : Option Nat := if d = 0 then none else some (n % d)

def difference? (n m : Nat) : Option Nat := if m ≤ n then some (n - m) else none

/-- The rate in exact numbers, step by step. There is none if a step divides by zero, or leaves the word
that it is worked out in. -/
def rate? (master divider : Nat) : Option Nat := do
  let step ← word? 64 (divider + 1)
  let cycles ← word? 64 (step * 2)
  word? 32 (← quotient? master cycles)

def rawDivider? (requested master : Nat) : Option Nat := do
  let double ← word? 64 (requested * 2)
  let rest ← remainder? master double
  let half := (← quotient? master requested) / 2
  if rest = 0 then
    if half = 0 then some 0 else difference? half 1
  else some half

def Excepted (requested master : Nat) (overclock : Bool) : Prop :=
  overclock = true ∧ requested = 25000000 ∧ 50000000 < master

instance (requested master : Nat) (overclock : Bool) :
    Decidable (Excepted requested master overclock) :=
  inferInstanceAs (Decidable (_ ∧ _ ∧ _))

def plan? (requested master : Nat) (overclock : Bool) : Option (Nat × Nat) :=
  if requested = 0 then some (0, 0)
  else if Excepted requested master overclock then return (0, ← rate? master 0)
  else do
    let divider := min 255 (← rawDivider? requested master)
    return (divider, ← rate? master divider)

theorem word?_of_lt {bits n : Nat} (h : n < 2 ^ bits) : word? bits n = some n := if_pos h

theorem rate?_eq (master divider : UInt32) :
    rate? master.toNat divider.toNat = some (rate master divider).toNat := by
  have hd := divider.toNat_lt
  have hrate := (rate master divider).toNat_lt
  have order : (divider.toNat + 1) * 2 = 2 * (divider.toNat + 1) := Nat.mul_comm _ _
  have step : word? 64 (divider.toNat + 1) = some (divider.toNat + 1) := word?_of_lt (by omega)
  have cycles : word? 64 ((divider.toNat + 1) * 2) = some (2 * (divider.toNat + 1)) := by
    rw [order]
    exact word?_of_lt (by omega)
  have quotient : quotient? master.toNat (2 * (divider.toNat + 1)) = some (rate master divider).toNat := by
    rw [toNat_rate]
    exact if_neg (by omega)
  simp only [rate?, step, cycles, quotient, Option.bind_eq_bind, Option.bind_some]
  exact word?_of_lt hrate

theorem rawDivider?_eq {requested : UInt32} (asked : requested ≠ 0) (master : UInt32) :
    rawDivider? requested.toNat master.toNat = some (rawDivider requested master).toNat := by
  have hr := requested.toNat_lt
  have hpos : requested.toNat ≠ 0 := fun h => asked (UInt32.toNat_inj.mp h)
  have order : requested.toNat * 2 = 2 * requested.toNat := Nat.mul_comm _ _
  have double : word? 64 (requested.toNat * 2) = some (2 * requested.toNat) := by
    rw [order]
    exact word?_of_lt (by omega)
  have rest : remainder? master.toNat (2 * requested.toNat) =
      some (master.toNat % (2 * requested.toNat)) := if_neg (by omega)
  have steps : quotient? master.toNat requested.toNat = some (master.toNat / requested.toNat) :=
    if_neg hpos
  simp only [rawDivider?, double, rest, steps, Option.bind_eq_bind, Option.bind_some]
  rw [toNat_rawDivider, Nat.div_div_eq_div_mul, order]
  simp only [Nat.dvd_iff_mod_eq_zero]
  generalize master.toNat / (2 * requested.toNat) = half
  split
  · split
    · next h => rw [h]
    · next h => exact if_pos (Nat.one_le_iff_ne_zero.mpr h)
  · rfl

theorem overclocks_iff (requested master : UInt32) (overclock : Bool) :
    (overclock && overclocks requested master) = true ↔
      Excepted requested.toNat master.toNat overclock := by
  rw [overclocks, Bool.and_eq_true, Bool.and_eq_true, beq_iff_eq, decide_eq_true_eq,
    ← UInt32.toNat_inj]
  rfl

section Running

variable {requested master : UInt32} {overclock : Bool}

theorem plan_excepted (except : Excepted requested.toNat master.toNat overclock) :
    plan requested master overclock = .running 0 (rate master 0) := by
  have asked : ¬ (requested == 0) = true := by
    rw [beq_iff_eq]
    rintro rfl
    exact absurd except.2.1 (by decide)
  rw [plan, if_neg asked, if_pos ((overclocks_iff requested master overclock).mpr except)]
  rfl

theorem plan_plain (asked : requested ≠ 0)
    (plain : ¬ Excepted requested.toNat master.toNat overclock) :
    plan requested master overclock =
      .running (min (rawDivider requested master) maxDivider)
        (rate master (min (rawDivider requested master) maxDivider)) := by
  rw [plan, if_neg (by simpa using asked), if_neg]
  rwa [overclocks_iff]

end Running

theorem plan?_eq (requested master : UInt32) (overclock : Bool) :
    plan? requested.toNat master.toNat overclock =
      some ((plan requested master overclock).divider.toNat,
        (plan requested master overclock).rate.toNat) := by
  by_cases asked : requested = 0
  · subst asked
    rfl
  have hpos : requested.toNat ≠ 0 := fun h => asked (UInt32.toNat_inj.mp h)
  rw [plan?, if_neg hpos]
  by_cases except : Excepted requested.toNat master.toNat overclock
  · have hrate := rate?_eq master 0
    rw [UInt32.toNat_zero] at hrate
    rw [if_pos except, plan_excepted except, hrate]
    rfl
  · rw [if_neg except, plan_plain asked except, rawDivider?_eq asked]
    simp only [Option.bind_eq_bind, Option.bind_some, ← toNat_min_maxDivider, rate?_eq]
    rfl

/-- A clock that is asked for gets the least divider that keeps the bus within the request, or the
largest that there is. A faster request never gets a slower bus. Only the default speed on a fast board may
run over, at half the master clock, and only if the user allows it. No step on the way runs over. -/
theorem fastest_within_request (requested master : UInt32) (overclock : Bool) (asked : requested ≠ 0) :
    let chosen := plan requested master overclock
    chosen ≠ .stopped ∧
    plan? requested.toNat master.toNat overclock = some (chosen.divider.toNat, chosen.rate.toNat) ∧
    chosen.rate.toNat = master.toNat / (2 * (chosen.divider.toNat + 1)) ∧
    (¬ Excepted requested.toNat master.toNat overclock →
      (∃ d, IsLeast {d : Nat | master.toNat ≤ 2 * (d + 1) * requested.toNat} d ∧
        chosen.divider.toNat = min 255 d ∧ (d ≤ 255 → chosen.rate ≤ requested)) ∧
      ∀ more, requested ≤ more → ¬ Excepted more.toNat master.toNat overclock →
        chosen.rate ≤ (plan more master overclock).rate) ∧
    (Excepted requested.toNat master.toNat overclock →
      chosen.divider = 0 ∧ chosen.rate.toNat = master.toNat / 2) := by
  intro chosen
  by_cases except : Excepted requested.toNat master.toNat overclock
  · have he : chosen = .running 0 (rate master 0) := plan_excepted except
    refine ⟨?_, plan?_eq requested master overclock, ?_, fun plain => absurd except plain,
      fun _ => ?_⟩
    · rw [he]
      nofun
    · rw [he]
      exact toNat_rate master 0
    · rw [he]
      exact ⟨rfl, toNat_rate master 0⟩
  · have he : chosen = .running _ _ := plan_plain asked except
    have rate_eq : chosen.rate.toNat = master.toNat / (2 * (chosen.divider.toNat + 1)) := by
      rw [he]
      exact toNat_rate _ _
    have divider : chosen.divider.toNat = min 255 (rawDivider requested master).toNat := by
      rw [he]
      exact toNat_min_maxDivider _
    refine ⟨?_, plan?_eq requested master overclock, rate_eq, fun _ => ⟨?_, ?_⟩,
      fun except' => absurd except' except⟩
    · rw [he]
      nofun
    · have within := rawDivider_le_iff asked master
      refine ⟨(rawDivider requested master).toNat, ⟨(within _).mp (Nat.le_refl _), fun d h => ?_⟩,
        divider, fun small => ?_⟩
      · exact (within d).mpr h
      · rw [UInt32.le_iff_toNat_le, rate_eq, divider, Nat.min_eq_right small]
        exact Nat.div_le_of_le_mul ((within _).mp (Nat.le_refl _))
    · intro more hle plain
      have hmore : more ≠ 0 := by
        rintro rfl
        exact asked (UInt32.toNat_inj.mp (Nat.le_zero.mp (UInt32.le_iff_toNat_le.mp hle)))
      have anti := rawDivider_anti asked master hle
      rw [plan_plain hmore plain, UInt32.le_iff_toNat_le, rate_eq, divider]
      change _ ≤ (rate master _).toNat
      rw [toNat_rate, toNat_min_maxDivider]
      apply Nat.div_le_div_left
      · omega
      · omega

theorem identification_within_request :
    let chosen := plan 400000 Soc.sam9260.referenceClock true
    (400000 : UInt32) ≠ 0 ∧ chosen = .running 124 397312 ∧
      IsLeast {d : Nat | 99328000 ≤ 2 * (d + 1) * 400000} 124 ∧ chosen.rate ≤ 400000 ∧
      chosen.rate ≤ (plan 500000 Soc.sam9260.referenceClock true).rate := by
  intro chosen
  have asked : (400000 : UInt32) ≠ 0 := by decide
  have hchosen : chosen = .running 124 397312 := by decide
  have h := fastest_within_request 400000 Soc.sam9260.referenceClock true asked
  obtain ⟨⟨d, least, divider, within⟩, faster⟩ := h.2.2.2.1 (by decide)
  have hd : d = 124 := by
    have : 124 = min 255 d := divider
    omega
  subst hd
  exact ⟨asked, hchosen, least, within (by decide), faster 500000 (by decide) (by decide)⟩

end CardHost.Clock
