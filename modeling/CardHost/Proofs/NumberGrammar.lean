import CardHost.CommandLine.Tool
import Mathlib.Data.List.Forall2
import Mathlib.Data.List.Induction
import Mathlib.Data.Nat.Digits.Defs

namespace CardHost.Numeral

def Stands (radix : Nat) (c : Char) (d : Nat) : Prop :=
  d < radix ∧ (c = d.digitChar ∨ c = d.digitChar.toUpper)

def Spells (radix : Nat) (text : List Char) (n : Nat) : Prop :=
  ∃ values, List.Forall₂ (Stands radix) text.reverse values ∧ Nat.ofDigits radix values = n

/-- What comes of reading digits: the number that they spell, if it is at most `max`, or the first fault from the left.
What stands before the fault is a number up to `max` by itself. -/
inductive Scans (radix max : Nat) (full : Fault) : List Char → Except Fault Nat → Prop where
  | number {text : List Char} {n : Nat} (spelt : Spells radix text n) (fits : n ≤ max) :
      Scans radix max full text (.ok n)
  | stray {before rest : List Char} {c : Char} {n : Nat} (spelt : Spells radix before n) (fits : n ≤ max)
      (stray : ∀ d, ¬ Stands radix c d) : Scans radix max full (before ++ c :: rest) (.error .invalidDigit)
  | full {before rest : List Char} {c : Char} {n m : Nat} (spelt : Spells radix before n) (fits : n ≤ max)
      (next : Spells radix (before ++ [c]) m) (exceeds : max < m) :
      Scans radix max full (before ++ c :: rest) (.error full)

def magnitude : List Char → List Char
  | '+' :: rest => rest
  | text => text

inductive Reads (radix max : Nat) : List Char → Except Fault Nat → Prop where
  | empty : Reads radix max [] (.error .empty)
  | sign : Reads radix max ['+'] (.error .invalidDigit)
  | scanned {text : List Char} {result : Except Fault Nat} (written : magnitude text ≠ [])
      (scan : Scans radix max .tooLarge (magnitude text) result) : Reads radix max text result

def padded (radix zeros n : Nat) : List Char := List.replicate zeros '0' ++ Nat.toDigits radix n

theorem digit?_digitChar :
    ∀ radix ≤ 16, ∀ d < radix,
      digit? radix d.digitChar = some d ∧ digit? radix d.digitChar.toUpper = some d := by
  decide

theorem ofNat_digit : ∀ d < 10, Char.ofNat ('0'.toNat + d) = d.digitChar := by decide

theorem ofNat_lower : ∀ d < 6, Char.ofNat ('a'.toNat + d) = (d + 10).digitChar := by decide

theorem ofNat_upper : ∀ d < 6, Char.ofNat ('A'.toNat + d) = (d + 10).digitChar.toUpper := by decide

theorem ofNat_add_sub {first c : Char} (le : first ≤ c) : Char.ofNat (first.toNat + (c.toNat - first.toNat)) = c := by
  have : first.toNat ≤ c.toNat := UInt32.le_iff_toNat_le.mp le
  rw [Nat.add_sub_cancel' this, Char.ofNat_toNat]

section Characters

variable {radix : Nat} {c : Char} {d : Nat}

theorem digit?_eq_some_iff (small : radix ≤ 16) : digit? radix c = some d ↔ Stands radix c d := by
  constructor
  · intro reads
    simp only [digit?, Option.ite_none_right_eq_some, Option.some.injEq] at reads
    obtain ⟨below, rfl⟩ := reads
    refine ⟨below, ?_⟩
    revert below
    split
    · next range =>
      intro _
      have last : c.toNat ≤ '9'.toNat := UInt32.le_iff_toNat_le.mp range.2
      have within : c.toNat - '0'.toNat < 10 := (Nat.sub_le_sub_right last _).trans_lt (by decide)
      exact .inl (by rw [← ofNat_digit _ within, ofNat_add_sub range.1])
    · split
      · next range =>
        intro below
        have within : c.toNat - 'a'.toNat < 6 := by omega
        exact .inl (by rw [← ofNat_lower _ within, ofNat_add_sub range.1])
      · split
        · next range =>
          intro below
          have within : c.toNat - 'A'.toNat < 6 := by omega
          exact .inr (by rw [← ofNat_upper _ within, ofNat_add_sub range.1])
        · intro below
          exact absurd below (Nat.lt_irrefl radix)
  · rintro ⟨below, rfl | rfl⟩
    · exact (digit?_digitChar radix small d below).1
    · exact (digit?_digitChar radix small d below).2

theorem digit?_eq_none_iff (small : radix ≤ 16) : digit? radix c = none ↔ ∀ d, ¬ Stands radix c d := by
  rw [Option.eq_none_iff_forall_ne_some]
  exact forall_congr' fun d => not_congr (digit?_eq_some_iff small)

theorem Stands.unique (small : radix ≤ 16) {d' : Nat} (stands : Stands radix c d) (stands' : Stands radix c d') :
    d = d' := by
  rw [← digit?_eq_some_iff small] at stands stands'
  exact Option.some.inj (stands.symm.trans stands')

theorem not_stands (small : radix ≤ 16) (other : digit? 16 c = none) : ¬ Stands radix c d := by
  rintro ⟨below, same⟩
  exact (digit?_eq_none_iff (Nat.le_refl 16)).mp other d ⟨Nat.lt_of_lt_of_le below small, same⟩

end Characters

section Digits

variable {radix : Nat} {text : List Char} {n : Nat}

theorem spells_nil : Spells radix [] n ↔ n = 0 := by
  constructor
  · rintro ⟨values, standing, rfl⟩
    rw [List.forall₂_nil_left_iff.mp standing, Nat.ofDigits_nil]
  · rintro rfl
    exact ⟨[], .nil, Nat.ofDigits_nil⟩

theorem spells_concat {c : Char} :
    Spells radix (text ++ [c]) n ↔ ∃ m d, Spells radix text m ∧ Stands radix c d ∧ n = m * radix + d := by
  rw [Spells, List.reverse_concat]
  constructor
  · rintro ⟨values, standing, rfl⟩
    obtain ⟨d, higher, last, before, rfl⟩ := List.forall₂_cons_left_iff.mp standing
    refine ⟨_, d, ⟨higher, before, rfl⟩, last, ?_⟩
    rw [Nat.ofDigits_cons, Nat.mul_comm, Nat.add_comm]
  · rintro ⟨_, d, ⟨higher, before, rfl⟩, last, rfl⟩
    refine ⟨d :: higher, .cons last before, ?_⟩
    rw [Nat.ofDigits_cons, Nat.mul_comm, Nat.add_comm]

theorem Spells.stands_of_mem (spelt : Spells radix text n) {c : Char} (mem : c ∈ text) : ∃ d, Stands radix c d := by
  induction text using List.reverseRecOn generalizing n with
  | nil => exact absurd mem List.not_mem_nil
  | append_singleton text last ih =>
    obtain ⟨m, d, before, stands, -⟩ := spells_concat.mp spelt
    rcases List.mem_append.mp mem with earlier | same
    · exact ih before earlier
    · rw [List.mem_singleton.mp same]
      exact ⟨d, stands⟩

theorem Spells.unique (small : radix ≤ 16) {n' : Nat} (spelt : Spells radix text n) (spelt' : Spells radix text n') :
    n = n' := by
  induction text using List.reverseRecOn generalizing n n' with
  | nil => rw [spells_nil.mp spelt, spells_nil.mp spelt']
  | append_singleton text c ih =>
    obtain ⟨m, d, before, stands, rfl⟩ := spells_concat.mp spelt
    obtain ⟨m', d', before', stands', rfl⟩ := spells_concat.mp spelt'
    rw [ih before before', stands.unique small stands']

theorem magnitude_of_spells (small : radix ≤ 16) (spelt : Spells radix text n) : magnitude text = text := by
  unfold magnitude
  split
  · next rest =>
    obtain ⟨d, stands⟩ := spelt.stands_of_mem List.mem_cons_self
    exact absurd stands (not_stands small (by decide))
  · rfl

end Digits

section Scan

variable {radix max : Nat} {full : Fault} {text before : List Char} {c : Char} {n d : Nat}

theorem digits_append (small : radix ≤ 16) (spelt : Spells radix before n) (fits : n ≤ max) (rest : List Char) :
    digits radix max full 0 (before ++ rest) = digits radix max full n rest := by
  -- The last of the digits is taken off, for the others come to less and fit as well.
  induction before using List.reverseRecOn generalizing n rest with
  | nil => rw [spells_nil.mp spelt, List.nil_append]
  | append_singleton before c ih =>
    obtain ⟨m, d, earlier, stands, rfl⟩ := spells_concat.mp spelt
    have positive : 0 < radix := Nat.zero_lt_of_lt stands.1
    have grows : m ≤ m * radix := Nat.le_mul_of_pos_right m positive
    rw [List.append_assoc, List.singleton_append, ih earlier (by omega), digits,
      (digit?_eq_some_iff small).mpr stands]
    exact if_pos fits

theorem scans_digits (small : radix ≤ 16) (spelt : Spells radix before n) (fits : n ≤ max) (text : List Char) :
    Scans radix max full (before ++ text) (digits radix max full n text) := by
  -- What was read before is always spelt by digits and fits; each step adds one character to it.
  induction text generalizing before n with
  | nil =>
    rw [List.append_nil, digits]
    exact .number spelt fits
  | cons c rest ih =>
    rw [digits]
    cases reads : digit? radix c with
    | none => exact .stray spelt fits ((digit?_eq_none_iff small).mp reads)
    | some d =>
      have next : Spells radix (before ++ [c]) (n * radix + d) :=
        spells_concat.mpr ⟨n, d, spelt, (digit?_eq_some_iff small).mp reads, rfl⟩
      dsimp only
      split
      · next room =>
        rw [← List.singleton_append, ← List.append_assoc]
        exact ih next room
      · next room => exact .full spelt fits next (Nat.lt_of_not_le room)

theorem digits_eq_iff (small : radix ≤ 16) {result : Except Fault Nat} :
    digits radix max full 0 text = result ↔ Scans radix max full text result := by
  constructor
  · rintro rfl
    exact scans_digits small (spells_nil.mpr rfl) (Nat.zero_le max) text
  · intro scan
    cases scan with
    | number spelt fits =>
      rw [← List.append_nil text, digits_append small spelt fits, digits]
    | stray spelt fits stray =>
      rw [digits_append small spelt fits, digits, (digit?_eq_none_iff small).mpr stray]
    | full spelt fits next exceeds =>
      obtain ⟨n', d, spelt', stands, rfl⟩ := spells_concat.mp next
      obtain rfl := spelt.unique small spelt'
      rw [digits_append small spelt fits, digits, (digit?_eq_some_iff small).mpr stands]
      exact if_neg (Nat.not_le_of_lt exceeds)

theorem scans_ok_iff : Scans radix max full text (.ok n) ↔ Spells radix text n ∧ n ≤ max := by
  constructor
  · intro scan
    cases scan with
    | number spelt fits => exact ⟨spelt, fits⟩
  · rintro ⟨spelt, fits⟩
    exact .number spelt fits

theorem reads_ok_iff :
    Reads radix max text (.ok n) ↔ magnitude text ≠ [] ∧ Spells radix (magnitude text) n ∧ n ≤ max := by
  constructor
  · intro reads
    cases reads with
    | scanned written scan => exact ⟨written, scans_ok_iff.mp scan⟩
  · rintro ⟨written, number⟩
    exact .scanned written (scans_ok_iff.mpr number)

theorem unsigned_of_magnitude (written : magnitude text ≠ []) :
    unsigned radix max text = digits radix max .tooLarge 0 (magnitude text) := by
  fun_cases unsigned radix max text with
  | case1 => exact absurd rfl written
  | case2 => exact absurd rfl written
  | case3 rest _ => rfl
  | case4 _ _ _ plain =>
    have same : magnitude text = text := by
      unfold magnitude
      split
      · exact (plain _ rfl).elim
      · rfl
    rw [same]

theorem unsigned_eq_iff (small : radix ≤ 16) {result : Except Fault Nat} :
    unsigned radix max text = result ↔ Reads radix max text result := by
  constructor
  · rintro rfl
    by_cases written : magnitude text = []
    · unfold magnitude at written
      split at written
      · rw [written]
        exact .sign
      · rw [written]
        exact .empty
    · rw [unsigned_of_magnitude written]
      exact .scanned written ((digits_eq_iff small).mp rfl)
  · intro reads
    cases reads with
    | empty => rfl
    | sign => rfl
    | scanned written scan => rw [unsigned_of_magnitude written, (digits_eq_iff small).mpr scan]

theorem unsigned_of_spells (small : radix ≤ 16) (spelt : Spells radix text n) (written : text ≠ [])
    (fits : n ≤ max) : unsigned radix max text = .ok n := by
  rw [unsigned_eq_iff small, reads_ok_iff, magnitude_of_spells small spelt]
  exact ⟨written, spelt, fits⟩

end Scan

theorem map_toNat_ofNat {radix : Nat} (small : radix ≤ 16) (text : List Char) :
    ((unsigned radix (UInt64.size - 1) text).map UInt64.ofNat).map UInt64.toNat =
      unsigned radix (UInt64.size - 1) text := by
  cases result : unsigned radix (UInt64.size - 1) text with
  | error e => rfl
  | ok n =>
    have fits : n ≤ UInt64.size - 1 := (reads_ok_iff.mp ((unsigned_eq_iff small).mp result)).2.2
    have below : n < UInt64.size := Nat.lt_of_le_sub_one (by decide) fits
    exact congrArg Except.ok (UInt64.toNat_ofNat_of_lt below)

theorem toNat_hexOrDecimal_mark (text : String) :
    (hexOrDecimal ("0x" ++ text)).map UInt64.toNat = unsigned 16 (UInt64.size - 1) text.toList := by
  rw [← map_toNat_ofNat (Nat.le_refl 16), hexOrDecimal, String.toList_append]
  rfl

theorem toNat_hexOrDecimal {text : String} (plain : ¬ "0x".toList <+: text.toList) :
    (hexOrDecimal text).map UInt64.toNat = unsigned 10 (UInt64.size - 1) text.toList := by
  rw [← map_toNat_ofNat (by decide), hexOrDecimal]
  split
  · next rest marked => exact absurd ⟨rest, marked.symm⟩ plain
  · rfl

theorem ok_of_map_toNat {result : Except Fault UInt64} {v : UInt64} (same : result.map UInt64.toNat = .ok v.toNat) :
    result = .ok v := by
  cases result with
  | error e => cases same
  | ok w => exact congrArg Except.ok (UInt64.toNat_inj.mp (Except.ok.inj same))

section Rendering

variable {radix : Nat}

theorem spells_toDigits (base : 1 < radix) (n : Nat) : Spells radix (Nat.toDigits radix n) n := by
  induction n using Nat.strong_induction_on with
  | h n ih =>
    rcases Nat.lt_or_ge n radix with small | large
    · rw [Nat.toDigits_of_lt_base small, ← List.nil_append [_]]
      exact spells_concat.mpr ⟨0, n, spells_nil.mpr rfl, ⟨small, .inl rfl⟩, by omega⟩
    · rw [Nat.toDigits_of_base_le base large]
      have higher := ih (n / radix) (Nat.div_lt_self (by omega) base)
      have last : n % radix < radix := Nat.mod_lt n (by omega)
      exact spells_concat.mpr ⟨n / radix, n % radix, higher, ⟨last, .inl rfl⟩, (Nat.div_add_mod' n radix).symm⟩

theorem Spells.replicate_append {text : List Char} {n : Nat} (base : 0 < radix) (spelt : Spells radix text n)
    (zeros : Nat) : Spells radix (List.replicate zeros '0' ++ text) n := by
  induction text using List.reverseRecOn generalizing n with
  | nil =>
    rw [spells_nil.mp spelt, List.append_nil]
    induction zeros with
    | zero => exact spells_nil.mpr rfl
    | succ zeros ih =>
      rw [List.replicate_succ']
      exact spells_concat.mpr ⟨0, 0, ih, ⟨base, .inl rfl⟩, by omega⟩
  | append_singleton text c ih =>
    obtain ⟨m, d, before, stands, rfl⟩ := spells_concat.mp spelt
    rw [← List.append_assoc]
    exact spells_concat.mpr ⟨m, d, ih before, stands, rfl⟩

theorem spells_padded (base : 1 < radix) (zeros n : Nat) : Spells radix (padded radix zeros n) n :=
  (spells_toDigits base n).replicate_append (Nat.zero_lt_of_lt base) zeros

theorem padded_ne_nil (radix zeros n : Nat) : padded radix zeros n ≠ [] :=
  List.append_ne_nil_of_right_ne_nil _ Nat.toDigits_ne_nil

theorem Stands.toUpper (small : radix ≤ 16) {c : Char} {d : Nat} (stands : Stands radix c d) :
    Stands radix c.toUpper d := by
  have again : ∀ d < 16, d.digitChar.toUpper.toUpper = d.digitChar.toUpper := by decide
  obtain ⟨below, rfl | rfl⟩ := stands
  · exact ⟨below, .inr rfl⟩
  · exact ⟨below, .inr (again d (Nat.lt_of_lt_of_le below small))⟩

theorem Spells.toUpper (small : radix ≤ 16) {text : List Char} {n : Nat} (spelt : Spells radix text n) :
    Spells radix (text.map Char.toUpper) n := by
  obtain ⟨values, standing, rfl⟩ := spelt
  refine ⟨values, ?_, rfl⟩
  rw [← List.map_reverse, List.forall₂_map_left_iff]
  exact standing.imp fun _ _ => Stands.toUpper small

theorem hexOrDecimal_mark_of_spells {text : List Char} {v : UInt64} (spelt : Spells 16 text v.toNat)
    (written : text ≠ []) : hexOrDecimal ("0x" ++ String.ofList text) = .ok v := by
  apply ok_of_map_toNat
  rw [toNat_hexOrDecimal_mark, String.toList_ofList]
  exact unsigned_of_spells (Nat.le_refl 16) spelt written (Nat.le_sub_one_of_lt v.toNat_lt)

theorem hexOrDecimal_of_spells {text : List Char} {v : UInt64} (spelt : Spells 10 text v.toNat)
    (written : text ≠ []) : hexOrDecimal (String.ofList text) = .ok v := by
  have plain : ¬ "0x".toList <+: text := by
    rintro ⟨rest, rfl⟩
    obtain ⟨d, stands⟩ := spelt.stands_of_mem (c := 'x') (by simp)
    exact not_stands (by decide) (by decide) stands
  apply ok_of_map_toNat
  rw [toNat_hexOrDecimal (by rwa [String.toList_ofList (l := text)]), String.toList_ofList]
  exact unsigned_of_spells (by decide) spelt written (Nat.le_sub_one_of_lt v.toNat_lt)

theorem hexOrDecimal_padded (v : UInt64) (zeros : Nat) :
    hexOrDecimal (String.ofList (padded 10 zeros v.toNat)) = .ok v :=
  hexOrDecimal_of_spells (spells_padded (by decide) zeros v.toNat) (padded_ne_nil 10 zeros v.toNat)

theorem hexOrDecimal_mark_padded (v : UInt64) (zeros : Nat) :
    hexOrDecimal ("0x" ++ String.ofList (padded 16 zeros v.toNat)) = .ok v :=
  hexOrDecimal_mark_of_spells (spells_padded (by decide) zeros v.toNat) (padded_ne_nil 16 zeros v.toNat)

theorem hexOrDecimal_mark_capitals (v : UInt64) (zeros : Nat) :
    hexOrDecimal ("0x" ++ String.ofList ((padded 16 zeros v.toNat).map Char.toUpper)) = .ok v := by
  have lower : Spells 16 (padded 16 zeros v.toNat) v.toNat := spells_padded (by decide) zeros v.toNat
  have written := padded_ne_nil 16 zeros v.toNat
  exact hexOrDecimal_mark_of_spells (lower.toUpper (Nat.le_refl 16)) (mt List.map_eq_nil_iff.mp written)

end Rendering

/-- A text is read in hexadecimal digits behind the mark `0x`, and in decimal digits otherwise. It comes to the number
that they spell, or else to the first fault from the left; a sign or a blank is no digit. What a number of 64 bits is
written as is read back, with any zeros before it and in letters of either case. -/
theorem numbers_read_as_spelt :
    (∀ (text : String) (result : Except Fault Nat),
      (hexOrDecimal ("0x" ++ text)).map UInt64.toNat = result ↔ Reads 16 (2 ^ 64 - 1) text.toList result) ∧
    (∀ text : String, ¬ "0x".toList <+: text.toList → ∀ result : Except Fault Nat,
      (hexOrDecimal text).map UInt64.toNat = result ↔ Reads 10 (2 ^ 64 - 1) text.toList result) ∧
    (∀ c ∈ ['+', '-', ' '], ∀ d, ¬ Stands 10 c d ∧ ¬ Stands 16 c d) ∧
    (∀ v : UInt64, hexOrDecimal (toString v) = .ok v ∧ hexOrDecimal (CommandLine.renderHex v.toNat) = .ok v) ∧
    ∀ (v : UInt64) (zeros : Nat),
      hexOrDecimal (String.ofList (padded 10 zeros v.toNat)) = .ok v ∧
        hexOrDecimal ("0x" ++ String.ofList (padded 16 zeros v.toNat)) = .ok v ∧
          hexOrDecimal ("0x" ++ String.ofList ((padded 16 zeros v.toNat).map Char.toUpper)) = .ok v := by
  refine ⟨fun text result => ?_, fun text plain result => ?_, fun c other d => ?_, fun v => ⟨?_, ?_⟩,
    fun v zeros => ⟨hexOrDecimal_padded v zeros, hexOrDecimal_mark_padded v zeros,
      hexOrDecimal_mark_capitals v zeros⟩⟩
  · rw [toNat_hexOrDecimal_mark]
    exact unsigned_eq_iff (Nat.le_refl 16)
  · rw [toNat_hexOrDecimal plain]
    exact unsigned_eq_iff (by decide)
  · have none : digit? 16 c = none := by
      simp only [List.mem_cons, List.not_mem_nil, or_false] at other
      rcases other with rfl | rfl | rfl <;> rfl
    exact ⟨not_stands (by decide) none, not_stands (Nat.le_refl 16) none⟩
  · exact hexOrDecimal_padded v 0
  · exact hexOrDecimal_mark_padded v _

theorem fault_is_first_from_left :
    ('-' ∈ ['+', '-', ' '] ∧ ¬ Stands 10 '-' 5) ∧
      (¬ "0x".toList <+: "018446744073709551616 ".toList ∧
        Reads 10 (2 ^ 64 - 1) "018446744073709551616 ".toList (.error .tooLarge)) ∧
      ¬ "0x".toList <+: "01844674407370955161 6".toList ∧
        Reads 10 (2 ^ 64 - 1) "01844674407370955161 6".toList (.error .invalidDigit) := by
  obtain ⟨-, decimal, other, -⟩ := numbers_read_as_spelt
  have long : ¬ "0x".toList <+: "018446744073709551616 ".toList := by decide
  have broken : ¬ "0x".toList <+: "01844674407370955161 6".toList := by decide
  exact ⟨⟨by decide, (other '-' (by decide) 5).1⟩, ⟨long, (decimal _ long _).mp (by decide +kernel)⟩,
    broken, (decimal _ broken _).mp (by decide +kernel)⟩

end CardHost.Numeral
