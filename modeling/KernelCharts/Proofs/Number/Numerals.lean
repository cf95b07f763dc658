import KernelCharts.Number.Numeral
import KernelCharts.Proofs.Text.Characters
import Mathlib.Data.List.TakeWhile

/-!
# Numerals of cells

* `IsDecimal` — a row of digits that stands for a number, leading zeros and all;
* `IsCount`, `count?_eq_some_iff` — the texts that are counts;
* `count?_of_isDecimal` — a row of digits is read as its number;
* `Numeral.isNumeralChar_of_read?` — a numeral has letters, digits, signs and points only.
-/

namespace KernelCharts.Number

/-! ## Whole numbers -/

/-- The text is a row of decimal digits, at least one, that stands for a number. -/
structure IsDecimal (text : List Char) (n : Nat) : Prop where
  ne_nil : text ≠ []
  digits : ∀ c ∈ text, c.isDigit = true
  value : Nat.ofDigitChars 10 text 0 = n

/-- every number has a numeral -/
theorem isDecimal_repr (n : Nat) : IsDecimal n.repr.toList n where
  ne_nil := by
    rw [Nat.toList_repr]
    exact Nat.toDigits_ne_nil
  digits := by
    rw [Nat.toList_repr]
    exact fun c hc => Nat.isDigit_of_mem_toDigits (by decide) (by decide) hc
  value := by
    rw [Nat.toList_repr, Nat.ofDigitChars_ten_toDigits]

theorem digits?_eq_some_iff {text : List Char} {n : Nat} : digits? text = some n ↔ IsDecimal text n := by
  have htest : (text.isEmpty || !text.all Char.isDigit) = true ↔
      ¬ (text ≠ [] ∧ ∀ c ∈ text, c.isDigit = true) := by
    rw [Bool.or_eq_true, List.isEmpty_iff, Bool.not_eq_true', ← Bool.not_eq_true, List.all_eq_true]
    rw [Classical.not_and_iff_not_or_not, not_ne_iff]
  have hvalue : ofDigits text = Nat.ofDigitChars 10 text 0 := rfl
  rw [digits?]
  split
  · next h =>
    refine iff_of_false (fun hnone => by cases hnone) fun hdecimal => ?_
    exact htest.1 h ⟨hdecimal.ne_nil, hdecimal.digits⟩
  · next h =>
    obtain ⟨hne, hdigits⟩ := not_not.1 (mt htest.2 h)
    rw [Option.some.injEq, hvalue]
    exact ⟨fun hn => ⟨hne, hdigits, hn⟩, fun hdecimal => hdecimal.value⟩

theorem IsDecimal.dropFirst_plus {text : List Char} {n : Nat} (h : IsDecimal text n) :
    Text.dropFirst '+' text = text := by
  cases text with
  | nil => rfl
  | cons c cs =>
    refine if_neg fun hc => ?_
    subst hc
    exact absurd (h.digits '+' List.mem_cons_self) (by decide)

/-- The text is a decimal numeral, with one plus sign before it or none, of a positive number below the
limit. -/
structure IsCount (limit : Nat) (text : List Char) (n : Nat) : Prop where
  numeral : ∃ digits, (text = digits ∨ text = '+' :: digits) ∧ IsDecimal digits n
  pos : 0 < n
  lt : n < limit

/-- **Which texts are counts, and of what.** -/
theorem count?_eq_some_iff {limit n : Nat} {text : List Char} :
    count? limit text = some n ↔ IsCount limit text n := by
  have hdigits : digits? (Text.dropFirst '+' text) = some n ↔
      ∃ digits, (text = digits ∨ text = '+' :: digits) ∧ IsDecimal digits n := by
    rw [digits?_eq_some_iff]
    constructor
    · intro h
      refine ⟨_, ?_, h⟩
      cases text with
      | nil => exact .inl rfl
      | cons c cs =>
        rw [Text.dropFirst]
        split
        · next hc => exact .inr (by rw [hc])
        · exact .inl rfl
    · rintro ⟨digits, rfl | rfl, h⟩
      · rwa [h.dropFirst_plus]
      · exact h
  rw [count?, whole?, Option.filter_eq_some_iff, Option.filter_eq_some_iff, hdigits,
    decide_eq_true_eq, decide_eq_true_eq]
  exact ⟨fun ⟨⟨h, hlt⟩, hpos⟩ => ⟨h, hpos, hlt⟩, fun h => ⟨⟨h.numeral, h.lt⟩, h.pos⟩⟩

/-- **A numeral is read as its number**, as long as it is positive and below the limit. -/
theorem count?_of_isDecimal {text : List Char} {n limit : Nat} (h : IsDecimal text n) (hpos : 0 < n)
    (hlimit : n < limit) : count? limit text = some n :=
  count?_eq_some_iff.2 ⟨⟨text, .inl rfl, h⟩, hpos, hlimit⟩

/-! ## Characters of numerals -/

def isNumeralChar (c : Char) : Bool := Text.isAlphanumeric c || c = '+' || c = '-' || c = '.'

theorem isNumeralChar_of_isDigit {c : Char} (h : c.isDigit = true) : isNumeralChar c = true := by
  rw [isNumeralChar, Text.isAlphanumeric, Char.isAlphanum, h, Bool.or_true]
  rfl

theorem isNumeralChar_of_sameLetters {s word : List Char} (h : Text.sameLetters s word = true)
    (hword : word.all Text.isAlphanumeric = true) : ∀ c ∈ s, isNumeralChar c = true := by
  intro c hc
  obtain ⟨d, hd, hlower⟩ := Text.exists_mem_of_sameLetters h hc
  have halphanumeric := List.all_eq_true.1 hword d hd
  rw [← Text.isAlphanumeric_toLower, hlower, Text.isAlphanumeric_toLower] at halphanumeric
  rw [isNumeralChar, halphanumeric]
  rfl

theorem isNumeralChar_of_digits? {s : List Char} {n : Nat} (h : digits? s = some n) :
    ∀ c ∈ s, isNumeralChar c = true := by
  unfold digits? at h
  split at h
  · cases h
  · next hdigits =>
    simp only [Bool.or_eq_true, Bool.not_eq_true', not_or, Bool.not_eq_false] at hdigits
    exact fun c hc => isNumeralChar_of_isDigit (List.all_eq_true.1 hdigits.2 c hc)

namespace Numeral

/-- What a sign leaves of a numeral has all but the sign. -/
theorem isNumeralChar_of_sign {s : List Char} (h : ∀ c ∈ (sign s).2, isNumeralChar c = true) :
    ∀ c ∈ s, isNumeralChar c = true := by
  unfold sign at h
  split at h
  · exact List.forall_mem_cons.2 ⟨by decide, h⟩
  · exact List.forall_mem_cons.2 ⟨by decide, h⟩
  · exact h

theorem isNumeralChar_of_exponent? {s : List Char} {e : Int} (h : exponent? s = some e) :
    ∀ c ∈ s, isNumeralChar c = true := by
  unfold exponent? at h
  split at h
  · simp
  · next c rest =>
    split at h
    · next hletter =>
      obtain ⟨whole, hwhole, -⟩ := Option.map_eq_some_iff.1 h
      obtain ⟨n, hdigits, -⟩ := Option.bind_eq_some_iff.1 hwhole
      refine List.forall_mem_cons.2 ⟨?_, isNumeralChar_of_sign (isNumeralChar_of_digits? hdigits)⟩
      rcases hletter with rfl | rfl <;> decide
    · cases h

theorem isNumeralChar_of_takeWhile {s : List Char}
    (h : ∀ c ∈ s.dropWhile Char.isDigit, isNumeralChar c = true) : ∀ c ∈ s, isNumeralChar c = true := by
  intro c hc
  rw [← List.takeWhile_append_dropWhile (p := Char.isDigit) (l := s), List.mem_append] at hc
  rcases hc with hc | hc
  · exact isNumeralChar_of_isDigit (List.mem_takeWhile_imp hc)
  · exact h c hc

theorem isNumeralChar_of_decimal? {negative : Bool} {s : List Char} {n : Numeral}
    (h : decimal? negative s = some n) : ∀ c ∈ s, isNumeralChar c = true := by
  refine isNumeralChar_of_takeWhile ?_
  unfold decimal? at h
  generalize s.dropWhile Char.isDigit = rest at *
  dsimp only at h
  split at h
  · split at h
    · cases h
    · obtain ⟨e, hexponent, -⟩ := Option.map_eq_some_iff.1 h
      exact List.forall_mem_cons.2 ⟨by decide,
        isNumeralChar_of_takeWhile (isNumeralChar_of_exponent? hexponent)⟩
  · split at h
    · cases h
    · obtain ⟨e, hexponent, -⟩ := Option.map_eq_some_iff.1 h
      exact isNumeralChar_of_exponent? hexponent

/-- **A numeral has letters, digits, signs and points only.** -/
theorem isNumeralChar_of_read? {s : List Char} {n : Numeral} (h : read? s = some n) :
    ∀ c ∈ s, isNumeralChar c = true := by
  refine isNumeralChar_of_sign ?_
  unfold read? at h
  generalize sign s = signed at *
  obtain ⟨negative, body⟩ := signed
  dsimp only at h ⊢
  split at h
  · next hword =>
    rcases (Bool.or_eq_true _ _).mp hword with hword | hword
    · exact isNumeralChar_of_sameLetters hword (by decide)
    · exact isNumeralChar_of_sameLetters hword (by decide)
  · split at h
    · next hword => exact isNumeralChar_of_sameLetters hword (by decide)
    · exact isNumeralChar_of_decimal? h

/-- Nothing is no numeral. -/
theorem ne_nil_of_read? {s : List Char} {n : Numeral} (h : read? s = some n) : s ≠ [] := by
  rintro rfl
  cases h

end Numeral

end KernelCharts.Number
