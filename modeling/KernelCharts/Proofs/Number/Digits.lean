import KernelCharts.Proofs.Number.Numerals

/-!
# Digits

* `toDigits_ofDigitChars` — digits after a number that is not zero are the last ones of its numeral;
* `isDecimal_iff` — the rows of digits that stand for a number are its numeral and those with zeros
  before it;
* `isCount_iff` — the texts that are counts, told by how numbers are printed;
* `scan?`, `whole?_eq_scan?` — digits taken up one by one, with the number checked after each of them,
  are the digits taken up at once.
-/

namespace KernelCharts.Number

/-! ## More digits -/

theorem digit_bounds {c : Char} (h : c.isDigit = true) :
    '0'.toNat ≤ c.toNat ∧ c.toNat - '0'.toNat < 10 := by
  have hbounds := Text.isDigit_iff.1 h
  have hzero : '0'.toNat = 48 := rfl
  omega

theorem toDigits_digit {c : Char} (h : c.isDigit = true) : Nat.toDigits 10 (c.toNat - '0'.toNat) = [c] := by
  obtain ⟨hle, hlt⟩ := digit_bounds h
  have hchar : Nat.digitChar (c.toNat - '0'.toNat) = c := by
    rw [← Char.toNat_inj, Nat.toNat_digitChar_of_lt_ten hlt]
    exact Nat.add_sub_cancel' hle
  rw [Nat.toDigits_of_lt_base hlt, hchar]

/-- Digits after a number that is not zero are the last ones of the numeral that is read. -/
theorem toDigits_ofDigitChars {digits : List Char} (h : ∀ c ∈ digits, c.isDigit = true) {n : Nat}
    (hn : 0 < n) : Nat.toDigits 10 (Nat.ofDigitChars 10 digits n) = Nat.toDigits 10 n ++ digits := by
  induction digits generalizing n with
  | nil => rw [Nat.ofDigitChars_nil, List.append_nil]
  | cons c digits ih =>
    rw [List.forall_mem_cons] at h
    have hnumeral : Nat.toDigits 10 (10 * n + (c.toNat - '0'.toNat)) = Nat.toDigits 10 n ++ [c] := by
      rw [← Nat.toDigits_append_toDigits (by decide) hn (digit_bounds h.1).2, toDigits_digit h.1]
    rw [Nat.ofDigitChars_cons, ih h.2 (by omega), hnumeral, List.append_assoc, List.singleton_append]

/-- Digits that do not start with a zero are the numeral of the number that they stand for. -/
theorem toDigits_ofDigitChars_cons {c : Char} {digits : List Char} (hc : c ≠ '0')
    (h : ∀ d ∈ c :: digits, d.isDigit = true) :
    Nat.toDigits 10 (Nat.ofDigitChars 10 (c :: digits) 0) = c :: digits := by
  rw [List.forall_mem_cons] at h
  have hcode : c.toNat ≠ '0'.toNat := fun heq => hc (Char.toNat_inj.1 heq)
  have hpos : 0 < c.toNat - '0'.toNat := by
    have hle := (digit_bounds h.1).1
    omega
  rw [Nat.ofDigitChars_cons, Nat.mul_zero, Nat.zero_add, toDigits_ofDigitChars h.2 hpos,
    toDigits_digit h.1, List.singleton_append]

/-! ## Numerals -/

theorem IsDecimal.exists_zeros {text : List Char} {n : Nat} (h : IsDecimal text n) :
    ∃ zeros, text = List.replicate zeros '0' ++ Nat.toDigits 10 n := by
  obtain ⟨hne, hdigits, rfl⟩ := h
  induction text with
  | nil => exact absurd rfl hne
  | cons c text ih =>
    by_cases hc : c = '0'
    · subst hc
      have hvalue : Nat.ofDigitChars 10 ('0' :: text) 0 = Nat.ofDigitChars 10 text 0 := rfl
      by_cases htext : text = []
      · subst htext
        exact ⟨0, rfl⟩
      · obtain ⟨zeros, hzeros⟩ := ih htext fun d hd => hdigits d (List.mem_cons_of_mem _ hd)
        refine ⟨zeros + 1, ?_⟩
        rw [hvalue, List.replicate_succ, List.cons_append, ← hzeros]
    · refine ⟨0, ?_⟩
      rw [toDigits_ofDigitChars_cons hc hdigits]
      rfl

/-- zeros before the numeral of a number do not change what it stands for -/
theorem isDecimal_zeros (zeros n : Nat) :
    IsDecimal (List.replicate zeros '0' ++ Nat.toDigits 10 n) n where
  ne_nil := by simp [Nat.toDigits_ne_nil]
  digits c hc := by
    rcases List.mem_append.1 hc with hc | hc
    · rw [List.eq_of_mem_replicate hc]
      rfl
    · exact Nat.isDigit_of_mem_toDigits (by decide) (by decide) hc
  value := by
    rw [Nat.ofDigitChars_append, Nat.ofDigitChars_replicate_zero, Nat.mul_zero,
      Nat.ofDigitChars_ten_toDigits]

/-- **The rows of digits that stand for a number** are its numeral, with any zeros before it. -/
theorem isDecimal_iff {text : List Char} {n : Nat} :
    IsDecimal text n ↔ ∃ zeros, text = List.replicate zeros '0' ++ Nat.toDigits 10 n := by
  refine ⟨IsDecimal.exists_zeros, ?_⟩
  rintro ⟨zeros, rfl⟩
  exact isDecimal_zeros zeros n

/-- **The texts that are counts**: the numeral of a positive number below the limit, with any zeros before
it, and with or without a plus sign before these. -/
theorem isCount_iff {limit n : Nat} {text : List Char} : IsCount limit text n ↔ 0 < n ∧ n < limit ∧
    ∃ plus ∈ [[], ['+']], ∃ zeros, text = plus ++ List.replicate zeros '0' ++ n.repr.toList := by
  rw [Nat.toList_repr]
  constructor
  · rintro ⟨⟨digits, htext, hdigits⟩, hpos, hlt⟩
    obtain ⟨zeros, rfl⟩ := isDecimal_iff.1 hdigits
    refine ⟨hpos, hlt, ?_⟩
    rcases htext with rfl | rfl
    · exact ⟨[], by simp, zeros, rfl⟩
    · exact ⟨['+'], by simp, zeros, rfl⟩
  · rintro ⟨hpos, hlt, plus, hplus, zeros, rfl⟩
    refine ⟨⟨_, ?_, isDecimal_zeros zeros n⟩, hpos, hlt⟩
    rcases List.mem_cons.1 hplus with rfl | hplus
    · exact .inl rfl
    · cases List.mem_singleton.1 hplus
      exact .inr rfl

/-! ## One digit after the other -/

/-- the number after one more character, if this is a digit and the number stays below the limit -/
def addBelow? (limit n : Nat) (c : Char) : Option Nat :=
  if c.isDigit = true ∧ addDigit n c < limit then some (addDigit n c) else none

/-- the number that a text of digits stands for, given up at the first character that is no digit and at
the first digit that takes the number past the limit -/
def scan? (limit : Nat) (s : List Char) : Option Nat :=
  if s = [] then none else s.foldlM (addBelow? limit) 0

theorem le_foldl_addDigit (s : List Char) (n : Nat) : n ≤ s.foldl addDigit n := by
  induction s generalizing n with
  | nil => exact le_rfl
  | cons c s ih =>
    have hdigit : n ≤ addDigit n c := by
      unfold addDigit
      omega
    exact hdigit.trans (ih _)

/-- A number that is past the limit stays so, whatever digits follow. So it does not matter when it is
looked at. -/
theorem foldlM_addBelow? {limit n : Nat} (hn : n < limit) (s : List Char) :
    s.foldlM (addBelow? limit) n =
      if s.all Char.isDigit = true ∧ s.foldl addDigit n < limit then some (s.foldl addDigit n) else none := by
  induction s generalizing n with
  | nil => simp [hn]
  | cons c s ih =>
    rw [List.foldlM_cons, List.all_cons, List.foldl_cons, addBelow?]
    by_cases hdigit : c.isDigit = true
    · by_cases hlt : addDigit n c < limit
      · rw [if_pos ⟨hdigit, hlt⟩, hdigit, Bool.true_and]
        exact ih hlt
      · have hpast : ¬ s.foldl addDigit (addDigit n c) < limit :=
          fun h => hlt ((le_foldl_addDigit s _).trans_lt h)
        rw [if_neg fun h => hlt h.2, if_neg fun h => hpast h.2]
        rfl
    · rw [if_neg fun h => hdigit h.1, if_neg fun h => hdigit (Bool.and_eq_true_iff.1 h.1).1]
      rfl

/-- **Checking the number after each digit comes to checking it at the end.** -/
theorem whole?_eq_scan? {limit : Nat} (hlimit : 0 < limit) (s : List Char) :
    whole? limit s = scan? limit (Text.dropFirst '+' s) := by
  rw [whole?, digits?, scan?]
  generalize Text.dropFirst '+' s = digits
  by_cases hempty : digits = []
  · rw [if_pos hempty, hempty]
    rfl
  · have hisEmpty : digits.isEmpty = false := List.isEmpty_eq_false_iff.2 hempty
    rw [if_neg hempty, foldlM_addBelow? hlimit, hisEmpty, Bool.false_or, ofDigits]
    cases hall : digits.all Char.isDigit with
    | true => simp [Option.filter_some]
    | false => simp

end KernelCharts.Number
