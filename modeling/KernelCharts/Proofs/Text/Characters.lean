import KernelCharts.Text.Blank
import KernelCharts.Text.Word
import Mathlib.Data.List.Forall2

/-!
# Classes of characters

* `isAlphanumeric_iff`, `isBlank_iff` — where the letters and digits stand, and where the blanks do;
* `isBlank_of_isAlphanumeric`, `isWord_of_isBlank` — no blank is a letter, a digit or part of a word;
* `isBlank_toLower`, `isAlphanumeric_toLower` — case does not matter to these classes;
* `exists_mem_of_sameLetters` — a text in another case has the letters of the text;
* `SameLetter`, `sameLetters_iff` — texts that differ in the case of ASCII letters only.
-/

namespace KernelCharts.Text

variable {c : Char}

/-! ## Places -/

theorem isUpper_iff : c.isUpper = true ↔ 65 ≤ c.toNat ∧ c.toNat ≤ 90 := decide_eq_true_iff

theorem isLower_iff : c.isLower = true ↔ 97 ≤ c.toNat ∧ c.toNat ≤ 122 :=
  Bool.and_eq_true_iff.trans (and_congr decide_eq_true_iff decide_eq_true_iff)

theorem isDigit_iff : c.isDigit = true ↔ 48 ≤ c.toNat ∧ c.toNat ≤ 57 :=
  Bool.and_eq_true_iff.trans (and_congr decide_eq_true_iff decide_eq_true_iff)

theorem isAlphanumeric_iff : isAlphanumeric c = true ↔
    48 ≤ c.toNat ∧ c.toNat ≤ 57 ∨ 65 ≤ c.toNat ∧ c.toNat ≤ 90 ∨ 97 ≤ c.toNat ∧ c.toNat ≤ 122 := by
  have hclass : isAlphanumeric c = (c.isUpper || c.isLower || c.isDigit) := rfl
  rw [hclass, Bool.or_eq_true, Bool.or_eq_true, isUpper_iff, isLower_iff, isDigit_iff]
  omega

def blankCodes : List Nat :=
  [9, 10, 11, 12, 13, 0x20, 0x85, 0xA0, 0x1680, 0x2000, 0x2001, 0x2002, 0x2003, 0x2004, 0x2005, 0x2006,
    0x2007, 0x2008, 0x2009, 0x200A, 0x2028, 0x2029, 0x202F, 0x205F, 0x3000]

theorem isBlank_iff : isBlank c = true ↔ c.toNat ∈ blankCodes := by
  simp only [isBlank, blankCodes, Bool.or_eq_true, Bool.and_eq_true, decide_eq_true_eq, beq_iff_eq,
    List.mem_cons, List.not_mem_nil, or_false]
  omega

/-! ## Blanks -/

theorem isBlank_of_isAlphanumeric (h : isAlphanumeric c = true) : isBlank c = false := by
  have hletter := isAlphanumeric_iff.1 h
  rw [Bool.eq_false_iff, ne_eq, isBlank_iff]
  simp only [blankCodes, List.mem_cons, List.not_mem_nil, or_false]
  omega

theorem ne_of_isAlphanumeric {d : Char} (h : isAlphanumeric c = true) (hd : isAlphanumeric d = false) :
    c ≠ d := by
  rintro rfl
  rw [h] at hd
  cases hd

/-- a text without blanks, where this can be computed -/
theorem blankless_of_any {s : List Char} (h : s.any isBlank = false) : ∀ c ∈ s, isBlank c = false :=
  fun c hc => Bool.eq_false_iff.2 (List.any_eq_false.1 h c hc)

/-- A blank is no part of a word. -/
theorem isWord_of_isBlank (h : isBlank c = true) : isWord c = false := by
  have hblanks : ∀ n ∈ blankCodes, inStretchesFrom false wordBorders n = false := by decide +kernel
  exact hblanks c.toNat (isBlank_iff.1 h)

/-! ## Case -/

theorem toNat_toLower (h : c.isUpper = true) : c.toLower.toNat = c.toNat + 32 := by
  have hbound : c.val.toNat ≤ 90 := (isUpper_iff.1 h).2
  have hlower : c.toLower.val = c.val + 32 := congrArg Char.val (dif_pos (of_decide_eq_true h))
  change c.toLower.val.toNat = c.val.toNat + 32
  rw [hlower, UInt32.toNat_add, show (32 : UInt32).toNat = 32 from rfl]
  omega

theorem toLower_eq_self (h : c.isUpper = false) : c.toLower = c := dif_neg (of_decide_eq_false h)

/-- **Case does not matter to blanks.** -/
theorem isBlank_toLower (c : Char) : isBlank c.toLower = isBlank c := by
  cases h : c.isUpper with
  | true =>
    have hlower := toNat_toLower h
    have hupper := isUpper_iff.1 h
    rw [Bool.eq_iff_iff, isBlank_iff, isBlank_iff, hlower]
    simp only [blankCodes, List.mem_cons, List.not_mem_nil, or_false]
    omega
  | false => rw [toLower_eq_self h]

theorem isAlphanumeric_toLower (c : Char) : isAlphanumeric c.toLower = isAlphanumeric c := by
  cases h : c.isUpper with
  | true =>
    have hlower := toNat_toLower h
    have hupper := isUpper_iff.1 h
    rw [Bool.eq_iff_iff, isAlphanumeric_iff, isAlphanumeric_iff, hlower]
    omega
  | false => rw [toLower_eq_self h]

theorem exists_mem_of_sameLetters {s t : List Char} (h : sameLetters s t = true) (hc : c ∈ s) :
    ∃ d ∈ t, d.toLower = c.toLower := by
  have hmap : s.map Char.toLower = t.map Char.toLower := by simpa [sameLetters] using h
  have hmem : c.toLower ∈ t.map Char.toLower := hmap ▸ List.mem_map_of_mem hc
  exact List.mem_map.1 hmem

/-- The characters are equal, or one is an ASCII capital and the other its small letter. -/
def SameLetter (c d : Char) : Prop :=
  c = d ∨ (c.isUpper = true ∧ d.toNat = c.toNat + 32) ∨ (d.isUpper = true ∧ c.toNat = d.toNat + 32)

theorem toLower_eq_toLower_iff {d : Char} : c.toLower = d.toLower ↔ SameLetter c d := by
  have hlower (e : Char) : e.toLower.toNat = if e.isUpper = true then e.toNat + 32 else e.toNat := by
    split
    · next h => exact toNat_toLower h
    · next h => rw [toLower_eq_self (Bool.eq_false_iff.2 h)]
  rw [SameLetter, ← Char.toNat_inj, ← Char.toNat_inj, hlower, hlower]
  simp only [isUpper_iff]
  split <;> split <;> omega

/-- **Texts are equal up to case** exactly if they have the same letters at the same places. -/
theorem sameLetters_iff {s t : List Char} : sameLetters s t = true ↔ List.Forall₂ SameLetter s t := by
  have hplaces : List.Forall₂ (fun c d => c.toLower = d.toLower) s t ↔
      s.map Char.toLower = t.map Char.toLower := by
    rw [← List.forall₂_eq_eq_eq, List.forall₂_map_left_iff, List.forall₂_map_right_iff]
  simp only [toLower_eq_toLower_iff] at hplaces
  rw [hplaces, sameLetters, beq_iff_eq]

end KernelCharts.Text
