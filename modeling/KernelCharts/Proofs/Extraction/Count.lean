import KernelCharts.Extraction.Cell
import KernelCharts.Proofs.Number.Digits
import Mathlib.Algebra.Group.Nat.Defs

/-!
# Counts of a row

* `readCount_eq_ok_iff`, `readCount_eq_error_iff` — the cells that are read as counts, and the complaint
  about all others;
* `ReadsCounts` — what a reader of counts does with every text;
* `readsCounts` — the numbers of nonzeros and the widths are read so.
-/

namespace KernelCharts

variable {limit : Nat} {column : String} {text : List Char}

theorem readCount_eq_ok_iff {n : Nat} :
    readCount limit column text = .ok n ↔ Number.IsCount limit text n := by
  rw [← Number.count?_eq_some_iff, readCount]
  cases Number.count? limit text with
  | none => exact iff_of_false (fun h => by cases h) fun h => by cases h
  | some m => simp

theorem readCount_eq_error_iff {cause : RowError} :
    readCount limit column text = .error cause ↔
      cause = .invalid column text ∧ ∀ n, ¬ Number.IsCount limit text n := by
  simp only [← Number.count?_eq_some_iff, readCount]
  cases Number.count? limit text with
  | none => simp [eq_comm]
  | some m => simp

theorem toOption_readCount (hlimit : 0 < limit) : (readCount limit column text).toOption =
    (Number.scan? limit (Text.dropFirst '+' text)).filter (0 < ·) := by
  have hcount : Number.count? limit text =
      (Number.scan? limit (Text.dropFirst '+' text)).filter (0 < ·) := by
    rw [Number.count?, Number.whole?_eq_scan? hlimit]
  rw [← hcount, readCount]
  cases Number.count? limit text <;> rfl

/-- The reader takes the positive numbers of some bits, and turns all other texts down. -/
structure ReadsCounts (bits : Nat) (read : String → List Char → Except RowError Nat) : Prop where
  /-- the texts that are read are digits of a positive number that fits, with or without a plus sign -/
  accepts : ∀ column text n, read column text = .ok n ↔ Number.IsCount (2 ^ bits) text n
  /-- the complaint names the column, and the text as it stands -/
  rejects : ∀ column text cause, read column text = .error cause ↔
    cause = .invalid column text ∧ ∀ n, ¬ Number.IsCount (2 ^ bits) text n
  /-- the texts that are read as a number are its numeral, with any zeros and one plus sign before it -/
  numerals : ∀ column text n, read column text = .ok n ↔ 0 < n ∧ n < 2 ^ bits ∧
    ∃ plus ∈ [[], ['+']], ∃ zeros, text = plus ++ List.replicate zeros '0' ++ n.repr.toList
  /-- the numbers that fit are read back as they are printed -/
  printed : ∀ column n, 0 < n → n < 2 ^ bits → read column n.repr.toList = .ok n
  /-- no digit takes the number past the limit unnoticed: it may as well be checked after each of them -/
  scanned : ∀ column text, (read column text).toOption =
    (Number.scan? (2 ^ bits) (Text.dropFirst '+' text)).filter (0 < ·)

theorem readsCounts_readCount (bits : Nat) : ReadsCounts bits (readCount (2 ^ bits)) := by
  constructor
  case accepts => exact fun column text n => readCount_eq_ok_iff
  case rejects => exact fun column text cause => readCount_eq_error_iff
  case numerals => exact fun column text n => readCount_eq_ok_iff.trans Number.isCount_iff
  case printed =>
    intro column n hpos hlt
    exact readCount_eq_ok_iff.2 ⟨⟨_, .inl rfl, Number.isDecimal_repr n⟩, hpos, hlt⟩
  case scanned => exact fun column text => toOption_readCount (Nat.two_pow_pos bits)

/-- **Numbers of nonzeros and widths are read exactly**: the positive numbers of 64 and of 32 bits, from
their digits alone, and no others. -/
theorem readsCounts : ReadsCounts 64 (readCount nnzLimit) ∧ ReadsCounts 32 (readCount widthLimit) :=
  ⟨readsCounts_readCount 64, readsCounts_readCount 32⟩

end KernelCharts
