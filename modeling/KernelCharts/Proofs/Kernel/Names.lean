import KernelCharts.Kernel.Basic
import KernelCharts.Proofs.Text.Characters
import KernelCharts.Proofs.Text.Pieces

/-!
# Names of kernels

* `Kernel.Spells` — a text is the name of a kernel in some case, with or without its unit;
* `Kernel.ofName?_eq_some_iff` — a kernel is found under the texts that spell its name, with blanks
  around them, and under no others.
-/

namespace KernelCharts

namespace Text

theorem toLower_toLower (c : Char) : c.toLower.toLower = c.toLower := by
  cases h : c.isUpper with
  | true =>
    have hlower := toNat_toLower h
    have hupper := isUpper_iff.1 h
    apply toLower_eq_self
    rw [Bool.eq_false_iff, ne_eq, isUpper_iff]
    omega
  | false =>
    have hself := toLower_eq_self h
    rw [hself, hself]

theorem not_isBlank_of_sameLetters {text word : List Char} (h : sameLetters text word = true)
    (hword : word.any isBlank = false) : ∀ c ∈ text, isBlank c = false := by
  intro c hc
  obtain ⟨d, hd, hlower⟩ := exists_mem_of_sameLetters h hc
  rw [← isBlank_toLower, ← hlower, isBlank_toLower]
  exact blankless_of_any hword d hd

end Text

namespace Kernel

/-- Case does not matter to the name of a kernel. -/
theorem ofName?_congr {text word : List Char} (h : Text.sameLetters text word = true)
    (hword : word.any Text.isBlank = false) : ofName? text = ofName? word := by
  have hmap : text.map Char.toLower = word.map Char.toLower := by simpa [Text.sameLetters] using h
  have htext := Text.not_isBlank_of_sameLetters h hword
  rw [ofName?, ofName?, Text.trim_eq_self htext, Text.trim_eq_self (Text.blankless_of_any hword), hmap]

/-- The text is the name of a kernel in some case, with or without the unit. -/
def Spells (kernel : Kernel) (text : List Char) : Prop :=
  Text.sameLetters text kernel.name.toList = true ∨
    Text.sameLetters text (kernel.name.toList ++ unit) = true

/-- **A kernel is found under its name**, in any case, with or without the unit. -/
theorem Spells.ofName?_eq {kernel : Kernel} {text : List Char} (h : kernel.Spells text) :
    ofName? text = some kernel := by
  rcases h with h | h
  · rw [ofName?_congr h (by cases kernel <;> decide)]
    cases kernel <;> decide
  · rw [ofName?_congr h (by cases kernel <;> decide)]
    cases kernel <;> decide

theorem Spells.not_isBlank {kernel : Kernel} {text : List Char} (h : kernel.Spells text) :
    ∀ c ∈ text, Text.isBlank c = false := by
  rcases h with h | h
  · exact Text.not_isBlank_of_sameLetters h (by cases kernel <;> decide)
  · exact Text.not_isBlank_of_sameLetters h (by cases kernel <;> decide)

/-! ### Other texts -/

theorem withoutUnit_cases (s : List Char) : withoutUnit s = s ∨ s = withoutUnit s ++ unit := by
  unfold withoutUnit
  split
  · next rest hrest =>
    right
    have hreverse := Text.append_of_after? hrest
    have hs := congrArg List.reverse hreverse
    rwa [List.reverse_append, List.reverse_reverse, List.reverse_reverse] at hs
  · left; rfl

theorem spells_of_withoutUnit {kernel : Kernel} {text : List Char}
    (h : Text.sameLetters kernel.name.toList (withoutUnit (text.map Char.toLower)) = true) :
    kernel.Spells text := by
  have hlower : (text.map Char.toLower).map Char.toLower = text.map Char.toLower := by
    rw [List.map_map]
    exact List.map_congr_left fun c _ => Text.toLower_toLower c
  have hname : kernel.name.toList.map Char.toLower =
      (withoutUnit (text.map Char.toLower)).map Char.toLower := by
    simpa [Text.sameLetters] using h
  rcases withoutUnit_cases (text.map Char.toLower) with hbase | hbase
  · left
    rw [hbase, hlower] at hname
    simp [Text.sameLetters, hname]
  · right
    generalize withoutUnit (text.map Char.toLower) = base at hname hbase
    have hunit : unit.map Char.toLower = unit := by decide
    -- what stands before the unit is in lower case, as the whole text is
    have hcase : base.map Char.toLower = base := by
      rw [hbase, List.map_append, hunit] at hlower
      exact List.append_cancel_right hlower
    rw [hcase] at hname
    simp [Text.sameLetters, hname, hunit, hbase]

/-- **A kernel is found under the texts that spell its name**, whatever blanks are around them. -/
theorem ofName?_eq_some_iff {kernel : Kernel} {text : List Char} :
    ofName? text = some kernel ↔ kernel.Spells (Text.trim text) := by
  constructor
  · intro h
    have hfound : all.find? (fun kernel => Text.sameLetters kernel.name.toList
        (withoutUnit ((Text.trim text).map Char.toLower))) = some kernel := h
    exact spells_of_withoutUnit (List.find?_some hfound :)
  · intro h
    have htrim : ofName? text = ofName? (Text.trim text) := by
      rw [ofName?, ofName?, Text.trim_eq_self h.not_isBlank]
    rw [htrim, h.ofName?_eq]

end Kernel

end KernelCharts
