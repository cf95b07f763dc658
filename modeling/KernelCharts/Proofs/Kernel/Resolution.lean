import KernelCharts.Proofs.Kernel.Names

/-!
# Resolving names

Headers, options and settings name kernels, and all of them are resolved the same way.

* `Kernel.NamedBy`, `Kernel.namedBy_iff` — the texts that name a kernel;
* `Kernel.not_spells_of_twoUnits`, `Kernel.not_spells_of_blank` — some that name none;
* `Kernel.Resolution` — what becomes of a name, and `Kernel.resolution_ofString`.
-/

namespace KernelCharts.Kernel

variable {kernel : Kernel} {text : List Char}

/-! ## Texts that name a kernel -/

/-- The text is the name of the kernel, with the unit after it once or not at all, in any case of its
ASCII letters and with blanks around it. -/
def NamedBy (kernel : Kernel) (text : List Char) : Prop :=
  ∃ before word after, text = before ++ word ++ after ∧
    (∀ c ∈ before, Text.isBlank c = true) ∧ (∀ c ∈ after, Text.isBlank c = true) ∧
    ∃ suffix ∈ [[], "_gflops".toList], List.Forall₂ Text.SameLetter word (kernel.name.toList ++ suffix)

theorem spells_iff : kernel.Spells text ↔
    ∃ suffix ∈ [[], "_gflops".toList], List.Forall₂ Text.SameLetter text (kernel.name.toList ++ suffix) := by
  simp only [Spells, Text.sameLetters_iff, List.mem_cons, List.not_mem_nil, or_false, exists_eq_or_imp,
    exists_eq_left, List.append_nil]
  rfl

theorem namedBy_iff : kernel.NamedBy text ↔ kernel.Spells (Text.trim text) := by
  constructor
  · rintro ⟨before, word, after, rfl, hbefore, hafter, hword⟩
    have hspells : kernel.Spells word := spells_iff.2 hword
    rwa [Text.trim_append_blanks hbefore hafter, Text.trim_eq_self hspells.not_isBlank]
  · intro h
    obtain ⟨before, after, htext, hbefore, hafter⟩ := Text.exists_padding Text.isBlank text
    exact ⟨before, Text.trim text, after, htext, hbefore, hafter, spells_iff.1 h⟩

/-- **A kernel is found under the texts that name it.** -/
theorem ofName?_eq_some_iff_namedBy : ofName? text = some kernel ↔ kernel.NamedBy text :=
  ofName?_eq_some_iff.trans namedBy_iff.symm

/-- **No text names two kernels.** -/
theorem NamedBy.unique {other : Kernel} (h : kernel.NamedBy text) (hother : other.NamedBy text) :
    kernel = other := by
  have hkernel := ofName?_eq_some_iff_namedBy.2 h
  rw [ofName?_eq_some_iff_namedBy.2 hother, Option.some.injEq] at hkernel
  exact hkernel.symm

/-! ## Texts that name none -/

/-- No name ends in two units, whatever stands before them. -/
theorem not_spells_of_twoUnits {units : List Char}
    (hunits : Text.sameLetters units "_gflops_gflops".toList = true) (front : List Char) :
    ¬ kernel.Spells (front ++ units) := by
  intro h
  have hlower : units.map Char.toLower = "_gflops_gflops".toList.map Char.toLower := by
    simpa only [Text.sameLetters, beq_iff_eq] using hunits
  have hends {word : List Char} (hword : Text.sameLetters (front ++ units) word = true) :
      "_gflops_gflops".toList.map Char.toLower <:+ word.map Char.toLower := by
    rw [Text.sameLetters, beq_iff_eq, List.map_append, hlower] at hword
    exact ⟨_, hword⟩
  rcases h with h | h
  · exact absurd (hends h) (by cases kernel <;> decide)
  · exact absurd (hends h) (by cases kernel <;> decide)

theorem not_namedBy_of_twoUnits {front units after : List Char}
    (hunits : List.Forall₂ Text.SameLetter units "_gflops_gflops".toList)
    (hafter : ∀ c ∈ after, Text.isBlank c = true) : ¬ kernel.NamedBy (front ++ units ++ after) := by
  have hsame := Text.sameLetters_iff.2 hunits
  have hblank := Text.not_isBlank_of_sameLetters hsame (by decide)
  have hne : units ≠ [] := by
    rintro rfl
    cases hunits
  have htrim : Text.trim (front ++ units ++ after) = Text.trimStart front ++ units := by
    rw [← List.nil_append (front ++ units), Text.trim_append_blanks (by simp) hafter,
      Text.trim_append_word hne hblank]
  rw [namedBy_iff, htrim]
  exact not_spells_of_twoUnits hsame _

/-- No name has a blank between two other characters. -/
theorem not_namedBy_of_blank {front back : List Char} {c : Char} (hc : Text.isBlank c = true)
    (hfront : ∃ d ∈ front, Text.isBlank d = false) (hback : ∃ d ∈ back, Text.isBlank d = false) :
    ¬ kernel.NamedBy (front ++ c :: back) := by
  intro h
  have hspells := namedBy_iff.1 h
  rw [← List.singleton_append, ← List.append_assoc, Text.trim_between hfront hback] at hspells
  have hblank := hspells.not_isBlank c (by simp)
  rw [hc] at hblank
  cases hblank

/-! ## Resolution -/

theorem ofString_eq_ok_iff {name : String} : ofString name = .ok kernel ↔ kernel.NamedBy name.toList := by
  rw [← ofName?_eq_some_iff_namedBy, ofString]
  cases ofName? name.toList with
  | none => exact iff_of_false (fun h => by cases h) fun h => by cases h
  | some found => simp

theorem ofString_eq_error_iff {name : String} {e : UnknownKernel} :
    ofString name = .error e ↔ e = ⟨name⟩ ∧ ∀ kernel : Kernel, ¬ kernel.NamedBy name.toList := by
  simp only [← ofName?_eq_some_iff_namedBy, ofString]
  cases ofName? name.toList with
  | none => simp [eq_comm]
  | some found => simp

theorem ofString_eq_error {name : String} (h : ∀ kernel : Kernel, ¬ kernel.NamedBy name.toList) :
    ofString name = .error ⟨name⟩ :=
  ofString_eq_error_iff.2 ⟨rfl, h⟩

structure Resolution (name : String) : Prop where
  /-- the kernel that is found is the one that is named -/
  found : ∀ kernel, ofName? name.toList = some kernel ↔ kernel.NamedBy name.toList
  resolved : ∀ kernel, ofString name = .ok kernel ↔ kernel.NamedBy name.toList
  /-- a name that is turned down comes back as it is -/
  unknown : ∀ e, ofString name = .error e ↔ e = ⟨name⟩ ∧ ∀ kernel : Kernel, ¬ kernel.NamedBy name.toList
  /-- no other kernel is named as well -/
  unique : ∀ kernel other : Kernel, kernel.NamedBy name.toList → other.NamedBy name.toList → kernel = other
  /-- a second unit is no part of a name -/
  twoUnits : ∀ front units after, name.toList = front ++ units ++ after →
    List.Forall₂ Text.SameLetter units "_gflops_gflops".toList → (∀ c ∈ after, Text.isBlank c = true) →
      ofString name = .error ⟨name⟩
  /-- nor is a blank between other characters -/
  innerBlank : ∀ front c back, name.toList = front ++ c :: back → Text.isBlank c = true →
    (∃ d ∈ front, Text.isBlank d = false) → (∃ d ∈ back, Text.isBlank d = false) →
      ofString name = .error ⟨name⟩

/-- **Names resolve exactly and to one kernel.** -/
theorem resolution_ofString (name : String) : Resolution name := by
  constructor
  case found => exact fun kernel => ofName?_eq_some_iff_namedBy
  case resolved => exact fun kernel => ofString_eq_ok_iff
  case unknown => exact fun e => ofString_eq_error_iff
  case unique => exact fun kernel other h hother => h.unique hother
  case twoUnits =>
    intro front units after hname hunits hafter
    exact ofString_eq_error fun kernel => hname ▸ not_namedBy_of_twoUnits hunits hafter
  case innerBlank =>
    intro front c back hname hc hfront hback
    exact ofString_eq_error fun kernel => hname ▸ not_namedBy_of_blank hc hfront hback

end KernelCharts.Kernel
