import KernelCharts.Proofs.Text.Characters
import KernelCharts.Proofs.Text.Pieces
import KernelCharts.Report.Context
import Mathlib.Data.List.Infix
import Mathlib.Data.List.TakeWhile

/-!
# The file that a line names

* `FileName` — a file name with an extension;
* `fileName?_path` — the file name at the end of a path is found, whatever directories are before it;
* `contextFile?_file` — a line in which a path follows the word `file` names the file;
* `contextFile?_eq_none` — a line without the word names none;
* `exists_fileName_of_contextFile?` — what any line names is a file name with an extension.
-/

namespace KernelCharts.Report

/-! ## File names -/

structure FileName where
  stem : List Char
  extension : List Char
  stem_ne_nil : stem ≠ []
  isNameChar_stem : ∀ c ∈ stem, isNameChar c = true
  extension_ne_nil : extension ≠ []
  isAlphanumeric_extension : ∀ c ∈ extension, Text.isAlphanumeric c = true

def FileName.text (name : FileName) : List Char := name.stem ++ '.' :: name.extension

theorem isNameChar_of_isAlphanumeric {c : Char} (h : Text.isAlphanumeric c = true) :
    isNameChar c = true := by
  have hblank := Text.isBlank_of_isAlphanumeric h
  have hslash : c ≠ '/' := Text.ne_of_isAlphanumeric h (by decide)
  have hcomma : c ≠ ',' := Text.ne_of_isAlphanumeric h (by decide)
  have hbar : c ≠ '|' := Text.ne_of_isAlphanumeric h (by decide)
  simp [isNameChar, hblank, hslash, hcomma, hbar]

theorem not_isBlank_of_isNameChar {c : Char} (h : isNameChar c = true) : Text.isBlank c = false := by
  simp only [isNameChar, Bool.not_eq_true', Bool.or_eq_false_iff] at h
  exact h.2

theorem FileName.isNameChar_text (name : FileName) : ∀ c ∈ name.text, isNameChar c = true := by
  intro c hc
  rcases List.mem_append.1 hc with hstem | hrest
  · exact name.isNameChar_stem c hstem
  · rcases List.mem_cons.1 hrest with rfl | hextension
    · decide
    · exact isNameChar_of_isAlphanumeric (name.isAlphanumeric_extension c hextension)

/-- A text without a dot has no extension. -/
theorem extended?_eq_none {s : List Char} (h : '.' ∉ s) : extended? s = none := by
  induction s with
  | nil => rfl
  | cons c cs ih =>
    rw [List.mem_cons, not_or] at h
    rw [extended?, ih h.2]
    exact if_neg fun hdot => h.1 hdot.1.symm

/-- **A text that ends in an extension** counts as a whole, whatever dots it has before. -/
theorem extended?_append {extension : List Char} (hne : extension ≠ [])
    (h : ∀ c ∈ extension, Text.isAlphanumeric c = true) (s : List Char) :
    extended? (s ++ '.' :: extension) = some (s ++ '.' :: extension) := by
  induction s with
  | nil =>
    have hdot : '.' ∉ extension := fun hmem => absurd (h '.' hmem) (by decide)
    have hall : extension.takeWhile Text.isAlphanumeric = extension := List.takeWhile_eq_self_iff.2 h
    rw [List.nil_append, extended?, extended?_eq_none hdot]
    simp only [hall]
    rw [if_pos ⟨trivial, hne⟩]
  | cons c cs ih => rw [List.cons_append, extended?, ih]

/-- Nothing goes on a file name: what comes after it is empty or starts with another character. -/
def EndsName (after : List Char) : Prop := ∀ c, after.head? = some c → isNameChar c = false

theorem takeWhile_append_of_ends {p : Char → Bool} {s after : List Char} (hs : ∀ c ∈ s, p c = true)
    (hafter : ∀ c, after.head? = some c → p c = false) : (s ++ after).takeWhile p = s := by
  rw [List.takeWhile_append_of_pos hs]
  cases after with
  | nil => exact List.append_nil s
  | cons c cs => rw [List.takeWhile_cons_of_neg (by simp [hafter c rfl]), List.append_nil]

theorem FileName.nameAtStart?_text (name : FileName) {after : List Char} (hafter : EndsName after) :
    nameAtStart? (name.text ++ after) = some name.text := by
  unfold nameAtStart?
  rw [takeWhile_append_of_ends name.isNameChar_text hafter]
  obtain ⟨c, cs, hstem⟩ := List.exists_cons_of_ne_nil name.stem_ne_nil
  have htext : name.text = c :: (cs ++ '.' :: name.extension) := by rw [FileName.text, hstem]; rfl
  rw [htext]
  simp only [extended?_append name.extension_ne_nil name.isAlphanumeric_extension, Option.map_some]

/-! ## Paths -/

/-- The text can stand before a file name in a path: it is empty or ends in a slash, without blanks. -/
structure IsDirectory (directory : List Char) : Prop where
  slash : directory = [] ∨ ∃ parents, directory = parents ++ ['/']
  blankless : ∀ c ∈ directory, Text.isBlank c = false

theorem afterSlashes_of_not_mem {s : List Char} (h : '/' ∉ s) : afterSlashes s = [] := by
  induction s with
  | nil => rfl
  | cons c cs ih =>
    rw [List.mem_cons, not_or] at h
    rw [afterSlashes, if_neg (Ne.symm h.1), ih h.2]

/-- What follows the last slash comes first. -/
theorem head?_afterSlashes (parents : List Char) {s : List Char} (h : '/' ∉ s) :
    (afterSlashes (parents ++ '/' :: s)).head? = some s := by
  induction parents with
  | nil => rw [List.nil_append, afterSlashes, if_pos rfl, afterSlashes_of_not_mem h]; rfl
  | cons c cs ih =>
    rw [List.cons_append, afterSlashes]
    split
    · rw [List.head?_append, ih]; rfl
    · exact ih

theorem IsDirectory.head?_afterSlashes {directory s : List Char} (hdirectory : IsDirectory directory)
    (h : '/' ∉ s) : (afterSlashes (directory ++ s) ++ [directory ++ s]).head? = some s := by
  rcases hdirectory.slash with rfl | ⟨parents, rfl⟩
  · rw [List.nil_append, afterSlashes_of_not_mem h]; rfl
  · rw [List.append_assoc, List.singleton_append, List.head?_append,
      Report.head?_afterSlashes parents h]
    rfl

/-- **The file name at the end of a path** is found, whatever the directories are. -/
theorem fileName?_path {directory after : List Char} (hdirectory : IsDirectory directory)
    (name : FileName) (hafter : EndsName after) (hslash : '/' ∉ after) :
    fileName? (directory ++ (name.text ++ after)) = some name.text := by
  have hlast : '/' ∉ name.text ++ after := by
    rw [List.mem_append, not_or]
    exact ⟨fun hmem => absurd (name.isNameChar_text _ hmem) (by decide), hslash⟩
  obtain ⟨others, hcandidates⟩ := List.head?_eq_some_iff.1 (hdirectory.head?_afterSlashes hlast)
  rw [fileName?, hcandidates, List.findSome?_cons, name.nameAtStart?_text hafter]

/-! ## The word -/

theorem after?_append (word s : List Char) : Text.after? word (word ++ s) = some s := by
  induction word with
  | nil => rfl
  | cons c cs ih => rw [List.cons_append, Text.after?, if_pos rfl, ih]

theorem after?_eq_none {word s : List Char} (h : ¬ word <+: s) : Text.after? word s = none := by
  induction word generalizing s with
  | nil => exact absurd List.nil_prefix h
  | cons c cs ih =>
    cases s with
    | nil => rfl
    | cons d ds =>
      rw [Text.after?]
      split
      · next hc =>
        subst hc
        exact ih fun hstarts => h ((List.prefix_cons_inj c).2 hstarts)
      · rfl

/-- the word that announces a path -/
def fileWord : List Char := "file".toList

/-- **The word does not start within a text without it**, even if the text is followed by it. -/
theorem not_starts_fileWord {c : Char} {cs : List Char} (h : ¬ fileWord <:+: c :: cs)
    (rest : List Char) : ¬ fileWord <+: c :: cs ++ (fileWord ++ rest) := by
  intro hstarts
  -- a shorter text is a start of the word, and what the word has after it would start the word again
  by_cases hlong : fileWord.length ≤ (c :: cs).length
  · exact h (List.prefix_of_prefix_length_le hstarts (List.prefix_append _ _) hlong).isInfix
  · rcases cs with _ | ⟨d, _ | ⟨e, _ | ⟨f, cs⟩⟩⟩
    · simp [fileWord, List.cons_prefix_cons] at hstarts
    · simp [fileWord, List.cons_prefix_cons] at hstarts
    · simp [fileWord, List.cons_prefix_cons] at hstarts
    · exact hlong (by simp [fileWord])

theorem length_le_of_append_fileWord {before before' rest rest' : List Char}
    (h : ¬ fileWord <:+: before')
    (heq : before ++ (fileWord ++ rest) = before' ++ (fileWord ++ rest')) :
    before'.length ≤ before.length := by
  by_contra hlong
  rcases List.append_eq_append_iff.1 heq with ⟨gap, rfl, hgap⟩ | ⟨gap, rfl, -⟩
  · cases gap with
    | nil => simp at hlong
    | cons c cs =>
      have hfree : ¬ fileWord <:+: c :: cs := fun hwithin =>
        h (hwithin.trans (List.suffix_append before (c :: cs)).isInfix)
      exact not_starts_fileWord hfree rest' (hgap ▸ List.prefix_append _ _)
  · simp at hlong

/-- **The first place of the word in a text is one place.** -/
theorem append_fileWord_inj {before before' rest rest' : List Char} (h : ¬ fileWord <:+: before)
    (h' : ¬ fileWord <:+: before')
    (heq : before ++ (fileWord ++ rest) = before' ++ (fileWord ++ rest')) :
    before = before' ∧ rest = rest' := by
  have hlength := Nat.le_antisymm (length_le_of_append_fileWord h heq.symm)
    (length_le_of_append_fileWord h' heq)
  obtain ⟨hbefore, hafter⟩ := List.append_inj heq hlength
  exact ⟨hbefore, List.append_cancel_left hafter⟩

/-- A line is searched up to the word. -/
theorem contextFrom?_append {before : List Char} (h : ¬ fileWord <:+: before) (inWord : Bool)
    (rest : List Char) : contextFrom? inWord (before ++ (fileWord ++ rest)) =
      contextFrom? (before.getLast?.elim inWord Text.isWord) (fileWord ++ rest) := by
  induction before generalizing inWord with
  | nil => rfl
  | cons c cs ih =>
    have hnone : Text.after? fileWord (c :: (cs ++ (fileWord ++ rest))) = none :=
      after?_eq_none (not_starts_fileWord h rest)
    have hcs : ¬ fileWord <:+: cs := fun hwithin => h (hwithin.trans (List.suffix_cons c cs).isInfix)
    rw [List.cons_append, contextFrom?, show "file".toList = fileWord from rfl, hnone]
    simp only [Option.bind_none, ite_self]
    rw [ih hcs]
    cases cs with
    | nil => rfl
    | cons d ds => rw [List.getLast?_cons_cons]; rfl

theorem contextFrom?_eq_none {line : List Char} (h : ¬ fileWord <:+: line) (inWord : Bool) :
    contextFrom? inWord line = none := by
  induction line generalizing inWord with
  | nil => rfl
  | cons c cs ih =>
    have hnone : Text.after? fileWord (c :: cs) = none :=
      after?_eq_none fun hstarts => h hstarts.isInfix
    rw [contextFrom?, show "file".toList = fileWord from rfl, hnone]
    simp only [Option.bind_none, ite_self]
    exact ih (fun hwithin => h (hwithin.trans (List.suffix_cons c cs).isInfix)) _

/-- The word counts where no other word goes on. -/
theorem contextFrom?_fileWord {rest name : List Char} (h : afterWord? rest = some name) :
    contextFrom? false (fileWord ++ rest) = some name := by
  have hafter : Text.after? "file".toList ('f' :: ("ile".toList ++ rest)) = some rest :=
    after?_append fileWord rest
  change contextFrom? false ('f' :: ("ile".toList ++ rest)) = some name
  rw [contextFrom?, hafter]
  simp only [Bool.false_eq_true, if_false, Option.bind_some, h]

/-- **A line without the word names no file.** -/
theorem contextFile?_eq_none {line : List Char} (h : ¬ fileWord <:+: line) :
    contextFile? line = none := contextFrom?_eq_none h false

/-! ## Lines -/

/-- A path that follows the word is read up to the first blank. -/
theorem afterWord?_path {blanks blanks' directory after : List Char}
    (hblanks : ∀ c ∈ blanks, Text.isBlank c = true) (hblanks' : ∀ c ∈ blanks', Text.isBlank c = true)
    (hdirectory : IsDirectory directory) (name : FileName) (hafter : EndsName after)
    (hslash : '/' ∉ after.takeWhile fun c => !Text.isBlank c) :
    afterWord? (blanks ++ ':' :: (blanks' ++ (directory ++ (name.text ++ after)))) = some name.text := by
  have hpath : ∀ c ∈ directory ++ name.text, Text.isBlank c = false := by
    intro c hc
    rcases List.mem_append.1 hc with hc | hc
    · exact hdirectory.blankless c hc
    · exact not_isBlank_of_isNameChar (name.isNameChar_text c hc)
  have hcolon : Text.trimStart (':' :: (blanks' ++ (directory ++ (name.text ++ after)))) =
      ':' :: (blanks' ++ (directory ++ (name.text ++ after))) :=
    Text.trimStart_eq_self fun c hc => by cases hc; decide
  have hstart : Text.trimStart (directory ++ (name.text ++ after)) =
      directory ++ (name.text ++ after) := by
    refine Text.trimStart_eq_self fun c hc => hpath c ?_
    have hne : directory ++ name.text ≠ [] := by simp [FileName.text]
    obtain ⟨d, ds, hd⟩ := List.exists_cons_of_ne_nil hne
    rw [← List.append_assoc, hd] at hc
    cases hc
    exact hd ▸ List.mem_cons_self
  unfold afterWord?
  rw [Text.trimStart_append hblanks, hcolon]
  simp only
  rw [Text.trimStart_append hblanks', hstart, ← List.append_assoc, List.takeWhile_append_of_pos,
    List.append_assoc]
  · refine fileName?_path hdirectory name (fun c hc => ?_) hslash
    cases after with
    | nil => cases hc
    | cons d ds =>
      rw [List.takeWhile_cons] at hc
      split at hc
      · exact hafter c hc
      · cases hc
  · intro c hc
    rw [hpath c hc]
    rfl

/-- **A line in which a path follows the word `file`** names the file at the end of the path, whatever
stands before the word and after the path. -/
theorem contextFile?_file {before blanks blanks' directory after : List Char}
    (hbefore : ¬ fileWord <:+: before) (hword : ∀ c, before.getLast? = some c → Text.isWord c = false)
    (hblanks : ∀ c ∈ blanks, Text.isBlank c = true) (hblanks' : ∀ c ∈ blanks', Text.isBlank c = true)
    (hdirectory : IsDirectory directory) (name : FileName) (hafter : EndsName after)
    (hslash : '/' ∉ after.takeWhile fun c => !Text.isBlank c) :
    contextFile? (before ++ (fileWord ++
      (blanks ++ ':' :: (blanks' ++ (directory ++ (name.text ++ after)))))) = some name.text := by
  have hfree : before.getLast?.elim false Text.isWord = false := by
    cases hlast : before.getLast? with
    | none => rfl
    | some c => exact hword c hlast
  rw [contextFile?, contextFrom?_append hbefore, hfree]
  exact contextFrom?_fileWord (afterWord?_path hblanks hblanks' hdirectory name hafter hslash)

theorem contextFile?_path {before directory : List Char} (hbefore : ¬ fileWord <:+: before)
    (hword : ∀ c, before.getLast? = some c → Text.isWord c = false)
    (hdirectory : IsDirectory directory) (name : FileName) :
    contextFile? (before ++ (fileWord ++ (": ".toList ++ (directory ++ name.text)))) =
      some name.text := by
  have h : contextFile? (before ++ (fileWord ++
      ([] ++ ':' :: ([' '] ++ (directory ++ (name.text ++ [])))))) = some name.text :=
    contextFile?_file hbefore hword (by simp) (List.forall_mem_singleton.2 (by decide)) hdirectory name
      (by simp [EndsName]) (by simp)
  rw [List.append_nil] at h
  exact h

/-! ## Names that are found -/

theorem eq_append_of_extended? {s t : List Char} (h : extended? s = some t) :
    ∃ stem extension, t = stem ++ '.' :: extension ∧ extension ≠ [] ∧
      (∀ c ∈ extension, Text.isAlphanumeric c = true) ∧ t <+: s := by
  induction s generalizing t with
  | nil => simp [extended?] at h
  | cons c cs ih =>
    rw [extended?] at h
    cases hcs : extended? cs with
    | some rest =>
      -- the extension is further on
      obtain ⟨stem, extension, hrest, hne, hall, hstart⟩ := ih hcs
      simp only [hcs, Option.some.injEq] at h
      subst h
      exact ⟨c :: stem, extension, by rw [hrest, List.cons_append], hne, hall,
        (List.prefix_cons_inj c).2 hstart⟩
    | none =>
      simp only [hcs] at h
      split at h
      · next hdot =>
        obtain ⟨rfl, hne⟩ := hdot
        simp only [Option.some.injEq] at h
        subst h
        refine ⟨[], _, rfl, hne, ?_, (List.prefix_cons_inj _).2 (List.takeWhile_prefix _)⟩
        intro c hc
        exact List.mem_takeWhile_imp hc
      · simp at h

theorem exists_fileName_of_nameAtStart? {s text : List Char} (h : nameAtStart? s = some text) :
    ∃ name : FileName, name.text = text := by
  rw [nameAtStart?] at h
  cases hs : s.takeWhile isNameChar with
  | nil => simp [hs] at h
  | cons c cs =>
    simp only [hs] at h
    obtain ⟨rest, hrest, rfl⟩ := Option.map_eq_some_iff.1 h
    obtain ⟨stem, extension, rfl, hne, hall, hstart⟩ := eq_append_of_extended? hrest
    have hchars : ∀ d ∈ c :: cs, isNameChar d = true := by
      intro d hd
      rw [← hs] at hd
      exact List.mem_takeWhile_imp hd
    refine ⟨⟨c :: stem, extension, by simp, ?_, hne, hall⟩, rfl⟩
    intro d hd
    apply hchars
    have hmem : d ∈ c :: (stem ++ '.' :: extension) := by
      rw [← List.cons_append]
      exact List.mem_append_left _ hd
    exact ((List.prefix_cons_inj c).2 hstart).subset hmem

theorem exists_fileName_of_afterWord? {s text : List Char} (h : afterWord? s = some text) :
    ∃ name : FileName, name.text = text := by
  rw [afterWord?] at h
  split at h
  · obtain ⟨piece, -, hpiece⟩ := List.exists_of_findSome?_eq_some h
    exact exists_fileName_of_nameAtStart? hpiece
  · simp at h

/-- **What a line names is a file name with an extension**, whatever the line is. -/
theorem exists_fileName_of_contextFile? {line text : List Char} (h : contextFile? line = some text) :
    ∃ name : FileName, name.text = text := by
  rw [contextFile?] at h
  generalize false = inWord at h
  induction line generalizing inWord with
  | nil => simp [contextFrom?] at h
  | cons c cs ih =>
    rw [contextFrom?] at h
    split at h
    · next name hname =>
      cases h
      cases inWord with
      | true => simp at hname
      | false =>
        obtain ⟨rest, -, hrest⟩ := Option.bind_eq_some_iff.1 hname
        exact exists_fileName_of_afterWord? hrest
    · exact ih _ h

end KernelCharts.Report
