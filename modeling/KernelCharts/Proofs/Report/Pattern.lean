import KernelCharts.Report.Extract
import KernelCharts.Proofs.Report.Context
import KernelCharts.Proofs.Report.Row
import KernelCharts.Proofs.Text.Pattern

/-!
# The pattern of context lines

A line names a file if it has a match of `\bfile\s*:\s*(?:\S*/)?([^/\s,|]+\.[A-Za-z0-9]+)`, and then what the group
takes.  Of the ways to match, in the order of backtracking, the first one is meant: the directories go up to the last
slash that a file name follows, and the name up to the last dot that an extension follows.

* `filePattern` — the pattern;
* `taken_stem`, `told_name`, `told_path`, `told_afterWord` — what each part of it takes;
* `capture?_filePattern` — the file of a line is what the group takes in the first match;
* `EndsPath`, `names_file` — a line in which a path follows the word `file` names the file at its end.
-/

namespace KernelCharts.Report

open Text (Pattern)
open Text.Pattern

/-! ## The pattern -/

/-- an extension with its dot: `\.[A-Za-z0-9]+` -/
def extensionPattern : Pattern := .seq (.one (· = '.')) (.seq (.one Text.isAlphanumeric) (.many Text.isAlphanumeric))

/-- a file name: `([^/\s,|]+\.[A-Za-z0-9]+)` -/
def namePattern : Pattern := .group (.seq (.one isNameChar) (.seq (.many isNameChar) extensionPattern))

/-- directories: `\S*/` -/
def directoryPattern : Pattern := .seq (.many fun c => !Text.isBlank c) (.one (· = '/'))

/-- a path, with directories or without: `(?:\S*/)?([^/\s,|]+\.[A-Za-z0-9]+)` -/
def pathPattern : Pattern := .seq (.optional directoryPattern) namePattern

/-- what follows the word: `\s*:\s*(?:\S*/)?([^/\s,|]+\.[A-Za-z0-9]+)` -/
def afterWordPattern : Pattern :=
  .seq (.many Text.isBlank) (.seq (.one (· = ':')) (.seq (.many Text.isBlank) pathPattern))

/-- the characters of a text, and then another pattern -/
def literal (text : List Char) (after : Pattern) : Pattern :=
  text.foldr (fun c rest => .seq (.one (· = c)) rest) after

/-- the pattern of a context line: `\bfile\s*:\s*(?:\S*/)?([^/\s,|]+\.[A-Za-z0-9]+)` -/
def filePattern : Pattern := .seq .border (literal fileWord afterWordPattern)

/-! ## Names -/

variable {before : Option Char} {s : List Char}

theorem taken_extension_cons {c : Char} {cs : List Char} : extensionPattern.taken before (c :: cs) =
    if c = '.' ∧ cs.takeWhile Text.isAlphanumeric ≠ [] then some (c :: cs.takeWhile Text.isAlphanumeric)
    else none := by
  rw [extensionPattern, taken_one_seq_cons]
  cases cs with
  | nil => simp [taken_one_seq_nil]
  | cons d ds =>
    rw [taken_one_seq_cons, taken_many, List.takeWhile_cons]
    by_cases hdot : c = '.' <;> by_cases hd : Text.isAlphanumeric d <;> simp [hdot, hd]

/-- A class within another one is not cut short by it. -/
theorem takeWhile_takeWhile_of_imp {p q : Char → Bool} (h : ∀ c, p c = true → q c = true) (s : List Char) :
    (s.takeWhile q).takeWhile p = s.takeWhile p := by
  rw [List.takeWhile_takeWhile]
  congr 1
  funext c
  rw [Bool.eq_iff_iff, decide_eq_true_eq]
  exact and_iff_left_of_imp (h c)

/-- **The name goes on up to the last dot that an extension follows.** -/
theorem taken_stem : (Pattern.seq (.many isNameChar) extensionPattern).taken before s =
    extended? (s.takeWhile isNameChar) := by
  induction s generalizing before with
  | nil => exact taken_many_seq_nil
  | cons c cs ih =>
    rw [taken_many_seq_cons, taken_extension_cons, ih]
    split
    · next hc =>
      rw [List.takeWhile_cons_of_pos hc, extended?,
        takeWhile_takeWhile_of_imp (fun _ => isNameChar_of_isAlphanumeric)]
      cases extended? (cs.takeWhile isNameChar) <;> rfl
    · next hc =>
      have hdot : c ≠ '.' := by
        rintro rfl
        exact hc (by decide)
      rw [List.takeWhile_cons_of_neg hc, if_neg fun h => hdot h.1]
      rfl

theorem told_name : namePattern.told before s = (nameAtStart? s).map some := by
  rw [namePattern, told_group]
  congr 1
  cases s with
  | nil => rfl
  | cons c cs =>
    rw [taken_one_seq_cons, taken_stem, nameAtStart?]
    split
    · next hc => rw [List.takeWhile_cons_of_pos hc]
    · next hc => rw [List.takeWhile_cons_of_neg hc]

/-! ## Paths -/

/-- A file name ends with the path. -/
theorem nameAtStart?_takeWhile (s : List Char) :
    nameAtStart? (s.takeWhile fun c => !Text.isBlank c) = nameAtStart? s := by
  rw [nameAtStart?, takeWhile_takeWhile_of_imp fun c hc => by rw [not_isBlank_of_isNameChar hc]; rfl]
  rfl

/-- **The directories go up to the last slash that a file name follows.** -/
theorem told_directory : (Pattern.seq directoryPattern namePattern).told before s =
    ((afterSlashes (s.takeWhile fun c => !Text.isBlank c)).findSome? nameAtStart?).map some := by
  rw [directoryPattern, told_seq_assoc]
  induction s generalizing before with
  | nil => exact told_many_seq_nil
  | cons c cs ih =>
    rw [told_many_seq_cons, told_one_seq_cons, told_name, ih, List.takeWhile_cons]
    split
    · next hc =>
      rw [afterSlashes]
      by_cases hslash : c = '/'
      · rw [if_pos (decide_eq_true hslash), if_pos hslash, List.findSome?_append, List.findSome?_singleton,
          nameAtStart?_takeWhile, Option.map_or]
      · rw [if_neg (by simpa using hslash), if_neg hslash, Option.or_none]
    · next hc =>
      have hslash : c ≠ '/' := by
        rintro rfl
        exact hc (by decide)
      rw [if_neg (by simpa using hslash)]
      rfl

theorem told_path : pathPattern.told before s = (fileName? (s.takeWhile fun c => !Text.isBlank c)).map some := by
  rw [pathPattern, told_optional_seq, told_directory, told_name, fileName?, List.findSome?_append,
    List.findSome?_singleton, nameAtStart?_takeWhile, Option.map_or]

theorem told_afterWord : afterWordPattern.told before s = (afterWord? s).map some := by
  have hpath : ∀ before c cs, Text.isBlank c = true → pathPattern.told before (c :: cs) = none := by
    intro before c cs hc
    rw [told_path, List.takeWhile_cons_of_neg (by simp [hc])]
    rfl
  have hcolon : ∀ before c cs, Text.isBlank c = true →
      (Pattern.seq (.one (· = ':')) (.seq (.many Text.isBlank) pathPattern)).told before (c :: cs) = none := by
    intro before c cs hc
    rw [told_one_seq_cons, if_neg]
    rw [decide_eq_true_eq]
    rintro rfl
    exact absurd hc (by decide)
  have htrim : s.dropWhile Text.isBlank = Text.trimStart s := rfl
  rw [afterWordPattern, told_many_seq hcolon, afterWord?, htrim]
  cases Text.trimStart s with
  | nil => rfl
  | cons c cs =>
    rw [told_one_seq_cons, told_many_seq hpath, told_path]
    by_cases hc : c = ':'
    · subst hc
      rfl
    · rw [if_neg (by simpa using hc)]
      split
      · next heq => exact absurd (List.cons.inj heq).1 hc
      · rfl

/-! ## Lines -/

theorem told_literal {after : Pattern} {f : List Char → Option (Option (List Char))}
    (h : ∀ before s, after.told before s = f s) (text : List Char) :
    (literal text after).told before s = (Text.after? text s).bind f := by
  induction text generalizing before s with
  | nil => exact h before s
  | cons c cs ih =>
    rw [literal, List.foldr_cons, ← literal]
    cases s with
    | nil => rfl
    | cons d ds =>
      rw [told_one_seq_cons, ih, Text.after?]
      by_cases hd : d = c
      · rw [if_pos (decide_eq_true hd), if_pos hd.symm]
      · rw [if_neg (by simpa using hd), if_neg (Ne.symm hd), Option.bind_none]

/-- The word counts where no other word goes on. -/
theorem told_filePattern : filePattern.told before s =
    if before.any Text.isWord then none else ((Text.after? fileWord s).bind afterWord?).map some := by
  have hliteral : (literal fileWord afterWordPattern).told before s =
      ((Text.after? fileWord s).bind afterWord?).map some := by
    rw [told_literal (fun _ _ => told_afterWord), Option.map_bind]
    rfl
  have hstay : ((literal fileWord afterWordPattern).told before s).map (·.or none) =
      ((Text.after? fileWord s).bind afterWord?).map some := by
    rw [hliteral]
    simp
  rw [filePattern, told_seq, ways]
  cases hafter : Text.after? fileWord s with
  | none =>
    rw [hafter] at hstay
    rw [Option.bind_none, Option.map_none, ite_self]
    split
    · rfl
    · exact List.findSome?_singleton.trans hstay
  | some rest =>
    have hword : Text.isWord 'f' = true := by decide +kernel
    have hhead : s.head?.any Text.isWord = true := by
      rw [Text.append_of_after? hafter]
      exact hword
    rw [hafter] at hstay
    rw [hhead]
    by_cases hbefore : before.any Text.isWord = true
    · rw [if_pos hbefore, if_pos hbefore]
      rfl
    · rw [if_neg hbefore, if_neg hbefore]
      exact List.findSome?_singleton.trans hstay

theorem search_filePattern : (filePattern.search before s).bind (·.group) =
    contextFrom? (before.any Text.isWord) s := by
  induction s generalizing before with
  | nil =>
    have htold : filePattern.told before [] = none := by
      rw [told_filePattern]
      exact ite_self _
    rw [search, Option.map_eq_none_iff.1 htold]
    rfl
  | cons c cs ih =>
    have htold : filePattern.told before (c :: cs) = _ := told_filePattern
    rw [told] at htold
    rw [search, contextFrom?, show "file".toList = fileWord from rfl]
    cases hfirst : (filePattern.ways before (c :: cs)).head? with
    | none =>
      rw [hfirst, Option.map_none] at htold
      have hhere : (if before.any Text.isWord then none
          else (Text.after? fileWord (c :: cs)).bind afterWord?) = none := by
        split at htold
        · next hbefore => exact if_pos hbefore
        · next hbefore => rw [if_neg hbefore, Option.map_eq_none_iff.1 htold.symm]
      rw [hhere]
      exact ih
    | some w =>
      rw [hfirst, Option.map_some] at htold
      split at htold
      · cases htold
      · next hbefore =>
        obtain ⟨name, hname, hgroup⟩ := Option.map_eq_some_iff.1 htold.symm
        rw [if_neg hbefore, hname]
        exact hgroup.symm

/-- **The file of a line** is what the group takes in the first match of the pattern. -/
theorem capture?_filePattern (line : List Char) : filePattern.capture? line = contextFile? line :=
  search_filePattern

/-! ## Paths in lines -/

/-- Nothing goes on a path: what comes after it is empty or starts with a blank, a comma or a bar, and has no slash
before its first blank. -/
structure EndsPath (after : List Char) : Prop where
  start : ∀ c, after.head? = some c → Text.isBlank c = true ∨ c = ',' ∨ c = '|'
  slashless : '/' ∉ after.takeWhile fun c => !Text.isBlank c

theorem EndsPath.endsName {after : List Char} (h : EndsPath after) : EndsName after := by
  intro c hc
  rcases h.start c hc with hblank | rfl | rfl
  · exact Bool.eq_false_iff.2 fun hname => by simp [not_isBlank_of_isNameChar hname] at hblank
  · decide
  · decide

/-- **A line in which a path follows the word `file` names the file at the end of the path**, whatever stands before
the word, in the directories and after the path: that is what the group takes, and where the rows after the line
come from. -/
theorem names_file {before blanks blanks' directory after : List Char} (hbefore : ¬ fileWord <:+: before)
    (hword : ∀ c, before.getLast? = some c → Text.isWord c = false)
    (hblanks : ∀ c ∈ blanks, Text.isBlank c = true) (hblanks' : ∀ c ∈ blanks', Text.isBlank c = true)
    (hdirectory : IsDirectory directory) (name : FileName) (hafter : EndsPath after) :
    let line := before ++ (fileWord ++ (blanks ++ ':' :: (blanks' ++ (directory ++ (name.text ++ after)))))
    filePattern.capture? line = some name.text ∧ classify line = .context name.text ∧
      ∀ (c : Context) (cells : List (List Char)) (row : Observation Float),
        (c.next (classify line)).outcome (.data cells) = .accepted row → row.source = String.ofList name.text := by
  intro line
  have hfile : contextFile? line = some name.text :=
    contextFile?_file hbefore hword hblanks hblanks' hdirectory name hafter.endsName hafter.slashless
  have hkind : classify line = .context name.text := by rw [classify, hfile]
  refine ⟨(capture?_filePattern line).trans hfile, hkind, ?_⟩
  intro c cells row hrow
  rw [hkind, Context.next, Context.outcome] at hrow
  dsimp only at hrow
  split at hrow
  · next said hsaid =>
    cases hrow
    exact Columns.source_of_readRow hsaid
  · cases hrow

def dottedName : FileName where
  stem := "x.y".toList
  extension := "smtx".toList
  stem_ne_nil := by decide
  isNameChar_stem := List.all_eq_true.1 (by decide)
  extension_ne_nil := by decide
  isAlphanumeric_extension := List.all_eq_true.1 (by decide)

theorem names_file_dottedName :
    ¬ fileWord <:+: "## M : 1, N: 2, ".toList ∧ IsDirectory "/data//v1.2,b|c/".toList ∧ EndsPath ", next".toList ∧
      let line := "## M : 1, N: 2, file : /data//v1.2,b|c/x.y.smtx, next".toList
      filePattern.capture? line = some "x.y.smtx".toList ∧ classify line = .context "x.y.smtx".toList ∧
        ∀ (c : Context) (cells : List (List Char)) (row : Observation Float),
          (c.next (classify line)).outcome (.data cells) = .accepted row → row.source = "x.y.smtx" := by
  have hbefore : ¬ fileWord <:+: "## M : 1, N: 2, ".toList := by decide +kernel
  have hblank : ∀ c ∈ [' '], Text.isBlank c = true := List.forall_mem_singleton.2 (by decide)
  have hword : ∀ c, "## M : 1, N: 2, ".toList.getLast? = some c → Text.isWord c = false :=
    fun c hc => Text.isWord_of_isBlank (Option.some.inj hc ▸ by decide)
  have hdirectory : IsDirectory "/data//v1.2,b|c/".toList :=
    ⟨.inr ⟨"/data//v1.2,b|c".toList, by decide⟩, Text.blankless_of_any (by decide)⟩
  have hafter : EndsPath ", next".toList := ⟨fun c hc => .inr (.inl (Option.some.inj hc).symm), by decide⟩
  exact ⟨hbefore, hdirectory, hafter, names_file hbefore hword hblank hblank hdirectory dottedName hafter⟩

end KernelCharts.Report
