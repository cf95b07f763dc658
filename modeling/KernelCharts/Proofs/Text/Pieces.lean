import KernelCharts.Proofs.Text.Lines
import Mathlib.Data.List.TakeWhile

/-!
# Pieces put together

Taking a text apart undoes putting it together.

* `append_of_after?` — a word and what follows it;
* `fields_intercalate`, `fields_flatMap_append` — the pieces between separators;
* `trim_pad`, `trim_append_blanks` — a text with blanks around it;
* `exists_padding`, `trim_between`, `trim_append_word` — what trimming takes off, and what it leaves;
* `lines_flatMap_ending` — lines, each with its ending.
-/

namespace KernelCharts.Text

/-! ## Words -/

theorem append_of_after? {word s rest : List Char} (h : after? word s = some rest) :
    s = word ++ rest := by
  induction word generalizing s with
  | nil =>
    cases h
    rfl
  | cons c cs ih =>
    cases s with
    | nil => cases h
    | cons d ds =>
      rw [after?] at h
      split at h
      · next hc => rw [hc, ih h, List.cons_append]
      · cases h

/-! ## Separators -/

theorem fields_of_not_mem {sep : Char} {s : List Char} (h : sep ∉ s) : fields sep s = [s] := by
  induction s with
  | nil => rfl
  | cons c cs ih =>
    rw [List.mem_cons, not_or] at h
    exact fields_cons_ne (Ne.symm h.1) (ih h.2)

theorem fields_append_sep {sep : Char} {s : List Char} (h : sep ∉ s) (t : List Char) :
    fields sep (s ++ sep :: t) = s :: fields sep t := by
  induction s with
  | nil => exact fields_cons_sep sep t
  | cons c cs ih =>
    rw [List.mem_cons, not_or] at h
    exact fields_cons_ne (Ne.symm h.1) (ih h.2)

/-- **The pieces between separators are the pieces that were put together.** -/
theorem fields_intercalate {sep : Char} {pieces : List (List Char)} (hne : pieces ≠ [])
    (h : ∀ piece ∈ pieces, sep ∉ piece) : fields sep ([sep].intercalate pieces) = pieces := by
  induction pieces with
  | nil => exact absurd rfl hne
  | cons piece pieces ih =>
    have hpiece := h piece List.mem_cons_self
    cases pieces with
    | nil => rw [List.intercalate_singleton, fields_of_not_mem hpiece]
    | cons next pieces =>
      have hrest := ih (List.cons_ne_nil _ _) fun p hp => h p (List.mem_cons_of_mem piece hp)
      rw [List.intercalate_cons_cons, List.append_assoc, List.singleton_append,
        fields_append_sep hpiece, hrest]

theorem fields_flatMap_append {sep : Char} {pieces : List (List Char)} (h : ∀ piece ∈ pieces, sep ∉ piece)
    (rest : List Char) : fields sep (pieces.flatMap (· ++ [sep]) ++ rest) = pieces ++ fields sep rest := by
  induction pieces with
  | nil => rfl
  | cons piece pieces ih =>
    have hpieces := ih fun p hp => h p (List.mem_cons_of_mem piece hp)
    rw [List.flatMap_cons, List.append_assoc, List.append_assoc, List.singleton_append,
      fields_append_sep (h piece List.mem_cons_self), hpieces, List.cons_append]

/-! ## Blanks -/

theorem trimStart_append {before : List Char} (h : ∀ c ∈ before, isBlank c = true) (s : List Char) :
    trimStart (before ++ s) = trimStart s :=
  List.dropWhile_append_of_pos h

theorem trimEnd_append {after : List Char} (h : ∀ c ∈ after, isBlank c = true) (s : List Char) :
    trimEnd (s ++ after) = trimEnd s := by
  unfold trimEnd
  rw [List.reverse_append, List.dropWhile_append_of_pos]
  simpa using h

theorem trimStart_append_of_ne_nil {s : List Char} (h : trimStart s ≠ []) (t : List Char) :
    trimStart (s ++ t) = trimStart s ++ t := by
  have hempty : ¬ (s.dropWhile isBlank).isEmpty = true := mt List.isEmpty_iff.1 h
  rw [trimStart, List.dropWhile_append, if_neg hempty, trimStart]

theorem trimEnd_append_of_ne_nil {t : List Char} (h : trimEnd t ≠ []) (s : List Char) :
    trimEnd (s ++ t) = s ++ trimEnd t := by
  have hreverse : trimStart t.reverse ≠ [] := mt List.reverse_eq_nil_iff.2 h
  have hstart := trimStart_append_of_ne_nil hreverse s.reverse
  rw [trimStart, trimStart] at hstart
  rw [trimEnd, List.reverse_append, hstart, List.reverse_append, List.reverse_reverse, trimEnd]

theorem trimStart_eq_self {s : List Char} (h : ∀ c, s.head? = some c → isBlank c = false) :
    trimStart s = s := by
  cases s with
  | nil => rfl
  | cons c cs => exact List.dropWhile_cons_of_neg (by simp [h c rfl])

theorem trimEnd_eq_self {s : List Char} (h : ∀ c, s.getLast? = some c → isBlank c = false) :
    trimEnd s = s := by
  have hreverse : trimStart s.reverse = s.reverse :=
    trimStart_eq_self fun c hc => h c (by rwa [List.head?_reverse] at hc)
  rw [trimEnd, show s.reverse.dropWhile isBlank = s.reverse from hreverse, List.reverse_reverse]

theorem trim_eq_self {s : List Char} (h : ∀ c ∈ s, isBlank c = false) : trim s = s := by
  rw [trim, trimStart_eq_self fun c hc => h c (List.mem_of_mem_head? hc),
    trimEnd_eq_self fun c hc => h c (List.mem_of_mem_getLast? hc)]

/-- **Trimming takes off the blanks around a text** that has none at its ends. -/
theorem trim_pad {before text after : List Char} (hbefore : ∀ c ∈ before, isBlank c = true)
    (hafter : ∀ c ∈ after, isBlank c = true) (hhead : ∀ c, text.head? = some c → isBlank c = false)
    (hlast : ∀ c, text.getLast? = some c → isBlank c = false) :
    trim (before ++ text ++ after) = text := by
  rw [trim, List.append_assoc, trimStart_append hbefore]
  cases text with
  | nil =>
    rw [List.nil_append, ← List.append_nil after, trimStart_append hafter]
    rfl
  | cons c cs =>
    have hstart : trimStart (c :: cs ++ after) = c :: cs ++ after :=
      trimStart_eq_self fun d hd => hhead d hd
    rw [hstart, trimEnd_append hafter, trimEnd_eq_self hlast]

/-- **Blanks around a text do not change what is left of it.** -/
theorem trim_append_blanks {before after : List Char} (hbefore : ∀ c ∈ before, isBlank c = true)
    (hafter : ∀ c ∈ after, isBlank c = true) (s : List Char) :
    trim (before ++ s ++ after) = trim s := by
  rw [trim, List.append_assoc, trimStart_append hbefore, trim]
  by_cases hs : trimStart s = []
  · have hstart : trimStart (s ++ after) = [] := by
      rw [trimStart, List.dropWhile_eq_nil_iff] at hs ⊢
      intro c hc
      rcases List.mem_append.1 hc with hc | hc
      · exact hs c hc
      · exact hafter c hc
    rw [hstart, hs]
  · rw [trimStart_append_of_ne_nil hs, trimEnd_append hafter]

theorem exists_trimEnd (s : List Char) : ∃ after, s = trimEnd s ++ after ∧ ∀ c ∈ after, isBlank c = true := by
  refine ⟨(s.reverse.takeWhile isBlank).reverse, ?_, fun c hc => ?_⟩
  · rw [trimEnd, ← List.reverse_append, List.takeWhile_append_dropWhile, List.reverse_reverse]
  · exact List.mem_takeWhile_imp (List.mem_reverse.1 hc)

/-- What is taken off a list on either side is put back on either side. -/
theorem exists_padding {β : Type} (p : β → Bool) (s : List β) : ∃ before after,
    s = before ++ ((s.dropWhile p).reverse.dropWhile p).reverse ++ after ∧
      (∀ c ∈ before, p c = true) ∧ ∀ c ∈ after, p c = true := by
  refine ⟨s.takeWhile p, ((s.dropWhile p).reverse.takeWhile p).reverse, ?_, ?_, ?_⟩
  · rw [List.append_assoc, ← List.reverse_append, List.takeWhile_append_dropWhile, List.reverse_reverse,
      List.takeWhile_append_dropWhile]
  · exact fun c hc => List.mem_takeWhile_imp hc
  · exact fun c hc => List.mem_takeWhile_imp (List.mem_reverse.1 hc)

theorem trimStart_ne_nil {s : List Char} (h : ∃ c ∈ s, isBlank c = false) : trimStart s ≠ [] := by
  obtain ⟨c, hc, hblank⟩ := h
  rw [trimStart, ne_eq, List.dropWhile_eq_nil_iff]
  exact fun hall => absurd (hall c hc) (by simp [hblank])

theorem trimEnd_ne_nil {s : List Char} (h : ∃ c ∈ s, isBlank c = false) : trimEnd s ≠ [] := by
  rw [trimEnd, ne_eq, List.reverse_eq_nil_iff]
  exact trimStart_ne_nil (by simpa using h)

/-- **Trimming leaves all that stands between two characters that are no blanks.** -/
theorem trim_between {front back : List Char} (hfront : ∃ c ∈ front, isBlank c = false)
    (hback : ∃ c ∈ back, isBlank c = false) (s : List Char) :
    trim (front ++ s ++ back) = trimStart front ++ s ++ trimEnd back := by
  rw [trim, List.append_assoc, trimStart_append_of_ne_nil (trimStart_ne_nil hfront), ← List.append_assoc,
    trimEnd_append_of_ne_nil (trimEnd_ne_nil hback)]

theorem trim_append_word {word : List Char} (hne : word ≠ []) (h : ∀ c ∈ word, isBlank c = false)
    (front : List Char) : trim (front ++ word) = trimStart front ++ word := by
  have hend : trimEnd word = word := trimEnd_eq_self fun c hc => h c (List.mem_of_mem_getLast? hc)
  have hstart : trimStart (front ++ word) = trimStart front ++ word := by
    by_cases hfront : trimStart front = []
    · have hblanks : ∀ c ∈ front, isBlank c = true := List.dropWhile_eq_nil_iff.1 hfront
      rw [hfront, List.nil_append, trimStart_append hblanks,
        trimStart_eq_self fun c hc => h c (List.mem_of_mem_head? hc)]
    · exact trimStart_append_of_ne_nil hfront word
  rw [trim, hstart, trimEnd_append_of_ne_nil (by rwa [hend]), hend]

/-! ## Lines -/

/-- the end of a line: a line feed, with or without a carriage return before it -/
def ending (withReturn : Bool) : List Char := if withReturn then ['\r', '\n'] else ['\n']

theorem lines_append_feed {line : List Char} (h : '\n' ∉ line) (rest : List Char) :
    lines (line ++ '\n' :: rest) = dropLast '\r' line :: lines rest := by
  obtain ⟨piece, pieces, hrest⟩ := exists_fields '\n' rest
  rw [lines, lines, fields_append_sep h, hrest]
  rfl

theorem dropLast_eq_self {c : Char} {s : List Char} (h : s.getLast? ≠ some c) : dropLast c s = s := by
  rcases List.eq_nil_or_concat s with rfl | ⟨s, d, rfl⟩
  · rfl
  · rw [List.concat_eq_append, List.getLast?_concat, ne_eq, Option.some.injEq] at h
    rw [List.concat_eq_append, dropLast_concat, if_neg h]

theorem lines_append_ending {line : List Char} (hfeed : '\n' ∉ line)
    (hreturn : line.getLast? ≠ some '\r') (withReturn : Bool) (rest : List Char) :
    lines (line ++ ending withReturn ++ rest) = line :: lines rest := by
  cases withReturn with
  | false =>
    rw [ending, if_neg Bool.false_ne_true, List.append_assoc, List.singleton_append,
      lines_append_feed hfeed, dropLast_eq_self hreturn]
  | true =>
    have hfeed' : '\n' ∉ line ++ ['\r'] := by simpa using hfeed
    have htext : line ++ ending true ++ rest = (line ++ ['\r']) ++ '\n' :: rest := by simp [ending]
    rw [htext, lines_append_feed hfeed', dropLast_concat, if_pos rfl]

/-- **The lines of a text are the lines that were put together**, whatever their endings. -/
theorem lines_flatMap_ending {closed : List (List Char × Bool)} (hfeed : ∀ line ∈ closed, '\n' ∉ line.1)
    (hreturn : ∀ line ∈ closed, line.1.getLast? ≠ some '\r') :
    lines (closed.flatMap fun line => line.1 ++ ending line.2) = closed.map (·.1) := by
  induction closed with
  | nil => rfl
  | cons line closed ih =>
    rw [List.flatMap_cons, List.map_cons,
      lines_append_ending (hfeed line List.mem_cons_self) (hreturn line List.mem_cons_self),
      ih (fun l hl => hfeed l (List.mem_cons_of_mem line hl))
        (fun l hl => hreturn l (List.mem_cons_of_mem line hl))]

end KernelCharts.Text
