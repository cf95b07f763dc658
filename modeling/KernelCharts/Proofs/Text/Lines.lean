import KernelCharts.Proofs.Text.Utf8
import KernelCharts.Text.Blank
import KernelCharts.Text.Lines

/-!
# The lines of a text

Bytes are cut into lines before they are decoded.  That comes to cutting the text: line feeds and
carriage returns are bytes of their own wherever they stand.

* `Text.lines` — the lines of a text: the pieces between line feeds, without one carriage return
  before a line feed; what follows the last line feed is a line unless it is empty;
* `Lines.split_encode` — the bytes of a text are cut at the line feeds of the text;
* `Lines.map_content_split` — the lines of the bytes have the bytes of the lines;
* `Lines.exists_flatten_eq_encode` — bytes whose lines are texts are a text as a whole.
-/

namespace KernelCharts

namespace Text

/-! ## Lines -/

/-- the lines that some pieces between line feeds make up -/
def closeLines : List (List Char) → List (List Char)
  | [] => []
  | [piece] => if piece = [] then [] else [piece]
  | piece :: next :: pieces => dropLast '\r' piece :: closeLines (next :: pieces)

def lines (text : List Char) : List (List Char) := closeLines (fields '\n' text)

/-! ## Pieces -/

theorem exists_fields (sep : Char) (s : List Char) : ∃ piece pieces, fields sep s = piece :: pieces := by
  cases s with
  | nil => exact ⟨[], [], rfl⟩
  | cons c cs =>
    have h : fields sep (c :: cs) = prependField sep c (fields sep cs) := rfl
    rw [h]
    unfold prependField
    split
    · exact ⟨_, _, rfl⟩
    · split <;> exact ⟨_, _, rfl⟩

theorem fields_cons_sep (sep : Char) (s : List Char) : fields sep (sep :: s) = [] :: fields sep s := by
  have h : fields sep (sep :: s) = prependField sep sep (fields sep s) := rfl
  simp only [h, prependField, if_true]

theorem fields_cons_ne {sep c : Char} (hc : c ≠ sep) {s piece : List Char} {pieces : List (List Char)}
    (h : fields sep s = piece :: pieces) : fields sep (c :: s) = (c :: piece) :: pieces := by
  have hcons : fields sep (c :: s) = prependField sep c (fields sep s) := rfl
  rw [hcons, h, prependField, if_neg hc]

theorem not_mem_of_mem_fields {sep : Char} {s piece : List Char} (h : piece ∈ fields sep s) :
    sep ∉ piece := by
  induction s generalizing piece with
  | nil =>
    rw [show fields sep [] = [[]] from rfl, List.mem_singleton] at h
    simp [h]
  | cons c cs ih =>
    by_cases hc : c = sep
    · subst hc
      rw [fields_cons_sep, List.mem_cons] at h
      rcases h with rfl | h
      · simp
      · exact ih h
    · obtain ⟨p, ps, hps⟩ := exists_fields sep cs
      rw [fields_cons_ne hc hps, List.mem_cons] at h
      rcases h with rfl | h
      · have := ih (hps ▸ List.mem_cons_self)
        simp only [List.mem_cons, not_or]
        exact ⟨fun he => hc he.symm, this⟩
      · exact ih (hps ▸ List.mem_cons_of_mem p h)

theorem dropLast_concat (c d : Char) (s : List Char) :
    dropLast c (s ++ [d]) = if d = c then s else s ++ [d] := by
  unfold dropLast
  rw [List.reverse_append, List.reverse_singleton, List.singleton_append, dropFirst]
  split <;> simp

end Text

namespace Lines

open Utf8

/-! ## Cutting bytes -/

/-- the bytes of the lines that some pieces between line feeds make up, each with its line feed -/
def encodeLines : List (List Char) → List (List UInt8)
  | [] => []
  | [piece] => if piece = [] then [] else [encode piece]
  | piece :: next :: pieces => (encode piece ++ [lineFeed]) :: encodeLines (next :: pieces)

theorem foldr_prepend_cons {bytes : List UInt8} (h : lineFeed ∉ bytes) (line : List UInt8)
    (lines : List (List UInt8)) : bytes.foldr prepend (line :: lines) = (bytes ++ line) :: lines := by
  induction bytes with
  | nil => rfl
  | cons b bytes ih =>
    simp only [List.mem_cons, not_or] at h
    rw [List.foldr_cons, ih h.2, prepend, if_neg fun hb => h.1 hb.symm]
    rfl

theorem foldr_prepend_nil {bytes : List UInt8} (h : lineFeed ∉ bytes) (hne : bytes ≠ []) :
    bytes.foldr prepend [] = [bytes] := by
  obtain ⟨init, b, rfl⟩ := (List.eq_nil_or_concat bytes).resolve_left hne
  simp only [List.concat_eq_append, List.mem_append, List.mem_singleton, not_or] at h ⊢
  have hlast : prepend b [] = [[b]] := if_neg fun hb => h.2 hb.symm
  rw [List.foldr_append, List.foldr_cons, List.foldr_nil, hlast, foldr_prepend_cons h.1]

theorem lineFeed_not_mem_encode {s : List Char} (h : '\n' ∉ s) : lineFeed ∉ encode s :=
  fun hb => h ((mem_encode_ascii (by decide)).1 hb)

/-- a character other than a line feed goes in front of the first line -/
theorem foldr_prepend_encodeLines {c : Char} (hc : c ≠ '\n') (piece : List Char)
    (pieces : List (List Char)) :
    (String.utf8EncodeChar c).foldr prepend (encodeLines (piece :: pieces)) =
      encodeLines ((c :: piece) :: pieces) := by
  have hfeed : lineFeed ∉ String.utf8EncodeChar c := by
    have h := lineFeed_not_mem_encode (s := [c]) (by simpa using Ne.symm hc)
    simpa using h
  cases pieces with
  | nil =>
    by_cases hp : piece = []
    · subst hp
      exact (foldr_prepend_nil hfeed String.utf8EncodeChar_ne_nil).trans (by simp [encodeLines])
    · simp only [encodeLines, hp, if_false, reduceCtorEq, foldr_prepend_cons hfeed, encode_cons]
  | cons next pieces =>
    simp only [encodeLines, foldr_prepend_cons hfeed, encode_cons, List.append_assoc]

/-- **The bytes of a text are cut at its line feeds.** -/
theorem split_encode (text : List Char) : split (encode text) = encodeLines (Text.fields '\n' text) := by
  induction text with
  | nil => rfl
  | cons c cs ih =>
    have hsplit : split (encode (c :: cs)) = (String.utf8EncodeChar c).foldr prepend (split (encode cs)) := by
      rw [encode_cons, split, List.foldr_append]
      rfl
    obtain ⟨piece, pieces, h⟩ := Text.exists_fields '\n' cs
    rw [hsplit, ih]
    by_cases hc : c = '\n'
    · subst hc
      rw [Text.fields_cons_sep, h]
      rfl
    · rw [Text.fields_cons_ne hc h, h, foldr_prepend_encodeLines hc]

/-! ## The content of a line -/

theorem content_encode {s : List Char} (h : '\n' ∉ s) : content (encode s) = encode s := by
  have hfeed := lineFeed_not_mem_encode h
  unfold content
  split
  · next hnil => rw [List.reverse_eq_nil_iff.1 hnil]
  · next b bytes hb =>
    have hmem : b ∈ encode s := List.mem_reverse.1 (hb ▸ List.mem_cons_self)
    exact if_neg fun he : b = lineFeed => hfeed (he ▸ hmem)

theorem content_concat_lineFeed (bytes : List UInt8) (b : UInt8) :
    content (bytes ++ [b] ++ [lineFeed]) = if b = carriageReturn then bytes else bytes ++ [b] := by
  have hreverse : (bytes ++ [b] ++ [lineFeed]).reverse = lineFeed :: b :: bytes.reverse := by simp
  unfold content
  rw [hreverse]
  simp only [if_true, List.reverse_reverse, List.reverse_cons]

/-- the last byte of a text comes from its last character -/
theorem exists_encode_concat (s : List Char) (c : Char) :
    ∃ bytes b, encode (s ++ [c]) = bytes ++ [b] ∧ b ∈ String.utf8EncodeChar c := by
  obtain ⟨init, b, h⟩ :=
    (List.eq_nil_or_concat (String.utf8EncodeChar c)).resolve_left String.utf8EncodeChar_ne_nil
  rw [List.concat_eq_append] at h
  refine ⟨encode s ++ init, b, ?_, by simp [h]⟩
  simp [h]

/-- a line loses its line feed, and a carriage return before that -/
theorem content_encode_lineFeed (s : List Char) :
    content (encode s ++ [lineFeed]) = encode (Text.dropLast '\r' s) := by
  rcases List.eq_nil_or_concat s with rfl | ⟨s, c, rfl⟩
  · rfl
  · rw [List.concat_eq_append, Text.dropLast_concat]
    by_cases hc : c = '\r'
    · subst hc
      have he : encode (s ++ ['\r']) = encode s ++ [carriageReturn] := encode_append s ['\r']
      rw [he, content_concat_lineFeed, if_pos rfl, if_pos rfl]
    · obtain ⟨bytes, b, he, hb⟩ := exists_encode_concat s c
      have hreturn : b ≠ carriageReturn := by
        rintro rfl
        have h : carriageReturn ∈ encode [c] ↔ '\r' ∈ [c] := mem_encode_ascii (c := '\r') (by decide)
        simp only [encode_cons, encode_nil, List.append_nil, List.mem_singleton] at h
        exact hc (h.1 hb).symm
      rw [he, content_concat_lineFeed, if_neg hreturn, if_neg hc, he]

theorem map_content_encodeLines {pieces : List (List Char)} (h : ∀ piece ∈ pieces, '\n' ∉ piece) :
    (encodeLines pieces).map content = (Text.closeLines pieces).map encode := by
  induction pieces with
  | nil => rfl
  | cons piece pieces ih =>
    cases pieces with
    | nil =>
      by_cases hp : piece = []
      · simp [encodeLines, Text.closeLines, hp]
      · simp [encodeLines, Text.closeLines, hp, content_encode (h piece List.mem_cons_self)]
    | cons next pieces =>
      simp only [encodeLines, Text.closeLines, List.map_cons, content_encode_lineFeed]
      rw [ih fun p hp => h p (List.mem_cons_of_mem piece hp)]

/-- **The lines of the bytes have the bytes of the lines.** -/
theorem map_content_split (text : List Char) :
    (split (encode text)).map content = (Text.lines text).map encode := by
  rw [split_encode]
  exact map_content_encodeLines fun piece => Text.not_mem_of_mem_fields

/-! ## Putting lines together -/

theorem flatten_prepend (b : UInt8) (lines : List (List UInt8)) :
    (prepend b lines).flatten = b :: lines.flatten := by
  unfold prepend
  split
  · rfl
  · cases lines <;> rfl

/-- **Nothing is lost between the lines.** -/
theorem flatten_split (bytes : List UInt8) : (split bytes).flatten = bytes := by
  induction bytes with
  | nil => rfl
  | cons b bytes ih =>
    have hsplit : split (b :: bytes) = prepend b (split bytes) := rfl
    rw [hsplit, flatten_prepend, ih]

/-- What a line loses is a text. -/
theorem exists_ending (line : List UInt8) : ∃ ending, line = content line ++ encode ending := by
  rcases List.eq_nil_or_concat line with rfl | ⟨init, b, rfl⟩
  · exact ⟨[], rfl⟩
  · rw [List.concat_eq_append]
    by_cases hb : b = lineFeed
    · subst hb
      rcases List.eq_nil_or_concat init with rfl | ⟨init, c, rfl⟩
      · exact ⟨['\n'], rfl⟩
      · rw [List.concat_eq_append, content_concat_lineFeed]
        split
        · next hc =>
          subst hc
          exact ⟨['\r', '\n'], List.append_assoc init [carriageReturn] [lineFeed]⟩
        · exact ⟨['\n'], rfl⟩
    · refine ⟨[], ?_⟩
      have hreverse : (init ++ [b]).reverse = b :: init.reverse := by simp
      unfold content
      rw [hreverse]
      simp [hb]

/-- **Lines that are texts make up a text.** -/
theorem exists_flatten_eq_encode {lines : List (List UInt8)} {texts : List (List Char)}
    (h : lines.map content = texts.map encode) : ∃ text, lines.flatten = encode text := by
  induction lines generalizing texts with
  | nil => exact ⟨[], rfl⟩
  | cons line lines ih =>
    obtain ⟨first, rest, rfl, hline, hlines⟩ := List.map_eq_cons_iff.1 h.symm
    obtain ⟨text, htext⟩ := ih hlines.symm
    obtain ⟨ending, hending⟩ := exists_ending line
    refine ⟨first ++ ending ++ text, ?_⟩
    rw [List.flatten_cons, htext, hending, ← hline, encode_append, encode_append]

end Lines

end KernelCharts
