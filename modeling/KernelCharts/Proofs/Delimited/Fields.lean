import KernelCharts.Proofs.Delimited.Scanning
import KernelCharts.Proofs.Text.Pieces
import Mathlib.Data.List.TakeWhile

/-!
# Texts of fields

* `Shows`, `shows_iff` — a field with blanks around its text;
* `quotedText`, `recordText` — fields and records as text, which are quoted fields and records as bytes
  (`encode_quotedText`, `encode_recordText`);
* `trimBytes_encode`, `Text.trim_trimAscii` — the blanks that are taken off the bytes of a field are some
  of those that are taken off its text;
* `decode_eq_ok_iff` — which records are decoded: those whose fields are texts, and to these without the
  blanks around them.
-/

namespace KernelCharts

namespace Text

/-! ### Blanks -/

/-- a character that is a blank byte -/
def isBlankAscii (c : Char) : Bool :=
  c.toNat == 32 || c.toNat == 9 || c.toNat == 10 || c.toNat == 12 || c.toNat == 13

/-- the text without the blank bytes on either side -/
def trimAscii (s : List Char) : List Char :=
  ((s.dropWhile isBlankAscii).reverse.dropWhile isBlankAscii).reverse

theorem isBlank_of_isBlankAscii {c : Char} (h : isBlankAscii c = true) : isBlank c = true := by
  simp only [isBlankAscii, Bool.or_eq_true, beq_iff_eq] at h
  simp only [isBlank, Bool.or_eq_true, Bool.and_eq_true, decide_eq_true_eq, beq_iff_eq]
  omega

theorem trim_trimAscii (s : List Char) : trim (trimAscii s) = trim s := by
  obtain ⟨before, after, hs, hbefore, hafter⟩ := exists_padding isBlankAscii s
  have htrim := trim_append_blanks (fun c hc => isBlank_of_isBlankAscii (hbefore c hc))
    (fun c hc => isBlank_of_isBlankAscii (hafter c hc)) (trimAscii s)
  rw [trimAscii, ← hs] at htrim
  exact htrim.symm

end Text

namespace Delimited

open Utf8 (encode encode_cons encode_append decode?_encode)

/-! ### Fields with blanks around them -/

/-- The field has a text with blanks around it, and the text itself neither starts nor ends with one. -/
structure Shows (field text : List Char) : Prop where
  padded : ∃ before after, field = before ++ text ++ after ∧
    (∀ c ∈ before, Text.isBlank c = true) ∧ ∀ c ∈ after, Text.isBlank c = true
  head : ∀ c, text.head? = some c → Text.isBlank c = false
  last : ∀ c, text.getLast? = some c → Text.isBlank c = false

theorem Shows.trim_eq {field text : List Char} (h : Shows field text) : Text.trim field = text := by
  obtain ⟨before, after, rfl, hbefore, hafter⟩ := h.padded
  exact Text.trim_pad hbefore hafter h.head h.last

theorem Shows.trim_text {field text : List Char} (h : Shows field text) : Text.trim text = text := by
  have hempty : ∀ c ∈ ([] : List Char), Text.isBlank c = true := by simp
  have htext := Text.trim_pad hempty hempty h.head h.last
  rwa [List.nil_append, List.append_nil] at htext

theorem eq_false_of_head?_dropWhile {β : Type} {p : β → Bool} {s : List β} {b : β}
    (h : (s.dropWhile p).head? = some b) : p b = false := by
  have hnot := List.head?_dropWhile_not p s
  rw [h] at hnot
  simpa using hnot

/-- **Every field shows one text.** -/
theorem shows_iff {field text : List Char} : Shows field text ↔ Text.trim field = text := by
  refine ⟨Shows.trim_eq, ?_⟩
  rintro rfl
  obtain ⟨before, after, hfield, hbefore, hafter⟩ := Text.exists_padding Text.isBlank field
  refine ⟨⟨before, after, hfield, hbefore, hafter⟩, ?_, ?_⟩
  · intro c hc
    have htrim : Text.trim field <+: Text.trimStart field := by
      rw [← List.reverse_suffix, Text.trim, Text.trimEnd, List.reverse_reverse]
      exact List.dropWhile_suffix _
    obtain ⟨rest, hrest⟩ := htrim
    have hhead : (Text.trimStart field).head? = some c := by
      rw [← hrest, List.head?_append, hc]
      rfl
    exact eq_false_of_head?_dropWhile hhead
  · intro c hc
    rw [Text.trim, Text.trimEnd, List.getLast?_reverse] at hc
    exact eq_false_of_head?_dropWhile hc

/-! ### Blank bytes -/

theorem isBlankByte_of_mem_encodeChar {c : Char} {b : UInt8} (hb : b ∈ String.utf8EncodeChar c) :
    isBlankByte b = Text.isBlankAscii c := by
  have hbyte : isBlankByte b = true ↔
      b.toNat = 32 ∨ b.toNat = 9 ∨ b.toNat = 10 ∨ b.toNat = 12 ∨ b.toNat = 13 := by
    simp [isBlankByte, ← UInt8.toNat_inj, or_assoc]
  rw [Bool.eq_iff_iff, hbyte]
  simp only [Text.isBlankAscii, Bool.or_eq_true, beq_iff_eq]
  by_cases hascii : c.toNat ≤ 0x7F
  · rw [Utf8.encodeChar_ascii hascii, List.mem_singleton] at hb
    rw [hb, UInt8.toNat_ofNat']
    omega
  · have hlarge := Utf8.le_of_mem_encodeChar (by omega) hb
    omega

theorem dropWhile_flatMap {β γ : Type} {f : β → List γ} {p : γ → Bool} {q : β → Bool}
    (hne : ∀ x, f x ≠ []) (h : ∀ x, ∀ y ∈ f x, p y = q x) (l : List β) :
    (l.flatMap f).dropWhile p = (l.dropWhile q).flatMap f := by
  induction l with
  | nil => rfl
  | cons x l ih =>
    cases hx : q x with
    | true =>
      have hall : ∀ y ∈ f x, p y = true := fun y hy => (h x y hy).trans hx
      rw [List.flatMap_cons, List.dropWhile_append_of_pos hall, ih, List.dropWhile_cons_of_pos hx]
    | false =>
      obtain ⟨y, ys, hy⟩ := List.exists_cons_of_ne_nil (hne x)
      have hfirst : ¬ p y = true := by
        rw [h x y (hy ▸ List.mem_cons_self), hx]
        exact Bool.false_ne_true
      have hx' : ¬ q x = true := by simp [hx]
      rw [List.dropWhile_cons_of_neg hx', List.flatMap_cons, hy, List.cons_append,
        List.dropWhile_cons_of_neg hfirst]

/-- **The blanks that are taken off the bytes of a text are blanks of the text.** -/
theorem trimBytes_encode (text : List Char) : trimBytes (encode text) = encode (Text.trimAscii text) := by
  have hstart : (encode text).dropWhile isBlankByte = encode (text.dropWhile Text.isBlankAscii) :=
    dropWhile_flatMap (fun _ => String.utf8EncodeChar_ne_nil)
      (fun _ _ hb => isBlankByte_of_mem_encodeChar hb) text
  have hreverse : ∀ s : List Char, (encode s).reverse =
      s.reverse.flatMap fun c => (String.utf8EncodeChar c).reverse := by
    intro s
    exact List.reverse_flatMap
  have hend : ∀ s : List Char, (encode s).reverse.dropWhile isBlankByte =
      (encode (s.reverse.dropWhile Text.isBlankAscii).reverse).reverse := by
    intro s
    rw [hreverse, hreverse, List.reverse_reverse]
    refine dropWhile_flatMap ?_ ?_ s.reverse
    · intro c hnil
      exact String.utf8EncodeChar_ne_nil (List.reverse_eq_nil_iff.1 hnil)
    · intro c b hb
      exact isBlankByte_of_mem_encodeChar (List.mem_reverse.1 hb)
  rw [trimBytes, hstart, hend, List.reverse_reverse, Text.trimAscii]

/-! ### Decoding -/

theorem decodeFields_encode (index : Nat) (texts : List (List Char)) :
    decodeFields index (texts.map encode) = .ok (texts.map Text.trim) := by
  induction texts generalizing index with
  | nil => rfl
  | cons text texts ih =>
    rw [List.map_cons, decodeFields, decode?_encode]
    simp only [ih]
    rfl

theorem exists_blanks_of_isBlankByte {bytes : List UInt8} (h : ∀ b ∈ bytes, isBlankByte b = true) :
    ∃ blanks, bytes = encode blanks ∧ ∀ c ∈ blanks, Text.isBlank c = true := by
  induction bytes with
  | nil => exact ⟨[], rfl, by simp⟩
  | cons b bytes ih =>
    rw [List.forall_mem_cons] at h
    obtain ⟨blanks, rfl, hblanks⟩ := ih h.2
    have hb : ∃ c, [b] = String.utf8EncodeChar c ∧ Text.isBlank c = true := by
      have hbyte := h.1
      simp only [isBlankByte, Bool.or_eq_true, beq_iff_eq] at hbyte
      rcases hbyte with (((rfl | rfl) | rfl) | rfl) | rfl
      · exact ⟨' ', rfl, rfl⟩
      · exact ⟨'\t', rfl, rfl⟩
      · exact ⟨'\n', rfl, rfl⟩
      · exact ⟨'\x0c', rfl, rfl⟩
      · exact ⟨'\r', rfl, rfl⟩
    obtain ⟨c, hc, hblank⟩ := hb
    refine ⟨c :: blanks, ?_, List.forall_mem_cons.2 ⟨hblank, hblanks⟩⟩
    rw [encode_cons, ← hc, List.singleton_append]

/-- A field that is a text without the blanks around it is one with them. -/
theorem exists_encode_of_decode?_trimBytes {field : List UInt8} {inner : List Char}
    (h : Utf8.decode? (trimBytes field) = some inner) :
    ∃ text, field = encode text ∧ Text.trim text = Text.trim inner := by
  -- the bytes that are taken off are blanks of the text as well
  obtain ⟨before, after, hfield, hbefore, hafter⟩ := Text.exists_padding isBlankByte field
  obtain ⟨blanks, rfl, hblanks⟩ := exists_blanks_of_isBlankByte hbefore
  obtain ⟨blanks', rfl, hblanks'⟩ := exists_blanks_of_isBlankByte hafter
  have hinner : trimBytes field = encode inner := Utf8.decode?_eq_some_iff.1 h
  rw [trimBytes] at hinner
  rw [hinner, ← encode_append, ← encode_append] at hfield
  exact ⟨_, hfield, Text.trim_append_blanks hblanks hblanks' inner⟩

theorem decodeFields_eq_ok_iff (index : Nat) {fields : List (List UInt8)} {cells : List (List Char)} :
    decodeFields index fields = .ok cells ↔
      ∃ texts : List (List Char), fields = texts.map encode ∧ cells = texts.map Text.trim := by
  constructor
  · intro h
    induction fields generalizing index cells with
    | nil =>
      cases h
      exact ⟨[], rfl, rfl⟩
    | cons field fields ih =>
      rw [decodeFields] at h
      cases hfield : Utf8.decode? field with
      | none =>
        rw [hfield] at h
        cases h
      | some text =>
        rw [hfield] at h
        cases hrest : decodeFields (index + 1) fields with
        | error fault =>
          rw [hrest] at h
          cases h
        | ok rest =>
          rw [hrest] at h
          cases h
          obtain ⟨texts, rfl, rfl⟩ := ih _ hrest
          exact ⟨text :: texts, by rw [List.map_cons, Utf8.decode?_eq_some_iff.1 hfield], rfl⟩
  · rintro ⟨texts, rfl, rfl⟩
    exact decodeFields_encode index texts

/-- Fields are texts exactly if they are without the blank bytes around them, and then the same texts but for
blanks. -/
theorem exists_texts_trimBytes_iff {fields : List (List UInt8)} {cells : List (List Char)} :
    (∃ texts : List (List Char), fields.map trimBytes = texts.map encode ∧ cells = texts.map Text.trim) ↔
      ∃ texts : List (List Char), fields = texts.map encode ∧ cells = texts.map Text.trim := by
  constructor
  · rintro ⟨inner, hfields, rfl⟩
    induction fields generalizing inner with
    | nil =>
      rw [List.map_eq_nil_iff.1 hfields.symm]
      exact ⟨[], rfl, rfl⟩
    | cons field fields ih =>
      obtain ⟨text, texts, rfl, hfield, hrest⟩ := List.map_eq_cons_iff.1 hfields.symm
      obtain ⟨outer, rfl, houter⟩ := ih texts hrest.symm
      obtain ⟨padded, rfl, hpadded⟩ := exists_encode_of_decode?_trimBytes (Utf8.decode?_eq_some_iff.2 hfield.symm)
      exact ⟨padded :: outer, rfl, by rw [List.map_cons, List.map_cons, houter, hpadded]⟩
  · rintro ⟨texts, rfl, rfl⟩
    refine ⟨texts.map Text.trimAscii, ?_, ?_⟩
    · rw [List.map_map, List.map_map]
      exact List.map_congr_left fun text _ => trimBytes_encode text
    · rw [List.map_map]
      exact List.map_congr_left fun text _ => (Text.trim_trimAscii text).symm

/-- **A record is decoded exactly if all of its fields are texts**, and to these without the blanks around
them, wherever it stands. -/
theorem decode_eq_ok_iff {record : RawRecord} {number : Nat} {cells : List (List Char)} :
    record.decode number = .ok cells ↔
      ∃ texts : List (List Char), record.fields = texts.map encode ∧
        cells = texts.map Text.trim := by
  have hfields : (∃ texts : List (List Char), (if number = 0 then record.fields else
        record.fields.map trimBytes) = texts.map encode ∧ cells = texts.map Text.trim) ↔
      ∃ texts : List (List Char), record.fields = texts.map encode ∧ cells = texts.map Text.trim := by
    split
    · exact Iff.rfl
    · exact exists_texts_trimBytes_iff
  rw [← hfields, ← decodeFields_eq_ok_iff 0, RawRecord.decode]
  dsimp only
  generalize decodeFields 0 _ = decoded
  cases decoded with
  | error fault => exact iff_of_false (fun h => by cases h) fun h => by cases h
  | ok cells' => simp [Except.mapError]

theorem decode_encode {record : RawRecord} {texts : List (List Char)}
    (h : record.fields = texts.map encode) (number : Nat) :
    record.decode number = .ok (texts.map Text.trim) :=
  decode_eq_ok_iff.2 ⟨texts, h, rfl⟩

/-! ### Quoted texts -/

/-- a field in quotes, where quotes are written twice -/
def quotedText (field : List Char) : List Char :=
  '"' :: ((field.flatMap fun c => if c = '"' then ['"', '"'] else [c]) ++ ['"'])

/-- the fields of a record in quotes, with commas between them -/
def recordText (fields : List (List Char)) : List Char := [','].intercalate (fields.map quotedText)

def RecordEnd.text : RecordEnd → List Char
  | .lineFeed => ['\n']
  | .carriageReturn => ['\r']
  | .both => ['\r', '\n']

theorem encode_recordEnd (ending : RecordEnd) : encode ending.text = ending.bytes := by
  cases ending <;> rfl

theorem escape_append (bytes bytes' : List UInt8) :
    escape (bytes ++ bytes') = escape bytes ++ escape bytes' := List.flatMap_append

theorem escape_eq_self {bytes : List UInt8} (h : quote ∉ bytes) : escape bytes = bytes := by
  induction bytes with
  | nil => rfl
  | cons b bytes ih =>
    rw [List.mem_cons, not_or] at h
    have hescape : escape (b :: bytes) = b :: escape bytes := by simp [escape, Ne.symm h.1]
    rw [hescape, ih h.2]

theorem escape_encodeChar {c : Char} (hc : c ≠ '"') :
    escape (String.utf8EncodeChar c) = String.utf8EncodeChar c := by
  apply escape_eq_self
  intro hmem
  have hquote : quote ∈ encode [c] ↔ '"' ∈ [c] := Utf8.mem_encode_ascii (c := '"') (by decide)
  rw [List.mem_singleton] at hquote
  have hencode : encode [c] = String.utf8EncodeChar c := List.flatMap_singleton _ c
  rw [hencode] at hquote
  exact hc (hquote.1 hmem).symm

theorem encode_quotedText (field : List Char) :
    encode (quotedText field) = quotedField (encode field) := by
  have hescape : encode (field.flatMap fun c => if c = '"' then ['"', '"'] else [c]) =
      escape (encode field) := by
    induction field with
    | nil => rfl
    | cons c cs ih =>
      rw [List.flatMap_cons, encode_append, ih, encode_cons, escape_append]
      by_cases hc : c = '"'
      · rw [hc]; rfl
      · rw [if_neg hc, escape_encodeChar hc]
        simp
  rw [quotedText, encode_cons, encode_append, hescape]
  rfl

/-- **A record is written the same way as text and as bytes.** -/
theorem encode_recordText (fields : List (List Char)) :
    encode (recordText fields) = quotedRecord (fields.map encode) := by
  induction fields with
  | nil => rfl
  | cons field fields ih =>
    cases fields with
    | nil =>
      simp only [recordText, quotedRecord, List.map_cons, List.map_nil, List.intercalate_singleton,
        encode_quotedText]
    | cons next fields =>
      have hcomma : encode [','] = [comma] := rfl
      have htext : recordText (field :: next :: fields) =
          quotedText field ++ [','] ++ recordText (next :: fields) := List.intercalate_cons_cons
      have hbytes : quotedRecord ((field :: next :: fields).map encode) =
          quotedField (encode field) ++ [comma] ++ quotedRecord ((next :: fields).map encode) :=
        List.intercalate_cons_cons
      rw [htext, hbytes, encode_append, encode_append, encode_quotedText, hcomma, ih]

end Delimited

end KernelCharts
