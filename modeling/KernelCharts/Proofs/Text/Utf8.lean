import KernelCharts.Text.Utf8

/-!
# Text as bytes and back

The bytes of a text are the encodings of its characters in a row.

* `Utf8.encode` — the bytes of a text;
* `Utf8.char?_encodeChar` — the encoding of a character, whatever follows it, is read as this
  character;
* `Utf8.decode?_encode` — decoding undoes encoding;
* `Utf8.eq_encodeChar_of_char?`, `Utf8.decode?_eq_some_iff` — and only the encoding of a text is decoded;
* `Utf8.encodeChar_ascii`, `Utf8.le_of_mem_encodeChar` — an ASCII character is one byte, and the
  bytes of the others are none of those.
-/

namespace KernelCharts.Utf8

/-! ## Characters -/

theorem toNat_bounds (c : Char) : c.toNat < 0xD800 ∨ 0xDFFF < c.toNat ∧ c.toNat < 0x110000 := by
  rcases c.valid with h | h
  · exact .inl h
  · exact .inr h

theorem char?_one {a : UInt8} {v : Nat} (rest : List UInt8) (ha : a.toNat = v) (hv : v ≤ 0x7F) :
    char? (a :: rest) = some (Char.ofNat v, rest) := by
  have h : a < 0x80 := by simp only [UInt8.lt_iff_toNat_lt, ha, UInt8.reduceToNat]; omega
  simp only [char?, h, if_true, ha]

theorem char?_two {a b : UInt8} {v : Nat} (rest : List UInt8) (ha : a.toNat = v / 64 + 0xC0)
    (hb : b.toNat = v % 64 + 0x80) (h1 : 0x7F < v) (h2 : v ≤ 0x7FF) :
    char? (a :: b :: rest) = some (Char.ofNat v, rest) := by
  have hone : ¬ a < 0x80 := by simp [UInt8.lt_iff_toNat_lt]; omega
  have htwo : (0xC2 ≤ a && a ≤ 0xDF) = true := by simp [UInt8.le_iff_toNat_le]; omega
  have htail : isTail b = true := by simp [isTail, UInt8.le_iff_toNat_le]; omega
  have hv : a.toNat % 32 * 64 + tailBits b = v := by simp only [tailBits, ha, hb]; omega
  simp only [char?, hone, htwo, htail, hv, if_true, if_false]

theorem char?_three {a b c : UInt8} {v : Nat} (rest : List UInt8) (ha : a.toNat = v / 4096 + 0xE0)
    (hb : b.toNat = v / 64 % 64 + 0x80) (hc : c.toNat = v % 64 + 0x80) (h1 : 0x7FF < v)
    (h2 : v ≤ 0xFFFF) (hvalid : v < 0xD800 ∨ 0xDFFF < v) :
    char? (a :: b :: c :: rest) = some (Char.ofNat v, rest) := by
  have hone : ¬ a < 0x80 := by simp [UInt8.lt_iff_toNat_lt]; omega
  have htwo : (0xC2 ≤ a && a ≤ 0xDF) = false := by simp [UInt8.le_iff_toNat_le]; omega
  have hthree : (0xE0 ≤ a && a ≤ 0xEF) = true := by simp [UInt8.le_iff_toNat_le]; omega
  have htail : isTail b && isTail c && (a != 0xE0 || 0xA0 ≤ b) && (a != 0xED || b ≤ 0x9F) := by
    simp [isTail, UInt8.le_iff_toNat_le, ← UInt8.toNat_inj]; omega
  have hv : (a.toNat % 16 * 64 + tailBits b) * 64 + tailBits c = v := by
    simp only [tailBits, ha, hb, hc]; omega
  simp only [char?, hone, htwo, hthree, htail, hv, if_true, if_false, Bool.false_eq_true]

theorem char?_four {a b c d : UInt8} {v : Nat} (rest : List UInt8)
    (ha : a.toNat = v / 262144 + 0xF0) (hb : b.toNat = v / 4096 % 64 + 0x80)
    (hc : c.toNat = v / 64 % 64 + 0x80) (hd : d.toNat = v % 64 + 0x80) (h1 : 0xFFFF < v)
    (h2 : v < 0x110000) : char? (a :: b :: c :: d :: rest) = some (Char.ofNat v, rest) := by
  have hone : ¬ a < 0x80 := by simp [UInt8.lt_iff_toNat_lt]; omega
  have htwo : (0xC2 ≤ a && a ≤ 0xDF) = false := by simp [UInt8.le_iff_toNat_le]; omega
  have hthree : (0xE0 ≤ a && a ≤ 0xEF) = false := by simp [UInt8.le_iff_toNat_le]; omega
  have hfour : (0xF0 ≤ a && a ≤ 0xF4) = true := by simp [UInt8.le_iff_toNat_le]; omega
  have htail : isTail b && isTail c && isTail d && (a != 0xF0 || 0x90 ≤ b) &&
      (a != 0xF4 || b ≤ 0x8F) := by
    simp [isTail, UInt8.le_iff_toNat_le, ← UInt8.toNat_inj]; omega
  have hv : ((a.toNat % 8 * 64 + tailBits b) * 64 + tailBits c) * 64 + tailBits d = v := by
    simp only [tailBits, ha, hb, hc, hd]; omega
  simp only [char?, hone, htwo, hthree, hfour, htail, hv, if_true, if_false, Bool.false_eq_true]

/-- **The encoding of a character is read as this character**, whatever follows it. -/
theorem char?_encodeChar (c : Char) (rest : List UInt8) :
    char? (String.utf8EncodeChar c ++ rest) = some (c, rest) := by
  have hbounds := toNat_bounds c
  have hc : Char.ofNat c.toNat = c := Char.ofNat_toNat c
  have hval : c.val.toNat = c.toNat := rfl
  unfold String.utf8EncodeChar
  dsimp only
  rw [hval]
  split
  · next h =>
    refine (char?_one rest ?_ h).trans (by rw [hc])
    rw [UInt8.toNat_ofNat']
    omega
  · split
    · next h1 h2 =>
      refine (char?_two rest ?_ ?_ (by omega) h2).trans (by rw [hc]) <;>
      · rw [UInt8.toNat_ofNat']
        omega
    · split
      · next h1 h2 =>
        refine (char?_three rest ?_ ?_ ?_ (by omega) h2 (by omega)).trans (by rw [hc]) <;>
        · rw [UInt8.toNat_ofNat']
          omega
      · next h1 h2 =>
        refine (char?_four (v := c.toNat) rest ?_ ?_ ?_ ?_ (by omega) (by omega)).trans (by rw [hc]) <;>
        · rw [UInt8.toNat_ofNat']
          omega

/-- an ASCII character is one byte -/
theorem encodeChar_ascii {c : Char} (h : c.toNat ≤ 0x7F) :
    String.utf8EncodeChar c = [UInt8.ofNat c.toNat] := by
  unfold String.utf8EncodeChar
  exact if_pos h

/-- the bytes of a character outside of ASCII are none of ASCII -/
theorem le_of_mem_encodeChar {c : Char} (h : 0x7F < c.toNat) {b : UInt8}
    (hb : b ∈ String.utf8EncodeChar c) : 0x80 ≤ b.toNat := by
  have hbounds := toNat_bounds c
  have hval : c.val.toNat = c.toNat := rfl
  unfold String.utf8EncodeChar at hb
  dsimp only at hb
  rw [hval, if_neg (by omega)] at hb
  split at hb
  · simp only [List.mem_cons, List.not_mem_nil, or_false] at hb
    rcases hb with rfl | rfl <;> rw [UInt8.toNat_ofNat'] <;> omega
  · split at hb
    · simp only [List.mem_cons, List.not_mem_nil, or_false] at hb
      rcases hb with rfl | rfl | rfl <;> rw [UInt8.toNat_ofNat'] <;> omega
    · simp only [List.mem_cons, List.not_mem_nil, or_false] at hb
      rcases hb with rfl | rfl | rfl | rfl <;> rw [UInt8.toNat_ofNat'] <;> omega

/-! ## Characters read back -/

theorem toNat_ofNat {v : Nat} (h : v < 0xD800 ∨ 0xDFFF < v ∧ v < 0x110000) :
    (Char.ofNat v).val.toNat = v := by
  have hvalid : v.isValidChar := h
  rw [Char.ofNat, dif_pos hvalid]
  exact UInt32.toNat_ofNatLT

theorem ofNat_eq_of_toNat {a : UInt8} {n : Nat} (h : a.toNat = n) : UInt8.ofNat n = a := by
  rw [← h, UInt8.ofNat_toNat]

theorem isTail_iff {b : UInt8} : isTail b = true ↔ 0x80 ≤ b.toNat ∧ b.toNat ≤ 0xBF := by
  simp [isTail, UInt8.le_iff_toNat_le]

theorem encodeChar_one {a : UInt8} (ha : a.toNat ≤ 0x7F) :
    String.utf8EncodeChar (Char.ofNat a.toNat) = [a] := by
  have hv := toNat_ofNat (v := a.toNat) (by omega)
  rw [encodeChar_ascii (Nat.le_trans (Nat.le_of_eq hv) ha)]
  exact congrArg (fun b => [b]) (ofNat_eq_of_toNat hv.symm)

theorem encodeChar_two {a b : UInt8} (ha : 0xC2 ≤ a.toNat ∧ a.toNat ≤ 0xDF)
    (hb : isTail b = true) :
    String.utf8EncodeChar (Char.ofNat (a.toNat % 32 * 64 + tailBits b)) = [a, b] := by
  rw [isTail_iff] at hb
  generalize hv : a.toNat % 32 * 64 + tailBits b = v
  rw [tailBits] at hv
  unfold String.utf8EncodeChar
  dsimp only
  rw [toNat_ofNat (by omega), if_neg (by omega), if_pos (by omega),
    ofNat_eq_of_toNat (a := a) (by omega), ofNat_eq_of_toNat (a := b) (by omega)]

theorem encodeChar_three {a b c : UInt8} (ha : 0xE0 ≤ a.toNat ∧ a.toNat ≤ 0xEF)
    (hb : isTail b = true) (hc : isTail c = true) (hshort : a.toNat ≠ 0xE0 ∨ 0xA0 ≤ b.toNat)
    (hsurrogate : a.toNat ≠ 0xED ∨ b.toNat ≤ 0x9F) :
    String.utf8EncodeChar (Char.ofNat ((a.toNat % 16 * 64 + tailBits b) * 64 + tailBits c)) =
      [a, b, c] := by
  rw [isTail_iff] at hb hc
  generalize hv : (a.toNat % 16 * 64 + tailBits b) * 64 + tailBits c = v
  rw [tailBits, tailBits] at hv
  unfold String.utf8EncodeChar
  dsimp only
  rw [toNat_ofNat (by omega), if_neg (by omega), if_neg (by omega), if_pos (by omega),
    ofNat_eq_of_toNat (a := a) (by omega), ofNat_eq_of_toNat (a := b) (by omega),
    ofNat_eq_of_toNat (a := c) (by omega)]

theorem encodeChar_four {a b c d : UInt8} (ha : 0xF0 ≤ a.toNat ∧ a.toNat ≤ 0xF4)
    (hb : isTail b = true) (hc : isTail c = true) (hd : isTail d = true)
    (hshort : a.toNat ≠ 0xF0 ∨ 0x90 ≤ b.toNat) (hlast : a.toNat ≠ 0xF4 ∨ b.toNat ≤ 0x8F) :
    String.utf8EncodeChar (Char.ofNat
      (((a.toNat % 8 * 64 + tailBits b) * 64 + tailBits c) * 64 + tailBits d)) = [a, b, c, d] := by
  rw [isTail_iff] at hb hc hd
  generalize hv : ((a.toNat % 8 * 64 + tailBits b) * 64 + tailBits c) * 64 + tailBits d = v
  rw [tailBits, tailBits, tailBits] at hv
  unfold String.utf8EncodeChar
  dsimp only
  rw [toNat_ofNat (by omega), if_neg (by omega), if_neg (by omega), if_neg (by omega),
    ofNat_eq_of_toNat (a := a) (by omega), ofNat_eq_of_toNat (a := b) (by omega),
    ofNat_eq_of_toNat (a := c) (by omega), ofNat_eq_of_toNat (a := d) (by omega)]

/-- **The bytes that are read as a character are its encoding.** -/
theorem eq_encodeChar_of_char? {bytes rest : List UInt8} {c : Char}
    (h : char? bytes = some (c, rest)) : bytes = String.utf8EncodeChar c ++ rest := by
  unfold char? at h
  split at h
  · cases h
  · split at h
    · next ha =>
      cases h
      rw [encodeChar_one (by simpa [UInt8.lt_iff_toNat_lt] using Nat.le_of_lt_succ ha)]
      rfl
    · split at h
      · next ha =>
        split at h
        · split at h
          · next hb =>
            cases h
            rw [encodeChar_two (by simpa [UInt8.le_iff_toNat_le] using ha) hb]
            rfl
          · cases h
        · cases h
      · split at h
        · next ha =>
          split at h
          · split at h
            · next htail =>
              cases h
              simp only [Bool.and_eq_true, Bool.or_eq_true, bne_iff_ne, decide_eq_true_eq, ne_eq,
                ← UInt8.toNat_inj, UInt8.le_iff_toNat_le] at htail
              obtain ⟨⟨⟨hb, hc⟩, hshort⟩, hsurrogate⟩ := htail
              rw [encodeChar_three (by simpa [UInt8.le_iff_toNat_le] using ha) hb hc hshort hsurrogate]
              rfl
            · cases h
          · cases h
        · split at h
          · next ha =>
            split at h
            · split at h
              · next htail =>
                cases h
                simp only [Bool.and_eq_true, Bool.or_eq_true, bne_iff_ne, decide_eq_true_eq, ne_eq,
                  ← UInt8.toNat_inj, UInt8.le_iff_toNat_le] at htail
                obtain ⟨⟨⟨⟨hb, hc⟩, hd⟩, hshort⟩, hlast⟩ := htail
                rw [encodeChar_four (by simpa [UInt8.le_iff_toNat_le] using ha) hb hc hd hshort hlast]
                rfl
              · cases h
            · cases h
          · cases h

/-! ## Texts -/

def encode (text : List Char) : List UInt8 := text.flatMap String.utf8EncodeChar

@[simp] theorem encode_nil : encode [] = [] := rfl

@[simp] theorem encode_cons (c : Char) (cs : List Char) :
    encode (c :: cs) = String.utf8EncodeChar c ++ encode cs := List.flatMap_cons

@[simp] theorem encode_append (s t : List Char) : encode (s ++ t) = encode s ++ encode t :=
  List.flatMap_append

/-- the bytes of a string are those of its characters -/
theorem toList_toUTF8 (s : String) : s.toUTF8.data.toList = encode s.toList := by
  rw [String.toUTF8_eq_toByteArray, ← String.utf8Encode_toList, List.utf8Encode]
  exact List.toList_data_toByteArray

theorem decode_encode (text : List Char) : decode (encode text) = (text, []) := by
  induction text with
  | nil => rw [decode]; rfl
  | cons c cs ih =>
    rw [encode_cons, decode]
    split
    · next h => simp [char?_encodeChar] at h
    · next h =>
      simp only [char?_encodeChar, Option.some.injEq, Prod.mk.injEq] at h
      obtain ⟨rfl, rfl⟩ := h
      simp only [ih]

/-- **Decoding undoes encoding.** -/
theorem decode?_encode (text : List Char) : decode? (encode text) = some text := by
  simp only [decode?, decode_encode]

theorem encode_injective : Function.Injective encode := by
  intro s t h
  exact Option.some.inj (by rw [← decode?_encode, ← decode?_encode, h])

theorem eq_encode_of_decode {bytes rest : List UInt8} {text : List Char}
    (h : decode bytes = (text, rest)) : bytes = encode text ++ rest := by
  fun_induction decode bytes generalizing text with
  | case1 bytes hnone =>
    cases h
    rfl
  | case2 bytes c tail hchar _ cs left htail ih =>
    cases h
    rw [eq_encodeChar_of_char? hchar, ih htail, encode_cons, List.append_assoc]

/-- **Decoding succeeds on the encoding of a text and on nothing else.** -/
theorem decode?_eq_some_iff {bytes : List UInt8} {text : List Char} :
    decode? bytes = some text ↔ bytes = encode text := by
  constructor
  · intro h
    unfold decode? at h
    split at h
    · next hdecode =>
      cases h
      simpa using eq_encode_of_decode hdecode
    · cases h
  · rintro rfl
    exact decode?_encode text

/-! ## ASCII bytes of a text -/

/-- **An ASCII byte stands for its character** wherever it occurs in a text. -/
theorem mem_encode_ascii {c : Char} (h : c.toNat ≤ 0x7F) {text : List Char} :
    UInt8.ofNat c.toNat ∈ encode text ↔ c ∈ text := by
  have hbyte : (UInt8.ofNat c.toNat).toNat = c.toNat := by rw [UInt8.toNat_ofNat']; omega
  simp only [encode, List.mem_flatMap]
  constructor
  · rintro ⟨d, hd, hb⟩
    by_cases hascii : d.toNat ≤ 0x7F
    · rw [encodeChar_ascii hascii, List.mem_singleton, ← UInt8.toNat_inj, hbyte,
        UInt8.toNat_ofNat', Nat.mod_eq_of_lt (by omega)] at hb
      rwa [Char.toNat_inj.1 hb]
    · have := le_of_mem_encodeChar (by omega) hb
      omega
  · exact fun hc => ⟨c, hc, by rw [encodeChar_ascii h]; exact List.mem_singleton.2 rfl⟩

end KernelCharts.Utf8
