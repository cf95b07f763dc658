/-!
# Bytes as text

* `Utf8.char?` — the character at the start of some bytes;
* `Utf8.decode` — the characters of the longest prefix that is text, and the bytes after it;
* `Utf8.decode?` — the characters of bytes that are text as a whole.
-/

namespace KernelCharts.Utf8

/-- a byte that continues a character -/
def isTail (b : UInt8) : Bool := 0x80 ≤ b && b ≤ 0xBF

/-- the six bits that a continuing byte adds -/
def tailBits (b : UInt8) : Nat := b.toNat % 64

/-- the character at the start of some bytes, in its only and shortest form, and the bytes after
it -/
def char? : List UInt8 → Option (Char × List UInt8)
  | [] => none
  | a :: rest =>
    if a < 0x80 then some (Char.ofNat a.toNat, rest)
    else if 0xC2 ≤ a && a ≤ 0xDF then
      match rest with
      | b :: rest =>
        if isTail b then some (Char.ofNat (a.toNat % 32 * 64 + tailBits b), rest) else none
      | [] => none
    else if 0xE0 ≤ a && a ≤ 0xEF then
      match rest with
      | b :: c :: rest =>
        if isTail b && isTail c && (a != 0xE0 || 0xA0 ≤ b) && (a != 0xED || b ≤ 0x9F) then
          some (Char.ofNat ((a.toNat % 16 * 64 + tailBits b) * 64 + tailBits c), rest)
        else none
      | _ => none
    else if 0xF0 ≤ a && a ≤ 0xF4 then
      match rest with
      | b :: c :: d :: rest =>
        if isTail b && isTail c && isTail d && (a != 0xF0 || 0x90 ≤ b) && (a != 0xF4 || b ≤ 0x8F)
        then
          some (Char.ofNat
            (((a.toNat % 8 * 64 + tailBits b) * 64 + tailBits c) * 64 + tailBits d), rest)
        else none
      | _ => none
    else none

/-- a character takes at least one byte -/
theorem length_lt_of_char? {bytes rest : List UInt8} {c : Char} (h : char? bytes = some (c, rest)) :
    rest.length < bytes.length := by
  unfold char? at h
  split at h
  · simp at h
  · repeat' split at h
    all_goals first
      | simp only [Option.some.injEq, Prod.mk.injEq] at h
        obtain ⟨-, rfl⟩ := h
        simp only [List.length_cons]
        omega
      | simp at h

/-- the characters of the longest prefix that is text, and the bytes after it -/
def decode (bytes : List UInt8) : List Char × List UInt8 :=
  match h : char? bytes with
  | none => ([], bytes)
  | some (c, rest) =>
    have := length_lt_of_char? h
    let (cs, left) := decode rest
    (c :: cs, left)
termination_by bytes.length

/-- the characters of bytes that are text as a whole -/
def decode? (bytes : List UInt8) : Option (List Char) :=
  match decode bytes with
  | (cs, []) => some cs
  | _ => none

/-- the length of the longest prefix that is text -/
def validLength (bytes : List UInt8) : Nat := bytes.length - (decode bytes).2.length

end KernelCharts.Utf8
