import KernelCharts.Text.Blank

/-!
# Numerals

* `limit32`, `limit64` — the first numbers that take more than 32 and 64 bits;
* `digits?` — the number that a row of digits stands for;
* `count?` — the positive number below a limit that a text stands for;
* `Numeral` — a decimal numeral with its sign and exponent, or one of the words for the values that
  are not finite, with `Numeral.read?` reading and `Numeral.toFloat` rounding it.
-/

namespace KernelCharts.Number

/-! ## Whole numbers -/

/-- the first number that takes more than 32 bits -/
def limit32 : Nat := 4294967296

/-- the first number that takes more than 64 bits -/
def limit64 : Nat := 18446744073709551616

def addDigit (n : Nat) (c : Char) : Nat := 10 * n + (c.toNat - '0'.toNat)

def ofDigits (s : List Char) : Nat := s.foldl addDigit 0

/-- the number that a text of ASCII digits, at least one, stands for -/
def digits? (s : List Char) : Option Nat :=
  if s.isEmpty || !s.all Char.isDigit then none else some (ofDigits s)

/-- the number below `limit` that a text stands for; one plus sign may stand before the digits -/
def whole? (limit : Nat) (s : List Char) : Option Nat :=
  (digits? (Text.dropFirst '+' s)).filter (· < limit)

/-- the positive number below `limit` that a text stands for -/
def count? (limit : Nat) (s : List Char) : Option Nat := (whole? limit s).filter (0 < ·)

/-! ## Decimal numerals -/

inductive Numeral where
  /-- the value `± mantissa · 10 ^ exponent` -/
  | decimal (negative : Bool) (mantissa : Nat) (exponent : Int)
  | infinite (negative : Bool)
  | undefined
deriving DecidableEq, Repr

namespace Numeral

/-- a sign in front of a text and the text after it -/
def sign (s : List Char) : Bool × List Char :=
  match s with
  | '-' :: rest => (true, rest)
  | '+' :: rest => (false, rest)
  | _ => (false, s)

/-- the exponent that ends a numeral: nothing, or a letter followed by digits with a sign -/
def exponent? (s : List Char) : Option Int :=
  match s with
  | [] => some 0
  | c :: rest =>
    if c = 'e' ∨ c = 'E' then
      let (negative, digits) := sign rest
      (digits? digits).map fun n => if negative then -(n : Int) else n
    else none

/-- a numeral of digits, with a point among or beside them and an exponent after them -/
def decimal? (negative : Bool) (s : List Char) : Option Numeral :=
  let whole := s.takeWhile Char.isDigit
  let rest := s.dropWhile Char.isDigit
  let (fraction, rest) :=
    match rest with
    | '.' :: rest => (rest.takeWhile Char.isDigit, rest.dropWhile Char.isDigit)
    | _ => ([], rest)
  if whole.isEmpty && fraction.isEmpty then none
  else (exponent? rest).map fun exponent =>
    .decimal negative (ofDigits (whole ++ fraction)) (exponent - fraction.length)

/-- the numeral that a text is, without blanks around it -/
def read? (s : List Char) : Option Numeral :=
  let (negative, body) := sign s
  if Text.sameLetters body "inf".toList || Text.sameLetters body "infinity".toList then
    some (.infinite negative)
  else if Text.sameLetters body "nan".toList then some .undefined
  else decimal? negative body

/-- the magnitude of `mantissa · 10 ^ exponent` as the nearest double. The exponent is looked at
first, so that a numeral far outside the range of doubles is not computed. -/
def magnitude (mantissa : Nat) (exponent : Int) : Float :=
  let length : Int := (Nat.toDigits 10 mantissa).length
  if mantissa = 0 ∨ length + exponent < -400 then 0.0
  else if 400 < length + exponent then 1.0 / 0.0
  else Float.ofScientific mantissa (decide (exponent < 0)) exponent.natAbs

def toFloat : Numeral → Float
  | decimal negative mantissa exponent =>
    if negative then -magnitude mantissa exponent else magnitude mantissa exponent
  | infinite negative => if negative then -1.0 / 0.0 else 1.0 / 0.0
  | undefined => 0.0 / 0.0

end Numeral

end KernelCharts.Number
