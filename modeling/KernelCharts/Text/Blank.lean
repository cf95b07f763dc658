/-!
# Characters, trimming and separators

Text is handled as a list of characters while it is taken apart.

* `inStretches` — membership in a class of characters. A class is kept as the list of its borders: the first
  code points of the stretches that lie inside and outside of it by turns, the first stretch outside;
* `isBlank` — the blank characters, the Unicode property White_Space;
* `trim` — a text without its surrounding blanks;
* `fields` — the pieces between the occurrences of a separator;
* `sameLetters` — equality up to the case of ASCII letters.
-/

namespace KernelCharts.Text

/-! ## Classes -/

/-- membership of a code point, from a stretch that lies inside or outside on -/
def inStretchesFrom (inside : Bool) (borders : List Nat) (n : Nat) : Bool :=
  match borders with
  | [] => inside
  | b :: bs => if n < b then inside else inStretchesFrom (!inside) bs n

/-- membership of a character in the class with given borders -/
def inStretches (borders : List Nat) (c : Char) : Bool := inStretchesFrom false borders c.toNat

/-! ## Blanks -/

/-- the characters of the Unicode property White_Space -/
def isBlank (c : Char) : Bool :=
  let n := c.toNat
  (9 ≤ n && n ≤ 13) || n == 0x20 || n == 0x85 || n == 0xA0 || n == 0x1680 ||
    (0x2000 ≤ n && n ≤ 0x200A) || n == 0x2028 || n == 0x2029 || n == 0x202F || n == 0x205F ||
    n == 0x3000

def trimStart (s : List Char) : List Char := s.dropWhile isBlank

def trimEnd (s : List Char) : List Char := (s.reverse.dropWhile isBlank).reverse

def trim (s : List Char) : List Char := trimEnd (trimStart s)

/-- trimming leaves the empty text alone -/
@[simp] theorem trim_nil : trim [] = [] := rfl

/-! ## Separators -/

/-- the pieces of a text with one more character in front -/
def prependField (sep c : Char) (pieces : List (List Char)) : List (List Char) :=
  if c = sep then [] :: pieces
  else match pieces with
    | [] => [[c]]
    | piece :: rest => (c :: piece) :: rest

/-- the pieces between the occurrences of `sep`; there is always one more piece than occurrences -/
def fields (sep : Char) (s : List Char) : List (List Char) := s.foldr (prependField sep) [[]]

/-- the text without a first `c`, and the text itself when it does not start so -/
def dropFirst (c : Char) : List Char → List Char
  | [] => []
  | d :: ds => if d = c then ds else d :: ds

/-- the text without a last `c`, and the text itself when it does not end so -/
def dropLast (c : Char) (s : List Char) : List Char := (dropFirst c s.reverse).reverse

/-- what follows `word` at the start of a text -/
def after? : List Char → List Char → Option (List Char)
  | [], s => some s
  | _ :: _, [] => none
  | w :: ws, c :: cs => if w = c then after? ws cs else none

/-! ## Case -/

/-- equality of two texts up to the case of ASCII letters -/
def sameLetters (s t : List Char) : Bool := s.map Char.toLower == t.map Char.toLower

def isAlphanumeric (c : Char) : Bool := c.isAlphanum

end KernelCharts.Text
