import KernelCharts.Yaml.Node

/-!
# Places in a YAML text

* `Cursor` — the rest of a text with the line and the column where it starts;
* `Cursor.skip` — the next place that is neither blank nor a comment;
* `plainLine`, `singleQuoted`, `doubleQuoted` — the scalars at the start of a text.
-/

namespace KernelCharts.Yaml

/-- the rest of a text, with the line and the column where it starts -/
structure Cursor where
  rest : List Char
  line : Nat
  column : Nat
deriving DecidableEq, Repr

def isSpace (c : Char) : Bool := c = ' ' || c = '\t'

/-- a blank, or the end of the line or of the text -/
def endsWord : List Char → Bool
  | [] => true
  | c :: _ => isSpace c || c = '\n'

/-- a character that brackets and separates in flow collections -/
def isFlowMark (c : Char) : Bool := c = ',' || c = '[' || c = ']' || c = '{' || c = '}'

namespace Cursor

/-- the place after one more character -/
def step (c : Cursor) (char : Char) : Cursor :=
  if char = '\n' then ⟨c.rest.drop 1, c.line + 1, 0⟩ else ⟨c.rest.drop 1, c.line, c.column + 1⟩

/-- the place where only `rest` is left -/
def advance (c : Cursor) (rest : List Char) : Cursor :=
  let read := c.rest.take (c.rest.length - rest.length)
  { read.foldl step c with rest }

/-- the next place that is neither blank nor in a comment; `tabs` tells whether a tab is a blank here,
which it is at the start of a line only in a flow collection -/
def skipFrom (flow : Bool) (line column : Nat) (tabs inComment : Bool) : List Char → Cursor
  | [] => ⟨[], line, column⟩
  | c :: cs =>
    if c = '\n' then skipFrom flow (line + 1) 0 flow false cs
    else
      let comment := inComment || c = '#'
      if comment || c = ' ' || (c = '\t' && tabs) then
        skipFrom flow line (column + 1) tabs comment cs
      else ⟨c :: cs, line, column⟩

/-- the next place after a token that is neither blank nor in a comment -/
def skip (c : Cursor) (flow : Bool) : Cursor := skipFrom flow c.line c.column true false c.rest

end Cursor

/-! ## Plain scalars -/

/-- a plain scalar may start here: with a letter, or with a mark that does not stand alone -/
def startsPlain (flow : Bool) : List Char → Bool
  | [] => false
  | c :: rest =>
    if c = '-' ∨ c = '?' ∨ c = ':' then
      !endsWord rest && !(flow && (rest.head?.map isFlowMark).getD false)
    else
      !(isSpace c || c = '\n' || isFlowMark c || "#&*!|>'\"%@`".toList.contains c)

/-- the part of a plain scalar on its line; `afterBlank` tells whether a blank came before -/
def plainChars (flow afterBlank : Bool) : List Char → List Char
  | [] => []
  | c :: cs =>
    let ends := c = '\n' || (c = '#' && afterBlank) || (flow && isFlowMark c) ||
      (c = ':' && (endsWord cs || (flow && (cs.head?.map isFlowMark).getD false)))
    if ends then [] else c :: plainChars flow (isSpace c) cs

/-- the part of a plain scalar on its line, without the blanks after it, and the rest of the text from
these on -/
def plainLine (flow : Bool) (s : List Char) : List Char × List Char :=
  let text := ((plainChars flow false s).reverse.dropWhile isSpace).reverse
  (text, s.drop text.length)

/-- what some line ends inside a scalar stand for: one is a space, and of several the first does not
count -/
def folded (breaks : Nat) : List Char :=
  if breaks = 0 then [] else if breaks = 1 then [' '] else List.replicate (breaks - 1) '\n'

/-! ## Quoted scalars -/

/-- a quoted scalar while it is read: its text, last character first, the blanks that count if the
line goes on, and the line ends since the last character -/
structure Quoting where
  text : List Char
  blanks : List Char
  breaks : Nat

namespace Quoting

def start : Quoting := ⟨[], [], 0⟩

def push (q : Quoting) (c : Char) : Quoting :=
  ⟨c :: ((folded q.breaks).reverse ++ q.blanks ++ q.text), [], 0⟩

/-- a blank, which counts between characters of one line -/
def blank (q : Quoting) (c : Char) : Quoting :=
  if q.breaks = 0 then { q with blanks := c :: q.blanks } else q

def newline (q : Quoting) : Quoting := { q with blanks := [], breaks := q.breaks + 1 }

def finish (q : Quoting) : List Char :=
  ((folded q.breaks).reverse ++ q.blanks ++ q.text).reverse

end Quoting

/-- the rest of a scalar in single quotes and what follows it; a quote inside is written twice -/
def singleQuoted (q : Quoting) : List Char → Option (List Char × List Char)
  | [] => none
  | '\'' :: '\'' :: rest => singleQuoted (q.push '\'') rest
  | '\'' :: rest => some (q.finish, rest)
  | '\n' :: rest => singleQuoted q.newline rest
  | c :: rest => singleQuoted (if isSpace c then q.blank c else q.push c) rest

/-- the character that a letter after a backslash stands for -/
def escape? (c : Char) : Option Char :=
  ([('0', 0), ('a', 7), ('b', 8), ('t', 9), ('\t', 9), ('n', 10), ('v', 11), ('f', 12), ('r', 13),
    ('e', 27), (' ', 32), ('"', 34), ('/', 47), ('\\', 92), ('N', 0x85), ('_', 0xA0),
    ('L', 0x2028), ('P', 0x2029)].lookup c).map Char.ofNat

/-- how many digits of base sixteen follow a letter after a backslash -/
def escapeDigits? (c : Char) : Option Nat := [('x', 2), ('u', 4), ('U', 8)].lookup c

/-- the rest of a scalar in double quotes and what follows it, with escapes after backslashes -/
def doubleQuoted (q : Quoting) (s : List Char) : Option (List Char × List Char) :=
  match s with
  | [] => none
  | '"' :: rest => some (q.finish, rest)
  | '\\' :: '\n' :: rest =>
    doubleQuoted ⟨q.blanks ++ q.text, [], 0⟩ (rest.dropWhile isSpace)
  | '\\' :: c :: rest =>
    match escapeDigits? c with
    | some n =>
      match digitsIn? 16 (rest.take n) with
      | some code =>
        if (rest.take n).length = n ∧ code.isValidChar then
          doubleQuoted (q.push (Char.ofNat code)) (rest.drop n)
        else none
      | none => none
    | none =>
      match escape? c with
      | some char => doubleQuoted (q.push char) rest
      | none => none
  | '\n' :: rest => doubleQuoted q.newline rest
  | c :: rest => doubleQuoted (if isSpace c then q.blank c else q.push c) rest
termination_by s.length
decreasing_by
  all_goals simp only [List.length_cons, List.length_drop]
  all_goals first
    | omega
    | have := (List.dropWhile_suffix isSpace (l := rest)).length_le
      omega

end KernelCharts.Yaml
