import KernelCharts.Yaml.Cursor

/-!
# Reading YAML

A document is a tree of block collections, which are told by their columns, flow collections, which
are told by their brackets, and scalars.

* `blockNode`, `blockEntries`, `blockItems` — block collections;
* `flowNode`, `flowEntries`, `flowItems` — flow collections;
* `documentText` — the one document of a text, without the marks around it;
* `read` — the tree of a text.
-/

namespace KernelCharts.Yaml

inductive Fault where
  /-- there is nothing but blanks and comments -/
  | empty
  | malformed
deriving DecidableEq, Repr

/-! ## Scalars -/

/-- the number of line ends among the blanks at the start of a text, and what follows them -/
def lineEnds : List Char → Nat × List Char
  | [] => (0, [])
  | c :: cs =>
    if c = '\n' then
      let (n, rest) := lineEnds cs
      (n + 1, rest)
    else if isSpace c then lineEnds cs
    else (0, c :: cs)

/-- the further lines of a plain scalar that stands deeper than column `parent`; the text so far is
put in front of them -/
def plainMore (flow : Bool) (parent : Int) : Nat → List Char → Cursor → List Char × Cursor
  | 0, text, c => (text, c)
  | fuel + 1, text, c =>
    let (breaks, rest) := lineEnds c.rest
    let next := c.advance rest
    let (line, rest) := plainLine flow rest
    if breaks = 0 ∨ (!flow ∧ (next.column : Int) ≤ parent) ∨ next.rest.head? = some '#' ∨ line = []
    then (text, c)
    else plainMore flow parent fuel (text ++ folded breaks ++ line) (next.advance rest)

def scalar (flow : Bool) (parent : Int) (c : Cursor) : Option (Node × Cursor) :=
  match c.rest with
  | '"' :: rest => (doubleQuoted .start rest).map fun (text, rest) =>
      (.scalar text false, c.advance rest)
  | '\'' :: rest => (singleQuoted .start rest).map fun (text, rest) =>
      (.scalar text false, c.advance rest)
  | s =>
    if startsPlain flow s then
      let (line, rest) := plainLine flow s
      let (text, c) := plainMore flow parent c.rest.length line (c.advance rest)
      some (.scalar text true, c)
    else none

/-- the key at a place, on one line and followed by a colon, and the place after the colon -/
def key? (c : Cursor) : Option (List Char × Cursor) := do
  let (text, rest) ← match c.rest with
    | '"' :: rest => doubleQuoted .start rest
    | '\'' :: rest => singleQuoted .start rest
    | s => if startsPlain false s then some (plainLine false s) else none
  match rest.dropWhile isSpace with
  | ':' :: rest =>
    let after := c.advance rest
    if endsWord rest ∧ after.line = c.line then some (text, after) else none
  | _ => none

/-! ## Flow collections -/

mutual

def flowNode : Nat → Cursor → Option (Node × Cursor)
  | 0, _ => none
  | fuel + 1, c =>
    match c.rest with
    | '[' :: rest => (flowItems fuel (c.advance rest)).map fun (items, c) => (.sequence items, c)
    | '{' :: rest => (flowEntries fuel (c.advance rest)).map fun (entries, c) => (.mapping entries, c)
    | _ => scalar true (-1) c

/-- the value after a key inside a flow collection; it may be left out -/
def flowValue : Nat → Cursor → Option (Node × Cursor)
  | 0, _ => none
  | fuel + 1, c =>
    let place := c.skip true
    match place.rest with
    | ',' :: _ | '}' :: _ | ']' :: _ => some (.blank, place)
    | _ => flowNode fuel place

def flowItems : Nat → Cursor → Option (List Node × Cursor)
  | 0, _ => none
  | fuel + 1, c => do
    let place := c.skip true
    match place.rest with
    | ']' :: rest => return ([], place.advance rest)
    | _ =>
      let (first, after) ← flowNode fuel place
      let next := after.skip true
      let (item, after) ← match first, next.rest with
        | .scalar key _, ':' :: rest => do
          let (value, after) ← flowValue fuel (next.advance rest)
          pure (Node.mapping [(key, value)], after)
        | _, _ => pure (first, after)
      let next := after.skip true
      match next.rest with
      | ']' :: rest => return ([item], next.advance rest)
      | ',' :: rest =>
        let (items, last) ← flowItems fuel (next.advance rest)
        return (item :: items, last)
      | _ => none

def flowEntries : Nat → Cursor → Option (List (List Char × Node) × Cursor)
  | 0, _ => none
  | fuel + 1, c => do
    let place := c.skip true
    match place.rest with
    | '}' :: rest => return ([], place.advance rest)
    | _ =>
      match ← flowNode fuel place with
      | (.scalar key _, after) =>
        let next := after.skip true
        let (value, after) ← match next.rest with
          | ':' :: rest => flowValue fuel (next.advance rest)
          | _ => some (.blank, next)
        let next := after.skip true
        match next.rest with
        | '}' :: rest => return ([(key, value)], next.advance rest)
        | ',' :: rest =>
          let (entries, last) ← flowEntries fuel (next.advance rest)
          return ((key, value) :: entries, last)
        | _ => none
      | _ => none

end

/-! ## Block collections -/

/-- a dash that starts an item of a block sequence -/
def startsItem : List Char → Bool
  | '-' :: rest => endsWord rest
  | _ => false

mutual

/-- the node at a place, if it stands deeper than column `parent`, and nothing otherwise. A block
collection starts only where `block` allows it. -/
def blockNode : Nat → Int → Bool → Cursor → Option (Node × Cursor)
  | 0, _, _, _ => none
  | fuel + 1, parent, block, c =>
    if c.rest.isEmpty ∨ (c.column : Int) ≤ parent then some (.blank, c)
    else if block && startsItem c.rest then
      (blockItems fuel c.column c).map fun (items, c) => (.sequence items, c)
    else if block && (key? c).isSome then
      (blockEntries fuel c.column c).map fun (entries, c) => (.mapping entries, c)
    else match c.rest with
      | '[' :: _ | '{' :: _ => flowNode fuel c
      | _ => scalar false parent c

def blockItems : Nat → Nat → Cursor → Option (List Node × Cursor)
  | 0, _, _ => none
  | fuel + 1, column, c => do
    let (item, after) ← blockNode fuel column true ((c.advance (c.rest.drop 1)).skip false)
    let next := after.skip false
    if next.rest.isEmpty ∨ next.column < column then return ([item], next)
    if column < next.column then none
    if !startsItem next.rest then return ([item], next)
    let (items, last) ← blockItems fuel column next
    return (item :: items, last)

/-- the entries of a block mapping at a column. A sequence that is the value of an entry may stand at
the column of its key. -/
def blockEntries : Nat → Nat → Cursor → Option (List (List Char × Node) × Cursor)
  | 0, _, _ => none
  | fuel + 1, column, c => do
    let (key, colon) ← key? c
    let place := colon.skip false
    let (value, after) ←
      if place.line = colon.line then blockNode fuel column false place
      else if place.column = column ∧ startsItem place.rest then
        (blockItems fuel column place).map fun (items, c) => (.sequence items, c)
      else blockNode fuel column true place
    let next := after.skip false
    if next.rest.isEmpty ∨ next.column < column then return ([(key, value)], next)
    if column < next.column then none
    let (entries, last) ← blockEntries fuel column next
    return ((key, value) :: entries, last)

end

/-! ## Documents -/

/-- the text with every end of a line written as a line feed -/
def unifyLineEnds : List Char → List Char
  | [] => []
  | '\r' :: '\n' :: rest => '\n' :: unifyLineEnds rest
  | '\r' :: rest => '\n' :: unifyLineEnds rest
  | c :: rest => c :: unifyLineEnds rest

/-- the line is a mark of the document, alone or followed by a blank -/
def isMark (mark : String) (line : List Char) : Bool :=
  match Text.after? mark.toList line with
  | some rest => endsWord rest
  | none => false

/-- the line holds nothing but blanks and a comment -/
def isIdle (line : List Char) : Bool :=
  match line.dropWhile isSpace with
  | [] => true
  | c :: _ => c = '#'

/-- the lines up to the mark that ends a document; nothing else may follow it -/
def bodyLines : List (List Char) → Option (List (List Char))
  | [] => some []
  | line :: lines =>
    if isMark "---" line then none
    else if isMark "..." line then
      if (lines.all isIdle && isIdle (line.drop 3)) then some [] else none
    else (bodyLines lines).map (line :: ·)

/-- the lines after the mark that starts a document, which may be missing -/
def withoutStart : List (List Char) → List (List Char)
  | [] => []
  | line :: lines =>
    if isMark "---" line then ([' ', ' ', ' '] ++ line.drop 3) :: lines
    else if isIdle line || line.head? = some '%' then
      match withoutStart lines with
      | [] => []
      | rest => [] :: rest
    else line :: lines

/-- a character that may stand in a document: a blank, the end of a line, or a printable one -/
def isDocumentChar (c : Char) : Bool :=
  c = '\t' || c = '\n' || c = '\r' || (' ' ≤ c && c ≤ '~') || c.toNat = 0x85 ||
    (0xA0 ≤ c.toNat && c.toNat ≠ 0xFEFF && c.toNat ≠ 0xFFFE && c.toNat ≠ 0xFFFF)

/-- the one document of a text, without the marks around it -/
def documentText (text : List Char) : Option (List Char) :=
  let text := Text.dropFirst (Char.ofNat 0xFEFF) text
  if text.all isDocumentChar then
    (bodyLines (withoutStart (Text.fields '\n' (unifyLineEnds text)))).map fun lines =>
      ['\n'].intercalate lines
  else none

def read (text : List Char) : Except Fault Node :=
  match documentText text with
  | none => .error .malformed
  | some document =>
    let start := Cursor.skip ⟨document, 0, 0⟩ false
    if start.rest.isEmpty then .error .empty
    else match blockNode (4 * document.length + 16) (-1) true start with
      | none => .error .malformed
      | some (node, last) => if (last.skip false).rest.isEmpty then .ok node else .error .malformed

end KernelCharts.Yaml
