import KernelCharts.Document.Value
import KernelCharts.Number.Numeral

/-!
# Nodes of a YAML document

The text of a node does not tell its kind; what a scalar without quotes means depends on its letters.

* `Node` — the tree of a document, with the scalars as they are written and scalars as keys;
* `Node.value` — the document of a tree.
-/

namespace KernelCharts.Yaml

/-- the tree of a document, with the scalars as they are written -/
inductive Node where
  /-- a scalar, and whether it stands without quotes -/
  | scalar (text : List Char) (plain : Bool)
  | sequence (items : List Node)
  | mapping (entries : List (List Char × Node))

namespace Node

def blank : Node := scalar [] true

/-- a scalar without text, which stands for an empty collection where one is expected -/
def isBlank : Node → Bool
  | scalar [] _ => true
  | _ => false

end Node

/-! ## Scalars without quotes -/

/-- the digit that a character is in bases up to sixteen -/
def digitValue (c : Char) : Nat :=
  if c.isDigit then c.toNat - '0'.toNat else c.toLower.toNat - 'a'.toNat + 10

/-- the number that a row of digits of a base stands for -/
def digitsIn? (base : Nat) (s : List Char) : Option Nat :=
  if s.isEmpty || !s.all (fun c => c.isAlphanum && digitValue c < base) then none
  else some (s.foldl (fun n c => base * n + digitValue c) 0)

/-- a row of digits with a leading zero -/
def hasLeadingZero (s : List Char) : Bool :=
  match s with
  | '0' :: c :: rest => (c :: rest).all Char.isDigit
  | _ => false

/-- the magnitude of a whole number, which may be written in base two, eight or sixteen -/
def magnitude? (s : List Char) : Option Nat :=
  match s with
  | '0' :: 'x' :: rest => digitsIn? 16 rest
  | '0' :: 'o' :: rest => digitsIn? 8 rest
  | '0' :: 'b' :: rest => digitsIn? 2 rest
  | _ => if hasLeadingZero s then none else Number.digits? s

/-- the whole number that a scalar stands for -/
def whole? (s : List Char) : Option Int :=
  let (negative, rest) := Number.Numeral.sign s
  (magnitude? rest).map fun n => if negative then -(n : Int) else n

/-- the scalar stands for a number that is not written as a whole one -/
def isReal (s : List Char) : Bool :=
  let (_, rest) := Number.Numeral.sign s
  let special := [".inf", ".Inf", ".INF", ".nan", ".NaN", ".NAN"].contains (String.ofList rest)
  special || (!hasLeadingZero rest &&
    match Number.Numeral.read? s with
    | some (.decimal ..) => true
    | _ => false)

/-- what a scalar without quotes stands for -/
def plainValue (s : List Char) : Value :=
  let text := String.ofList s
  if ["", "~", "null", "Null", "NULL"].contains text then .null
  else if ["true", "True", "TRUE"].contains text then .bool true
  else if ["false", "False", "FALSE"].contains text then .bool false
  else match whole? s with
    | some n => .whole n
    | none => if isReal s then .real else .text text

def Node.value : Node → Value
  | .scalar text plain => if plain then plainValue text else .text (String.ofList text)
  | .sequence items => .list (items.map Node.value)
  | .mapping entries =>
    .mapping (entries.attach.map fun ⟨entry, _⟩ => (String.ofList entry.1, entry.2.value))
termination_by node => sizeOf node
decreasing_by
  · simp_wf
    have := List.sizeOf_lt_of_mem ‹_›
    omega
  · simp_wf
    rename_i h
    have := List.sizeOf_lt_of_mem h
    cases entry
    simp at this ⊢
    omega

end KernelCharts.Yaml
