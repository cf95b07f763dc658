/-!
# Documents

A document is a tree of lists and mappings over plain values. Configurations are read from documents.

* `Value` — the tree;
* `Value.fields?` — the values of the fields of a record;
* `Value.nat?`, `Value.text?`, … — values of one kind.
-/

namespace KernelCharts

/-- a tree of lists and mappings over plain values -/
inductive Value where
  | null
  | bool (b : Bool)
  | whole (n : Int)
  /-- a number that is not whole, or not written as a whole one -/
  | real
  | text (s : String)
  | list (items : List Value)
  | mapping (entries : List (String × Value))

namespace Value

/-- the value of one field among the entries of a mapping, if any; a repeated field is refused -/
def field? (entries : List (String × Value)) (name : String) : Option (Option Value) :=
  match entries.filter (·.1 == name) with
  | [] => some none
  | [(_, value)] => some (some value)
  | _ => none

/-- the values of the fields of a record, missing ones included. A record is a mapping, in which
other entries do not count, or a list of the values of its first fields. -/
def fields? (names : List String) : Value → Option (List (Option Value))
  | mapping entries => names.mapM (field? entries)
  | list items =>
    if items.length ≤ names.length then
      some (items.map some ++ List.replicate (names.length - items.length) none)
    else none
  | _ => none

/-- a whole number from zero on and below a limit -/
def nat? (limit : Nat) : Value → Option Nat
  | whole (Int.ofNat n) => if n < limit then some n else none
  | _ => none

def text? : Value → Option String
  | text s => some s
  | _ => none

def list? : Value → Option (List Value)
  | list items => some items
  | _ => none

/-- a value that may be absent: null stands for none -/
def optional? {β : Type} (read : Value → Option β) : Value → Option (Option β)
  | null => some none
  | value => (read value).map some

def range? (limit : Nat) : Value → Option (Nat × Nat)
  | list [lo, hi] => do return (← lo.nat? limit, ← hi.nat? limit)
  | _ => none

end Value

end KernelCharts
