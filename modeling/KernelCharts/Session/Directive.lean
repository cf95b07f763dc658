import KernelCharts.Text.Blank
import KernelCharts.Number.Numeral

/-!
# Directives of the log

A directive tells from which level on the events of a part of the program are logged, as in
`common=debug`.

* `filterDirectives` — the directives in force: those that are given, and a default for every part of
  the program that none of them starts with;
* `Directive`, `Directive.parse` — what a directive says, or what is wrong with it;
* `Directive.assembled` — what all directives in force say.
-/

namespace KernelCharts

/-- the parts of the program that log for themselves -/
def logTargets : List String := ["common", "sddmm", "sddmm_line", "sddmm_grid"]

/-- the directives in force for those that are given and a default level -/
def filterDirectives (level : String) (given : List String) : List String :=
  let untouched := logTargets.filter fun target =>
    !given.any fun directive => target.toList.isPrefixOf directive.toList
  ["sddmm_plot=" ++ level] ++ given ++ untouched.map (· ++ "=" ++ level)

/-! ## Levels -/

def levelNames : List String := ["off", "error", "warn", "info", "debug", "trace"]

/-- the number of a level, told by a word in any case or as it is; nothing stands for the most
detailed one -/
def levelNumber? (text : List Char) : Option Nat :=
  if text.isEmpty then some (levelNames.length - 1)
  else (Number.whole? levelNames.length text).or
    (levelNames.findIdx? fun name => Text.sameLetters text name.toList)

/-! ## Reading -/

inductive DirectiveFault where
  | malformed
  | unknownLevel
deriving DecidableEq, Repr

def DirectiveFault.chain : DirectiveFault → List String
  | malformed => ["invalid filter directive"]
  | unknownLevel =>
    let text := "error parsing level filter: expected one of \"off\", \"error\", \"warn\", \"info\", " ++
      "\"debug\", \"trace\", or a number 0-5"
    [text, text]

/-- what a directive says -/
structure Directive where
  /-- what the name of a part starts with -/
  target : List Char
  /-- what an event has besides its message -/
  fields : List (List Char)
  /-- it is about events within spans, of which the program has none -/
  ofSpans : Bool
  level : Nat
deriving DecidableEq, Repr

namespace Directive

/-- nothing is said: everything is logged -/
def blank : Directive := ⟨[], [], false, levelNames.length - 1⟩

/-- a text alone is a level or the name of a part -/
def withName (directive : Directive) (text : List Char) : Directive :=
  match levelNumber? text with
  | some level => { directive with level }
  | none => { directive with target := text }

def withLevel (directive : Directive) (text : List Char) : Except DirectiveFault Directive :=
  match levelNumber? text with
  | some level => .ok { directive with level }
  | none => .error .unknownLevel

/-- a field may have a value, which only a span has -/
def withField (directive : Directive) (text : List Char) : Except DirectiveFault Directive :=
  if text.all Text.isBlank then .error .malformed
  else .ok { directive with
    fields := directive.fields ++ [text.takeWhile (· != '=')]
    ofSpans := directive.ofSpans || text.contains '=' }

/-- how far a directive has been read; a span, a field and a level are known by where they began -/
inductive Position where
  | start
  /-- in a level or the name of a part -/
  | name
  | span (began : Nat)
  | field (began : Nat)
  /-- after the fields of a span -/
  | fields
  /-- after a span -/
  | target
  | level (began : Nat)
  | complete
deriving DecidableEq, Repr

/-- one more character of a directive, which has number `index` -/
def next (text : List Char) (read : Directive × Position) (c : Char) (index : Nat) :
    Except DirectiveFault (Directive × Position) :=
  let (directive, position) := read
  match position with
  | .start =>
    if c = '[' then .ok (directive, .span (index + 1))
    else if c = '-' ∨ c = ':' ∨ c = '_' ∨ c.isAlphanum ∨ 128 ≤ c.toNat then .ok (directive, .name)
    else .error .malformed
  | .name =>
    if c = '=' then .ok ({ directive with target := text.take index }, .level (index + 1))
    else if c = '[' then .ok ({ directive with target := text.take index }, .span (index + 1))
    else if c = ',' then .ok (directive.withName text, .complete)
    else .ok read
  | .span began =>
    if c = ']' then .ok ({ directive with ofSpans := true }, .target)
    else if c = '{' then .ok ({ directive with ofSpans := began != index }, .field (index + 1))
    else .ok read
  | .field began =>
    if c = '}' then
      (directive.withField ((text.take index).drop began)).map fun directive => (directive, .fields)
    else if c = ',' then
      (directive.withField ((text.take index).drop began)).map fun directive =>
        (directive, .field (index + 1))
    else .ok read
  | .fields => if c = ']' then .ok (directive, .target) else .error .malformed
  | .target => if c = '=' then .ok (directive, .level (index + 1)) else .error .malformed
  | .level began =>
    if c = ',' then
      (directive.withLevel ((text.take index).drop began)).map fun directive => (directive, .complete)
    else .ok read
  | .complete => .error .malformed

def parse (directive : String) : Except DirectiveFault Directive := do
  let text := directive.toList
  let (read, last) ← (Text.trim text).zipIdx.foldlM
    (fun read (c, index) => next text read c index) (blank, .start)
  match last with
  | .name => return read.withName text
  | .level began => read.withLevel (text.drop began)
  | .target | .complete => return read
  | .start | .span _ | .field _ | .fields => throw .malformed

/-! ## All directives -/

/-- the directive of the program itself, which may be several in one text. Malformed ones are passed
over; if none is left, errors are logged. -/
def ofProgram (text : String) : List Directive :=
  let parts := (Text.fields ',' text.toList).filter (!·.isEmpty)
  let read := parts.filterMap fun part => (parse (String.ofList part)).toOption
  if read.isEmpty then [{ blank with level := 1 }] else read

/-- what all directives in force say, the first one being that of the program itself -/
def assembled (texts : List String) : Except DirectiveFault (List Directive) :=
  match texts with
  | [] => .ok []
  | own :: others => (others.mapM parse).map fun read => ofProgram own ++ read

end Directive

end KernelCharts
