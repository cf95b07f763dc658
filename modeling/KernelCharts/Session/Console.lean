import KernelCharts.Log
import KernelCharts.Session.Directive
import Std.Time.Format

/-!
# The console

The log is kept in full. On the console stand the events that the directives let through, each in a line
that begins with the time.

* `Directive.decisive?` — the directive that decides about an event;
* `letsThrough` — whether an event gets to the console;
* `Console.timeStamp`, `Console.eventLine` — the line of an event;
* `Printed` — what stands on the console.
-/

namespace KernelCharts

/-! ## What gets through -/

/-- the number of a level among those that directives tell -/
def LogLevel.number : LogLevel → Nat
  | error => 1
  | warn => 2
  | info => 3
  | debug => 4

namespace Directive

/-- the directive is about an event, which has no field but its message -/
def isAbout (directive : Directive) (event : LogEvent) : Bool :=
  !directive.ofSpans && directive.target.isPrefixOf event.target.toList &&
    directive.fields.all (· == "message".toList)

/-- another directive says as much of an event: it names more of its target, or as much and as many
fields -/
def yieldsTo (directive other : Directive) : Bool :=
  directive.target.length < other.target.length ||
    (directive.target.length == other.target.length && directive.fields.length ≤ other.fields.length)

/-- of two directives the one that says more, and the later one if they say as much -/
def preferred (best? : Option Directive) (directive : Directive) : Option Directive :=
  match best? with
  | none => some directive
  | some best => some (if best.yieldsTo directive then directive else best)

/-- the directive that decides about an event, among those that are about it -/
def decisive? (directives : List Directive) (event : LogEvent) : Option Directive :=
  (directives.filter (·.isAbout event)).foldl preferred none

end Directive

def letsThrough (directives : List Directive) (event : LogEvent) : Bool :=
  match Directive.decisive? directives event with
  | none => false
  | some directive => event.level.number ≤ directive.level

/-! ## Lines -/

namespace Console

def styled (style text : String) : String := "\x1b[" ++ style ++ "m" ++ text ++ "\x1b[0m"

def dimmed (text : String) : String := styled "2" text

def levelText (level : LogLevel) : String :=
  let style :=
    match level with
    | .error => "31"
    | .warn => "33"
    | .info => "32"
    | .debug => "34"
  styled style (String.ofList (List.replicate (5 - level.name.length) ' ') ++ level.name)

/-- a character of a message; those that a terminal takes for commands are written out -/
def shown (c : Char) : List Char :=
  if c.toNat ∈ [0x07, 0x08, 0x0C, 0x1B, 0x7F] then
    let digits := Nat.toDigits 16 c.toNat
    ['\\', 'x'] ++ List.replicate (2 - digits.length) '0' ++ digits
  else if 0x80 ≤ c.toNat ∧ c.toNat ≤ 0x9F then
    ['\\', 'u', Char.ofNat 0x7B] ++ Nat.toDigits 16 c.toNat ++ [Char.ofNat 0x7D]
  else [c]

/-- the time as it stands before an event, as in ` 1-Mar-2026  9:05:00 +0000` -/
def timeStamp (now : Std.Time.DateTime) : String :=
  let twoPlaces (text : String) : String := if text.length < 2 then " " ++ text else text
  twoPlaces (now.format "d") ++ now.format "-MMM-uuuu " ++ twoPlaces (now.format "H") ++
    now.format ":mm:ss Z"

/-- the line of an event that is logged at some time -/
def eventLine (time : String) (event : LogEvent) : String :=
  dimmed time ++ " " ++ levelText event.level ++ " " ++ dimmed event.target ++ dimmed ":" ++ " " ++
    String.ofList (event.message.toList.flatMap shown)

end Console

inductive Printed where
  | line (text : String)
  | event (event : LogEvent)
deriving DecidableEq, Repr

/-- how it stands there, if events are logged at some time -/
def Printed.text (time : String) : Printed → String
  | line text => text
  | event e => Console.eventLine time e

end KernelCharts
