import KernelCharts.Kernel.Basic
import KernelCharts.Number.Numeral

/-!
# Options of the command line

* `UsageError` — why a command line is refused, or that it asks for help;
* `ValueKind` — the kinds of values, with `ValueKind.check` telling the good ones;
* `OptionSpec` — an option, with its names;
* `lineOptions`, `gridOptions`, `runOptions` — the options of the commands.
-/

namespace KernelCharts.CommandLine

/-- why a command line is refused, or that it asks for help -/
inductive UsageError where
  /-- an option or a further argument that the command does not know -/
  | unknownArgument
  /-- a value is missing, or an empty path -/
  | noValue
  /-- a value cannot be read or is out of range -/
  | badValue
  /-- an option that the command needs is missing -/
  | missingOption
  /-- an option that takes one value is repeated -/
  | repeated
  /-- a command that does not exist -/
  | unknownCommand
  /-- no command is given -/
  | missingCommand
  /-- a value for an option that takes none -/
  | unneededValue
  | helpAsked
  | versionAsked
  /-- nothing is given at all -/
  | nothingGiven
deriving DecidableEq, Repr

/-! ## Values -/

inductive ValueKind where
  | path
  | text
  | kernel
  /-- a whole number from `least` on and below `limit` -/
  | number (least limit : Nat)
  /-- a whole number below 32 bits, which may have a sign -/
  | resolution
deriving DecidableEq, Repr

/-- the number from zero on and below 32 bits that a text with a sign stands for -/
def resolution? (text : List Char) : Option Nat :=
  let (negative, digits) := Number.Numeral.sign text
  (Number.digits? digits).filter fun n => n < Number.limit32 && (!negative || n == 0)

/-- the number that a text stands for, within bounds -/
def number? (least limit : Nat) (text : List Char) : Option Nat :=
  (Number.whole? limit text).filter (least ≤ ·)

/-- what is wrong with a value, if anything -/
def ValueKind.check (kind : ValueKind) (value : String) : Except UsageError Unit :=
  let good : Bool :=
    match kind with
    | path | text => true
    | kernel => (Kernel.ofName? value.toList).isSome
    | number least limit => (number? least limit value.toList).isSome
    | resolution => (resolution? value.toList).isSome
  if kind = .path ∧ value.isEmpty then .error .noValue
  else if good then .ok () else .error .badValue

/-! ## Options -/

inductive Action where
  /-- the option takes one value, and is given once at most -/
  | set (kind : ValueKind)
  /-- the option takes one value each time it is given -/
  | append (kind : ValueKind)
  /-- the option takes no value, and is given once at most -/
  | flag
  | help
  | version
deriving DecidableEq, Repr

structure OptionSpec where
  long : String
  short : Option Char
  action : Action
deriving DecidableEq, Repr

def OptionSpec.kind? (option : OptionSpec) : Option ValueKind :=
  match option.action with
  | .set kind | .append kind => some kind
  | .flag | .help | .version => none

/-- the options that stand before or after the name of a command -/
def globalOptions : List OptionSpec :=
  [⟨"dpi", none, .set .resolution⟩, ⟨"log", some 'l', .append .text⟩,
    ⟨"log-file", none, .set .path⟩, ⟨"help", some 'h', .help⟩]

def rootOptions : List OptionSpec := globalOptions ++ [⟨"version", some 'V', .version⟩]

def outdirOption : OptionSpec := ⟨"outdir", some 'o', .set .path⟩

def referenceOption : OptionSpec := ⟨"reference", none, .set .kernel⟩

def lineOptions : List OptionSpec :=
  [⟨"file", some 'f', .set .path⟩, outdirOption, referenceOption] ++ globalOptions

def gridOptions : List OptionSpec :=
  [⟨"k32", none, .set .path⟩, ⟨"k64", none, .set .path⟩, ⟨"k128", none, .set .path⟩,
    ⟨"k256", none, .set .path⟩, outdirOption, referenceOption,
    ⟨"window", none, .set (.number 1 Number.limit64)⟩, ⟨"nnz-min", none, .set (.number 0 Number.limit64)⟩,
    ⟨"nnz-max", none, .set (.number 0 Number.limit64)⟩, ⟨"no-smooth", none, .flag⟩] ++ globalOptions

def runOptions : List OptionSpec :=
  [⟨"config", some 'c', .set .path⟩, outdirOption] ++ globalOptions

end KernelCharts.CommandLine
