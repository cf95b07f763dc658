import KernelCharts.CommandLine.Given
import KernelCharts.Grid.Plot
import KernelCharts.Line.Plot

/-!
# Command lines

* `Command` — what is asked for;
* `Invocation` — a command with the options that all commands share;
* `parse` — the invocation of a command line.
-/

namespace KernelCharts.CommandLine

structure GridArgs where
  k32 : Option String
  k64 : Option String
  k128 : Option String
  k256 : Option String
  outdir : String
  reference : Kernel
  window : Nat
  nnzMin : Nat
  nnzMax : Nat
  noSmooth : Bool
deriving DecidableEq, Repr

inductive Command where
  | line (file outdir : String) (reference : Kernel)
  | grid (args : GridArgs)
  | run (config outdir : String)
deriving DecidableEq, Repr

structure Invocation where
  command : Command
  dpi : Option Nat
  log : List String
  logFile : Option String
deriving DecidableEq, Repr

/-- the names of the commands; `help` stands for the help about one of the others -/
def commandNames : List String := ["line", "grid", "run", "help"]

def outdir (given : Given) : String := (given.get? "outdir").getD "."

def reference (given : Given) (missing : Kernel) : Kernel :=
  ((given.get? "reference").bind fun name => Kernel.ofName? name.toList).getD missing

def number (given : Given) (long : String) (missing : Nat) : Nat :=
  ((given.get? long).bind fun text => Number.whole? Number.limit64 text.toList).getD missing

def commandOf (name : String) (given : Given) : Except UsageError Command :=
  if name == "line" then
    match given.get? "file" with
    | none => .error .missingOption
    | some file => .ok (.line file (outdir given) (reference given LinePlot.defaultReference))
  else if name == "grid" then
    .ok (.grid {
      k32 := given.get? "k32"
      k64 := given.get? "k64"
      k128 := given.get? "k128"
      k256 := given.get? "k256"
      outdir := outdir given
      reference := reference given GridPlot.defaultReference
      window := number given "window" GridPlot.defaultWindow
      nnzMin := number given "nnz-min" GridPlot.defaultRange.1
      nnzMax := number given "nnz-max" GridPlot.defaultRange.2
      noSmooth := given.has "no-smooth" })
  else .ok (.run ((given.get? "config").getD "config.yaml") (outdir given))

def optionsOf (name : String) : List OptionSpec :=
  if name == "line" then lineOptions else if name == "grid" then gridOptions else runOptions

def help (args : List String) : UsageError :=
  match args with
  | [] => .helpAsked
  | [name] => if commandNames.contains name then .helpAsked else .unknownCommand
  | _ => .unknownCommand

/-- the values of an option that may stand before or after the name of the command; those after it
count if there are any -/
def shared (before after : Given) (long : String) : List String :=
  if after.has long then after.all long else before.all long

/-- the arguments after the name of a command -/
def readCommand (name : String) (args : List String) : Except UsageError (Given × Command) := do
  let (given, _) ← readOptions (optionsOf name) [] false .none args
  let given ← given.settle
  return (given, ← commandOf name given)

/-- the invocation of a command line, whose first word is the name of the program -/
def parse (argv : List String) : Except UsageError Invocation := do
  let (before, ending) ← readOptions rootOptions commandNames false .none argv.tail
  match ending with
  | .finished =>
    let before ← before.settle
    if before.values.isEmpty then throw .nothingGiven else throw .missingCommand
  | .command "help" rest => throw (help rest)
  | .command name rest =>
    let (after, command) ← readCommand name rest
    let before ← before.settle
    return {
      command
      dpi := (shared before after "dpi").head?.bind fun text => resolution? text.toList
      log := shared before after "log"
      logFile := (shared before after "log-file").head? }

end KernelCharts.CommandLine
