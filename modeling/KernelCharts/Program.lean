import KernelCharts.CommandLine.Parse
import KernelCharts.Config
import KernelCharts.Session.Console

/-!
# The program

* `ProgramError` — why the program stops, with `ProgramError.report` as what it says then;
* `Job` — the plots of an invocation, with their directory and settings;
* `Program.run` — what the program prints, and what becomes of the files.
-/

namespace KernelCharts

inductive ProgramError where
  /-- a directive of the log is malformed -/
  | directive (fault : DirectiveFault)
  /-- the path of the log file names no file -/
  | logFile (path : String)
  /-- the grid has no table -/
  | noInputs
  /-- the bounds of the number of nonzeros are reversed -/
  | reversedBounds (least greatest : Nat)
  | config (e : ConfigError)
  | run (failure : Failure)
deriving DecidableEq, Repr

namespace ProgramError

/-- the wordings of an error and its causes, the error first -/
def chain : ProgramError → List String
  | directive fault => fault.chain
  | logFile path => ["Log file " ++ Text.quotedPath path ++ " has no file name"]
  | noInputs => ["Pass at least one of --k32, --k64, --k128, --k256"]
  | reversedBounds least greatest => [s!"--nnz-min {least} is above --nnz-max {greatest}"]
  | config e => e.chain
  | run failure => failure.chain

/-- the causes in the report of an error: one alone is indented, and several are numbered -/
def causeLines (causes : List String) : List String :=
  match causes with
  | [cause] => ["    " ++ cause]
  | _ => causes.zipIdx.map fun (cause, index) => s!"   {index}: {cause}"

/-- what the program says about an error and its causes -/
def report (e : ProgramError) : String :=
  match e.chain with
  | [] => "Error: "
  | outermost :: causes =>
    "Error: " ++ outermost ++
      if causes.isEmpty then ""
      else "\n\nCaused by:\n" ++ "\n".intercalate (causeLines causes)

end ProgramError

/-! ## Jobs -/

/-- the plots of an invocation, with their directory and settings, and what is announced -/
structure Job where
  plots : List Plot
  outdir : String
  settings : Settings
  announcement : List String

namespace Job

open CommandLine

def gridInputs (args : GridArgs) : List GridInput :=
  [(32, args.k32), (64, args.k64), (128, args.k128), (256, args.k256)].filterMap
    fun (k, path) => path.map fun path => ⟨k, path⟩

def gridPlot (args : GridArgs) : Except ProgramError GridPlot :=
  let inputs := gridInputs args
  if inputs.isEmpty then .error .noInputs
  else if args.nnzMax < args.nnzMin then .error (.reversedBounds args.nnzMin args.nnzMax)
  else .ok {
    inputs
    reference := args.reference
    window := if args.noSmooth then none else some args.window
    nnzRange := some (args.nnzMin, args.nnzMax) }

/-- the job of an invocation; the settings of a configuration count unless the command line has its
own -/
def ofInvocation (fs : FileSystem) (invocation : Invocation) : Except ProgramError Job :=
  let settings := Settings.ofDpi invocation.dpi
  match invocation.command with
  | .line file outdir reference => .ok ⟨[.line ⟨file, reference⟩], outdir, settings, []⟩
  | .grid args => (gridPlot args).map fun plot => ⟨[.grid plot], args.outdir, settings, []⟩
  | .run path outdir =>
    match Config.ofFile fs path with
    | .error e => .error (.config e)
    | .ok config =>
      .ok {
        plots := config.plots
        outdir
        settings := if invocation.dpi.isNone then config.settings else settings
        announcement := ["Running " ++ config.name] }

end Job

/-! ## The log file -/

/-- the names of a path, without those that stand for the directory itself -/
def LogFile.names (path : String) : List String := (FileSystem.names path).filter (· != ".")

/-- the files with an empty log at a path, and the directories on the way to it. A file that is there
already goes on. -/
def LogFile.create (fs : FileSystem) (path : String) : Except ProgramError FileSystem :=
  let names := LogFile.names path
  if names.isEmpty ∨ names.getLast? = some ".." then .error (.logFile path)
  else
    let start := fs.origin path
    let (fs, _) := fs.ensureAll start (FileSystem.ancestors names.dropLast)
    match names.foldlM fs.stepInto start with
    | .error _ => .ok fs
    | .ok place => .ok (if (fs.entry? place).isSome then fs else fs.put place (.file .log))

/-! ## Runs -/

inductive ProgramEnding where
  | success
  /-- the command line asks for help, or is refused -/
  | usage (e : CommandLine.UsageError)
  | failure (e : ProgramError)
deriving DecidableEq, Repr

def ProgramEnding.code : ProgramEnding → Nat
  | success | usage .helpAsked | usage .versionAsked => 0
  | failure _ => 1
  | usage _ => 2

/-- what the program prints, how it ends, and the world that it leaves -/
structure ProgramResult where
  output : List Printed
  ending : ProgramEnding
  world : World

namespace Program

def version : String := "sddmm-plot 0.1.0"

/-- the level from which on events are logged if nothing is said -/
def defaultLevel : String := "info"

def usage : List String :=
  ["Comparative GFLOPS charts for SDDMM benchmark results", "",
    "Usage: sddmm-plot [OPTIONS] <COMMAND>", "",
    "Commands:",
    "  line  One chart per K from a markdown report",
    "  grid  All K in one grid figure from per-K CSV results",
    "  run   Run every plot listed in a config file",
    "  help  Print this message or the help of the given subcommand(s)"]

/-- the events of a world that the directives let through -/
def shown (directives : List Directive) (world : World) : List Printed :=
  (world.log.filter (letsThrough directives)).map .event

/-- the job is done. Its events are printed as they come, and its summaries after them. -/
def runJob (job : Job) (directives : List Directive) (colors : Bool) (fs : FileSystem) : ProgramResult :=
  let announced := job.announcement.map Printed.line
  match (runPlots job.plots job.outdir job.settings).runOn ⟨fs, []⟩ with
  | (.error failure, world) =>
    let world := { world with log := world.log ++ [.stopped failure.details] }
    ⟨announced ++ shown directives world, .failure (.run failure), world⟩
  | (.ok reports, world) =>
    let lines := reports.flatMap fun (name, report) => summary name report colors
    ⟨announced ++ shown directives world ++ lines.map .line, .success, world⟩

/-- an invocation is carried out, after its log is set up -/
def runInvocation (invocation : CommandLine.Invocation) (level : String) (colors : Bool)
    (fs : FileSystem) : ProgramResult :=
  let stop (e : ProgramError) (fs : FileSystem) : ProgramResult := ⟨[], .failure e, ⟨fs, []⟩⟩
  match Directive.assembled (filterDirectives level invocation.log) with
  | .error fault => stop (.directive fault) fs
  | .ok directives =>
    let logged : Except ProgramError FileSystem :=
      match invocation.logFile with
      | none => .ok fs
      | some path => LogFile.create fs path
    match logged with
    | .error e => stop e fs
    | .ok fs =>
      match Job.ofInvocation fs invocation with
      | .error e => stop e fs
      | .ok job => runJob job directives colors fs

/-- the program is run with its arguments, the first of which is its name, and with the default level
of its log -/
def run (argv : List String) (level : String) (colors : Bool) (fs : FileSystem) : ProgramResult :=
  match CommandLine.parse argv with
  | .error .versionAsked => ⟨[.line version], .usage .versionAsked, ⟨fs, []⟩⟩
  | .error .helpAsked => ⟨usage.map .line, .usage .helpAsked, ⟨fs, []⟩⟩
  | .error e => ⟨[], .usage e, ⟨fs, []⟩⟩
  | .ok invocation => runInvocation invocation level colors fs

end Program

end KernelCharts
