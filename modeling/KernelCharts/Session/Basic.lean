import KernelCharts.FileSystem.Basic
import KernelCharts.Log

/-!
# Sessions

A run works on a file system and keeps a log; both survive when it fails.

* `World` — the files and the log so far;
* `Failure` — why a run stops, with `Failure.chain` as its wording and `Failure.details` as all that is known;
* `Session` — the steps of a run;
* `Session.extractFile` — the table of a file.
-/

namespace KernelCharts

structure World where
  files : FileSystem
  log : List LogEvent

inductive Failure where
  /-- a directory for images cannot be created -/
  | createDirectory (path : String) (cause : FileFault)
  /-- some images could not be written -/
  | notWritten (failed written : List String)
  /-- a report cannot be read -/
  | readReport (path : String) (cause : ExtractError)
  /-- a table cannot be read -/
  | readResults (path : String) (cause : ExtractError)
  /-- a plot failed -/
  | plot (name : String) (cause : Failure)
deriving DecidableEq, Repr

namespace Failure

/-- the wordings of a failure and its causes, the failure first -/
def chain : Failure → List String
  | createDirectory path cause =>
    ["Create plot directory " ++ Text.quotedPath path, cause.message]
  | notWritten failed written =>
    ["Could not write " ++ Text.bracketed (failed.map Text.quotedPath) ++ " (written: " ++
      Text.bracketed (written.map Text.quotedPath) ++ ")"]
  | readReport path cause => ("Read report " ++ Text.quotedPath path) :: cause.chain
  | readResults path cause => ("Read results " ++ Text.quotedPath path) :: cause.chain
  | plot name cause => s!"{name} plot failed" :: cause.chain

/-- all that is known about a failure, down to its first cause -/
def details : Failure → String
  | createDirectory path cause => context ("Create plot directory " ++ Text.quotedPath path) cause.details
  | notWritten failed written => Text.quoted ((notWritten failed written).chain.headD "").toList
  | readReport path cause => context ("Read report " ++ Text.quotedPath path) cause.details
  | readResults path cause => context ("Read results " ++ Text.quotedPath path) cause.details
  | plot name cause => context s!"{name} plot failed" cause.details
where
  context (message details : String) : String :=
    Text.spread "Error \x7b" ["msg: " ++ Text.quotedPath message, "source: " ++ details] "\x7d"

/-- the wording of a failure with its causes, on one line -/
def message (failure : Failure) : String := ": ".intercalate failure.chain

end Failure

/-- the steps of a run; the files and the log survive a failure -/
abbrev Session := ExceptT Failure (StateM World)

namespace Session

def log (events : List LogEvent) : Session Unit :=
  modify fun world => { world with log := world.log ++ events }

/-- the files are changed, and the run stops if that fails -/
def changeFiles (change : FileSystem → FileSystem × Option FileFault)
    (failure : FileFault → Failure) : Session Unit := do
  let world ← get
  let (files, fault) := change world.files
  set { world with files }
  match fault with
  | none => pure ()
  | some fault => throw (failure fault)

/-- the table of a file, by some way of reading it -/
def extractFile (extract : Feed → List LogEvent × Except ExtractError Extraction) (path : String) :
    Session (Except ExtractError Extraction) := do
  match (← get).files.openFile path with
  | .error fault => return .error (.io fault)
  | .ok feed =>
    let (events, result) := extract feed
    log events
    if let .ok e := result then
      log [.extracted path e.accepted e.malformed e.orphaned]
    return result

/-- a failure is wrapped before it goes on -/
def wrap {β : Type} (context : Failure → Failure) (steps : Session β) : Session β :=
  tryCatch steps fun failure => throw (context failure)

/-- the result of a session and the world it leaves behind -/
def runOn {β : Type} (steps : Session β) (world : World) : Except Failure β × World :=
  StateT.run (ExceptT.run steps) world

end Session

end KernelCharts
