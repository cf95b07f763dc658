import KernelCharts.Program

/-!
# The command line

A run is a function of what stands on the disk. `main` looks at the places that the run is about,
computes it, looks at the places that it would write, computes it again, and brings the disk to what
the run leaves.

* `Disk.look`, `Disk.observe`, `Disk.observeAll` — from the disk;
* `Disk.update` — to the disk;
* `main` — the program.
-/

namespace KernelCharts

/-! ## The places of a run -/

def Plot.sources : Plot → List String
  | .line plot => [plot.file]
  | .grid plot => plot.inputs.map (·.path)

def CommandLine.Command.directory : CommandLine.Command → String
  | .line _ outdir _ => outdir
  | .grid args => args.outdir
  | .run _ outdir => outdir

/-! ## The disk -/

namespace Disk

def path (place : Place) : String := "/" ++ "/".intercalate place

/-- what stands at a path whose directory is there -/
def look (path : String) : IO (Option Entry) := do
  match ← (IO.FS.readBinFile path).toBaseIO with
  | .ok data => return some (.file (.bytes data.toList))
  | .error (.inappropriateType ..) => return some .directory
  | .error _ => return none

/-- the files together with what stands at a path and on the way to it -/
def observe (fs : FileSystem) (path : String) : IO FileSystem := do
  let mut fs := fs
  for names in (FileSystem.rowsUpwards (FileSystem.names path).reverse).reverse do
    match names.foldlM fs.stepInto (fs.origin path) with
    | .error _ => return fs
    | .ok place =>
      if (fs.entry? place).isNone then
        if let some entry ← look (Disk.path place) then
          fs := fs.put place entry
  return fs

/-- the files together with what stands at the places of other files -/
def observeAll (fs other : FileSystem) : IO FileSystem :=
  other.entries.reverse.foldlM (fun fs (place, _) => observe fs (path place)) fs

def write (place : Place) : Entry → IO Unit
  | .directory => IO.FS.createDirAll (path place)
  | .file content => IO.FS.writeBinFile (path place) ⟨content.data.toArray⟩

/-- the entries that are new or changed are written, the oldest first -/
def update (before after : FileSystem) : IO Unit :=
  for (place, entry) in after.entries.reverse do
    if before.entries.lookup place != some entry then
      write place entry

end Disk

/-- the files that an invocation is about -/
def CommandLine.Invocation.observe (invocation : CommandLine.Invocation) (fs : FileSystem) :
    IO FileSystem := do
  let mut fs ← Disk.observe fs invocation.command.directory
  if let some path := invocation.logFile then
    fs ← Disk.observe fs path
  if let .run config _ := invocation.command then
    fs ← Disk.observe fs config
  if let .ok job := Job.ofInvocation fs invocation then
    for path in job.plots.flatMap Plot.sources do
      fs ← Disk.observe fs path
  return fs

end KernelCharts

open KernelCharts in
def main (args : List String) : IO UInt32 := do
  let argv := "sddmm-plot" :: args
  let colors ← (← IO.getStdout).isTty
  let start : FileSystem := ⟨[], FileSystem.names (toString (← IO.currentDir))⟩
  let fs ← match CommandLine.parse argv with
    | .ok invocation => invocation.observe start
    | .error _ => pure start
  let draft := Program.run argv Program.defaultLevel colors fs
  let fs ← Disk.observeAll fs draft.world.files
  let result := Program.run argv Program.defaultLevel colors fs
  Disk.update fs result.world.files
  let time := Console.timeStamp (← Std.Time.DateTime.now)
  for printed in result.output do
    IO.println (printed.text time)
  match result.ending with
  | .success => pure ()
  | .failure e => IO.eprintln e.report
  | .usage _ =>
    if result.output.isEmpty then
      IO.eprintln ("\n".intercalate Program.usage)
  return UInt32.ofNat result.ending.code
