import KernelCharts.Chart.Canvas
import KernelCharts.Chart.Group
import KernelCharts.Chart.Layout
import KernelCharts.Delimited.Columns

/-!
# The log

* `LogEvent` — what is worth a line in the log, with its level, its message, and the part of the program that
  it comes from.
-/

namespace KernelCharts

inductive LogLevel where
  | debug
  | info
  | warn
  | error
deriving DecidableEq, Repr

def LogLevel.name : LogLevel → String
  | debug => "DEBUG"
  | info => "INFO"
  | warn => "WARN"
  | error => "ERROR"

inductive RenderFault where
  /-- the figure could not be drawn -/
  | drawing (reason : String)
  /-- the pixels could not be put into their file -/
  | raster (fault : FileFault)
  /-- the page could not be put into its file -/
  | page (fault : FileFault)
deriving DecidableEq, Repr

def RenderFault.message : RenderFault → String
  | drawing reason => reason
  | page fault => fault.message
  | raster fault =>
    let cause :=
      match fault.system? with
      | some (text, number) =>
        Text.described "Os"
          [("code", number.repr), ("kind", fault.kind), ("message", Text.quoted text.toList)]
      | none => fault.message
    "backend error: Drawing backend error: IOError(" ++ cause ++ ")"

inductive LogEvent where
  /-- a row of a report is no observation -/
  | droppedLine (line : Nat) (cause : RowError)
  /-- a row of a report stands ahead of the line that names its file -/
  | orphanedLine (line : Nat)
  /-- a header of a report does not name the columns that are needed -/
  | unrecognisedHeader (line : Nat)
  /-- a record of a table is no observation -/
  | droppedRecord (record : Nat) (cause : RowError)
  /-- a record of a table is no text -/
  | unreadableRecord (record : Nat) (cause : EncodingFault)
  /-- a kernel has a second column -/
  | duplicateColumn (kernel : Kernel)
  /-- no kernel has a column -/
  | noKernelColumns (header : List (List Char))
  /-- some rows of a table are of use -/
  | kept (rows total : Nat) (reference : Kernel)
  /-- a width has too few rows -/
  | skipped (group : SkippedGroup)
  /-- a table is left out of the grid -/
  | ignoredInput (path : String) (cause : ExtractError)
  /-- a report has no row of use -/
  | emptyReport (path : String)
  /-- a grid has no group -/
  | emptyGrid
  /-- an image is written -/
  | saved (format : OutputFormat) (path : String)
  /-- an image is not written -/
  | notSaved (path : String) (cause : RenderFault)
  /-- the columns of a table of records are known -/
  | resolvedColumns (columns : Delimited.Columns)
  /-- a file has been read to its end -/
  | extracted (path : String) (accepted malformed orphaned : Nat)
  /-- a plot begins -/
  | running (plot : String)
  /-- an image begins, of a width and a height in pixels -/
  | rendering (path : String) (width height : Nat)
  /-- a line figure has some categories -/
  | categories (k count : Nat)
  | wroteLinePlots (figures : Nat)
  | layingOut (layout : GridLayout)
  | wroteGrid (panels : Nat)
  /-- the program stops, for reasons that are told over several lines -/
  | stopped (details : String)
deriving DecidableEq, Repr

namespace LogEvent

def level : LogEvent → LogLevel
  | droppedLine .. | orphanedLine .. | unrecognisedHeader .. | droppedRecord ..
  | unreadableRecord .. | kept .. | resolvedColumns .. | running .. | rendering .. | categories ..
  | layingOut .. => .debug
  | saved .. | extracted .. | wroteLinePlots .. | wroteGrid .. => .info
  | duplicateColumn .. | noKernelColumns .. | skipped .. | ignoredInput .. | emptyReport ..
  | emptyGrid => .warn
  | notSaved .. | stopped .. => .error

/-- the part of the program that an event comes from -/
def target : LogEvent → String
  | droppedLine .. | orphanedLine .. | unrecognisedHeader .. => "sddmm::report"
  | droppedRecord .. | unreadableRecord .. | duplicateColumn .. | noKernelColumns ..
  | resolvedColumns .. => "sddmm::table"
  | extracted .. => "sddmm"
  | kept .. | skipped .. => "common::normalize"
  | saved .. | notSaved .. | rendering .. => "common::plot"
  | emptyReport .. | categories .. | wroteLinePlots .. => "sddmm_line"
  | ignoredInput .. | emptyGrid | layingOut .. | wroteGrid .. => "sddmm_grid"
  | running .. => "sddmm_plot::run"
  | stopped .. => "sddmm_plot"

def message : LogEvent → String
  | droppedLine line cause => s!"Dropping line {line}: " ++ cause.message
  | orphanedLine line => s!"Dropping line {line}: no file context yet"
  | unrecognisedHeader line => s!"Header on line {line} not recognised, using legacy columns"
  | droppedRecord record cause => s!"Dropping record {record}: " ++ cause.message
  | unreadableRecord record cause => s!"Dropping record {record}: " ++ cause.message
  | duplicateColumn kernel =>
    "Duplicate column for " ++ kernel.name ++ ", keeping the first"
  | noKernelColumns header =>
    "No implementation columns in header StringRecord(" ++
      Text.bracketed (header.map Text.quoted) ++ ")"
  | kept rows total reference =>
    s!"Kept {rows} of {total} rows for reference " ++ reference.name
  | skipped group =>
    let k := group.k
    let window := group.window
    s!"Skipping K={k} due to insufficient data points (<{window})"
  | ignoredInput path cause => s!"Ignoring {path}: " ++ cause.message
  | emptyReport path => s!"No valid data to plot in {path}"
  | emptyGrid => "No valid data to plot"
  | saved format path => "Saved " ++ format.name ++ s!" to {path}"
  | notSaved path cause => s!"Failed to save {path}: " ++ cause.message
  | resolvedColumns columns => "Resolved CSV columns " ++ columns.description
  | extracted path accepted malformed orphaned =>
    s!"Extracted {accepted} rows from {path} ({malformed} malformed, {orphaned} without file context)"
  | running plot => "Running " ++ plot
  | rendering path width height => s!"Rendering {path} at {width}x{height} px"
  | categories k count => s!"K={k} has {count} matrices"
  | wroteLinePlots figures => s!"Wrote {figures} line plots"
  | layingOut layout =>
    let panels := layout.panels
    let rows := layout.rows
    let cols := layout.cols
    let slots := layout.unused.length
    s!"Laying out {panels} groups in {rows}x{cols}, {slots} slots left out"
  | wroteGrid panels => s!"Wrote grid of {panels} groups"
  | stopped details => details

def render (event : LogEvent) : String := event.level.name ++ " " ++ event.message

end LogEvent

/-- the events of normalizing a table: how many rows were kept, and which widths were skipped -/
def normalizeEvents {α : Type} [Scalar α] (t : Table α) (s : Selection) : List LogEvent :=
  .kept (t.clean s).rows.length t.rows.length s.reference ::
    (t.normalize s).skipped.map .skipped

end KernelCharts
