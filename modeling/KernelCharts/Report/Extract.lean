import KernelCharts.Log
import KernelCharts.Report.Columns
import KernelCharts.Report.Context
import KernelCharts.Text.Lines
import KernelCharts.Text.Utf8

/-!
# Reading a report

A report is prose with tables in between. Lines are read one by one; what a row means depends on the
last line that named a file and on the last header.

* `LineKind`, `classify` — what a line is;
* `Context` — what the lines so far have settled;
* `Outcome`, `outcomes` — what becomes of every line;
* `readLines` — the lines of a feed;
* `extract` — the table of a report.
-/

namespace KernelCharts.Report

/-! ## Kinds of lines -/

inductive LineKind where
  /-- a line that names the file of the rows after it -/
  | context (file : List Char)
  /-- a row that names the columns -/
  | header (cells : List (List Char))
  /-- a row of values -/
  | data (cells : List (List Char))
  | prose
deriving DecidableEq, Repr

/-- what a line is. A row starts with a bar, and a header with the cell `M`. -/
def classify (line : List Char) : LineKind :=
  match contextFile? line with
  | some file => .context file
  | none =>
    if (Text.trimStart line).head? ≠ some '|' then .prose
    else
      let cells := splitRow line
      if cells.head? = some ['M'] then .header cells else .data cells

/-! ## Outcomes -/

/-- what the lines so far have settled for the rows to come -/
structure Context where
  columns : Columns
  file : Option (List Char)
deriving DecidableEq, Repr

namespace Context

def start : Context := ⟨.positional, none⟩

/-- what is settled after one more line -/
def next (c : Context) : LineKind → Context
  | .context file => { c with file := some file }
  | .header cells => { c with columns := (Columns.ofHeader? cells).getD .positional }
  | .data _ | .prose => c

end Context

inductive Outcome where
  /-- the line holds no values -/
  | passed
  /-- a header that does not name the columns that are needed -/
  | unrecognised
  | accepted (row : Observation Float)
  | malformed (cause : RowError)
  /-- a row of values ahead of the line that names its file -/
  | orphaned

namespace Outcome

def row? : Outcome → Option (Observation Float)
  | accepted row => some row
  | _ => none

def isMalformed : Outcome → Bool
  | malformed _ => true
  | _ => false

def isOrphaned : Outcome → Bool
  | orphaned => true
  | _ => false

def event? (line : Nat) : Outcome → Option LogEvent
  | passed | accepted _ => none
  | unrecognised => some (.unrecognisedHeader line)
  | malformed cause => some (.droppedLine line cause)
  | orphaned => some (.orphanedLine line)

end Outcome

/-- what becomes of a line -/
def Context.outcome (c : Context) : LineKind → Outcome
  | .context _ | .prose => .passed
  | .header cells => if (Columns.ofHeader? cells).isSome then .passed else .unrecognised
  | .data cells =>
    match c.file with
    | none => .orphaned
    | some file =>
      match c.columns.readRow (String.ofList file) cells with
      | .ok row => .accepted row
      | .error cause => .malformed cause

def outcomes (c : Context) : List LineKind → List Outcome
  | [] => []
  | kind :: kinds => c.outcome kind :: outcomes (c.next kind) kinds

/-! ## Feeds -/

/-- the lines up to the first that is no text, and the fault that ends them -/
def decodeLines (fault : Option FileFault) : List (List UInt8) → List (List Char) × Option FileFault
  | [] => ([], fault)
  | line :: lines =>
    match Utf8.decode? (Lines.content line) with
    | none => ([], some .notText)
    | some text =>
      let (texts, last) := decodeLines fault lines
      (text :: texts, last)

/-- the lines of a feed, and the fault that ends them. A line in which the feed breaks off is not
read. -/
def readLines (feed : Feed) : List (List Char) × Option FileFault :=
  let lines := Lines.split feed.bytes
  decodeLines feed.fault (if feed.fault.isSome then lines.filter Lines.isComplete else lines)

/-! ## Reports -/

def extractLines (kinds : List LineKind) : Extraction :=
  let outcomes := outcomes .start kinds
  let rows := outcomes.filterMap Outcome.row?
  let last := kinds.foldl Context.next .start
  { table := (Table.ofKernels last.columns.kernels).merge (Table.ofRows rows)
    accepted := rows.length
    malformed := outcomes.countP Outcome.isMalformed
    orphaned := outcomes.countP Outcome.isOrphaned }

/-- the events of some lines, which are numbered from one -/
def lineEvents (kinds : List LineKind) : List LogEvent :=
  ((outcomes .start kinds).zipIdx 1).filterMap fun (outcome, line) => outcome.event? line

/-- the table of a report, with the events of reading it. A feed that breaks off, or a line that is
no text, spoils the report. -/
def extract (feed : Feed) : List LogEvent × Except ExtractError Extraction :=
  let (lines, fault) := readLines feed
  let kinds := lines.map classify
  (lineEvents kinds,
    match fault with
    | some fault => .error (.io fault)
    | none => .ok (extractLines kinds))

end KernelCharts.Report
