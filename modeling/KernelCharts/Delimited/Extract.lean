import KernelCharts.Delimited.Columns
import KernelCharts.Delimited.Record
import KernelCharts.Log

/-!
# Reading a table of records

* `Outcome`, `outcome` — what becomes of a record;
* `headerEvents` — what the log says about a header;
* `extract` — the table of a feed.
-/

namespace KernelCharts.Delimited

/-! ## Outcomes -/

inductive Outcome where
  | accepted (row : Observation Float)
  | malformed (cause : RowError)
  /-- the record is no text -/
  | unreadable (cause : EncodingFault)

namespace Outcome

def row? : Outcome → Option (Observation Float)
  | accepted row => some row
  | _ => none

def isAccepted : Outcome → Bool
  | accepted _ => true
  | _ => false

def event? (number : Nat) : Outcome → Option LogEvent
  | accepted _ => none
  | malformed cause => some (.droppedRecord number cause)
  | unreadable cause => some (.unreadableRecord number cause)

end Outcome

/-- what becomes of record number `number` -/
def outcome (columns : Columns) (label : Option Nat) (record : RawRecord) (number : Nat) :
    Outcome :=
  match record.decode number with
  | .error cause => .unreadable cause
  | .ok cells =>
    match columns.readRecord label cells with
    | .ok row => .accepted row
    | .error cause => .malformed cause

/-- what becomes of every record after the header, which is number zero -/
def outcomes (columns : Columns) (label : Option Nat) (records : List RawRecord) : List Outcome :=
  (records.zipIdx 1).map fun (record, number) => outcome columns label record number

/-! ## Tables -/

/-- what the log says about a header that names the columns that are needed -/
def headerEvents (header : List (List Char)) : List LogEvent :=
  (repeatedKernels header).map .duplicateColumn ++
    if (kernelColumns header).isEmpty then [.noKernelColumns header] else []

def extractRecords (columns : Columns) (label : Option Nat) (records : List RawRecord) :
    Extraction :=
  let outcomes := outcomes columns label records
  let rows := outcomes.filterMap Outcome.row?
  { table := (Table.ofKernels columns.kernels).merge (Table.ofRows rows)
    accepted := rows.length
    malformed := outcomes.countP fun outcome => !outcome.isAccepted
    orphaned := 0 }

/-- the header of a feed and the records after it. An input without records has an empty header. -/
def headerAndRecords (feed : Feed) :
    Except ExtractError (List (List Char) × List RawRecord) :=
  match records feed, feed.fault with
  | [], some fault => .error (.csv (.file fault))
  | [], none => .ok ([], [])
  | header :: rest, _ =>
    match header.decode 0 with
    | .error fault => .error (.csv (.encoding fault))
    | .ok cells => .ok (cells, rest)

/-- the table of a feed, with the events of reading it. With a label, every row has that width. A
header that lacks a column or is no text spoils the table, and so does a feed that breaks off; a bad
record spoils nothing but itself. -/
def extract (label : Option Nat) (feed : Feed) : List LogEvent × Except ExtractError Extraction :=
  match headerAndRecords feed with
  | .error e => ([], .error e)
  | .ok (header, records) =>
    match Columns.ofHeader header with
    | .error e => ([], .error e)
    | .ok columns =>
      let recordEvents := ((outcomes columns label records).zipIdx 1).filterMap
        fun (outcome, number) => outcome.event? number
      (headerEvents header ++ .resolvedColumns columns :: recordEvents,
        match feed.fault with
        | some fault => .error (.csv (.file fault))
        | none => .ok (extractRecords columns label records))

end KernelCharts.Delimited
