import KernelCharts.FileSystem.Fault
import KernelCharts.Table.Basic

/-!
# Extraction

* `Feed` — the bytes that a reader delivers, and whether it breaks off after them;
* `Extraction` — the table read from a feed, and what became of the rows;
* `ExtractError` — why a feed as a whole cannot be read.
-/

namespace KernelCharts

/-- what a reader delivers: some bytes, and then the end or a fault -/
structure Feed where
  bytes : List UInt8
  fault : Option FileFault
deriving DecidableEq

/-- the feed of a file without faults -/
def Feed.ofBytes (bytes : List UInt8) : Feed := ⟨bytes, none⟩

/-- the rows of a feed and what became of them -/
structure Extraction where
  table : Table Float
  accepted : Nat
  /-- rows with too few cells or with a cell that cannot be read -/
  malformed : Nat
  /-- rows ahead of the line that names their file -/
  orphaned : Nat
deriving BEq, Repr

/-- a record whose bytes are no text: where the record starts, which of its fields is no text, and
how many bytes of that are -/
structure EncodingFault where
  record : Nat
  line : Nat
  byte : Nat
  field : Nat
  validUpTo : Nat
deriving DecidableEq, Repr

def EncodingFault.message (e : EncodingFault) : String :=
  let record := e.record
  let line := e.line
  let field := e.field
  let byte := e.byte
  let validUpTo := e.validUpTo
  s!"CSV parse error: record {record} (line {line}, field: {field}, byte: {byte}): " ++
    s!"invalid utf-8: invalid UTF-8 in field {field} near byte index {validUpTo}"

inductive CsvFault where
  | file (fault : FileFault)
  | encoding (fault : EncodingFault)
deriving DecidableEq, Repr

def CsvFault.message : CsvFault → String
  | file fault => fault.message
  | encoding fault => fault.message

inductive ExtractError where
  /-- the lines of a report cannot be read -/
  | io (fault : FileFault)
  /-- the records of a table cannot be read -/
  | csv (fault : CsvFault)
  /-- a table has none of the columns that could hold a value -/
  | missingColumn (names : List String)
deriving DecidableEq, Repr

namespace ExtractError

def message : ExtractError → String
  | io fault => "IO error: " ++ fault.message
  | csv fault => "CSV error: " ++ fault.message
  | missingColumn names => "Missing column " ++ "|".intercalate names

/-- the wordings of an error and its causes, the error first -/
def chain : ExtractError → List String
  | io fault => [message (io fault), fault.message]
  | csv fault => [message (csv fault), fault.message]
  | missingColumn names => [message (missingColumn names)]

def details : ExtractError → String
  | io fault => Text.spread "Io(" [fault.details] ")"
  | csv (.file fault) =>
    Text.spread "Csv(" [Text.spread "Error(" [Text.spread "Io(" [fault.details] ")"] ")"] ")"
  | csv (.encoding fault) =>
    let position := Text.spread "Position \x7b"
      ["byte: " ++ fault.byte.repr, "line: " ++ fault.line.repr, "record: " ++ fault.record.repr] "\x7d"
    let cause := Text.spread "Utf8Error \x7b"
      ["field: " ++ fault.field.repr, "valid_up_to: " ++ fault.validUpTo.repr] "\x7d"
    Text.spread "Csv("
      [Text.spread "Error("
        [Text.spread "Utf8 \x7b" ["pos: " ++ Text.spread "Some(" [position] ")", "err: " ++ cause] "\x7d"]
        ")"]
      ")"
  | missingColumn names => Text.spread "MissingColumn(" [Text.quoted ("|".intercalate names).toList] ")"

/-- an input that cannot be read is fatal; a bad header only spoils the one input -/
def isFatal : ExtractError → Bool
  | io _ => true
  | csv (.file _) => true
  | csv (.encoding _) => false
  | missingColumn _ => false

end ExtractError

end KernelCharts
