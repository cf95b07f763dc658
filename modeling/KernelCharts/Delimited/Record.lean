import KernelCharts.Extraction.Basic
import KernelCharts.Text.Blank
import KernelCharts.Text.Utf8

/-!
# Records

Bytes are cut into records and these into fields, separated by commas. A field that starts with a
quote runs to the next single quote and may hold commas and line ends; a quote inside is written
twice. Empty lines are no records.

* `RawRecord` — the fields of a record and where it starts;
* `Scanner`, `Scanner.step` — the reading of one byte;
* `scan` — the records of some bytes, complete and cut off;
* `RawRecord.decode` — the texts of the fields.
-/

namespace KernelCharts.Delimited

/-- the fields of a record, and the line and the byte at which it starts -/
structure RawRecord where
  line : Nat
  byte : Nat
  fields : List (List UInt8)
deriving DecidableEq, Repr

/-! ## Scanning -/

/-- what the last byte has left open -/
inductive Mode where
  /-- no field of the next record has begun -/
  | between
  /-- a field begins -/
  | fieldStart
  /-- inside a field, where quotes stand for themselves -/
  | bare
  /-- inside a quoted field -/
  | quoted
  /-- after a quote inside a quoted field -/
  | closing
deriving DecidableEq, Repr

def comma : UInt8 := 44

def quote : UInt8 := 34

def isTerminator (b : UInt8) : Bool := b == 10 || b == 13

/-- what has been read, the last part first -/
structure Scanner where
  mode : Mode
  /-- the bytes of the open field -/
  field : List UInt8
  /-- the fields of the open record -/
  fields : List (List UInt8)
  records : List RawRecord
  /-- how many bytes have been read -/
  byte : Nat
  /-- the line that the next byte stands in -/
  line : Nat
  /-- the line and the byte at which the open record starts -/
  start : Nat × Nat
deriving DecidableEq, Repr

namespace Scanner

/-- nothing has been read, apart from `byte` bytes that belong to no record -/
def initial (byte : Nat) : Scanner := ⟨.between, [], [], [], byte, 1, (1, 0)⟩

def append (s : Scanner) (mode : Mode) (b : UInt8) : Scanner :=
  { s with mode, field := b :: s.field }

def endField (s : Scanner) : Scanner :=
  { s with mode := .fieldStart, field := [], fields := s.field.reverse :: s.fields }

def endRecord (s : Scanner) : Scanner :=
  let record := ⟨s.start.1, s.start.2, (s.field.reverse :: s.fields).reverse⟩
  { s with
    mode := .between, field := [], fields := [], records := record :: s.records
    start := (s.line, s.byte) }

def beginField (s : Scanner) (b : UInt8) : Scanner :=
  if b = quote then { s with mode := .quoted }
  else if b = comma then s.endField
  else if isTerminator b then s.endRecord
  else s.append .bare b

/-- the byte is read inside a field, where quotes stand for themselves -/
def continueField (s : Scanner) (b : UInt8) : Scanner :=
  if b = comma then s.endField
  else if isTerminator b then s.endRecord
  else s.append .bare b

def count (s : Scanner) (b : UInt8) : Scanner :=
  { s with byte := s.byte + 1, line := if b = 10 then s.line + 1 else s.line }

def step (s : Scanner) (b : UInt8) : Scanner :=
  let s := s.count b
  match s.mode with
  | .between => if isTerminator b then s else s.beginField b
  | .fieldStart => s.beginField b
  | .bare => s.continueField b
  | .quoted => if b = quote then { s with mode := .closing } else s.append .quoted b
  | .closing => if b = quote then s.append .quoted b else s.continueField b

def ended (s : Scanner) : List RawRecord := s.records.reverse

/-- all records, in order; one that the input cuts off ends with it -/
def all (s : Scanner) : List RawRecord := if s.mode = .between then s.ended else s.endRecord.ended

end Scanner

/-- the bytes that may stand ahead of a text to mark it as one -/
def byteOrderMark : List UInt8 := [0xEF, 0xBB, 0xBF]

/-- the reading of some bytes; a byte order mark at their start belongs to no record -/
def scan (bytes : List UInt8) : Scanner :=
  if byteOrderMark.isPrefixOf bytes then (bytes.drop 3).foldl Scanner.step (.initial 3)
  else bytes.foldl Scanner.step (.initial 0)

/-- the records of a feed. A record in which the feed breaks off is not read. -/
def records (feed : Feed) : List RawRecord :=
  if feed.fault.isSome then (scan feed.bytes).ended else (scan feed.bytes).all

/-! ## Decoding -/

def isBlankByte (b : UInt8) : Bool := b == 32 || b == 9 || b == 10 || b == 12 || b == 13

def trimBytes (bytes : List UInt8) : List UInt8 :=
  ((bytes.dropWhile isBlankByte).reverse.dropWhile isBlankByte).reverse

/-- the texts of some fields, the first of which has number `index`, without surrounding blanks. When
a field is no text, its number and the length of its longest prefix that is one. -/
def decodeFields (index : Nat) : List (List UInt8) → Except (Nat × Nat) (List (List Char))
  | [] => .ok []
  | field :: fields =>
    match Utf8.decode? field with
    | none => .error (index, Utf8.validLength field)
    | some text => (decodeFields (index + 1) fields).map (Text.trim text :: ·)

/-- the texts of the fields of record number `number`. The header, which is number zero, is looked at
with the blanks around its fields, and the other records without them. -/
def RawRecord.decode (record : RawRecord) (number : Nat) :
    Except EncodingFault (List (List Char)) :=
  let fields := if number = 0 then record.fields else record.fields.map trimBytes
  (decodeFields 0 fields).mapError fun (field, validUpTo) =>
    ⟨number, record.line, record.byte, field, validUpTo⟩

end KernelCharts.Delimited
