import KernelCharts.Delimited.Record

/-!
# Scanning quoted records

When all fields of a record are in quotes, any bytes may stand in them: quotes are written twice, and
commas and line ends mean nothing there.

* `Scanner.Stands` — where a scanner stands: the open field, the fields before it and the records before
  these;
* `escape`, `quotedField`, `quotedRecord`, `RecordEnd` — records as they are written;
* `Scanner.Stands.endRecord`, … — what a byte does, place by place;
* `Scanner.Stands.foldl_quotedRecord` — a quoted record is read as its fields, whatever they hold;
* `map_fields_records` — a feed of quoted records is read as these.
-/

namespace KernelCharts.Delimited

/-! ### Records as they are written -/

/-- the bytes of a field between quotes, where quotes are written twice -/
def escape (bytes : List UInt8) : List UInt8 :=
  bytes.flatMap fun b => if b = quote then [quote, quote] else [b]

def quotedField (bytes : List UInt8) : List UInt8 := quote :: (escape bytes ++ [quote])

/-- the fields of a record in quotes, with commas between them -/
def quotedRecord (fields : List (List UInt8)) : List UInt8 :=
  [comma].intercalate (fields.map quotedField)

inductive RecordEnd where
  | lineFeed
  | carriageReturn
  | both
deriving DecidableEq, Repr

def RecordEnd.bytes : RecordEnd → List UInt8
  | .lineFeed => [10]
  | .carriageReturn => [13]
  | .both => [13, 10]

/-! ### Places -/

/-- The scanner is in the open field of the open record, after some fields and some records. -/
structure Scanner.Stands (s : Scanner) (mode : Mode) (field : List UInt8) (fields : List (List UInt8))
    (records : List (List (List UInt8))) : Prop where
  mode : s.mode = mode
  field : s.field.reverse = field
  fields : s.fields.reverse = fields
  ended : s.ended.map (·.fields) = records

namespace Scanner

theorem stands_initial (byte : Nat) : (initial byte).Stands .between [] [] [] := ⟨rfl, rfl, rfl, rfl⟩

namespace Stands

variable {s : Scanner} {mode : Mode} {field : List UInt8} {fields : List (List UInt8)}
  {records : List (List (List UInt8))}

theorem count (h : s.Stands mode field fields records) (b : UInt8) :
    (s.count b).Stands mode field fields records := ⟨h.mode, h.field, h.fields, h.ended⟩

/-! ### One byte -/

theorem openField (h : s.Stands mode [] fields records)
    (hmode : mode = .between ∨ mode = .fieldStart) :
    (s.step quote).Stands .quoted [] fields records := by
  have hcount := h.count quote
  have hstep : s.step quote = { s.count quote with mode := .quoted } := by
    rcases hmode with rfl | rfl
    · simp only [step, hcount.mode]
      rfl
    · simp only [step, hcount.mode]
      rfl
  rw [hstep]
  exact ⟨rfl, hcount.field, hcount.fields, hcount.ended⟩

theorem append (h : s.Stands mode field fields records) (next : Mode) (b : UInt8) :
    (s.append next b).Stands next (field ++ [b]) fields records := by
  refine ⟨rfl, ?_, h.fields, h.ended⟩
  show (b :: s.field).reverse = field ++ [b]
  rw [List.reverse_cons, h.field]

theorem insideField (h : s.Stands .quoted field fields records) {b : UInt8} (hb : b ≠ quote) :
    (s.step b).Stands .quoted (field ++ [b]) fields records := by
  have hcount := h.count b
  have hstep : s.step b = (s.count b).append .quoted b := by
    simp only [step, hcount.mode, if_neg hb]
  rw [hstep]
  exact hcount.append .quoted b

theorem closeField (h : s.Stands .quoted field fields records) :
    (s.step quote).Stands .closing field fields records := by
  have hcount := h.count quote
  have hstep : s.step quote = { s.count quote with mode := .closing } := by
    simp only [step, hcount.mode, if_true]
  rw [hstep]
  exact ⟨rfl, hcount.field, hcount.fields, hcount.ended⟩

/-- a quote after a quote belongs to the field -/
theorem reopenField (h : s.Stands .closing field fields records) :
    (s.step quote).Stands .quoted (field ++ [quote]) fields records := by
  have hcount := h.count quote
  have hstep : s.step quote = (s.count quote).append .quoted quote := by
    simp only [step, hcount.mode, if_true]
  rw [hstep]
  exact hcount.append .quoted quote

theorem endField (h : s.Stands .closing field fields records) :
    (s.step comma).Stands .fieldStart [] (fields ++ [field]) records := by
  have hcount := h.count comma
  have hstep : s.step comma = (s.count comma).endField := by
    simp only [step, hcount.mode]
    rfl
  rw [hstep]
  refine ⟨rfl, rfl, ?_, hcount.ended⟩
  show ((s.count comma).field.reverse :: (s.count comma).fields).reverse = fields ++ [field]
  rw [List.reverse_cons, hcount.field, hcount.fields]

theorem endRecord (h : s.Stands .closing field fields records) {b : UInt8}
    (hb : isTerminator b = true) :
    (s.step b).Stands .between [] [] (records ++ [fields ++ [field]]) := by
  have hcount := h.count b
  have hquote : b ≠ quote := by
    rintro rfl
    exact absurd hb (by decide)
  have hcomma : b ≠ comma := by
    rintro rfl
    exact absurd hb (by decide)
  have hstep : s.step b = (s.count b).endRecord := by
    simp only [step, hcount.mode, if_neg hquote, continueField, if_neg hcomma, hb, if_true]
  rw [hstep]
  refine ⟨rfl, rfl, rfl, ?_⟩
  have hended : (s.count b).endRecord.ended.map (·.fields) =
      (s.count b).ended.map (·.fields) ++
        [((s.count b).field.reverse :: (s.count b).fields).reverse] := by
    simp [Scanner.ended, Scanner.endRecord]
  rw [hended, hcount.ended, List.reverse_cons, hcount.field, hcount.fields]

/-- an end of a line where no record is open -/
theorem passEnd (h : s.Stands .between [] [] records) {b : UInt8} (hb : isTerminator b = true) :
    (s.step b).Stands .between [] [] records := by
  have hcount := h.count b
  have hstep : s.step b = s.count b := by
    simp only [step, hcount.mode, hb, if_true]
  rw [hstep]
  exact hcount

/-! ### Fields and records -/

theorem foldl_escape (h : s.Stands .quoted field fields records) (bytes : List UInt8) :
    ((escape bytes).foldl step s).Stands .quoted (field ++ bytes) fields records := by
  induction bytes generalizing s field with
  | nil => simpa [escape] using h
  | cons b bytes ih =>
    have hcons : field ++ b :: bytes = field ++ [b] ++ bytes := by simp
    by_cases hb : b = quote
    · have hescape : escape (b :: bytes) = quote :: quote :: escape bytes := by
        simp [escape, hb]
      rw [hescape, hcons, hb]
      exact ih h.closeField.reopenField
    · have hescape : escape (b :: bytes) = b :: escape bytes := by
        simp [escape, hb]
      rw [hescape, hcons]
      exact ih (h.insideField hb)

/-- **A quoted field is read as its bytes.** -/
theorem foldl_quotedField (h : s.Stands mode [] fields records)
    (hmode : mode = .between ∨ mode = .fieldStart) (bytes : List UInt8) :
    ((quotedField bytes).foldl step s).Stands .closing bytes fields records := by
  have hinside := (h.openField hmode).foldl_escape bytes
  rw [quotedField, List.foldl_cons, List.foldl_append]
  exact hinside.closeField

theorem foldl_recordEnd (h : s.Stands .closing field fields records) (ending : RecordEnd) :
    (ending.bytes.foldl step s).Stands .between [] [] (records ++ [fields ++ [field]]) := by
  cases ending with
  | lineFeed => exact h.endRecord (by decide)
  | carriageReturn => exact h.endRecord (by decide)
  | both => exact (h.endRecord (b := 13) (by decide)).passEnd (by decide)

/-- **A quoted record is read as its fields**, behind the fields that are there already. -/
theorem foldl_quotedRecord (h : s.Stands mode [] fields records)
    (hmode : mode = .between ∨ mode = .fieldStart) {written : List (List UInt8)} (hne : written ≠ [])
    (ending : RecordEnd) : ((quotedRecord written ++ ending.bytes).foldl step s).Stands .between [] []
      (records ++ [fields ++ written]) := by
  induction written generalizing s mode fields with
  | nil => exact absurd rfl hne
  | cons bytes written ih =>
    have hfield := h.foldl_quotedField hmode bytes
    cases written with
    | nil =>
      have hrecord : quotedRecord [bytes] = quotedField bytes := by
        rw [quotedRecord, List.map_singleton, List.intercalate_singleton]
      rw [hrecord, List.foldl_append]
      exact hfield.foldl_recordEnd ending
    | cons next written =>
      have hrecord : quotedRecord (bytes :: next :: written) ++ ending.bytes =
          quotedField bytes ++ comma :: (quotedRecord (next :: written) ++ ending.bytes) := by
        rw [quotedRecord, quotedRecord, List.map_cons, List.map_cons, List.intercalate_cons_cons]
        simp only [List.append_assoc, List.cons_append, List.nil_append]
      have hfields : fields ++ bytes :: next :: written = fields ++ [bytes] ++ next :: written := by
        simp
      rw [hrecord, hfields, List.foldl_append, List.foldl_cons]
      exact ih hfield.endField (.inr rfl) (List.cons_ne_nil _ _)

/-- **Quoted records are read one after the other**, however each of them ends. -/
theorem foldl_quotedRecords (h : s.Stands .between [] [] records)
    {written : List (List (List UInt8) × RecordEnd)} (hne : ∀ record ∈ written, record.1 ≠ []) :
    ((written.flatMap fun record => quotedRecord record.1 ++ record.2.bytes).foldl step s).Stands
      .between [] [] (records ++ written.map (·.1)) := by
  induction written generalizing s records with
  | nil => simpa using h
  | cons record written ih =>
    obtain ⟨hrecord, hwritten⟩ := List.forall_mem_cons.1 hne
    have hnext := h.foldl_quotedRecord (.inl rfl) hrecord record.2
    have hrecords : records ++ (record :: written).map (·.1) =
        records ++ [[] ++ record.1] ++ written.map (·.1) := by simp
    rw [List.flatMap_cons, List.foldl_append, hrecords]
    exact ih hnext hwritten

end Stands

end Scanner

/-! ### Feeds -/

/-- bytes that start with a quote have no byte order mark -/
theorem scan_quote (bytes : List UInt8) :
    scan (quote :: bytes) = (quote :: bytes).foldl Scanner.step (.initial 0) :=
  if_neg Bool.false_ne_true

theorem exists_quotedRecord {fields : List (List UInt8)} (hne : fields ≠ []) :
    ∃ bytes, quotedRecord fields = quote :: bytes := by
  cases fields with
  | nil => exact absurd rfl hne
  | cons field fields =>
    cases fields with
    | nil => exact ⟨_, List.intercalate_singleton⟩
    | cons next fields => exact ⟨_, List.intercalate_cons_cons⟩

/-- **A feed of quoted records is read as these records.** -/
theorem map_fields_records {written : List (List (List UInt8) × RecordEnd)}
    (hne : ∀ record ∈ written, record.1 ≠ []) :
    (records (Feed.ofBytes (written.flatMap fun record =>
      quotedRecord record.1 ++ record.2.bytes))).map (·.fields) = written.map (·.1) := by
  have hscan : scan (written.flatMap fun record => quotedRecord record.1 ++ record.2.bytes) =
      (written.flatMap fun record => quotedRecord record.1 ++ record.2.bytes).foldl Scanner.step
        (.initial 0) := by
    cases written with
    | nil => rfl
    | cons record written =>
      obtain ⟨bytes, hbytes⟩ := exists_quotedRecord (List.forall_mem_cons.1 hne).1
      rw [List.flatMap_cons, hbytes, List.cons_append, List.cons_append, scan_quote]
  have hstands := (Scanner.stands_initial 0).foldl_quotedRecords hne
  rw [← hscan] at hstands
  have hrecords : records (Feed.ofBytes (written.flatMap fun record =>
      quotedRecord record.1 ++ record.2.bytes)) =
        (scan (written.flatMap fun record => quotedRecord record.1 ++ record.2.bytes)).ended := by
    unfold records Feed.ofBytes Scanner.all
    simp only [Option.isSome_none, Bool.false_eq_true, if_false, hstands.mode, if_true]
  rw [hrecords, hstands.ended, List.nil_append]

end KernelCharts.Delimited
