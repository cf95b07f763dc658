import KernelCharts.Proofs.Delimited.Reading
import KernelCharts.Proofs.Report.Feed

/-!
# Which tables of records are read

A table is read if its feed does not break off and its header is a text that names a matrix and a number
of nonzeros.  The header is looked at first: a bad one is reported as such even if the feed breaks off
later.

* `header?`, `IsHeader` — the header of a feed, and the headers that will do;
* `extract_cases` — what can become of a feed;
* `exists_ok_iff`, `exists_fatal_iff`, `exists_nonfatal_iff` — when each of that happens;
* `extract_records` — a table that is read is read record by record;
* `extract_failures` — the feeds that a table of records and a report cannot be read from, and which of the
  failures are fatal.
-/

namespace KernelCharts.Delimited

open Utf8 (encode)

/-! ## Headers -/

/-- the fields of the header of a feed: those of its first record, or none at all if it ends without
records. A feed that breaks off within the first record has no header. -/
def header? (feed : Feed) : Option (List (List UInt8)) :=
  match records feed with
  | first :: _ => some first.fields
  | [] => if feed.fault.isSome then none else some []

/-- The fields are texts, one of which names the matrix and one the number of nonzeros. -/
def IsHeader (fields : List (List UInt8)) : Prop :=
  ∃ header : List (List Char), fields = header.map encode ∧
    (∃ name ∈ header, Heading.source.Spells (Text.trim name)) ∧
      ∃ name ∈ header, Heading.nnz.Spells (Text.trim name)

theorem not_isHeader_nil : ¬ IsHeader [] := by
  rintro ⟨header, hheader, ⟨name, hname, -⟩, -⟩
  rw [List.map_eq_nil_iff.1 hheader.symm] at hname
  cases hname

theorem isHeader_iff {record : RawRecord} {number : Nat} {names : List (List Char)}
    (h : record.decode number = .ok names) :
    IsHeader record.fields ↔ ∃ columns, Columns.ofHeader names = .ok columns := by
  constructor
  · rintro ⟨header, hfields, hsource, hnnz⟩
    rw [decode_encode hfields, Except.ok.injEq] at h
    subst h
    exact exists_columns_iff.2 ⟨isSome_column?_iff.2 hsource, isSome_column?_iff.2 hnnz⟩
  · intro hcolumns
    obtain ⟨header, hfields, rfl⟩ := decode_eq_ok_iff.1 h
    obtain ⟨hsource, hnnz⟩ := exists_columns_iff.1 hcolumns
    exact ⟨header, hfields, isSome_column?_iff.1 hsource, isSome_column?_iff.1 hnnz⟩

theorem isFatal_of_ofHeader {names : List (List Char)} {error : ExtractError}
    (h : Columns.ofHeader names = .error error) : error.isFatal = false := by
  rw [Columns.ofHeader] at h
  split at h
  · cases h
    rfl
  · split at h
    · cases h
      rfl
    · cases h

/-! ## Feeds -/

/-- **What can become of a feed**: it breaks off before its header is complete, or its header is bad, or
its records are read up to where it breaks off or ends. -/
theorem extract_cases (label : Option Nat) (feed : Feed) :
    (header? feed = none ∧ ∃ fault, feed.fault = some fault ∧
      extract label feed = ([], .error (.csv (.file fault)))) ∨
    (∃ fields error, header? feed = some fields ∧ ¬ IsHeader fields ∧ error.isFatal = false ∧
      extract label feed = ([], .error error)) ∨
    ∃ (first : RawRecord) (rest : List RawRecord) (header : List (List Char)) (columns : Columns),
      records feed = first :: rest ∧ first.fields = header.map encode ∧
      header? feed = some first.fields ∧ IsHeader first.fields ∧ Locates header columns ∧
      extract label feed = (headerEvents (header.map Text.trim) ++ .resolvedColumns columns ::
          ((outcomes columns label rest).zipIdx 1).filterMap fun place => place.1.event? place.2,
        feed.fault.elim (.ok (extractRecords columns label rest)) fun fault =>
          .error (.csv (.file fault))) := by
  rw [header?, extract, headerAndRecords]
  cases hrecords : records feed with
  | nil =>
    cases hfault : feed.fault with
    | some fault => exact .inl ⟨rfl, fault, rfl, rfl⟩
    | none => exact .inr (.inl ⟨[], .missingColumn sourceNames, rfl, not_isHeader_nil, rfl, rfl⟩)
  | cons first rest =>
    right
    cases hdecode : first.decode 0 with
    | error fault =>
      refine .inl ⟨first.fields, .csv (.encoding fault), rfl, ?_, rfl, ?_⟩
      · rintro ⟨header, hfields, -⟩
        rw [decode_encode hfields] at hdecode
        cases hdecode
      · simp only [hdecode]
    | ok names =>
      cases hcolumns : Columns.ofHeader names with
      | error error =>
        refine .inl ⟨first.fields, error, rfl, ?_, isFatal_of_ofHeader hcolumns, ?_⟩
        · rw [isHeader_iff hdecode, hcolumns]
          rintro ⟨columns, ⟨⟩⟩
        · simp only [hdecode, hcolumns]
      | ok columns =>
        obtain ⟨header, hfields, rfl⟩ := decode_eq_ok_iff.1 hdecode
        refine .inr ⟨first, rest, header, columns, rfl, hfields, rfl, ?_, locates_of_ofHeader hcolumns, ?_⟩
        · exact (isHeader_iff hdecode).2 ⟨columns, hcolumns⟩
        · simp only [hdecode, hcolumns]
          cases feed.fault <;> rfl

theorem exists_ok_iff {label : Option Nat} {feed : Feed} :
    (∃ e, (extract label feed).2 = .ok e) ↔
      feed.fault = none ∧ ∃ fields, header? feed = some fields ∧ IsHeader fields := by
  rcases extract_cases label feed with ⟨hheader, fault, hfault, hextract⟩ |
    ⟨fields, error, hheader, hbad, hfatal, hextract⟩ |
    ⟨first, rest, header, columns, -, -, hheader, hgood, -, hextract⟩
  · simp [hextract, hfault]
  · simp [hextract, hheader, hbad]
  · rw [hextract]
    cases feed.fault with
    | none => simp [hheader, hgood]
    | some fault => simp

theorem exists_nonfatal_iff {label : Option Nat} {feed : Feed} :
    (∃ error, (extract label feed).2 = .error error ∧ error.isFatal = false) ↔
      ∃ fields, header? feed = some fields ∧ ¬ IsHeader fields := by
  rcases extract_cases label feed with ⟨hheader, fault, hfault, hextract⟩ |
    ⟨fields, error, hheader, hbad, hfatal, hextract⟩ |
    ⟨first, rest, header, columns, -, -, hheader, hgood, -, hextract⟩
  · simp [hextract, hheader, ExtractError.isFatal]
  · simp [hextract, hheader, hbad, hfatal]
  · rw [hextract]
    cases feed.fault with
    | none => simp [hheader, hgood]
    | some fault => simp [hheader, hgood, ExtractError.isFatal]

theorem exists_fatal_iff {label : Option Nat} {feed : Feed} :
    (∃ error, (extract label feed).2 = .error error ∧ error.isFatal = true) ↔
      feed.fault ≠ none ∧ ∀ fields ∈ header? feed, IsHeader fields := by
  rcases extract_cases label feed with ⟨hheader, fault, hfault, hextract⟩ |
    ⟨fields, error, hheader, hbad, hfatal, hextract⟩ |
    ⟨first, rest, header, columns, -, -, hheader, hgood, -, hextract⟩
  · simp [hextract, hheader, hfault, ExtractError.isFatal]
  · simp [hextract, hheader, hbad, hfatal]
  · rw [hextract]
    cases feed.fault with
    | none => simp
    | some fault => simp [hheader, hgood, ExtractError.isFatal]

/-- **A table that is read is read record by record.**  The rows are those of the records that say one, in
order, and each of the others is dropped with one line in the log. -/
theorem extract_records {label : Option Nat} {feed : Feed} {events : List LogEvent} {e : Extraction}
    (h : extract label feed = (events, .ok e)) :
    ∃ (first : RawRecord) (rest : List RawRecord) (header : List (List Char)),
      records feed = first :: rest ∧ first.fields = header.map encode ∧
      Reads header label rest events e := by
  rcases extract_cases label feed with ⟨-, fault, -, hextract⟩ | ⟨fields, error, -, -, -, hextract⟩ |
    ⟨first, rest, header, columns, hrecords, hfields, -, -, hcolumns, hextract⟩
  · rw [hextract] at h
    cases h
  · rw [hextract] at h
    cases h
  · refine ⟨first, rest, header, hrecords, hfields, ?_⟩
    rw [hextract] at h
    cases hfault : feed.fault with
    | some fault =>
      rw [hfault] at h
      cases h
    | none =>
      rw [hfault] at h
      cases h
      exact reads_extractRecords hcolumns label rest

/-- a table with headings that are repeated, and with records that are short, long, no text, without a matrix
or out of bounds -/
def mixedTable : List UInt8 :=
  "zcx,Matrix,NNZ,K,nnz,ZCX_gflops\n,a.mtx,100,32,x,y\n,".toUTF8.data.toList ++ [255] ++
    ",1\n,b.mtx,+7\n,,5\n,c.mtx,18446744073709551616\n-1,d.mtx,1\n,e.mtx,3,0\n,f.mtx,4,,,,z,\n".toUTF8.data.toList

theorem extract_records_mixedTable : ∃ events e,
    extract none (Feed.ofBytes mixedTable) = (events, .ok e) ∧
    (e.accepted = 3 ∧ e.malformed = 5 ∧ e.table.rows.map (fun row => (row.source, row.nnz, row.k)) =
      [("a.mtx", 100, some 32), ("b.mtx", 7, none), ("f.mtx", 4, none)]) ∧
    ∃ (first : RawRecord) (rest : List RawRecord) (header : List (List Char)),
      records (Feed.ofBytes mixedTable) = first :: rest ∧ first.fields = header.map encode ∧
        Reads header none rest events e := by
  have hread : (extract none (Feed.ofBytes mixedTable)).2.toOption.any (fun e =>
      e.accepted = 3 ∧ e.malformed = 5 ∧ e.table.rows.map (fun row => (row.source, row.nnz, row.k)) =
        [("a.mtx", 100, some 32), ("b.mtx", 7, none), ("f.mtx", 4, none)]) = true := by
    decide +kernel
  generalize hextract : extract none (Feed.ofBytes mixedTable) = result at hread
  obtain ⟨events, result⟩ := result
  cases result with
  | error error => cases hread
  | ok e => exact ⟨events, e, rfl, of_decide_eq_true hread, extract_records hextract⟩

end KernelCharts.Delimited

namespace KernelCharts

open Delimited (header? IsHeader)

/-! ## Reports and tables -/

/-- **Exactly which feeds fail.**  A report is read from the feeds that end and are a text; every other
feed is a fatal failure to read, and no row of the report is one.  A table of records is read from the
feeds that end and have a good header; a bad header is a failure of the one table, whatever comes after
it, and everything else that fails is a failure to read.  So a feed that breaks off is never read in part. -/
theorem extract_failures (feed : Feed) (label : Option Nat) :
    ((∃ e, (Report.extract feed).2 = .ok e) ↔
      feed.fault = none ∧ ∃ text, feed.bytes = Utf8.encode text) ∧
    ((∃ fault, (Report.extract feed).2 = .error (.io fault) ∧
        (ExtractError.io fault).isFatal = true) ↔
      ¬ (feed.fault = none ∧ ∃ text, feed.bytes = Utf8.encode text)) ∧
    ((∃ e, (Delimited.extract label feed).2 = .ok e) ↔
      feed.fault = none ∧ ∃ fields, header? feed = some fields ∧ IsHeader fields) ∧
    ((∃ error, (Delimited.extract label feed).2 = .error error ∧ error.isFatal = false) ↔
      ∃ fields, header? feed = some fields ∧ ¬ IsHeader fields) ∧
    ((∃ error, (Delimited.extract label feed).2 = .error error ∧ error.isFatal = true) ↔
      feed.fault ≠ none ∧ ∀ fields ∈ header? feed, IsHeader fields) := by
  refine ⟨Report.exists_ok_iff, ?_, Delimited.exists_ok_iff, Delimited.exists_nonfatal_iff,
    Delimited.exists_fatal_iff⟩
  have hfatal : ∀ fault, (ExtractError.io fault).isFatal = true := fun _ => rfl
  simp only [hfatal, and_true]
  exact Report.exists_io_iff

end KernelCharts
