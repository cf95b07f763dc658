import KernelCharts.Proofs.Delimited.Feed
import Mathlib.Data.List.Perm.Basic
import Mathlib.Data.Set.List

/-!
# Columns in another order

Two tables that have the same columns, in different orders, are read as one table.  What the log says about a bad
record may differ, since the cells of a record are read from left to right up to the first bad one.

* `reorder` — a list in another order;
* `NamedOnce`, `Heading.cell?_reorder` — a record says the same under each heading, if no two columns have it;
* `Rearranged`, `SameResult` — feeds and results that differ in the order of columns only;
* `extract_rearranged` — the order of columns does not matter.
-/

namespace KernelCharts.Delimited

open Utf8 (encode)

/-! ## Lists in another order -/

section Reorder

variable {β γ : Type}

/-- the elements at some places of a list, in the order of the places -/
def reorder (order : List Nat) (l : List β) : List β := order.filterMap (l[·]?)

theorem reorder_map (order : List Nat) (f : β → γ) (l : List β) :
    reorder order (l.map f) = (reorder order l).map f := by
  rw [reorder, reorder, List.map_filterMap]
  exact List.filterMap_congr fun i _ => List.getElem?_map

theorem reorder_range (l : List β) : reorder (List.range l.length) l = l := by
  induction l with
  | nil => rfl
  | cons x l ih =>
    have hfirst : (x :: l)[0]? = some x := rfl
    rw [List.length_cons, List.range_succ_eq_map, reorder, List.filterMap_cons_some hfirst, List.filterMap_map]
    exact congrArg (x :: ·) ih

/-- A list in the order of all its places has the same elements. -/
theorem reorder_perm {order : List Nat} {l : List β} (h : order.Perm (List.range l.length)) :
    (reorder order l).Perm l := by
  have hperm := h.filterMap (l[·]?)
  exact hperm.trans (.of_eq (reorder_range l))

theorem length_reorder {order : List Nat} {l : List β} (h : order.Perm (List.range l.length)) :
    (reorder order l).length = l.length := (reorder_perm h).length_eq

/-- Lists of one length stay aligned in one order. -/
theorem zip_reorder (order : List Nat) {l : List β} {m : List γ} (h : l.length = m.length) :
    (reorder order l).zip (reorder order m) = reorder order (l.zip m) := by
  induction order with
  | nil => rfl
  | cons i order ih =>
    unfold reorder at ih ⊢
    by_cases hi : i < l.length
    · have hl := List.getElem?_eq_getElem hi
      have hm := List.getElem?_eq_getElem (h ▸ hi)
      have hpair : (l.zip m)[i]? = some (l[i], m[i]) := List.getElem?_zip_eq_some.2 ⟨hl, hm⟩
      rw [List.filterMap_cons_some hl, List.filterMap_cons_some hm, List.filterMap_cons_some hpair,
        List.zip_cons_cons, ih]
    · rw [List.filterMap_cons_none (List.getElem?_eq_none (by omega)),
        List.filterMap_cons_none (List.getElem?_eq_none (by omega)),
        List.filterMap_cons_none (List.getElem?_eq_none (by rw [List.length_zip]; omega)), ih]

/-- What only one element has is found in any order. -/
theorem find?_eq_of_perm {p : β → Bool} {l m : List β} (h : l.Perm m) (hp : l.countP p ≤ 1) :
    l.find? p = m.find? p := by
  have hfilter : (l.filter p).Perm (m.filter p) := h.filter p
  rw [List.countP_eq_length_filter] at hp
  rw [← List.head?_filter, ← List.head?_filter]
  match hl : l.filter p with
  | [] =>
    rw [hl] at hfilter
    rw [hfilter.symm.eq_nil]
  | [x] =>
    rw [hl] at hfilter
    rw [hfilter.symm.eq_singleton]
  | x :: y :: rest =>
    rw [hl, List.length_cons, List.length_cons] at hp
    omega

end Reorder

/-! ## Cells -/

/-- No two columns of a header have the same heading. -/
def NamedOnce (header : List (List Char)) : Prop :=
  ∀ heading : Heading, header.countP (fun name => heading.Spells (Text.trim name)) ≤ 1

theorem namedOnce_iff {header : List (List Char)} : NamedOnce header ↔
    ∀ heading ∈ Heading.worded, header.countP (fun name => heading.Spells (Text.trim name)) ≤ 1 := by
  refine ⟨fun h heading _ => h heading, fun h heading => ?_⟩
  by_cases hworded : heading ∈ Heading.worded
  · exact h heading hworded
  · have hnone : header.countP (fun name => heading.Spells (Text.trim name)) = 0 := by
      rw [List.countP_eq_zero]
      intro name _ hspells
      exact hworded (Heading.mem_worded (of_decide_eq_true hspells))
    omega

instance (header : List (List Char)) : Decidable (NamedOnce header) := decidable_of_iff _ namedOnce_iff.symm

variable {order : List Nat} {header fields : List (List Char)}

/-- A record as long as its header is read in pairs of a name and a field. -/
theorem Heading.cell?_of_length (heading : Heading) (h : fields.length = header.length) :
    heading.cell? header fields = ((header.zip fields).find? fun column =>
      heading.Spells (Text.trim column.1)).map fun column => Text.trim column.2 := by
  have hzip : header.zip (fields ++ List.replicate header.length []) = header.zip fields := by
    have happend : (header ++ []).zip (fields ++ List.replicate header.length []) =
        header.zip fields ++ [].zip (List.replicate header.length []) := List.zip_append h.symm
    rwa [List.append_nil, List.zip_nil_left, List.append_nil] at happend
  rw [Heading.cell?, hzip]

theorem Heading.cell?_reorder (heading : Heading) (hheader : NamedOnce header)
    (horder : order.Perm (List.range header.length)) (h : fields.length = header.length) :
    heading.cell? (reorder order header) (reorder order fields) = heading.cell? header fields := by
  have hcount : (header.zip fields).countP (fun column => heading.Spells (Text.trim column.1)) ≤ 1 := by
    have hnames : (header.zip fields).map Prod.fst = header := List.map_fst_zip h.ge
    have hnamed := hheader heading
    rw [← hnames, List.countP_map] at hnamed
    exact hnamed
  have hzip : (header.zip fields).Perm (reorder order (header.zip fields)) := by
    refine (reorder_perm ?_).symm
    rwa [List.length_zip, h, min_self]
  have hlength : (reorder order fields).length = (reorder order header).length := by
    rw [length_reorder horder, length_reorder (h ▸ horder), h]
  rw [cell?_of_length heading h, cell?_of_length heading hlength, zip_reorder order h.symm,
    find?_eq_of_perm hzip hcount]

/-! ## Records -/

/-- Fields under which each heading has the same cell describe the same rows. -/
theorem Describes.congr {header fields header' fields' : List (List Char)}
    (h : ∀ heading : Heading, heading.cell? header' fields' = heading.cell? header fields) {label : Option Nat}
    {row : Observation Float} (hrow : Describes header fields label row) :
    Describes header' fields' label row := by
  constructor
  case source => rw [h]; exact hrow.source
  case nnz => rw [h]; exact hrow.nnz
  case k => rw [h]; exact hrow.k
  case throughput => intro kernel; rw [h]; exact hrow.throughput kernel

/-- The second record has the fields of the first one in another order. -/
structure Reordered (order : List Nat) (record record' : RawRecord) : Prop where
  /-- each field of the first record is taken once -/
  places : order.Perm (List.range record.fields.length)
  fields : record'.fields = reorder order record.fields

instance (order : List Nat) (record record' : RawRecord) : Decidable (Reordered order record record') :=
  decidable_of_iff (order.Perm (List.range record.fields.length) ∧ record'.fields = reorder order record.fields)
    ⟨fun h => ⟨h.1, h.2⟩, fun h => ⟨h.places, h.fields⟩⟩

namespace Reordered

variable {record record' : RawRecord} (h : Reordered order record record')

include h

/-- The fields are texts in one order as well as in the other. -/
theorem fields_eq_map_encode_iff :
    (∃ texts : List (List Char), record'.fields = texts.map encode) ↔
      ∃ texts : List (List Char), record.fields = texts.map encode := by
  have hrange : ∀ fields : List (List UInt8), (∃ texts : List (List Char), fields = texts.map encode) ↔
      ∀ field ∈ fields, field ∈ Set.range encode := by
    intro fields
    have hmap := Set.ext_iff.1 (Set.range_list_map encode) fields
    simp only [Set.mem_range, Set.mem_ofPred_eq] at hmap ⊢
    rw [← hmap]
    exact exists_congr fun texts => eq_comm
  have hperm : record'.fields.Perm record.fields := h.fields ▸ reorder_perm h.places
  rw [hrange, hrange]
  exact forall_congr' fun field => by rw [hperm.mem_iff]

/-- Texts that are reordered as bytes are reordered as texts. -/
theorem texts {texts : List (List Char)} (htexts : record.fields = texts.map encode) :
    record'.fields = (reorder order texts).map encode := by
  rw [h.fields, htexts, reorder_map]

theorem says_iff (hheader : NamedOnce header) (hlength : record.fields.length = header.length)
    {label : Option Nat} {row : Observation Float} :
    Says (reorder order header) label record' row ↔ Says header label record row := by
  have hplaces : order.Perm (List.range header.length) := hlength ▸ h.places
  have hcells : ∀ texts : List (List Char), record.fields = texts.map encode → ∀ heading : Heading,
      heading.cell? (reorder order header) (reorder order texts) = heading.cell? header texts := by
    intro texts htexts heading
    refine heading.cell?_reorder hheader hplaces ?_
    rw [← hlength, htexts, List.length_map]
  constructor
  · rintro ⟨texts', htexts', hrow⟩
    obtain ⟨texts, htexts⟩ := h.fields_eq_map_encode_iff.1 ⟨texts', htexts'⟩
    have hsame : texts' = reorder order texts :=
      List.map_injective_iff.2 Utf8.encode_injective (htexts'.symm.trans (h.texts htexts))
    subst hsame
    exact ⟨texts, htexts, hrow.congr fun heading => (hcells texts htexts heading).symm⟩
  · rintro ⟨texts, htexts, hrow⟩
    exact ⟨_, h.texts htexts, hrow.congr (hcells texts htexts)⟩

end Reordered

/-! ## Tables -/

theorem column?_reorder_cases (heading : Heading) (horder : order.Perm (List.range header.length)) :
    (∃ i i', heading.column? header = some i ∧ heading.column? (reorder order header) = some i') ∨
      heading.column? header = none ∧ heading.column? (reorder order header) = none := by
  have hsome : (heading.column? (reorder order header)).isSome = (heading.column? header).isSome := by
    rw [Bool.eq_iff_iff, isSome_column?_iff, isSome_column?_iff]
    simp only [(reorder_perm horder).mem_iff]
  cases hi : heading.column? header with
  | none =>
    rw [hi, Option.isSome_none, Option.isSome_eq_false_iff, Option.isNone_iff_eq_none] at hsome
    exact .inr ⟨rfl, hsome⟩
  | some i =>
    rw [hi, Option.isSome_some, Option.isSome_iff_exists] at hsome
    obtain ⟨i', hi'⟩ := hsome
    exact .inl ⟨i, i', rfl, hi'⟩

/-- A header that lacks a column lacks it in any order. -/
theorem ofHeader_reorder (horder : order.Perm (List.range header.length)) :
    (∃ columns columns', Columns.ofHeader (header.map Text.trim) = .ok columns ∧
      Columns.ofHeader ((reorder order header).map Text.trim) = .ok columns') ∨
    ∃ error, Columns.ofHeader (header.map Text.trim) = .error error ∧
      Columns.ofHeader ((reorder order header).map Text.trim) = .error error := by
  simp only [Columns.ofHeader, column?_trim sourceNames .source rfl, column?_trim ["NNZ"] .nnz rfl]
  rcases column?_reorder_cases .source horder with ⟨i, i', hi, hi'⟩ | ⟨hi, hi'⟩
  · rcases column?_reorder_cases .nnz horder with ⟨j, j', hj, hj'⟩ | ⟨hj, hj'⟩
    · exact .inl ⟨_, _, by rw [hi, hj], by rw [hi', hj']⟩
    · exact .inr ⟨.missingColumn ["NNZ"], by rw [hi, hj], by rw [hi', hj']⟩
  · exact .inr ⟨.missingColumn sourceNames, by rw [hi], by rw [hi']⟩

section Extraction

variable {columns columns' : Columns} (h : Locates header columns) (h' : Locates (reorder order header) columns')
  (hheader : NamedOnce header) (label : Option Nat)

include h h' hheader

theorem row?_outcome_reorder {record record' : RawRecord} (hrecord : Reordered order record record')
    (hlength : record.fields.length = header.length) (number : Nat) :
    (outcome columns' label record' number).row? = (outcome columns label record number).row? := by
  have hrow : ∀ (result : Outcome) (row : Observation Float), result.row? = some row ↔ result = .accepted row := by
    intro result row
    cases result <;> simp [Outcome.row?]
  refine Option.ext fun row => ?_
  rw [hrow, hrow, outcome_eq_accepted_iff h, outcome_eq_accepted_iff h']
  exact hrecord.says_iff hheader hlength

theorem rows_reorder {records records' : List RawRecord} (hrecords : List.Forall₂ (Reordered order) records records')
    (hlength : ∀ record ∈ records, record.fields.length = header.length) (start : Nat) :
    ((records'.zipIdx start).map fun place => outcome columns' label place.1 place.2).filterMap Outcome.row? =
      ((records.zipIdx start).map fun place => outcome columns label place.1 place.2).filterMap Outcome.row? := by
  induction hrecords generalizing start with
  | nil => rfl
  | cons hrecord _ ih =>
    have hrow := row?_outcome_reorder h h' hheader label hrecord (hlength _ List.mem_cons_self) start
    rw [List.zipIdx_cons, List.zipIdx_cons, List.map_cons, List.map_cons, List.filterMap_cons, List.filterMap_cons,
      hrow, ih (fun record hmem => hlength record (List.mem_cons_of_mem _ hmem))]

theorem extractRecords_reorder (horder : order.Perm (List.range header.length)) {records records' : List RawRecord}
    (hrecords : List.Forall₂ (Reordered order) records records')
    (hlength : ∀ record ∈ records, record.fields.length = header.length) :
    extractRecords columns' label records' = extractRecords columns label records := by
  have hrows : (outcomes columns' label records').filterMap Outcome.row? =
      (outcomes columns label records).filterMap Outcome.row? :=
    rows_reorder h h' hheader label hrecords hlength 1
  have hkernels : Kernel.catalogued columns'.kernels = Kernel.catalogued columns.kernels := by
    refine Kernel.catalogued_congr fun kernel => ?_
    rw [h.mem_kernels, h'.mem_kernels, ← Option.isSome_iff_exists, ← Option.isSome_iff_exists, isSome_column?_iff,
      isSome_column?_iff]
    simp only [(reorder_perm horder).mem_iff]
  have hempty : Table.ofKernels (α := Float) columns'.kernels = Table.ofKernels columns.kernels :=
    congrArg (Table.mk · []) hkernels
  have hmalformed : (outcomes columns' label records').countP (fun outcome => !outcome.isAccepted) =
      (outcomes columns label records).countP fun outcome => !outcome.isAccepted := by
    have hall := length_rows_add_countP (outcomes columns label records)
    have hall' := length_rows_add_countP (outcomes columns' label records')
    rw [length_outcomes] at hall hall'
    rw [hrows, ← hrecords.length_eq] at hall'
    omega
  simp only [extractRecords, hrows, hempty, hmalformed]

end Extraction

/-! ## Feeds -/

/-- Two feeds with the same columns: their records have the same fields, in one other order for all. -/
structure Rearranged (order : List Nat) (feed feed' : Feed) : Prop where
  records : List.Forall₂ (Reordered order) (records feed) (records feed')
  fault : feed'.fault = feed.fault

/-- The errors are of one kind: both say that the header is no text, or they say the same. -/
inductive SameKind : ExtractError → ExtractError → Prop
  | same (error : ExtractError) : SameKind error error
  | encoding (fault fault' : EncodingFault) : SameKind (.csv (.encoding fault)) (.csv (.encoding fault'))

/-- The same is read, or nothing for the same kind of reason. -/
inductive SameResult : Except ExtractError Extraction → Except ExtractError Extraction → Prop
  | ok (e : Extraction) : SameResult (.ok e) (.ok e)
  | error {error error' : ExtractError} (h : SameKind error error') : SameResult (.error error) (.error error')

theorem SameResult.refl (result : Except ExtractError Extraction) : SameResult result result := by
  cases result with
  | ok e => exact .ok e
  | error error => exact .error (.same error)

theorem result_extract {feed : Feed} {first : RawRecord} {rest : List RawRecord} (h : records feed = first :: rest)
    (label : Option Nat) : (extract label feed).2 =
      match first.decode 0 with
      | .error fault => .error (.csv (.encoding fault))
      | .ok names =>
        match Columns.ofHeader names with
        | .error error => .error error
        | .ok columns =>
          feed.fault.elim (.ok (extractRecords columns label rest)) fun fault => .error (.csv (.file fault)) := by
  rw [extract, headerAndRecords, h]
  cases hdecode : first.decode 0 with
  | error fault => simp only [hdecode]
  | ok names =>
    cases hcolumns : Columns.ofHeader names with
    | error error => simp only [hdecode, hcolumns]
    | ok columns =>
      simp only [hdecode, hcolumns]
      cases feed.fault <;> rfl

/-- A header that is no text is none in any order. -/
theorem Reordered.exists_decode_error {order : List Nat} {record record' : RawRecord}
    (h : Reordered order record record') {number : Nat} {fault : EncodingFault}
    (herror : record.decode number = .error fault) : ∃ fault', record'.decode number = .error fault' := by
  cases hdecode : record'.decode number with
  | error fault' => exact ⟨fault', rfl⟩
  | ok cells =>
    obtain ⟨texts', htexts', -⟩ := decode_eq_ok_iff.1 hdecode
    obtain ⟨texts, htexts⟩ := h.fields_eq_map_encode_iff.1 ⟨texts', htexts'⟩
    rw [decode_encode htexts] at herror
    cases herror

/-- **The order of columns does not matter** where each of them has a heading of its own: the same table is read,
with as many good and bad records, or it fails for the same kind of reason. -/
theorem extract_rearranged {order : List Nat} {feed feed' : Feed} (h : Rearranged order feed feed')
    (hheader : ∀ header : List (List Char), header? feed = some (header.map encode) → NamedOnce header)
    (label : Option Nat) : SameResult (extract label feed).2 (extract label feed').2 := by
  have hrecords := h.records
  generalize hl : records feed = l at hrecords
  generalize hl' : records feed' = l' at hrecords
  cases hrecords with
  | nil =>
    have hsame : (extract label feed').2 = (extract label feed).2 := by
      rw [extract, extract, headerAndRecords, headerAndRecords, hl, hl', h.fault]
    rw [hsame]
    exact .refl _
  | @cons first first' rest rest' hfirst hrest =>
    rw [result_extract hl, result_extract hl', h.fault]
    cases hdecode : first.decode 0 with
    | error fault =>
      obtain ⟨fault', hdecode'⟩ := hfirst.exists_decode_error hdecode
      rw [hdecode']
      exact .error (.encoding fault fault')
    | ok names =>
      obtain ⟨header, hfields, rfl⟩ := decode_eq_ok_iff.1 hdecode
      have hnamed : NamedOnce header := hheader header (by rw [header?, hl, ← hfields])
      have horder : order.Perm (List.range header.length) := by
        have hplaces := hfirst.places
        rwa [hfields, List.length_map] at hplaces
      rw [decode_encode (hfirst.texts hfields)]
      dsimp only
      rcases ofHeader_reorder horder with ⟨columns, columns', hcolumns, hcolumns'⟩ | ⟨error, herror, herror'⟩
      · have hlength : ∀ record ∈ rest, record.fields.length = header.length := by
          refine forall_right_of_forall₂ hrest.flip fun record' record hrecord => ?_
          have hplaces := (hrecord.places.symm.trans horder).length_eq
          rwa [List.length_range, List.length_range] at hplaces
        rw [hcolumns, hcolumns']
        dsimp only
        rw [extractRecords_reorder (locates_of_ofHeader hcolumns) (locates_of_ofHeader hcolumns') hnamed label horder
          hrest hlength]
        exact .refl _
      · rw [herror, herror']
        exact .refl _

/-- a table with a record of two bad cells and a record that is no text -/
def leftToRight : List UInt8 :=
  "file,NNZ,K,BSMR,RoDe\na.mtx,100,32,1.5,\nb.mtx,200,32,fast,slow\nc.mtx,300,,2,".toUTF8.data.toList ++ [255]

/-- the same table with its columns in another order -/
def otherOrder : List UInt8 :=
  "RoDe,file,BSMR,NNZ,K\n,a.mtx,1.5,100,32\nslow,b.mtx,fast,200,32\n".toUTF8.data.toList ++ [255] ++
    ",c.mtx,2,300,".toUTF8.data.toList

theorem extract_rearranged_twoOrders : Rearranged [4, 0, 3, 1, 2] (.ofBytes leftToRight) (.ofBytes otherOrder) ∧
    (∀ header, header? (.ofBytes leftToRight) = some (header.map encode) → NamedOnce header) ∧
    SameResult (extract none (.ofBytes leftToRight)).2 (extract none (.ofBytes otherOrder)).2 ∧
    (extract none (.ofBytes leftToRight)).1.map (·.render) ≠
      (extract none (.ofBytes otherOrder)).1.map (·.render) := by
  have hrearranged : Rearranged [4, 0, 3, 1, 2] (.ofBytes leftToRight) (.ofBytes otherOrder) :=
    ⟨by decide +kernel, rfl⟩
  have hnamed : ∀ header, header? (.ofBytes leftToRight) = some (header.map encode) → NamedOnce header := by
    intro header hheader
    have hnames : header? (.ofBytes leftToRight) =
        some ((["file", "NNZ", "K", "BSMR", "RoDe"].map String.toList).map encode) := by
      decide +kernel
    rw [hnames, Option.some_inj] at hheader
    rw [← List.map_injective_iff.2 Utf8.encode_injective hheader]
    decide +kernel
  exact ⟨hrearranged, hnamed, extract_rearranged hrearranged hnamed none, by decide +kernel⟩

end KernelCharts.Delimited
