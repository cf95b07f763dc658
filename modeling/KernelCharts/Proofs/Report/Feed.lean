import KernelCharts.Proofs.Report.Reading

/-!
# Which reports are read

Lines are decoded one by one, and a feed is read up to the first fault.  That comes to looking at the
bytes as a whole: a report is read exactly if they are a text and the feed does not break off.

* `readLines_eq_none_iff` — the feeds whose lines are read to the end, and their lines;
* `extract_eq_ok_iff` — the feeds that are read, and what is read;
* `exists_ok_iff`, `exists_io_iff` — the feeds that are read, and what is wrong with the others.
-/

namespace KernelCharts.Report

/-! ## Lines -/

theorem decodeLines_eq_none_iff {fault : Option FileFault} {pieces : List (List UInt8)}
    {texts : List (List Char)} : decodeLines fault pieces = (texts, none) ↔
      fault = none ∧ pieces.map Lines.content = texts.map Utf8.encode := by
  constructor
  · intro h
    induction pieces generalizing texts with
    | nil =>
      cases h
      exact ⟨rfl, rfl⟩
    | cons piece pieces ih =>
      rw [decodeLines] at h
      cases hpiece : Utf8.decode? (Lines.content piece) with
      | none =>
        rw [hpiece] at h
        cases h
      | some text =>
        rw [hpiece] at h
        generalize hread : decodeLines fault pieces = read at h
        obtain ⟨rest, last⟩ := read
        cases h
        obtain ⟨hfault, hrest⟩ := ih hread
        refine ⟨hfault, ?_⟩
        rw [List.map_cons, List.map_cons, hrest, Utf8.decode?_eq_some_iff.1 hpiece]
  · rintro ⟨rfl, hmap⟩
    exact decodeLines_of_map hmap

/-- **The lines of a feed are read to the end exactly if the feed is a text.** -/
theorem readLines_eq_none_iff {feed : Feed} {lines : List (List Char)} :
    readLines feed = (lines, none) ↔
      ∃ text, feed = Feed.ofBytes (Utf8.encode text) ∧ lines = Text.lines text := by
  constructor
  · intro h
    obtain ⟨bytes, fault⟩ := feed
    obtain ⟨hfault, hlines⟩ := decodeLines_eq_none_iff.1 h
    dsimp only at hfault
    subst hfault
    obtain ⟨text, htext⟩ := Lines.exists_flatten_eq_encode hlines
    have hbytes : bytes = Utf8.encode text := (Lines.flatten_split bytes).symm.trans htext
    subst hbytes
    refine ⟨text, rfl, ?_⟩
    have hread := readLines_encode text
    exact congrArg Prod.fst (h.symm.trans hread)
  · rintro ⟨text, rfl, rfl⟩
    exact readLines_encode text

/-! ## Reports -/

/-- **A report is read exactly if it is a text**, as the lines of the text say. -/
theorem extract_eq_ok_iff {feed : Feed} {events : List LogEvent} {e : Extraction} :
    extract feed = (events, .ok e) ↔ ∃ text, feed = Feed.ofBytes (Utf8.encode text) ∧
      events = lineEvents ((Text.lines text).map classify) ∧
      e = extractLines ((Text.lines text).map classify) := by
  constructor
  · intro h
    rw [extract] at h
    generalize hread : readLines feed = read at h
    obtain ⟨lines, fault⟩ := read
    cases fault with
    | some fault => cases h
    | none =>
      obtain ⟨text, hfeed, rfl⟩ := readLines_eq_none_iff.1 hread
      cases h
      exact ⟨text, hfeed, rfl, rfl⟩
  · rintro ⟨text, rfl, rfl, rfl⟩
    simp only [extract, readLines_encode]

/-- A report that is not read is one whose lines cannot be read. -/
theorem exists_io_of_extract {feed : Feed} {error : ExtractError}
    (h : (extract feed).2 = .error error) : ∃ fault, error = .io fault := by
  rw [extract] at h
  generalize readLines feed = read at h
  obtain ⟨lines, fault⟩ := read
  cases fault with
  | none => cases h
  | some fault =>
    cases h
    exact ⟨fault, rfl⟩

theorem exists_ok_iff {feed : Feed} :
    (∃ e, (extract feed).2 = .ok e) ↔ feed.fault = none ∧ ∃ text, feed.bytes = Utf8.encode text := by
  constructor
  · rintro ⟨e, he⟩
    obtain ⟨text, hfeed, -⟩ := extract_eq_ok_iff.1 (Prod.ext rfl he : extract feed = ((extract feed).1, .ok e))
    rw [hfeed]
    exact ⟨rfl, text, rfl⟩
  · rintro ⟨hfault, text, hbytes⟩
    have hfeed : feed = Feed.ofBytes (Utf8.encode text) := by
      cases feed
      cases hfault
      cases hbytes
      rfl
    exact ⟨_, congrArg Prod.snd (extract_eq_ok_iff.2 ⟨text, hfeed, rfl, rfl⟩)⟩

theorem exists_io_iff {feed : Feed} :
    (∃ fault, (extract feed).2 = .error (.io fault)) ↔
      ¬ (feed.fault = none ∧ ∃ text, feed.bytes = Utf8.encode text) := by
  rw [← exists_ok_iff]
  cases hresult : (extract feed).2 with
  | ok e => simp
  | error error =>
    obtain ⟨fault, rfl⟩ := exists_io_of_extract hresult
    simp

end KernelCharts.Report
