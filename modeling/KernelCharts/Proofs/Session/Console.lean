import KernelCharts.Proofs.Session.Directives

/-!
# What the directives let through

Which events get to the console is decided by the directive that says most about them.  A default directive
says more than all others about the events of its part, as long as no given directive starts with the name
of the part.

* `Directive.exists_decisive?` — the directive that decides is about the event, and no other says more;
* `Directive.target_parse` — what a directive is about is what its text starts with;
* `LogEvent.IsOf`, `LogEvent.exists_isOf` — the part of the program that an event comes from;
* `letsThrough_iff_of_untouched`, `letsThrough_eq_false_of_touched` — from which level on the events of a part
  are shown that no directive starts with, and how those of `sddmm` are lost.
-/

namespace KernelCharts

namespace Directive

/-! ## The directive that decides -/

theorem yieldsTo_iff {directive other : Directive} : directive.yieldsTo other = true ↔
    directive.target.length < other.target.length ∨
      directive.target.length = other.target.length ∧ directive.fields.length ≤ other.fields.length := by
  simp [yieldsTo]

theorem yieldsTo_refl (directive : Directive) : directive.yieldsTo directive = true := by
  simp [yieldsTo]

theorem yieldsTo_trans {a b c : Directive} (hab : a.yieldsTo b = true) (hbc : b.yieldsTo c = true) :
    a.yieldsTo c = true := by
  rw [yieldsTo_iff] at *
  omega

theorem yieldsTo_total {a b : Directive} (h : ¬ a.yieldsTo b = true) : b.yieldsTo a = true := by
  rw [yieldsTo_iff] at *
  omega

/-- Of some directives the one is kept that says most. -/
theorem exists_foldl_preferred (first : Directive) (directives : List Directive) : ∃ best,
    directives.foldl preferred (some first) = some best ∧ best ∈ first :: directives ∧
      ∀ other ∈ first :: directives, other.yieldsTo best = true := by
  induction directives generalizing first with
  | nil => exact ⟨first, rfl, List.mem_singleton_self first, by simp [yieldsTo_refl]⟩
  | cons directive directives ih =>
    rw [List.foldl_cons]
    dsimp only [preferred]
    by_cases hyields : first.yieldsTo directive = true
    · rw [if_pos hyields]
      obtain ⟨best, hfold, hbest, hmost⟩ := ih directive
      have hfirst := yieldsTo_trans hyields (hmost directive List.mem_cons_self)
      exact ⟨best, hfold, List.mem_cons_of_mem first hbest, List.forall_mem_cons.2 ⟨hfirst, hmost⟩⟩
    · rw [if_neg hyields]
      obtain ⟨best, hfold, hbest, hmost⟩ := ih first
      obtain ⟨hfirst, hothers⟩ := List.forall_mem_cons.1 hmost
      have hdirective := yieldsTo_trans (yieldsTo_total hyields) hfirst
      refine ⟨best, hfold, ?_, List.forall_mem_cons.2 ⟨hfirst, List.forall_mem_cons.2 ⟨hdirective, hothers⟩⟩⟩
      exact List.mem_cons.2 ((List.mem_cons.1 hbest).imp_right (List.mem_cons_of_mem directive))

/-- **If a directive is about an event, one decides**: it is about the event, too, and none says more. -/
theorem exists_decisive? {directives : List Directive} {event : LogEvent} {directive : Directive}
    (hdirective : directive ∈ directives) (h : directive.isAbout event = true) : ∃ best,
      decisive? directives event = some best ∧ best ∈ directives ∧ best.isAbout event = true ∧
      ∀ other ∈ directives, other.isAbout event = true → other.yieldsTo best = true := by
  have hmem : ∀ {other}, other ∈ directives.filter (·.isAbout event) ↔
      other ∈ directives ∧ other.isAbout event = true := List.mem_filter
  have habout := hmem.2 ⟨hdirective, h⟩
  unfold decisive?
  generalize directives.filter (·.isAbout event) = about at hmem habout
  cases about with
  | nil => cases habout
  | cons first about =>
    obtain ⟨best, hfold, hbest, hmost⟩ := exists_foldl_preferred first about
    obtain ⟨hgiven, hevent⟩ := hmem.1 hbest
    exact ⟨best, hfold, hgiven, hevent, fun other hother habout => hmost other (hmem.2 ⟨hother, habout⟩)⟩

/-! ## What directives are about -/

variable {text : List Char} {read later : Directive × Position}

theorem target_withField {directive directive' : Directive} {field : List Char}
    (h : directive.withField field = .ok directive') : directive'.target = directive.target := by
  unfold withField at h
  split at h
  · cases h
  · cases h
    rfl

theorem target_withLevel {directive directive' : Directive} {level : List Char}
    (h : directive.withLevel level = .ok directive') : directive'.target = directive.target := by
  unfold withLevel at h
  split at h
  · cases h
    rfl
  · cases h

theorem target_withName {directive : Directive} (h : directive.target <+: text) :
    (directive.withName text).target <+: text := by
  unfold withName
  split
  · exact h
  · exact List.prefix_rfl

/-- One more character leaves a target that starts the text. -/
theorem target_next {c : Char} {index : Nat} (hread : read.1.target <+: text)
    (h : next text read c index = .ok later) : later.1.target <+: text := by
  obtain ⟨directive, position⟩ := read
  have htake : text.take index <+: text := List.take_prefix index text
  have hmap : ∀ {result : Except DirectiveFault Directive} {position : Position},
      (∀ directive', result = .ok directive' → directive'.target = directive.target) →
      (result.map fun directive => (directive, position)) = .ok later → later.1.target <+: text := by
    rintro (fault | directive') position hresult hlater
    · cases hlater
    · cases hlater
      exact (hresult directive' rfl).symm ▸ hread
  cases position <;> dsimp only [next] at h
  case start =>
    split at h
    · cases h
      exact hread
    · split at h
      · cases h
        exact hread
      · cases h
  case name =>
    -- what comes before a level or a span is the target, and so is a text alone
    split at h
    · cases h
      exact htake
    · split at h
      · cases h
        exact htake
      · split at h
        · cases h
          exact target_withName hread
        · cases h
          exact hread
  case span began =>
    split at h
    · cases h
      exact hread
    · split at h
      · cases h
        exact hread
      · cases h
        exact hread
  case field began =>
    split at h
    · exact hmap (fun _ => target_withField) h
    · split at h
      · exact hmap (fun _ => target_withField) h
      · cases h
        exact hread
  case fields =>
    split at h
    · cases h
      exact hread
    · cases h
  case target =>
    split at h
    · cases h
      exact hread
    · cases h
  case level began =>
    split at h
    · exact hmap (fun _ => target_withLevel) h
    · cases h
      exact hread
  case complete => cases h

theorem target_foldlM {marks : List (Char × Nat)} (hread : read.1.target <+: text)
    (h : marks.foldlM (fun read (c, index) => next text read c index) read = .ok later) :
    later.1.target <+: text := by
  induction marks generalizing read with
  | nil =>
    cases h
    exact hread
  | cons mark marks ih =>
    obtain ⟨c, index⟩ := mark
    rw [List.foldlM_cons] at h
    dsimp only at h
    cases hnext : next text read c index with
    | error fault =>
      rw [hnext] at h
      cases h
    | ok between =>
      rw [hnext] at h
      exact ih (target_next hread hnext) h

/-- **What a directive is about** is what its text starts with. -/
theorem target_parse {directive : String} {said : Directive} (h : parse directive = .ok said) :
    said.target <+: directive.toList := by
  unfold parse at h
  dsimp only at h
  cases hread : (Text.trim directive.toList).zipIdx.foldlM
      (fun read (c, index) => next directive.toList read c index) (blank, Position.start) with
  | error fault =>
    rw [hread] at h
    cases h
  | ok read =>
    rw [hread] at h
    have htarget : read.1.target <+: directive.toList := target_foldlM (List.nil_prefix) hread
    obtain ⟨read, last⟩ := read
    cases last with
    | name =>
      cases h
      exact target_withName htarget
    | level began => exact (target_withLevel h).symm ▸ htarget
    | target | complete =>
      cases h
      exact htarget
    | start | span began | field began | fields => cases h

/-! ## All directives -/

theorem mem_mapM_parse {texts : List String} {read : List Directive} (h : texts.mapM parse = .ok read)
    {said : Directive} : said ∈ read ↔ ∃ text ∈ texts, parse text = .ok said := by
  induction texts generalizing read with
  | nil =>
    cases h
    simp
  | cons text texts ih =>
    rw [List.mapM_cons] at h
    cases hparse : parse text with
    | error fault =>
      rw [hparse] at h
      cases h
    | ok first =>
      cases hothers : texts.mapM parse with
      | error fault =>
        rw [hparse, hothers] at h
        cases h
      | ok others =>
        rw [hparse, hothers] at h
        cases h
        simp [hparse, ih hothers, eq_comm]

theorem mem_assembled {own : String} {others : List String} {read : List Directive}
    (h : assembled (own :: others) = .ok read) {said : Directive} :
    said ∈ read ↔ said ∈ ofProgram own ∨ ∃ text ∈ others, parse text = .ok said := by
  unfold assembled at h
  dsimp only at h
  cases hothers : others.mapM parse with
  | error fault =>
    rw [hothers] at h
    cases h
  | ok said =>
    rw [hothers] at h
    cases h
    rw [List.mem_append, mem_mapM_parse hothers]

/-- what a directive says that gives a level to a part -/
def ofPart (part level : String) : Directive :=
  ⟨part.toList, [], false, levelNames.idxOf level⟩

theorem parse_default : ∀ part ∈ logTargets, ∀ level ∈ levelNames,
    parse (part ++ "=" ++ level) = .ok (ofPart part level) := by
  decide +kernel

theorem ofProgram_default : ∀ level ∈ levelNames,
    ofProgram ("sddmm_plot=" ++ level) = [ofPart "sddmm_plot" level] := by
  decide +kernel

end Directive

/-! ## The parts of the program -/

/-- The event comes from a part of the program, or from something in it. -/
def LogEvent.IsOf (event : LogEvent) (part : String) : Prop :=
  event.target = part ∨ ∃ path, event.target = part ++ "::" ++ path

namespace LogEvent

/-- **Every event comes from a part of the program**, or from the program itself. -/
theorem exists_isOf (event : LogEvent) : ∃ part ∈ "sddmm_plot" :: logTargets, event.IsOf part := by
  cases event with
  | droppedLine | orphanedLine | unrecognisedHeader =>
    exact ⟨"sddmm", by decide, .inr ⟨"report", rfl⟩⟩
  | droppedRecord | unreadableRecord | duplicateColumn | noKernelColumns | resolvedColumns =>
    exact ⟨"sddmm", by decide, .inr ⟨"table", rfl⟩⟩
  | extracted => exact ⟨"sddmm", by decide, .inl rfl⟩
  | kept | skipped => exact ⟨"common", by decide, .inr ⟨"normalize", rfl⟩⟩
  | saved | notSaved | rendering => exact ⟨"common", by decide, .inr ⟨"plot", rfl⟩⟩
  | emptyReport | categories | wroteLinePlots => exact ⟨"sddmm_line", by decide, .inl rfl⟩
  | ignoredInput | emptyGrid | layingOut | wroteGrid => exact ⟨"sddmm_grid", by decide, .inl rfl⟩
  | running => exact ⟨"sddmm_plot", by decide, .inr ⟨"run", rfl⟩⟩
  | stopped => exact ⟨"sddmm_plot", by decide, .inl rfl⟩

variable {event : LogEvent} {part : String}

theorem IsOf.starts (h : event.IsOf part) : part.toList <+: event.target.toList := by
  rcases h with h | ⟨path, h⟩
  · rw [h]
  · rw [h]
    simp

/-- A name that starts where an event comes from starts the name of its part. -/
theorem IsOf.starts_of_starts (h : event.IsOf part) {name : List Char} (hname : ':' ∉ name)
    (hstarts : name <+: event.target.toList) : name <+: part.toList := by
  rcases h with h | ⟨path, h⟩ <;> rw [h] at hstarts
  · exact hstarts
  · have hsplit : name <+: part.toList ++ ':' :: (':' :: path.toList) := by simpa using hstarts
    exact starts_of_append_cons hname hsplit

end LogEvent

theorem Directive.starts_of_isAbout {said : Directive} {event : LogEvent} (h : said.isAbout event = true) :
    said.target <+: event.target.toList := by
  simp only [isAbout, Bool.and_eq_true, List.isPrefixOf_iff_prefix] at h
  exact h.1.2

section

variable {level : String} {given : List String} {read : List Directive} {part : String} {event : LogEvent}
  (hlevel : level ∈ levelNames) (hread : Directive.assembled (filterDirectives level given) = .ok read)

include hlevel hread

/-- A directive about an event of a part is given, or the default for what the name of the part starts
with. -/
theorem given_or_default_of_isAbout (hpart : part ∈ logTargets) (hevent : event.IsOf part) {said : Directive}
    (hsaid : said ∈ read) (habout : said.isAbout event = true) :
    (∃ text ∈ given, Directive.parse text = .ok said) ∨
      ∃ other ∈ logTargets, (∀ directive ∈ given, ¬ other.toList <+: directive.toList) ∧
        other.toList <+: part.toList ∧ said = Directive.ofPart other level := by
  have hmarks : ∀ name ∈ "sddmm_plot" :: logTargets, ':' ∉ name.toList := by decide
  have hstarts := Directive.starts_of_isAbout habout
  rcases (Directive.mem_assembled hread).1 hsaid with hown | ⟨text, htext, hparse⟩
  · rw [Directive.ofProgram_default level hlevel, List.mem_singleton] at hown
    subst hown
    have hnames : ∀ part ∈ logTargets, ¬ "sddmm_plot".toList <+: part.toList := by decide
    exact absurd (hevent.starts_of_starts (hmarks _ List.mem_cons_self) hstarts) (hnames part hpart)
  · rcases List.mem_append.1 htext with hgiven | hdefault
    · exact .inl ⟨text, hgiven, hparse⟩
    · obtain ⟨other, hother, rfl⟩ := List.mem_map.1 hdefault
      obtain ⟨hother, huntouched⟩ := List.mem_filter.1 hother
      rw [Directive.parse_default other hother level hlevel] at hparse
      cases hparse
      refine .inr ⟨other, hother, by simpa using huntouched, ?_, rfl⟩
      exact hevent.starts_of_starts (hmarks other (List.mem_cons_of_mem _ hother)) hstarts

/-- **The events of a part that no directive starts with** get to the console from the default level on,
whatever the directives about other parts say. -/
theorem letsThrough_iff_of_untouched (hpart : part ∈ logTargets)
    (hfree : ∀ directive ∈ given, ¬ part.toList <+: directive.toList) (hevent : event.IsOf part) :
    letsThrough read event = true ↔ event.level.number ≤ levelNames.idxOf level := by
  have hdefault : Directive.ofPart part level ∈ read := by
    refine (Directive.mem_assembled hread).2 (.inr ⟨_, ?_, Directive.parse_default part hpart level hlevel⟩)
    refine List.mem_append_right _ (List.mem_map.2 ⟨part, List.mem_filter.2 ⟨hpart, ?_⟩, rfl⟩)
    simpa using hfree
  have habout : (Directive.ofPart part level).isAbout event = true := by
    simp only [Directive.isAbout, Directive.ofPart, Bool.and_eq_true, List.isPrefixOf_iff_prefix]
    exact ⟨⟨rfl, hevent.starts⟩, rfl⟩
  obtain ⟨best, hdecisive, hbest, hbestAbout, hmost⟩ := Directive.exists_decisive? hdefault habout
  have hlong : part.toList.length ≤ best.target.length := by
    rcases Directive.yieldsTo_iff.1 (hmost _ hdefault habout) with hlt | ⟨heq, -⟩
    · exact hlt.le
    · exact heq.le
  have hsame : best = Directive.ofPart part level := by
    rcases given_or_default_of_isAbout hlevel hread hpart hevent hbest hbestAbout with
      ⟨text, htext, hparse⟩ | ⟨other, -, -, hprefix, rfl⟩
    · -- a given directive that names as much starts with the name of the part
      have hstarts := List.prefix_of_prefix_length_le hevent.starts (Directive.starts_of_isAbout hbestAbout) hlong
      exact absurd (hstarts.trans (Directive.target_parse hparse)) (hfree text htext)
    · have hother := hprefix.eq_of_length (Nat.le_antisymm hprefix.length_le hlong)
      rw [String.toList_inj.1 hother]
  unfold letsThrough
  rw [hdecisive, hsame]
  exact decide_eq_true_iff

/-- **The events of `sddmm` are lost** when a directive starts with its name and none is about them. -/
theorem letsThrough_eq_false_of_touched (hevent : event.IsOf "sddmm")
    (htouched : ∃ directive ∈ given, "sddmm".toList <+: directive.toList)
    (hnone : ∀ directive ∈ given, ∀ said, Directive.parse directive = .ok said → ¬ said.isAbout event = true) :
    letsThrough read event = false := by
  have hfree : ∀ said ∈ read, ¬ said.isAbout event = true := by
    intro said hsaid habout
    rcases given_or_default_of_isAbout hlevel hread (by decide) hevent hsaid habout with
      ⟨text, htext, hparse⟩ | ⟨other, hother, huntouched, hprefix, -⟩
    · exact hnone text htext said hparse habout
    · have hnames : ∀ other ∈ logTargets, other.toList <+: "sddmm".toList → other = "sddmm" := by decide
      obtain ⟨directive, hdirective, hstarts⟩ := htouched
      exact huntouched directive hdirective (hnames other hother hprefix ▸ hstarts)
  unfold letsThrough Directive.decisive?
  rw [List.filter_eq_nil_iff.2 hfree]
  rfl

end

/-- The line figures are logged in more detail than what they are made from, and the report not at all. -/
example :
    let read := (Directive.assembled (filterDirectives "info" ["sddmm_line=debug"])).toOption.getD []
    letsThrough read (.categories 32 4) = true ∧ letsThrough read (.kept 4 5 .zcx) = false ∧
      letsThrough read (.extracted "a.md" 4 0 0) = false := by
  decide +kernel

end KernelCharts
