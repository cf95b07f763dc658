import KernelCharts.Program
import Mathlib.Data.List.Infix

/-!
# The default directives of the log

Raising the level of one part of the program should leave the others at the default level. Whether a
directive is about a part is told by the text it starts with, and `sddmm` is how `sddmm_line` and
`sddmm_grid` start.

* `Targets` — a directive is about a part of the program;
* `DefaultsKept` — the parts that no directive is about have their default directives;
* `defaultsKept_iff` — they have them unless a directive starts with the name of such a part;
* `defaultsKept_iff_of_targeted` — when every directive is about some part, `sddmm` is the only part
  that can lose its default directive.
-/

namespace KernelCharts

/-- The directive is about a part of the program: it names the part, or gives a level to the part or to
something in it. -/
def Targets (directive target : String) : Prop :=
  directive = target ∨ (∃ level, directive = target ++ "=" ++ level) ∨
    ∃ path level, directive = target ++ "::" ++ path ++ "=" ++ level

/-- The parts of the program that no directive is about have their default directives. -/
def DefaultsKept (level : String) (given : List String) : Prop :=
  ∀ target ∈ logTargets, (∀ directive ∈ given, ¬ Targets directive target) →
    target ++ "=" ++ level ∈ filterDirectives level given

/-! ## What a directive starts with -/

/-- A directive about a part starts with the part's name, after which there is no letter. -/
theorem Targets.exists_toList {directive target : String} (h : Targets directive target) :
    directive.toList = target.toList ∨
      ∃ c rest, (c = '=' ∨ c = ':') ∧ directive.toList = target.toList ++ c :: rest := by
  rcases h with rfl | ⟨level, rfl⟩ | ⟨path, level, rfl⟩
  · left; rfl
  · right
    exact ⟨'=', level.toList, .inl rfl, by simp⟩
  · right
    exact ⟨':', ':' :: (path.toList ++ '=' :: level.toList), .inr rfl, by simp⟩

theorem Targets.starts {directive target : String} (h : Targets directive target) :
    target.toList <+: directive.toList := by
  rcases h.exists_toList with h | ⟨c, rest, -, h⟩
  · exact h ▸ List.prefix_rfl
  · exact h ▸ List.prefix_append _ _

/-- What starts a text followed by a mark starts the text, unless the mark is in it. -/
theorem starts_of_append_cons {name text rest : List Char} {c : Char} (hc : c ∉ name)
    (h : name <+: text ++ c :: rest) : name <+: text := by
  rcases List.prefix_or_prefix_of_prefix h (List.prefix_append text (c :: rest)) with h' | ⟨more, rfl⟩
  · exact h'
  · rw [List.prefix_append_right_inj, List.prefix_cons_iff] at h
    rcases h with rfl | ⟨more, rfl, -⟩
    · rw [List.append_nil]
    · exact absurd (List.mem_append_right text List.mem_cons_self) hc

/-- A directive about a part that starts with the name of another part: the name of the part itself
starts with it. -/
theorem Targets.starts_of_starts {directive target other : String} (h : Targets directive target)
    (hother : other ∈ logTargets) (hstarts : other.toList <+: directive.toList) :
    other.toList <+: target.toList := by
  have hmarks : ∀ other ∈ logTargets, '=' ∉ other.toList ∧ ':' ∉ other.toList := by decide
  rcases h.exists_toList with h | ⟨c, rest, hc, h⟩ <;> rw [h] at hstarts
  · exact hstarts
  · refine starts_of_append_cons ?_ hstarts
    rcases hc with rfl | rfl
    · exact (hmarks other hother).1
    · exact (hmarks other hother).2

/-! ## The default directives -/

theorem mem_filterDirectives {level directive : String} {given : List String} :
    directive ∈ filterDirectives level given ↔
      directive = "sddmm_plot=" ++ level ∨ directive ∈ given ∨
        ∃ target ∈ logTargets, (∀ d ∈ given, ¬ target.toList <+: d.toList) ∧
          target ++ "=" ++ level = directive := by
  simp [filterDirectives, and_assoc]

/-- A part that no directive is about has its default directive if and only if no directive starts with
its name. -/
theorem default_mem_filterDirectives_iff {level target : String} {given : List String}
    (htarget : target ∈ logTargets) (hfree : ∀ directive ∈ given, ¬ Targets directive target) :
    target ++ "=" ++ level ∈ filterDirectives level given ↔
      ∀ directive ∈ given, ¬ target.toList <+: directive.toList := by
  rw [mem_filterDirectives]
  constructor
  · rintro (hown | hgiven | ⟨other, -, hother, heq⟩)
    · have hne : ∀ target ∈ logTargets, target ++ "=" ≠ "sddmm_plot=" := by decide
      exact absurd (String.append_left_inj level |>.1 hown) (hne target htarget)
    · exact absurd (.inr (.inl ⟨level, rfl⟩)) (hfree _ hgiven)
    · rwa [← String.append_left_inj "=" |>.1 (String.append_left_inj level |>.1 heq)]
  · intro h
    exact .inr (.inr ⟨target, htarget, h, rfl⟩)

/-- **The parts that no directive is about have their default directives, unless a directive starts with
the name of such a part.** -/
theorem defaultsKept_iff (level : String) (given : List String) :
    DefaultsKept level given ↔
      ∀ target ∈ logTargets, (∀ directive ∈ given, ¬ Targets directive target) →
        ∀ directive ∈ given, ¬ target.toList <+: directive.toList := by
  constructor
  · intro h target htarget hfree
    exact (default_mem_filterDirectives_iff htarget hfree).1 (h target htarget hfree)
  · intro h target htarget hfree
    exact (default_mem_filterDirectives_iff htarget hfree).2 (h target htarget hfree)

def noRows : FileSystem := ⟨[(["a.md"], .file (.bytes "no rows\n".toUTF8.data.toList))], []⟩

/-- A directive about `sddmm_line` takes the default level away from `sddmm`, which is then logged from the
level on that is given for all parts: the line of a report that is read gets to the console. -/
theorem not_defaultsKept_sddmmLine :
    let given := ["info", "sddmm_line=off"]
    (∀ directive ∈ given, ¬ Targets directive "sddmm") ∧ ¬ DefaultsKept "off" given ∧
      (Program.run ["sddmm-plot", "-l", "info", "-l", "sddmm_line=off", "line", "-f", "a.md"] "off" false
          noRows).output =
        [.event (.extracted "a.md" 0 0 0), .line "[line] 0 figure(s) written",
          .line "  No valid data to plot"] := by
  intro given
  have hfree : ∀ directive ∈ given, ¬ Targets directive "sddmm" := by
    intro directive hdirective htargets
    have hnames : ∀ directive ∈ given, "sddmm".toList <+: directive.toList →
        "sddmm_line".toList <+: directive.toList := by decide
    have hstarts : "sddmm_line".toList <+: "sddmm".toList :=
      htargets.starts_of_starts (by decide) (hnames directive hdirective htargets.starts)
    revert hstarts
    decide
  refine ⟨hfree, fun h => ?_, by decide +kernel⟩
  have hmem := h "sddmm" (by decide) hfree
  revert hmem
  decide

/-- **When every directive is about some part, `sddmm` alone can lose its default directive:** it does
when a directive is about `sddmm_line` or `sddmm_grid` and none is about `sddmm`. -/
theorem defaultsKept_iff_of_targeted {level : String} {given : List String}
    (hgiven : ∀ directive ∈ given, ∃ target ∈ logTargets, Targets directive target) :
    DefaultsKept level given ↔
      (∃ directive ∈ given, Targets directive "sddmm") ∨
        ∀ directive ∈ given, ¬ Targets directive "sddmm_line" ∧ ¬ Targets directive "sddmm_grid" := by
  rw [defaultsKept_iff]
  constructor
  · intro h
    by_cases hsddmm : ∃ directive ∈ given, Targets directive "sddmm"
    · exact .inl hsddmm
    · right
      have hfree := h "sddmm" (by decide) fun directive hdirective htargets =>
        hsddmm ⟨directive, hdirective, htargets⟩
      have hline : "sddmm".toList <+: "sddmm_line".toList := by decide
      have hgrid : "sddmm".toList <+: "sddmm_grid".toList := by decide
      intro directive hdirective
      exact ⟨fun htargets => hfree directive hdirective (hline.trans htargets.starts),
        fun htargets => hfree directive hdirective (hgrid.trans htargets.starts)⟩
  · intro h target htarget hfree directive hdirective hstarts
    obtain ⟨about, habout, htargets⟩ := hgiven directive hdirective
    -- `target` and the part that the directive is about are two names, one of which starts with the other
    have hnames : ∀ target ∈ logTargets, ∀ about ∈ logTargets, target.toList <+: about.toList →
        target = about ∨ target = "sddmm" ∧ (about = "sddmm_line" ∨ about = "sddmm_grid") := by
      decide
    rcases hnames target htarget about habout (htargets.starts_of_starts htarget hstarts) with
      rfl | ⟨rfl, hlonger⟩
    · exact hfree directive hdirective htargets
    · rcases h with ⟨other, hother, hsddmm⟩ | h
      · exact hfree other hother hsddmm
      · obtain ⟨hline, hgrid⟩ := h directive hdirective
        rcases hlonger with rfl | rfl
        · exact hline htargets
        · exact hgrid htargets

end KernelCharts
