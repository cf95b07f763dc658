import KernelCharts.Line.Plot
import KernelCharts.Proofs.Report.Feed
import KernelCharts.Proofs.Session.Steps

/-!
# Loading the report of a line plot

* `LinePlot.Unreadable` — the reports that cannot be read, and `LinePlot.exists_load_eq_error_iff`;
* `LinePlot.runOn_load` — loading reads the report and changes nothing but the log.
-/

namespace KernelCharts

namespace LinePlot

variable {plot : LinePlot} {files : FileSystem} {world : World}

def extract (plot : LinePlot) (files : FileSystem) : Except ExtractError Extraction :=
  Session.extractionOf Report.extract plot.file files

/-- The file of the plot cannot be opened, or it breaks off while it is read, or it is no text. -/
def Unreadable (plot : LinePlot) (files : FileSystem) : Prop :=
  ∀ text, files.openFile plot.file ≠ .ok (.ofBytes (Utf8.encode text))

theorem exists_extract_eq_ok_iff : (∃ e, plot.extract files = .ok e) ↔ ¬ plot.Unreadable files := by
  unfold extract Session.extractionOf Unreadable
  simp only [ne_eq, not_forall, not_not]
  cases files.openFile plot.file with
  | error fault => simp
  | ok feed =>
    dsimp only
    rw [Report.exists_ok_iff]
    constructor
    · rintro ⟨hended, text, hbytes⟩
      refine ⟨text, ?_⟩
      cases feed
      cases hended
      cases hbytes
      rfl
    · rintro ⟨text, htext⟩
      cases htext
      exact ⟨rfl, text, rfl⟩

theorem runOn_load (plot : LinePlot) (world : World) : ∃ events, plot.load.runOn world =
    (match plot.extract world.files with
      | .ok e => .ok e.table
      | .error error => .error (.readReport plot.file error),
      { world with log := world.log ++ events }) := by
  obtain ⟨events, hread⟩ := Session.runOn_extractFile Report.extract plot.file world
  unfold load extract
  rw [Session.runOn_bind, hread]
  dsimp only
  cases Session.extractionOf Report.extract plot.file world.files with
  | ok e => exact ⟨events, rfl⟩
  | error error => exact ⟨events, rfl⟩

theorem load_onlyLogs (plot : LinePlot) : plot.load.OnlyLogs := by
  intro world
  obtain ⟨events, hload⟩ := plot.runOn_load world
  exact ⟨_, congrArg Prod.snd hload⟩

theorem load_ignoresLog (plot : LinePlot) : plot.load.IgnoresLog := by
  intro world log
  obtain ⟨events, hload⟩ := plot.runOn_load world
  obtain ⟨others, hother⟩ := plot.runOn_load { world with log }
  exact ⟨_, by rw [hload, hother]⟩

theorem load_eq_ok_iff {table : Table Float} : (plot.load.runOn world).1 = .ok table ↔
    ∃ e, plot.extract world.files = .ok e ∧ e.table = table := by
  obtain ⟨events, hload⟩ := plot.runOn_load world
  rw [hload]
  cases plot.extract world.files with
  | ok e => simp
  | error error => simp

theorem exists_load_eq_error_iff :
    (∃ failure, (plot.load.runOn world).1 = .error failure) ↔ plot.Unreadable world.files := by
  rw [← not_iff_not, ← exists_extract_eq_ok_iff]
  obtain ⟨events, hload⟩ := plot.runOn_load world
  rw [hload]
  cases plot.extract world.files with
  | ok e => simp
  | error error => simp

end LinePlot

end KernelCharts
