import KernelCharts.Proofs.FileSystem.Images
import KernelCharts.Proofs.Session.Steps

/-!
# Images that a session writes

A session that succeeds has written all of its images; one that fails stops somewhere, and has written some
of them.

* `Session.Writes` — the images that a session writes in a world;
* `Session.Writes.bind`, `Session.Writes.mapM` — those of steps in a row, and of a step for every element;
* `Figure.images` — the images of a figure, and `saveFigure_writes`.
-/

namespace KernelCharts

namespace Session

variable {β γ : Type} {world : World} {images later : List (String × Content)}

/-- The session writes some images over the files of a world, all of them if it succeeds. -/
def Writes (steps : Session β) (images : List (String × Content)) (world : World) : Prop :=
  ∃ written, written.Sublist images ∧ world.files.Overlaid written (steps.runOn world).2.files ∧
    ∀ b, (steps.runOn world).1 = .ok b → written = images

namespace Writes

theorem pure (b : β) (world : World) : (Pure.pure b : Session β).Writes [] world :=
  ⟨[], .slnil, .refl _, fun _ _ => rfl⟩

theorem throw (failure : Failure) (images : List (String × Content)) (world : World) :
    (MonadExcept.throw failure : Session β).Writes images world := by
  refine ⟨[], List.nil_sublist images, .refl _, ?_⟩
  intro b h
  cases h

/-- **Steps in a row** write their images one after the other. -/
theorem bind {steps : Session β} {rest : β → Session γ} (hsteps : steps.Writes images world)
    (hrest : ∀ b between, steps.runOn world = (.ok b, between) → (rest b).Writes later between) :
    (steps >>= rest).Writes (images ++ later) world := by
  obtain ⟨written, hsublist, hoverlaid, hall⟩ := hsteps
  unfold Writes
  rw [runOn_bind]
  rcases hrun : steps.runOn world with ⟨failure | b, between⟩
  · rw [hrun] at hoverlaid
    refine ⟨written, hsublist.trans (List.sublist_append_left images later), hoverlaid, ?_⟩
    intro c h
    cases h
  · obtain ⟨written', hsublist', hoverlaid', hall'⟩ := hrest b between hrun
    rw [hrun] at hoverlaid hall
    refine ⟨written ++ written', hsublist.append hsublist', hoverlaid.trans hoverlaid', ?_⟩
    intro c h
    rw [hall b rfl, hall' c h]

theorem wrap {context : Failure → Failure} {steps : Session β} (h : steps.Writes images world) :
    (steps.wrap context).Writes images world := by
  obtain ⟨written, hsublist, hoverlaid, hall⟩ := h
  unfold Writes
  rw [runOn_wrap]
  refine ⟨written, hsublist, hoverlaid, ?_⟩
  rcases hrun : steps.runOn world with ⟨failure | b, after⟩
  · intro b h
    cases h
  · rw [hrun] at hall
    exact fun _ _ => hall b rfl

/-- Steps that only log write no image before the others. -/
theorem bind_of_onlyLogs {steps : Session β} {rest : β → Session γ} (hsteps : steps.OnlyLogs)
    (hrest : ∀ b between, steps.runOn world = (.ok b, between) → (rest b).Writes images between) :
    (steps >>= rest).Writes images world := by
  obtain ⟨log, hlog⟩ := hsteps world
  have hnone : steps.Writes [] world := ⟨[], .slnil, by rw [hlog]; exact .refl _, fun _ _ => rfl⟩
  exact hnone.bind hrest

theorem map {steps : Session β} (h : steps.Writes images world) (f : β → γ) :
    (do return f (← steps) : Session γ).Writes images world := by
  rw [← List.append_nil images]
  exact h.bind fun b between _ => .pure (f b) between

/-- Steps whose result is logged write no image after the others. -/
theorem report {steps : Session β} (h : steps.Writes images world) (events : β → List LogEvent)
    (f : β → γ) : (do
      let b ← steps
      Session.log (events b)
      return f b : Session γ).Writes images world := by
  rw [← List.append_nil images]
  refine h.bind fun b between _ => ?_
  exact bind_of_onlyLogs (Session.log_onlyLogs _) fun _ after _ => .pure (f b) after

/-- **A step for every element** writes the images of the elements one after the other. -/
theorem mapM {step : β → Session γ} {images : β → List (String × Content)}
    (hstep : ∀ b world, (step b).Writes (images b) world) (elements : List β) (world : World) :
    (elements.mapM step).Writes (elements.flatMap images) world := by
  induction elements generalizing world with
  | nil => exact .pure [] world
  | cons b elements ih =>
    rw [List.mapM_cons, List.flatMap_cons]
    exact (hstep b world).bind fun c between _ => (ih between).map (c :: ·)

end Writes

end Session

/-! ## Figures -/

/-- **Directories are created**, and no file is touched by it. -/
theorem overlaid_ensurePlotDirectories (directory : String) (world : World) :
    world.files.Overlaid [] ((ensurePlotDirectories [directory]).runOn world).2.files := by
  rw [ensurePlotDirectories_singleton, Session.runOn_changeFiles]
  exact FileSystem.overlaid_createDirectories world.files directory

theorem exists_fault_of_ensurePlotDirectories {directory : String} {world : World} {failure : Failure}
    (h : ((ensurePlotDirectories [directory]).runOn world).1 = .error failure) :
    ∃ fault, failure = .createDirectory directory fault := by
  rw [ensurePlotDirectories_singleton, Session.runOn_changeFiles] at h
  cases hfault : (world.files.createDirectories directory).2 with
  | none =>
    rw [hfault] at h
    cases h
  | some fault =>
    rw [hfault] at h
    cases h
    exact ⟨fault, rfl⟩

def OutputFormat.content (format : OutputFormat) (figure : Figure) (dpi : Nat) : Content :=
  let (width, height) := (Canvas.ofFormat format dpi).inches figure.size
  match format with
  | .png => .raster width height
  | .pdf => .page width height

def Figure.images (figure : Figure) (directory stem : String) (formats : List OutputFormat) (dpi : Nat) :
    List (String × Content) :=
  formats.map fun format => (imagePath directory stem format, format.content figure dpi)

theorem tryWrite_cases (fs : FileSystem) (path : String) (content : Content) :
    (∃ after, fs.tryWrite path content = (after, none) ∧ fs.Overlaid [(path, content)] after) ∨
      ∃ fault, fs.tryWrite path content = (fs, some fault) := by
  unfold FileSystem.tryWrite
  cases hwrite : fs.writeFile path content with
  | error fault => exact .inr ⟨fault, rfl⟩
  | ok after => exact .inl ⟨after, rfl, FileSystem.overlaid_writeFile hwrite⟩

/-- **An image is written, or nothing is** and there is a fault. -/
theorem renderFigure_cases (figure : Figure) (path : String) (format : OutputFormat) (dpi : Nat)
    (fs : FileSystem) :
    fs.Overlaid [(path, format.content figure dpi)] (renderFigure figure path format dpi fs).1 ∨
      ∃ fault, renderFigure figure path format dpi fs = (fs, some fault) := by
  have htry := tryWrite_cases fs path (format.content figure dpi)
  unfold OutputFormat.content at htry ⊢
  unfold renderFigure
  dsimp only at htry ⊢
  generalize (Canvas.ofFormat format dpi).inches figure.size = size at htry ⊢
  obtain ⟨width, height⟩ := size
  cases hdraw : figure.draw (Canvas.ofFormat format dpi) with
  | ok marks =>
    cases format <;>
      rcases htry with ⟨after, hwrite, hoverlaid⟩ | ⟨fault, hwrite⟩ <;> dsimp only at hwrite ⊢ <;> rw [hwrite]
    · exact .inl hoverlaid
    · exact .inr ⟨_, rfl⟩
    · exact .inl hoverlaid
    · exact .inr ⟨_, rfl⟩
  | error reason =>
    cases format with
    | png =>
      -- a raster image that cannot be drawn is written all the same
      rcases htry with ⟨after, hwrite, hoverlaid⟩ | ⟨fault, hwrite⟩ <;> dsimp only at hwrite ⊢ <;> rw [hwrite]
      · exact .inl hoverlaid
      · exact .inr ⟨_, rfl⟩
    | pdf => exact .inr ⟨_, rfl⟩

theorem Figure.runOn_attempt (figure : Figure) (directory stem : String) (dpi : Nat) (format : OutputFormat)
    (world : World) : ∃ outcome after written,
      (attemptWith (figure.renderer dpi) (imagePath directory stem format) format).runOn world =
        (.ok outcome, after) ∧
      written.Sublist (figure.images directory stem [format] dpi) ∧
      world.files.Overlaid written after.files ∧
      (outcome.2 = true → written = figure.images directory stem [format] dpi) := by
  obtain ⟨events, himage⟩ := figure.runOn_attemptWith (imagePath directory stem format) format dpi world
  rw [himage]
  rcases renderFigure_cases figure (imagePath directory stem format) format dpi world.files with
    hoverlaid | ⟨fault, hrender⟩
  · exact ⟨_, _, _, rfl, List.Sublist.refl _, hoverlaid, fun _ => rfl⟩
  · rw [hrender]
    refine ⟨_, _, [], rfl, List.nil_sublist _, .refl _, ?_⟩
    intro h
    cases h

/-- **Every image is attempted**, and those whose attempt succeeds are written. -/
theorem Figure.runOn_mapM_attempt (figure : Figure) (directory stem : String) (dpi : Nat)
    (formats : List OutputFormat) (world : World) : ∃ outcomes after written,
      (formats.mapM fun format =>
          attemptWith (figure.renderer dpi) (imagePath directory stem format) format).runOn world =
        (.ok outcomes, after) ∧
      written.Sublist (figure.images directory stem formats dpi) ∧
      world.files.Overlaid written after.files ∧
      ((∀ outcome ∈ outcomes, outcome.2 = true) → written = figure.images directory stem formats dpi) := by
  induction formats generalizing world with
  | nil => exact ⟨[], world, [], rfl, .slnil, .refl _, fun _ => rfl⟩
  | cons format formats ih =>
    obtain ⟨outcome, between, written, hrun, hsublist, hoverlaid, hall⟩ :=
      figure.runOn_attempt directory stem dpi format world
    obtain ⟨outcomes, after, later, hruns, hsublists, hoverlaids, halls⟩ := ih between
    refine ⟨outcome :: outcomes, after, written ++ later, ?_, hsublist.append hsublists,
      hoverlaid.trans hoverlaids, ?_⟩
    · rw [List.mapM_cons, Session.runOn_bind, hrun]
      dsimp only
      rw [Session.runOn_bind, hruns]
      rfl
    · intro h
      rw [List.forall_mem_cons] at h
      rw [hall h.1, halls h.2]
      rfl

/-- **A figure that is saved** is written with all its images, and one that is not with some of them. -/
theorem saveFigure_writes (figure : Figure) (directory stem : String) (formats : List OutputFormat)
    (dpi : Nat) (world : World) : (saveFigure figure directory stem formats dpi).Writes
      (figure.images directory stem formats dpi) world := by
  have hcreate : (ensurePlotDirectories [directory]).Writes [] world :=
    ⟨[], .slnil, overlaid_ensurePlotDirectories directory world, fun _ _ => rfl⟩
  unfold saveFigure saveWith
  refine hcreate.bind ?_
  rintro - between -
  obtain ⟨outcomes, after, written, hrun, hsublist, hoverlaid, hall⟩ :=
    figure.runOn_mapM_attempt directory stem dpi formats between
  unfold Session.Writes
  rw [Session.runOn_bind, hrun]
  unfold tellAttempts
  dsimp only
  split
  · next hfailed =>
    refine ⟨written, hsublist, hoverlaid, fun _ _ => hall ?_⟩
    intro outcome houtcome
    rw [List.isEmpty_iff, List.map_eq_nil_iff, List.filter_eq_nil_iff] at hfailed
    simpa using hfailed outcome houtcome
  · refine ⟨written, hsublist, hoverlaid, ?_⟩
    intro paths h
    cases h

end KernelCharts
