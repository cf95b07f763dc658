import KernelCharts.Proofs.Session.Steps

/-!
# The images of a figure, one attempt each

How the images of a figure come out depends on the figure and on the files. What is said of them does not:
here the renderer may succeed and fail in any pattern.

* `Attempt`, `Attempted` — attempts in a row, each in the world that the one before leaves behind;
* `exists_attempted`, `Attempted.log_eq` — every format is attempted once, in order, and each attempt leaves
  its events in the log;
* `Tells` — what is told about the attempts: all paths if none failed, and otherwise those that failed and
  those that did not;
* `saveFigure_attempts_all` — the outcome of saving a figure.
-/

namespace KernelCharts

theorem saveFigure_eq_saveWith (figure : Figure) (directory stem : String) (formats : List OutputFormat)
    (dpi : Nat) : saveFigure figure directory stem formats dpi =
      saveWith (figure.renderer dpi) directory stem formats := rfl

/-! ## Attempts -/

/-- an image that has been attempted, and why it could not be written, if so -/
structure Attempt where
  path : String
  format : OutputFormat
  pixels : Nat × Nat
  fault : Option RenderFault

namespace Attempt

def outcome (attempt : Attempt) : String × Bool := (attempt.path, attempt.fault.isNone)

def start (attempt : Attempt) : LogEvent := .rendering attempt.path attempt.pixels.1 attempt.pixels.2

def event (attempt : Attempt) : LogEvent :=
  match attempt.fault with
  | none => .saved attempt.format attempt.path
  | some cause => .notSaved attempt.path cause

def events (attempt : Attempt) : List LogEvent := [attempt.start, attempt.event]

theorem level_event (attempt : Attempt) :
    attempt.event.level = if attempt.fault.isNone then .info else .error := by
  obtain ⟨path, format, pixels, fault⟩ := attempt
  cases fault <;> rfl

end Attempt

/-- Attempts in a row: each is rendered once, in the world that the one before leaves behind. -/
inductive Attempted (renderer : Renderer) : World → List Attempt → World → Prop where
  | nil (world : World) : Attempted renderer world [] world
  | cons {world after : World} {files : FileSystem} {attempt : Attempt} {attempts : List Attempt} :
      attempt.pixels = renderer.pixels attempt.format →
      renderer.render attempt.path attempt.format ⟨world.files, world.log ++ [attempt.start]⟩ =
        (files, attempt.fault) →
      Attempted renderer ⟨files, world.log ++ attempt.events⟩ attempts after →
      Attempted renderer world (attempt :: attempts) after

variable {renderer : Renderer} {world after : World} {attempts : List Attempt}

theorem Attempted.log_eq (h : Attempted renderer world attempts after) :
    after.log = world.log ++ attempts.flatMap Attempt.events := by
  induction h with
  | nil world => rw [List.flatMap_nil, List.append_nil]
  | cons _ _ _ ih => rw [ih, List.flatMap_cons, List.append_assoc]

theorem runOn_attemptWith {files : FileSystem} (attempt : Attempt)
    (hpixels : attempt.pixels = renderer.pixels attempt.format)
    (hrender : renderer.render attempt.path attempt.format ⟨world.files, world.log ++ [attempt.start]⟩ =
      (files, attempt.fault)) :
    (attemptWith renderer attempt.path attempt.format).runOn world =
      (.ok attempt.outcome, ⟨files, world.log ++ attempt.events⟩) := by
  obtain ⟨pixels, render⟩ := renderer
  obtain ⟨path, format, size, fault⟩ := attempt
  dsimp only [Attempt.start] at hpixels hrender
  subst hpixels
  unfold attemptWith
  dsimp only
  rw [Session.runOn_bind, Session.runOn_log]
  dsimp only
  rw [Session.runOn_bind, Session.runOn_get]
  dsimp only
  rw [hrender]
  cases fault <;> exact congrArg (fun log => (_, World.mk files log)) (List.append_assoc _ _ _)

/-- **Every format is attempted once, in order**, whatever becomes of those before. -/
theorem exists_attempted (renderer : Renderer) (pathOf : OutputFormat → String)
    (formats : List OutputFormat) (world : World) : ∃ attempts after,
      Attempted renderer world attempts after ∧
      (attempts.map fun attempt => (attempt.path, attempt.format)) =
        (formats.map fun format => (pathOf format, format)) ∧
      (formats.mapM fun format => attemptWith renderer (pathOf format) format).runOn world =
        (.ok (attempts.map Attempt.outcome), after) := by
  induction formats generalizing world with
  | nil => exact ⟨[], world, .nil world, rfl, rfl⟩
  | cons format formats ih =>
    let pixels := renderer.pixels format
    rcases hrender : renderer.render (pathOf format) format
      ⟨world.files, world.log ++ [.rendering (pathOf format) pixels.1 pixels.2]⟩ with ⟨files, fault⟩
    let attempt : Attempt := ⟨pathOf format, format, pixels, fault⟩
    have hattempt : (attemptWith renderer (pathOf format) format).runOn world =
        (.ok attempt.outcome, ⟨files, world.log ++ attempt.events⟩) :=
      runOn_attemptWith attempt rfl hrender
    obtain ⟨attempts, after, hattempted, hformats, hrun⟩ := ih ⟨files, world.log ++ attempt.events⟩
    refine ⟨attempt :: attempts, after, .cons rfl hrender hattempted, ?_, ?_⟩
    · rw [List.map_cons, List.map_cons, hformats]
    · rw [List.mapM_cons, Session.runOn_bind, hattempt]
      dsimp only
      rw [Session.runOn_bind, hrun]
      rfl

/-! ## What is told -/

/-- What is told about attempts: the paths of all of them if none failed, and otherwise the paths of those
that failed and of those that did not, both in order. -/
structure Tells (attempts : List Attempt) (result : Except Failure (List String)) : Prop where
  ok_iff : (∃ paths, result = .ok paths) ↔ ∀ attempt ∈ attempts, attempt.fault = none
  paths : ∀ paths, result = .ok paths → paths = attempts.map Attempt.path
  failure : ∀ failure, result = .error failure → failure = .notWritten
    ((attempts.filter (·.fault.isSome)).map Attempt.path)
    ((attempts.filter (·.fault.isNone)).map Attempt.path)

theorem exists_tells (attempts : List Attempt) (world : World) : ∃ result,
    (tellAttempts (attempts.map Attempt.outcome)).runOn world = (result, world) ∧ Tells attempts result := by
  have hwritten : ((attempts.map Attempt.outcome).filter (·.2)).map (·.1) =
      (attempts.filter (·.fault.isNone)).map Attempt.path := by
    rw [List.filter_map, List.map_map]
    rfl
  have hfailed : ((attempts.map Attempt.outcome).filter fun outcome => !outcome.2).map (·.1) =
      (attempts.filter (·.fault.isSome)).map Attempt.path := by
    rw [List.filter_map, List.map_map]
    simp only [← Option.not_isNone]
    rfl
  have hempty : ((attempts.filter (·.fault.isSome)).map Attempt.path).isEmpty ↔
      ∀ attempt ∈ attempts, attempt.fault = none := by
    simp
  unfold tellAttempts
  rw [hwritten, hfailed]
  dsimp only
  split
  · next h =>
    have hnone := hempty.1 h
    have hall : attempts.filter (·.fault.isNone) = attempts :=
      List.filter_eq_self.2 fun attempt hattempt => Option.isNone_iff_eq_none.2 (hnone attempt hattempt)
    refine ⟨.ok (attempts.map Attempt.path), by rw [hall, Session.runOn_pure], ?_⟩
    constructor
    case ok_iff => exact ⟨fun _ => hnone, fun _ => ⟨_, rfl⟩⟩
    case paths =>
      rintro _ ⟨⟩
      rfl
    case failure => nofun
  · next h =>
    refine ⟨_, Session.runOn_throw _, ?_⟩
    constructor
    case ok_iff => exact ⟨nofun, fun hnone => absurd (hempty.2 hnone) h⟩
    case paths => nofun
    case failure =>
      rintro _ ⟨⟩
      rfl

/-- What saving a figure comes to: nothing is attempted without the directory, and with it every format is,
once and in order. -/
inductive SaveOutcome (renderer : Renderer) (directory stem : String) (formats : List OutputFormat)
    (world : World) : Except Failure (List String) × World → Prop where
  | noDirectory {files : FileSystem} {fault : FileFault} :
      world.files.createDirectories directory = (files, some fault) →
      SaveOutcome renderer directory stem formats world
        (.error (.createDirectory directory fault), ⟨files, world.log⟩)
  | attempted {files : FileSystem} {attempts : List Attempt} {after : World}
      {result : Except Failure (List String)} :
      world.files.createDirectories directory = (files, none) →
      Attempted renderer ⟨files, world.log⟩ attempts after →
      (attempts.map fun attempt => (attempt.path, attempt.format)) =
        (formats.map fun format => (imagePath directory stem format, format)) →
      after.log = world.log ++ attempts.flatMap Attempt.events →
      Tells attempts result →
      SaveOutcome renderer directory stem formats world (result, after)

theorem saveOutcome_saveWith (renderer : Renderer) (directory stem : String) (formats : List OutputFormat)
    (world : World) : SaveOutcome renderer directory stem formats world
      ((saveWith renderer directory stem formats).runOn world) := by
  unfold saveWith
  rw [ensurePlotDirectories_singleton, Session.runOn_bind, Session.runOn_changeFiles]
  rcases hdirectory : world.files.createDirectories directory with ⟨files, _ | fault⟩
  · obtain ⟨attempts, after, hattempted, hformats, hrun⟩ :=
      exists_attempted renderer (imagePath directory stem) formats ⟨files, world.log⟩
    dsimp only
    rw [Session.runOn_bind, hrun]
    dsimp only
    obtain ⟨result, htold, htells⟩ := exists_tells attempts after
    rw [htold]
    exact .attempted hdirectory hattempted hformats hattempted.log_eq htells
  · exact .noDirectory hdirectory

/-- **A figure is saved by attempting all its formats**, whatever becomes of each. The call succeeds if none
fails, and otherwise tells the images that failed from those that were written. -/
theorem saveFigure_attempts_all :
    (∀ figure directory stem formats dpi, saveFigure figure directory stem formats dpi =
      saveWith (figure.renderer dpi) directory stem formats) ∧
    (∀ render directory stem formats world, SaveOutcome render directory stem formats world
      ((saveWith render directory stem formats).runOn world)) ∧
    ∀ attempt : Attempt, attempt.event.level = if attempt.fault.isNone then .info else .error :=
  ⟨saveFigure_eq_saveWith, saveOutcome_saveWith, Attempt.level_event⟩

end KernelCharts
