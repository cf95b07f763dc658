import KernelCharts.Session.Figure
import Mathlib.Data.List.Forall2

/-!
# Steps of a session

* `Session.runOn_bind_eq_ok` — a session that succeeds is made of steps that succeed, each in the
  world that the one before leaves behind;
* `Session.forall₂_of_runOn_mapM`, `Session.exists_failure_of_runOn_mapM` — a step for every element of a
  list, with a result for each or a first element that fails;
* `Session.IgnoresLog`, `Session.OnlyLogs` — sessions that do the same whatever is in the log, and those
  that do nothing but write it;
* `saveFigure_paths` — a figure that is written has all its images, in the order of the formats.
-/

namespace KernelCharts

theorem map_eq_map_of_forall₂ {β γ δ : Type} {f : β → δ} {g : γ → δ} {l : List β} {m : List γ}
    (h : List.Forall₂ (fun b c => f b = g c) l m) : l.map f = m.map g := by
  rw [← List.forall₂_eq_eq_eq, List.forall₂_map_left_iff, List.forall₂_map_right_iff]
  exact h

namespace Session

variable {β γ : Type} {world after : World}

/-! ## Steps in a row -/

theorem runOn_pure (b : β) : (pure b : Session β).runOn world = (.ok b, world) := rfl

theorem runOn_throw (failure : Failure) :
    (throw failure : Session β).runOn world = (.error failure, world) := rfl

theorem runOn_get : (get : Session World).runOn world = (.ok world, world) := rfl

theorem runOn_log (events : List LogEvent) :
    (log events).runOn world = (.ok (), { world with log := world.log ++ events }) := rfl

theorem runOn_bind (steps : Session β) (rest : β → Session γ) : (steps >>= rest).runOn world =
    match steps.runOn world with
    | (.ok b, between) => (rest b).runOn between
    | (.error failure, between) => (.error failure, between) := by
  unfold runOn ExceptT.run StateT.run
  simp only [bind, ExceptT.bind, ExceptT.mk, StateT.bind]
  rcases steps world with ⟨failure | b, between⟩ <;> rfl

/-- **A session that succeeds** is made of steps that succeed. -/
theorem runOn_bind_eq_ok {steps : Session β} {rest : β → Session γ} {c : γ}
    (h : (steps >>= rest).runOn world = (.ok c, after)) :
    ∃ b between, steps.runOn world = (.ok b, between) ∧ (rest b).runOn between = (.ok c, after) := by
  rw [runOn_bind] at h
  rcases hsteps : steps.runOn world with ⟨failure | b, between⟩
  · rw [hsteps] at h
    cases h
  · rw [hsteps] at h
    exact ⟨b, between, rfl, h⟩

theorem runOn_changeFiles (change : FileSystem → FileSystem × Option FileFault)
    (failure : FileFault → Failure) : (changeFiles change failure).runOn world =
      (match (change world.files).2 with
        | none => .ok ()
        | some fault => .error (failure fault),
        { world with files := (change world.files).1 }) := by
  unfold changeFiles
  rw [runOn_bind, runOn_get]
  dsimp only
  generalize change world.files = changed
  obtain ⟨files, fault⟩ := changed
  cases fault <;> rfl

/-- what is extracted from the file of a path -/
def extractionOf (extract : Feed → List LogEvent × Except ExtractError Extraction) (path : String)
    (files : FileSystem) : Except ExtractError Extraction :=
  match files.openFile path with
  | .error fault => .error (.io fault)
  | .ok feed => (extract feed).2

/-- **Extracting a file** changes nothing but the log, and fails only with what it returns. -/
theorem runOn_extractFile (extract : Feed → List LogEvent × Except ExtractError Extraction) (path : String)
    (world : World) : ∃ events, (extractFile extract path).runOn world =
      (.ok (extractionOf extract path world.files), { world with log := world.log ++ events }) := by
  unfold extractFile extractionOf
  rw [runOn_bind, runOn_get]
  dsimp only
  cases world.files.openFile path with
  | error fault => exact ⟨[], by rw [runOn_pure, List.append_nil]⟩
  | ok feed =>
    dsimp only
    rw [runOn_bind, runOn_log]
    dsimp only
    generalize extract feed = read
    obtain ⟨events, error | e⟩ := read
    · exact ⟨events, rfl⟩
    · refine ⟨events ++ [.extracted path e.accepted e.malformed e.orphaned], ?_⟩
      rw [← List.append_assoc]
      rfl

theorem runOn_wrap (context : Failure → Failure) (steps : Session β) :
    (steps.wrap context).runOn world = ((steps.runOn world).1.mapError context, (steps.runOn world).2) := by
  unfold wrap runOn ExceptT.run StateT.run
  simp only [tryCatch, tryCatchThe, MonadExceptOf.tryCatch, ExceptT.tryCatch, ExceptT.mk, bind,
    StateT.bind]
  rcases steps world with ⟨failure | b, after⟩ <;> rfl

theorem runOn_wrap_eq_ok {context : Failure → Failure} {steps : Session β} {b : β}
    (h : (steps.wrap context).runOn world = (.ok b, after)) : steps.runOn world = (.ok b, after) := by
  rw [runOn_wrap] at h
  rcases hsteps : steps.runOn world with ⟨failure | b, between⟩
  · rw [hsteps] at h
    cases h
  · rw [hsteps] at h
    cases h
    rfl

theorem runOn_map_eq_ok {steps : Session β} {f : β → γ} {c : γ}
    (h : (do return f (← steps) : Session γ).runOn world = (.ok c, after)) :
    ∃ b, steps.runOn world = (.ok b, after) ∧ f b = c := by
  obtain ⟨b, between, hsteps, hrest⟩ := runOn_bind_eq_ok h
  rw [runOn_pure] at hrest
  cases hrest
  exact ⟨b, hsteps, rfl⟩

/-! ## A step for every element -/

/-- **Steps for the elements of a list** give a result for each, in order. -/
theorem forall₂_of_runOn_mapM {R : β → γ → Prop} {step : β → Session γ}
    (hstep : ∀ b world c after, (step b).runOn world = (.ok c, after) → R b c) {elements : List β}
    {results : List γ} (h : (elements.mapM step).runOn world = (.ok results, after)) :
    List.Forall₂ R elements results := by
  induction elements generalizing world results with
  | nil =>
    rw [List.mapM_nil, runOn_pure] at h
    cases h
    exact .nil
  | cons b elements ih =>
    rw [List.mapM_cons] at h
    obtain ⟨c, between, hb, hrest⟩ := runOn_bind_eq_ok h
    obtain ⟨cs, hcs, hresults⟩ := runOn_map_eq_ok hrest
    subst hresults
    exact .cons (hstep b world c between hb) (ih hcs)

/-- **Steps that fail** do so at the first element whose step fails. -/
theorem exists_failure_of_runOn_mapM {step : β → Session γ} {elements : List β} {failure : Failure}
    (h : (elements.mapM step).runOn world = (.error failure, after)) :
    ∃ before b later results between, elements = before ++ b :: later ∧
      (before.mapM step).runOn world = (.ok results, between) ∧
      (step b).runOn between = (.error failure, after) := by
  induction elements generalizing world with
  | nil =>
    rw [List.mapM_nil, runOn_pure] at h
    cases h
  | cons b elements ih =>
    rw [List.mapM_cons, runOn_bind] at h
    rcases hb : (step b).runOn world with ⟨failure' | c, next⟩
    · rw [hb] at h
      cases h
      exact ⟨[], b, elements, [], world, rfl, rfl, hb⟩
    · rw [hb] at h
      dsimp only at h
      rw [runOn_bind] at h
      rcases hrest : (elements.mapM step).runOn next with ⟨failure' | cs, last⟩
      · rw [hrest] at h
        cases h
        obtain ⟨before, failing, later, results, between, rfl, hbefore, hfailing⟩ := ih hrest
        refine ⟨b :: before, failing, later, c :: results, between, rfl, ?_, hfailing⟩
        rw [List.mapM_cons, runOn_bind, hb]
        dsimp only
        rw [runOn_bind, hbefore]
        rfl
      · rw [hrest] at h
        cases h

/-! ## The log -/

/-- The log is only written: what is in it already changes neither the result nor the files. -/
def IgnoresLog (steps : Session β) : Prop :=
  ∀ world log, ∃ later, steps.runOn { world with log } =
    ((steps.runOn world).1, { (steps.runOn world).2 with log := later })

namespace IgnoresLog

theorem pure (b : β) : IgnoresLog (Pure.pure b) := fun _ log => ⟨log, rfl⟩

theorem throw (failure : Failure) : IgnoresLog (MonadExcept.throw failure : Session β) :=
  fun _ log => ⟨log, rfl⟩

theorem log (events : List LogEvent) : IgnoresLog (Session.log events) := fun _ _ => ⟨_, rfl⟩

theorem bind {steps : Session β} {rest : β → Session γ} (hsteps : steps.IgnoresLog)
    (hrest : ∀ b, (rest b).IgnoresLog) : (steps >>= rest).IgnoresLog := by
  intro world log
  obtain ⟨later, hlater⟩ := hsteps world log
  rw [runOn_bind, runOn_bind, hlater]
  rcases steps.runOn world with ⟨failure | b, between⟩
  · exact ⟨later, rfl⟩
  · exact hrest b between later

theorem changeFiles (change : FileSystem → FileSystem × Option FileFault)
    (failure : FileFault → Failure) : (Session.changeFiles change failure).IgnoresLog := by
  intro world log
  exact ⟨log, by rw [runOn_changeFiles, runOn_changeFiles]⟩

theorem mapM {step : β → Session γ} (hstep : ∀ b, (step b).IgnoresLog) (elements : List β) :
    (elements.mapM step).IgnoresLog := by
  induction elements with
  | nil => exact .pure []
  | cons b elements ih =>
    rw [List.mapM_cons]
    exact (hstep b).bind fun c => ih.bind fun cs => .pure (c :: cs)

theorem same {steps : Session β} (h : steps.IgnoresLog) (world : World) (log log' : List LogEvent) :
    (steps.runOn { world with log }).1 = (steps.runOn { world with log := log' }).1 ∧
      (steps.runOn { world with log }).2.files = (steps.runOn { world with log := log' }).2.files := by
  obtain ⟨later, hlater⟩ := h { world with log := log' } log
  rw [hlater]
  exact ⟨rfl, rfl⟩

end IgnoresLog

def OnlyLogs (steps : Session β) : Prop := ∀ world, ∃ log, (steps.runOn world).2 = { world with log }

theorem log_onlyLogs (events : List LogEvent) : (Session.log events).OnlyLogs := fun _ => ⟨_, rfl⟩

theorem OnlyLogs.runOn_of_fst {steps : Session β} (h : steps.OnlyLogs) {result : Except Failure β}
    (hresult : (steps.runOn world).1 = result) :
    ∃ log, steps.runOn world = (result, { world with log }) := by
  obtain ⟨log, hlog⟩ := h world
  exact ⟨log, Prod.ext hresult hlog⟩

end Session

/-! ## Figures -/

theorem ensurePlotDirectories_singleton (directory : String) : ensurePlotDirectories [directory] =
    Session.changeFiles (·.createDirectories directory) (.createDirectory directory) := by
  simp [ensurePlotDirectories]

theorem Figure.runOn_attemptWith (figure : Figure) (path : String) (format : OutputFormat) (dpi : Nat)
    (world : World) : ∃ events, (attemptWith (figure.renderer dpi) path format).runOn world =
      (.ok (path, (renderFigure figure path format dpi world.files).2.isNone),
        ⟨(renderFigure figure path format dpi world.files).1, world.log ++ events⟩) := by
  unfold attemptWith
  dsimp only
  rw [Session.runOn_bind, Session.runOn_log]
  dsimp only
  rw [Session.runOn_bind, Session.runOn_get]
  dsimp only [Figure.renderer]
  generalize renderFigure figure path format dpi world.files = rendered
  obtain ⟨files, fault⟩ := rendered
  cases fault <;> exact ⟨_, congrArg (fun log => (_, World.mk files log)) (List.append_assoc _ _ _)⟩

theorem Figure.attemptWith_ignoresLog (figure : Figure) (path : String) (format : OutputFormat) (dpi : Nat) :
    (attemptWith (figure.renderer dpi) path format).IgnoresLog := by
  intro world log
  obtain ⟨events, hworld⟩ := figure.runOn_attemptWith path format dpi world
  obtain ⟨others, hother⟩ := figure.runOn_attemptWith path format dpi { world with log }
  exact ⟨_, by rw [hworld, hother]⟩

theorem saveFigure_ignoresLog (figure : Figure) (directory stem : String) (formats : List OutputFormat)
    (dpi : Nat) : (saveFigure figure directory stem formats dpi).IgnoresLog := by
  unfold saveFigure saveWith
  rw [ensurePlotDirectories_singleton]
  refine (Session.IgnoresLog.changeFiles _ _).bind fun _ => (Session.IgnoresLog.mapM ?_ formats).bind ?_
  · exact fun format => figure.attemptWith_ignoresLog _ _ _
  · intro attempts
    unfold tellAttempts
    dsimp only
    split
    · exact .pure _
    · exact .throw _

/-- **A figure that is saved has all its images**, in the order of the formats. -/
theorem saveFigure_paths {figure : Figure} {directory stem : String} {formats : List OutputFormat}
    {dpi : Nat} {world after : World} {paths : List String}
    (h : (saveFigure figure directory stem formats dpi).runOn world = (.ok paths, after)) :
    paths = formats.map (imagePath directory stem) := by
  unfold saveFigure saveWith at h
  obtain ⟨-, between, -, hsave⟩ := Session.runOn_bind_eq_ok h
  obtain ⟨attempts, between', hattempts, hpaths⟩ := Session.runOn_bind_eq_ok hsave
  have hforall : List.Forall₂ (fun format attempt => imagePath directory stem format = attempt.1)
      formats attempts := by
    refine Session.forall₂_of_runOn_mapM (fun format world attempt after hattempt => ?_) hattempts
    obtain ⟨events, hrun⟩ := figure.runOn_attemptWith (imagePath directory stem format) format dpi world
    rw [hrun] at hattempt
    cases hattempt
    rfl
  have himages : formats.map (imagePath directory stem) = attempts.map (·.1) := map_eq_map_of_forall₂ hforall
  unfold tellAttempts at hpaths
  dsimp only at hpaths
  split at hpaths
  · next hfailed =>
    rw [Session.runOn_pure] at hpaths
    cases hpaths
    -- no attempt has failed, so all of them are among the paths
    have hwritten : attempts.filter (·.2) = attempts := by
      refine List.filter_eq_self.2 fun attempt hattempt => ?_
      rw [List.isEmpty_iff, List.map_eq_nil_iff, List.filter_eq_nil_iff] at hfailed
      simpa using hfailed attempt hattempt
    rw [himages, hwritten]
  · rw [Session.runOn_throw] at hpaths
    cases hpaths

end KernelCharts
