import KernelCharts.Session.Figure
import Mathlib.Data.List.Basic
import Mathlib.Data.List.Induction

/-!
# Images laid over files

A run creates directories and writes images.  Whatever fails on the way, no directory goes away, so a path
goes on leading where it led.

* `FileSystem.content?` — what the file at a place holds;
* `FileSystem.Keeps`, `FileSystem.Keeps.resolve` — directories that stay, and paths that lead to the same
  place;
* `FileSystem.Overlaid` — images are written over what was there, and nothing else changes but for new
  directories;
* `FileSystem.overlaid_createDirectories`, `FileSystem.overlaid_writeFile` — the operations.
-/

namespace KernelCharts

namespace FileSystem

variable {before between after fs : FileSystem}

/-! ## Paths -/

/-- what the file at a place holds, if there is one -/
def content? (fs : FileSystem) (place : Place) : Option Content :=
  match fs.entry? place with
  | some (.file content) => some content
  | _ => none

/-- The current directory is the same, and all directories are still there. -/
structure Keeps (before after : FileSystem) : Prop where
  current : after.current = before.current
  directories : ∀ place, before.isDirectory place = true → after.isDirectory place = true

theorem Keeps.refl (fs : FileSystem) : fs.Keeps fs := ⟨rfl, fun _ => id⟩

theorem Keeps.trans (h : before.Keeps between) (h' : between.Keeps after) : before.Keeps after :=
  ⟨h'.current.trans h.current, fun place hplace => h'.directories place (h.directories place hplace)⟩

theorem isDirectory_of_stepInto {place next : Place} {name : String}
    (h : fs.stepInto place name = .ok next) : fs.isDirectory place = true := by
  unfold stepInto at h
  rw [isDirectory, beq_iff_eq]
  cases hentry : fs.entry? place with
  | none =>
    rw [hentry] at h
    cases h
  | some entry =>
    cases entry with
    | directory => rfl
    | file content =>
      rw [hentry] at h
      cases h

theorem stepInto_of_isDirectory {place : Place} (h : fs.isDirectory place = true) (name : String) :
    fs.stepInto place name =
      if name == "." then .ok place else if name == ".." then .ok place.dropLast else .ok (place ++ [name]) := by
  rw [isDirectory, beq_iff_eq] at h
  rw [stepInto, h]

theorem Keeps.foldlM_stepInto (h : before.Keeps after) {names : List String} {start place : Place}
    (hnames : names.foldlM before.stepInto start = .ok place) :
    names.foldlM after.stepInto start = .ok place := by
  induction names generalizing start with
  | nil => exact hnames
  | cons name names ih =>
    rw [List.foldlM_cons] at hnames ⊢
    cases hstep : before.stepInto start name with
    | error fault =>
      rw [hstep] at hnames
      cases hnames
    | ok next =>
      have hdirectory := isDirectory_of_stepInto hstep
      have hafter : after.stepInto start name = .ok next := by
        rw [stepInto_of_isDirectory (h.directories start hdirectory), ← stepInto_of_isDirectory hdirectory, hstep]
      rw [hstep] at hnames
      rw [hafter]
      exact ih hnames

/-- **A path goes on leading where it led.** -/
theorem Keeps.resolve (h : before.Keeps after) {path : String} {place : Place}
    (hpath : before.resolve path = .ok place) : after.resolve path = .ok place := by
  have horigin : after.origin path = before.origin path := by
    unfold origin
    rw [h.current]
  unfold FileSystem.resolve at hpath ⊢
  split at hpath
  · cases hpath
  · next hempty =>
    rw [if_neg hempty, horigin]
    exact h.foldlM_stepInto hpath

/-! ## Entries -/

theorem lookup_filter_ne {l : List (Place × Entry)} {place other : Place} (h : other ≠ place) :
    (l.filter (·.1 != place)).lookup other = l.lookup other := by
  induction l with
  | nil => rfl
  | cons pair l ih =>
    obtain ⟨key, entry⟩ := pair
    rw [List.lookup_cons]
    by_cases hkey : key = place
    · have hother : (other == key) = false := by simpa [hkey] using h
      rw [List.filter_cons_of_neg (by simp [hkey]), ih, hother]
    · rw [List.filter_cons_of_pos (by simpa using hkey), List.lookup_cons, ih]

theorem entry?_put_ne {place other : Place} (h : other ≠ place) (entry : Entry) :
    entry? (fs.put place entry) other = fs.entry? other := by
  have hother : (other == place) = false := by simpa using h
  simp only [put, entry?, List.lookup_cons, hother, lookup_filter_ne h]

theorem entry?_put_self {place : Place} (h : fs.isDirectory place = false) (entry : Entry) :
    entry? (fs.put place entry) place = some entry := by
  have hcurrent : place.isPrefixOf fs.current = false := by
    by_contra hprefix
    rw [Bool.not_eq_false] at hprefix
    simp [isDirectory, entry?, hprefix] at h
  simp [put, entry?, hcurrent]

theorem content?_put_ne {place other : Place} (h : other ≠ place) (entry : Entry) :
    (fs.put place entry).content? other = fs.content? other := by
  rw [content?, entry?_put_ne h, content?]

theorem keeps_put {place : Place} (h : fs.isDirectory place = false) (entry : Entry) :
    fs.Keeps (fs.put place entry) := by
  refine ⟨rfl, ?_⟩
  intro other hother
  have hne : other ≠ place := by
    rintro rfl
    rw [h] at hother
    cases hother
  rwa [isDirectory, entry?_put_ne hne]

/-! ## Images -/

/-- what some images leave at a place: the last of them whose path leads there, or else what was there -/
def covered (fs : FileSystem) (images : List (String × Content)) (place : Place) (content : Option Content) :
    Option Content :=
  images.foldl (fun content image => if fs.resolve image.1 = .ok place then some image.2 else content) content

/-- The second file system is the first one with some images written over it, in order.  Nothing else
changes, but there may be new directories. -/
structure Overlaid (before : FileSystem) (images : List (String × Content)) (after : FileSystem) : Prop where
  keeps : before.Keeps after
  resolves : ∀ image ∈ images, ∃ place, after.resolve image.1 = .ok place
  content : ∀ place, after.content? place = after.covered images place (before.content? place)

theorem Overlaid.refl (fs : FileSystem) : fs.Overlaid [] fs := ⟨.refl fs, by simp, fun _ => rfl⟩

/-- **Images after images.** -/
theorem Overlaid.trans {images later : List (String × Content)} (h : before.Overlaid images between)
    (h' : between.Overlaid later after) : before.Overlaid (images ++ later) after := by
  have hsame : ∀ image ∈ images, ∀ place,
      after.resolve image.1 = .ok place ↔ between.resolve image.1 = .ok place := by
    intro image himage place
    obtain ⟨target, htarget⟩ := h.resolves image himage
    rw [htarget, h'.keeps.resolve htarget]
  have hcovered : ∀ place content, after.covered images place content = between.covered images place content := by
    intro place content
    refine List.foldl_ext _ _ _ ?_
    intro content image himage
    simp only [hsame image himage place]
  refine ⟨h.keeps.trans h'.keeps, ?_, ?_⟩
  · intro image himage
    rcases List.mem_append.1 himage with himage | himage
    · obtain ⟨place, hplace⟩ := h.resolves image himage
      exact ⟨place, h'.keeps.resolve hplace⟩
    · exact h'.resolves image himage
  · intro place
    rw [h'.content, h.content, ← hcovered, covered, covered, covered, List.foldl_append]

theorem covered_concat (images : List (String × Content)) (image : String × Content) (place : Place)
    (content : Option Content) : fs.covered (images ++ [image]) place content =
      if fs.resolve image.1 = .ok place then some image.2 else fs.covered images place content := by
  simp only [covered, List.foldl_append, List.foldl_cons, List.foldl_nil]

/-- What is at a place is what was there, if no image goes there, and one of the images otherwise. -/
theorem covered_cases (fs : FileSystem) (images : List (String × Content)) (place : Place)
    (content : Option Content) :
    (∀ image ∈ images, fs.resolve image.1 ≠ .ok place) ∧ fs.covered images place content = content ∨
      ∃ image ∈ images, fs.resolve image.1 = .ok place ∧ fs.covered images place content = some image.2 := by
  induction images using List.reverseRecOn with
  | nil => exact .inl ⟨by simp, rfl⟩
  | append_singleton images image ih =>
    rw [covered_concat]
    by_cases himage : fs.resolve image.1 = .ok place
    · exact .inr ⟨image, by simp, himage, if_pos himage⟩
    · rw [if_neg himage]
      rcases ih with ⟨hnone, hcontent⟩ | ⟨other, hother, hplace, hcontent⟩
      · refine .inl ⟨?_, hcontent⟩
        intro other hother
        rcases List.mem_append.1 hother with hother | hother
        · exact hnone other hother
        · rwa [List.mem_singleton.1 hother]
      · exact .inr ⟨other, List.mem_append_left _ hother, hplace, hcontent⟩

/-- **Nothing changes where no image goes.** -/
theorem Overlaid.content?_eq {images : List (String × Content)} (h : before.Overlaid images after)
    {place : Place} (hplace : ∀ image ∈ images, after.resolve image.1 ≠ .ok place) :
    after.content? place = before.content? place := by
  rw [h.content]
  rcases covered_cases after images place (before.content? place) with ⟨-, hcontent⟩ | ⟨image, himage, hgoes, -⟩
  · exact hcontent
  · exact absurd hgoes (hplace image himage)

/-- **Where an image goes, there is one.** -/
theorem Overlaid.exists_image {images : List (String × Content)} (h : before.Overlaid images after)
    {image : String × Content} (himage : image ∈ images) : ∃ place, after.resolve image.1 = .ok place ∧
      ∃ last ∈ images, after.resolve last.1 = .ok place ∧ after.content? place = some last.2 := by
  obtain ⟨place, hplace⟩ := h.resolves image himage
  refine ⟨place, hplace, ?_⟩
  rw [h.content]
  rcases covered_cases after images place (before.content? place) with ⟨hnone, -⟩ | ⟨last, hlast, hgoes, hcontent⟩
  · exact absurd hplace (hnone image himage)
  · exact ⟨last, hlast, hgoes, hcontent⟩

/-! ## Operations -/

theorem overlaid_put_directory {place : Place} (h : fs.entry? place = none) :
    fs.Overlaid [] (fs.put place .directory) := by
  have hdirectory : fs.isDirectory place = false := by simp [isDirectory, h]
  refine ⟨keeps_put hdirectory _, by simp, ?_⟩
  intro other
  by_cases hother : other = place
  · subst hother
    simp [content?, covered, entry?_put_self hdirectory, h]
  · exact content?_put_ne hother _

theorem overlaid_createDirectory {start : Place} {names : List String}
    (h : fs.createDirectory start names = .ok after) : fs.Overlaid [] after := by
  unfold createDirectory at h
  cases hplace : names.foldlM fs.stepInto start with
  | error fault =>
    rw [hplace] at h
    cases h
  | ok place =>
    rw [hplace] at h
    simp only [bind, Except.bind] at h
    split at h
    · cases h
    · next hempty =>
      split at h
      · cases h
      · cases h
        exact overlaid_put_directory (by simpa using hempty)

theorem overlaid_ensureDirectory (fs : FileSystem) (start : Place) (names : List String) :
    fs.Overlaid [] (fs.ensureDirectory start names).1 := by
  unfold ensureDirectory
  cases hcreate : fs.createDirectory start names with
  | error fault => exact .refl fs
  | ok after => exact overlaid_createDirectory hcreate

theorem overlaid_ensureAll (fs : FileSystem) (start : Place) (rows : List (List String)) :
    fs.Overlaid [] (fs.ensureAll start rows).1 := by
  induction rows with
  | nil => exact .refl fs
  | cons names parents ih =>
    unfold ensureAll
    split
    · split
      · next hparents =>
        rw [hparents] at ih
        exact ih
      · next hparents =>
        rw [hparents] at ih
        exact ih.trans (overlaid_ensureDirectory _ start names)
    · exact overlaid_ensureDirectory fs start names

/-- **Directories** are created where nothing was. -/
theorem overlaid_createDirectories (fs : FileSystem) (path : String) :
    fs.Overlaid [] (fs.createDirectories path).1 :=
  overlaid_ensureAll fs _ _

/-- **A file that is written** holds what was written. -/
theorem overlaid_writeFile {path : String} {content : Content}
    (h : fs.writeFile path content = .ok after) : fs.Overlaid [(path, content)] after := by
  unfold writeFile at h
  cases hplace : fs.resolve path with
  | error fault =>
    rw [hplace] at h
    cases h
  | ok place =>
    rw [hplace] at h
    simp only [bind, Except.bind] at h
    split at h
    · cases h
    · next hdirectory =>
      split at h
      · cases h
      · cases h
        rw [Bool.not_eq_true] at hdirectory
        have hkeeps := keeps_put hdirectory (.file content)
        have hresolve := hkeeps.resolve hplace
        refine ⟨hkeeps, by simpa using ⟨place, hresolve⟩, ?_⟩
        intro other
        simp only [covered, List.foldl_cons, List.foldl_nil, hresolve, Except.ok.injEq]
        by_cases hother : place = other
        · subst hother
          rw [if_pos rfl, content?, entry?_put_self hdirectory]
        · rw [if_neg hother, content?_put_ne (Ne.symm hother)]

end FileSystem

end KernelCharts
