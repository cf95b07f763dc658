import KernelCharts.Text.Word
import Mathlib.Data.List.Basic
import Mathlib.Data.List.TakeWhile

/-!
# Patterns

A pattern is matched by backtracking: its ways to match at a place are tried one after the other, and repetitions take
as much as they can before they take less.  The first way at the first place counts.

* `Pattern`, `Way`, `Pattern.ways` — patterns, and their ways to match at a place, in order;
* `Pattern.search`, `Pattern.capture?` — the first match in a text, and what the group takes in it;
* `Pattern.taken_seq`, `Pattern.told_seq` — a pattern after another one goes on where the first way leaves off that
  it can go on from;
* `Pattern.taken_many_seq_cons`, `Pattern.told_many_seq_cons` — a repetition goes on as long as that does;
* `Pattern.told_many_seq` — one that nothing can follow before it is through takes all that it can.
-/

namespace KernelCharts.Text

/-- a pattern for texts, with one group at most -/
inductive Pattern where
  /-- one character of a class -/
  | one (p : Char → Bool)
  /-- characters of a class, as many as can be -/
  | many (p : Char → Bool)
  /-- the place where a word begins or ends -/
  | border
  /-- one pattern after another -/
  | seq (a b : Pattern)
  /-- a pattern, or nothing if that does not do -/
  | optional (a : Pattern)
  /-- a pattern whose text is told -/
  | group (a : Pattern)

/-- a way to match at a place: the text that is taken, the text that is left, and the text of the group -/
structure Way where
  taken : List Char
  rest : List Char
  group : Option (List Char)

namespace Way

/-- nothing is taken -/
def stay (s : List Char) : Way := ⟨[], s, none⟩

/-- one more character is taken before -/
def cons (c : Char) (w : Way) : Way := { w with taken := c :: w.taken }

/-- one way after another -/
def append (w v : Way) : Way := ⟨w.taken ++ v.taken, v.rest, v.group.or w.group⟩

/-- the character before the text that is left, for the one before the text that is taken -/
def last (w : Way) (before : Option Char) : Option Char := w.taken.getLast?.or before

theorem last_cons (w : Way) (c : Char) (before : Option Char) : (w.cons c).last before = w.last (some c) := by
  simp [last, cons, List.getLast?_cons]

theorem last_append (w v : Way) (before : Option Char) : (w.append v).last before = v.last (w.last before) := by
  simp [last, append, List.getLast?_append, Option.or_assoc]

theorem append_assoc (w v u : Way) : (w.append v).append u = w.append (v.append u) := by
  simp [append, List.append_assoc, Option.or_assoc]

end Way

namespace Pattern

/-- the ways to take characters of a class, the longest first -/
def manyWays (p : Char → Bool) : List Char → List Way
  | [] => [.stay []]
  | c :: cs => if p c then (manyWays p cs).map (.cons c) ++ [.stay (c :: cs)] else [.stay (c :: cs)]

/-- the ways to match at the start of a text, in the order in which they are tried, for the character before it -/
def ways : Pattern → Option Char → List Char → List Way
  | one _, _, [] => []
  | one p, _, c :: cs => if p c then [⟨[c], cs, none⟩] else []
  | many p, _, s => manyWays p s
  | border, before, s => if before.any isWord = s.head?.any isWord then [] else [.stay s]
  | seq a b, before, s => (a.ways before s).flatMap fun w => (b.ways (w.last before) w.rest).map w.append
  | optional a, before, s => a.ways before s ++ [.stay s]
  | group a, before, s => (a.ways before s).map fun w => { w with group := some w.taken }

/-- the first way to match at the first place that has one -/
def search (a : Pattern) (before : Option Char) : List Char → Option Way
  | [] => (a.ways before []).head?
  | c :: cs =>
    match (a.ways before (c :: cs)).head? with
    | some w => some w
    | none => a.search (some c) cs

/-- what the group takes in the first match in a text -/
def capture? (a : Pattern) (s : List Char) : Option (List Char) := (a.search none s).bind (·.group)

/-! ## First ways -/

/-- what the first way at a place takes -/
def taken (a : Pattern) (before : Option Char) (s : List Char) : Option (List Char) :=
  (a.ways before s).head?.map (·.taken)

/-- what the group takes in the first way at a place -/
def told (a : Pattern) (before : Option Char) (s : List Char) : Option (Option (List Char)) :=
  (a.ways before s).head?.map (·.group)

variable {a b : Pattern} {p : Char → Bool} {before : Option Char} {c : Char} {s cs : List Char}

theorem taken_seq : (seq a b).taken before s =
    (a.ways before s).findSome? fun w => (b.taken (w.last before) w.rest).map (w.taken ++ ·) := by
  rw [taken, ways, List.head?_flatMap, List.map_findSome?]
  congr 1
  funext w
  simp only [Function.comp_apply, List.head?_map, Option.map_map, taken]
  rfl

theorem told_seq : (seq a b).told before s =
    (a.ways before s).findSome? fun w => (b.told (w.last before) w.rest).map (·.or w.group) := by
  rw [told, ways, List.head?_flatMap, List.map_findSome?]
  congr 1
  funext w
  simp only [Function.comp_apply, List.head?_map, Option.map_map, told]
  rfl

theorem told_group : (group a).told before s = (a.taken before s).map some := by
  rw [told, ways, List.head?_map, Option.map_map, taken, Option.map_map]
  rfl

theorem told_optional_seq : (seq (optional a) b).told before s =
    ((seq a b).told before s).or (b.told before s) := by
  have hstay : (b.told before s).map (·.or none) = b.told before s := by simp
  rw [told_seq, told_seq, ways, List.findSome?_append, List.findSome?_singleton]
  exact congrArg _ hstay

theorem taken_one_seq_cons : (seq (one p) b).taken before (c :: cs) =
    if p c then (b.taken (some c) cs).map (c :: ·) else none := by
  rw [taken_seq, ways]
  split
  · exact List.findSome?_singleton
  · rfl

theorem taken_one_seq_nil : (seq (one p) b).taken before [] = none := rfl

theorem told_one_seq_cons : (seq (one p) b).told before (c :: cs) =
    if p c then b.told (some c) cs else none := by
  rw [told_seq, ways]
  split <;> simp [Way.last]

/-! ## Repetitions -/

theorem head?_manyWays (p : Char → Bool) (s : List Char) :
    (manyWays p s).head? = some ⟨s.takeWhile p, s.dropWhile p, none⟩ := by
  induction s with
  | nil => rfl
  | cons c cs ih =>
    rw [manyWays]
    split
    · next hc =>
      rw [List.head?_append, List.head?_map, ih, List.takeWhile_cons_of_pos hc, List.dropWhile_cons_of_pos hc]
      rfl
    · next hc =>
      rw [List.takeWhile_cons_of_neg hc, List.dropWhile_cons_of_neg hc]
      rfl

theorem taken_many : (many p).taken before s = some (s.takeWhile p) := by
  rw [taken, ways, head?_manyWays, Option.map_some]

theorem findSome?_manyWays_cons {β : Type} (k : Way → Option β) : (manyWays p (c :: cs)).findSome? k =
    if p c then ((manyWays p cs).findSome? fun w => k (w.cons c)).or (k (.stay (c :: cs)))
    else k (.stay (c :: cs)) := by
  rw [manyWays]
  split
  · rw [List.findSome?_append, List.findSome?_map, List.findSome?_singleton]
    rfl
  · exact List.findSome?_singleton

/-- A repetition goes on if that does, and ends if it does not. -/
theorem taken_many_seq_cons : (seq (many p) b).taken before (c :: cs) =
    if p c then (((seq (many p) b).taken (some c) cs).map (c :: ·)).or (b.taken before (c :: cs))
    else b.taken before (c :: cs) := by
  have hstay : (b.taken before (c :: cs)).map ([] ++ ·) = b.taken before (c :: cs) := by simp
  rw [taken_seq, taken_seq, ways, ways, findSome?_manyWays_cons, List.map_findSome?]
  simp only [Way.last_cons, Function.comp_def, Option.map_map]
  exact ite_congr rfl (fun _ => congrArg _ hstay) fun _ => hstay

theorem taken_many_seq_nil : (seq (many p) b).taken before [] = b.taken before [] := by
  have hstay : (b.taken before []).map ([] ++ ·) = b.taken before [] := by simp
  rw [taken_seq]
  exact List.findSome?_singleton.trans hstay

theorem told_many_seq_cons : (seq (many p) b).told before (c :: cs) =
    if p c then ((seq (many p) b).told (some c) cs).or (b.told before (c :: cs))
    else b.told before (c :: cs) := by
  have hstay : (b.told before (c :: cs)).map (·.or none) = b.told before (c :: cs) := by simp
  rw [told_seq, told_seq, ways, ways, findSome?_manyWays_cons]
  simp only [Way.last_cons]
  exact ite_congr rfl (fun _ => congrArg _ hstay) fun _ => hstay

theorem told_many_seq_nil : (seq (many p) b).told before [] = b.told before [] := by
  have hstay : (b.told before []).map (·.or none) = b.told before [] := by simp
  rw [told_seq]
  exact List.findSome?_singleton.trans hstay

/-- **A repetition takes all that it can** if nothing can follow on a character that it could have taken. -/
theorem told_many_seq (h : ∀ before c cs, p c = true → b.told before (c :: cs) = none) :
    (seq (many p) b).told before s = b.told ((s.takeWhile p).getLast?.or before) (s.dropWhile p) := by
  induction s generalizing before with
  | nil => exact told_many_seq_nil
  | cons c cs ih =>
    rw [told_many_seq_cons]
    split
    · next hc =>
      rw [h before c cs hc, Option.or_none, ih, List.takeWhile_cons_of_pos hc, List.dropWhile_cons_of_pos hc]
      simp [List.getLast?_cons]
    · next hc =>
      rw [List.takeWhile_cons_of_neg hc, List.dropWhile_cons_of_neg hc]
      rfl

/-! ## Sequences -/

/-- How three patterns in a row are put together does not matter. -/
theorem ways_seq_assoc (a b d : Pattern) : (seq (seq a b) d).ways before s = (seq a (seq b d)).ways before s := by
  simp only [ways, List.flatMap_assoc, List.flatMap_map, List.map_flatMap, List.map_map]
  refine List.flatMap_congr fun w _ => List.flatMap_congr fun v _ => ?_
  rw [Way.last_append]
  exact List.map_congr_left fun u _ => Way.append_assoc w v u

theorem told_seq_assoc (a b d : Pattern) : (seq (seq a b) d).told before s = (seq a (seq b d)).told before s := by
  rw [told, told, ways_seq_assoc]

end Pattern

end KernelCharts.Text
