import KernelCharts.Table.Clean
import Mathlib.Data.List.Basic
import Mathlib.Order.Bounds.Basic
import Mathlib.Order.MinMax

/-!
# Stable order and first occurrences

Cleaning sorts the rows and keeps the first row of each key.  The facts about lists behind it:

* `pairwise_mergeSort_stable` — a sort by a total preorder orders the list, and leaves elements that
  compare equal in the relation in which the list had them;
* `mem_keepFirst_iff` — in a list ordered by an asymmetric relation, the elements that are kept are
  those that no element of the same key precedes;
* `filter_mergeSort`, `filter_keepFirst` — both commute with leaving elements out;
* `mergeSort_congr` — a stable sort by a number depends on the order among equals only;
* `isGreatest_foldl_max` — the greatest element of a list that is not empty.
-/

namespace KernelCharts

/-! ## Stable sort -/

/-- **A sort is stable**: what holds between the elements of a list, in their order, still holds
between elements of the sorted list that compare equal. -/
theorem pairwise_mergeSort_stable {β : Type} (le : β → β → Bool) {R : β → β → Prop}
    (trans : ∀ a b c, le a b → le b c → le a c) (total : ∀ a b, le a b || le b a) {l : List β}
    (h : l.Pairwise R) : (l.mergeSort le).Pairwise fun a b => le a b ∧ (le b a → R a b) := by
  induction l with
  | nil => simp
  | cons a l ih =>
    obtain ⟨l₁, l₂, h1, h2, h3⟩ := List.mergeSort_cons trans total a l
    have hsorted := List.pairwise_mergeSort trans total (a :: l)
    have hrest := ih (List.pairwise_cons.1 h).2
    rw [h1, List.pairwise_append, List.pairwise_cons] at hsorted
    rw [h2, List.pairwise_append] at hrest
    rw [h1, List.pairwise_append, List.pairwise_cons]
    refine ⟨hrest.1, ⟨fun c hc => ⟨hsorted.2.1.1 c hc, fun _ => ?_⟩, hrest.2.1⟩, ?_⟩
    · -- what follows `a` in the sorted list follows it in the list
      have hc' : c ∈ l.mergeSort le := by rw [h2]; exact List.mem_append_right _ hc
      exact (List.pairwise_cons.1 h).1 c (List.mem_mergeSort.1 hc')
    · intro b hb c hc
      rcases List.mem_cons.1 hc with rfl | hc
      · -- what precedes `a` is strictly below it
        refine ⟨hsorted.2.2 b hb c List.mem_cons_self, fun hle => ?_⟩
        have := h3 b hb
        simp [hle] at this
      · exact hrest.2.2 b hb c hc

/-! ### Leaving elements out -/

section Commutes

variable {β : Type} {le : β → β → Bool} (trans : ∀ a b c, le a b → le b c → le a c)
  (total : ∀ a b, le a b || le b a)

include trans total

/-- the first element goes behind those that are strictly below it -/
theorem mergeSort_cons_eq (a : β) (l : List β) : (a :: l).mergeSort le =
    (l.mergeSort le).filter (fun b => !le a b) ++ a :: (l.mergeSort le).filter (le a) := by
  obtain ⟨l₁, l₂, h1, h2, h3⟩ := List.mergeSort_cons trans total a l
  have hsorted := List.pairwise_mergeSort trans total (a :: l)
  rw [h1, List.pairwise_append, List.pairwise_cons] at hsorted
  have hbelow : ∀ b ∈ l₁, le a b = false := fun b hb => by simpa using h3 b hb
  have habove : ∀ b ∈ l₂, le a b = true := hsorted.2.1.1
  have h₁ : l₁.filter (le a) = [] := List.filter_eq_nil_iff.2 fun b hb => by simp [hbelow b hb]
  have h₁' : l₁.filter (fun b => !le a b) = l₁ := List.filter_eq_self.2 h3
  have h₂ : l₂.filter (le a) = l₂ := List.filter_eq_self.2 habove
  have h₂' : l₂.filter (fun b => !le a b) = [] :=
    List.filter_eq_nil_iff.2 fun b hb => by simp [habove b hb]
  rw [h1, h2, List.filter_append, List.filter_append, h₁, h₁', h₂, h₂', List.append_nil,
    List.nil_append]

/-- **Sorting commutes with leaving elements out.** -/
theorem filter_mergeSort (p : β → Bool) (l : List β) :
    (l.mergeSort le).filter p = (l.filter p).mergeSort le := by
  induction l with
  | nil => simp
  | cons a l ih =>
    cases hp : p a with
    | true =>
      rw [mergeSort_cons_eq trans total, List.filter_append, List.filter_cons_of_pos hp,
        List.filter_comm p, List.filter_comm p, ih, List.filter_cons_of_pos hp,
        mergeSort_cons_eq trans total]
    | false =>
      have hp' : ¬ p a = true := by simp [hp]
      obtain ⟨l₁, l₂, h1, h2, -⟩ := List.mergeSort_cons trans total a l
      rw [List.filter_cons_of_neg hp', ← ih, h1, h2, List.filter_append, List.filter_append,
        List.filter_cons_of_neg hp']

end Commutes

/-! ### Sorting by a number -/

section ByNumber

variable {β : Type} (f : β → Nat)

theorem filter_mergeSort_le (p : β → Bool) (l : List β) :
    (l.mergeSort fun a b => f a ≤ f b).filter p = (l.filter p).mergeSort fun a b => f a ≤ f b :=
  filter_mergeSort (by simp only [decide_eq_true_eq]; omega)
    (by simp only [Bool.or_eq_true, decide_eq_true_eq]; omega) p l

theorem pairwise_mergeSort_le (l : List β) :
    (l.mergeSort fun a b => f a ≤ f b).Pairwise fun a b => f a ≤ f b := by
  refine (List.pairwise_mergeSort ?_ ?_ l).imp fun h => of_decide_eq_true h
  · simp only [decide_eq_true_eq]; omega
  · simp only [Bool.or_eq_true, decide_eq_true_eq]; omega

variable {f}

theorem head_le {a b : β} {l : List β} (h : (a :: l).Pairwise fun a b => f a ≤ f b)
    (hb : b ∈ a :: l) : f a ≤ f b := by
  rcases List.mem_cons.1 hb with rfl | hb
  · exact Nat.le_refl _
  · exact (List.pairwise_cons.1 h).1 b hb

/-- Two ascending lists with the same elements of every number, in the same order, are equal. -/
theorem eq_of_filter_eq {l m : List β} (hl : l.Pairwise fun a b => f a ≤ f b)
    (hm : m.Pairwise fun a b => f a ≤ f b)
    (h : ∀ n, l.filter (f · == n) = m.filter (f · == n)) : l = m := by
  induction l generalizing m with
  | nil =>
    cases m with
    | nil => rfl
    | cons b m => simpa using h (f b)
  | cons a l ih =>
    cases m with
    | nil => simpa using h (f a)
    | cons b m =>
      -- either head occurs in the other list, so neither is smaller
      have ha : a ∈ (b :: m).filter (f · == f a) := by rw [← h]; simp
      have hb : b ∈ (a :: l).filter (f · == f b) := by rw [h]; simp
      have heq : f a = f b :=
        Nat.le_antisymm (head_le hl (List.mem_filter.1 hb).1) (head_le hm (List.mem_filter.1 ha).1)
      have hhead := h (f a)
      rw [List.filter_cons_of_pos (by simp), List.filter_cons_of_pos (by simp [heq]),
        List.cons.injEq] at hhead
      obtain ⟨rfl, -⟩ := hhead
      rw [ih hl.of_cons hm.of_cons fun n => ?_]
      have hn := h n
      rw [List.filter_cons, List.filter_cons] at hn
      split at hn
      · exact (List.cons.inj hn).2
      · exact hn

/-- **A stable sort by a number** depends on the elements of each number and their order only. -/
theorem mergeSort_congr {l m : List β} (h : ∀ n, l.filter (f · == n) = m.filter (f · == n)) :
    (l.mergeSort fun a b => f a ≤ f b) = m.mergeSort fun a b => f a ≤ f b := by
  refine eq_of_filter_eq (pairwise_mergeSort_le f l) (pairwise_mergeSort_le f m) fun n => ?_
  rw [filter_mergeSort_le, filter_mergeSort_le, h]

end ByNumber

/-! ## First occurrences -/

section KeepFirst

variable {β γ κ : Type} [BEq κ]

theorem keepFirst_sublist (key : β → κ) (l : List β) : (keepFirst key l).Sublist l := by
  induction l with
  | nil => exact .slnil
  | cons x xs ih => exact (List.filter_sublist.trans ih).cons_cons x

/-- keeping first occurrences by a key that is read off an image -/
theorem map_keepFirst (f : β → γ) (key : γ → κ) (l : List β) :
    (keepFirst (fun x => key (f x)) l).map f = keepFirst key (l.map f) := by
  induction l with
  | nil => rfl
  | cons x xs ih => simp only [keepFirst, List.map_cons, ← ih, List.filter_map, Function.comp_def]

variable [LawfulBEq κ]

/-- the keys of what is kept are distinct -/
theorem pairwise_keepFirst (key : β → κ) (l : List β) :
    (keepFirst key l).Pairwise fun x y => key x ≠ key y := by
  induction l with
  | nil => exact .nil
  | cons x xs ih =>
    refine List.pairwise_cons.2 ⟨fun y hy => ?_, ih.filter _⟩
    have := (List.mem_filter.1 hy).2
    simp only [Bool.not_eq_true', beq_eq_false_iff_ne, ne_eq] at this
    exact fun h => this h.symm

theorem keepFirst_eq_self {key : β → κ} {l : List β}
    (h : (l.map key).Nodup) : keepFirst key l = l := by
  induction l with
  | nil => rfl
  | cons x xs ih =>
    rw [List.map_cons, List.nodup_cons] at h
    rw [keepFirst, ih h.2, List.filter_eq_self.2]
    intro y hy
    have hne : key y ≠ key x := fun heq => h.1 (heq ▸ List.mem_map_of_mem hy)
    simpa using hne

theorem mem_keepFirst_cons {key : β → κ} {x y : β} {xs : List β} :
    y ∈ keepFirst key (x :: xs) ↔ y = x ∨ y ∈ keepFirst key xs ∧ key y ≠ key x := by
  simp [keepFirst]

/-- **What is kept of an ordered list**: the elements that no element of the same key precedes. -/
theorem mem_keepFirst_iff {key : β → κ} {lt : β → β → Prop} (hasymm : ∀ a b, lt a b → ¬ lt b a)
    {l : List β} (h : l.Pairwise lt) {x : β} :
    x ∈ keepFirst key l ↔ x ∈ l ∧ ∀ y ∈ l, key y = key x → ¬ lt y x := by
  induction l with
  | nil => simp [keepFirst]
  | cons a l ih =>
    obtain ⟨ha, hl⟩ := List.pairwise_cons.1 h
    have hirrefl : ∀ b, ¬ lt b b := fun b hb => hasymm b b hb hb
    rw [mem_keepFirst_cons, ih hl]
    constructor
    · rintro (rfl | ⟨⟨hx, hfirst⟩, hkey⟩)
      · refine ⟨List.mem_cons_self, fun y hy _ => ?_⟩
        rcases List.mem_cons.1 hy with rfl | hy
        · exact hirrefl y
        · exact hasymm x y (ha y hy)
      · refine ⟨List.mem_cons_of_mem a hx, fun y hy hyx => ?_⟩
        rcases List.mem_cons.1 hy with rfl | hy
        · exact absurd hyx.symm hkey
        · exact hfirst y hy hyx
    · rintro ⟨hx, hfirst⟩
      rcases List.mem_cons.1 hx with rfl | hx
      · exact .inl rfl
      · refine .inr ⟨⟨hx, fun y hy => hfirst y (List.mem_cons_of_mem a hy)⟩, fun hkey => ?_⟩
        exact hfirst a List.mem_cons_self hkey.symm (ha x hx)

/-- **Keeping first occurrences commutes with leaving out all elements of some keys.** -/
theorem filter_keepFirst (key : β → κ) {p : β → Bool}
    (hp : ∀ a b, key a = key b → p a = p b) (l : List β) :
    (keepFirst key l).filter p = keepFirst key (l.filter p) := by
  induction l with
  | nil => rfl
  | cons a l ih =>
    cases ha : p a with
    | true =>
      rw [List.filter_cons_of_pos ha, keepFirst, keepFirst, List.filter_cons_of_pos ha, ← ih,
        List.filter_comm]
    | false =>
      have ha' : ¬ p a = true := by simp [ha]
      rw [List.filter_cons_of_neg ha', ← ih, keepFirst, List.filter_cons_of_neg ha',
        List.filter_filter]
      refine List.filter_congr fun b _ => ?_
      -- what passes has another key than what does not
      by_cases hkey : key b = key a
      · simp [hp b a hkey, ha]
      · simp [hkey]

end KeepFirst

/-! ## The greatest element -/

theorem isGreatest_foldl_max {β : Type} [LinearOrder β] (a : β) (l : List β) :
    IsGreatest {b | b ∈ a :: l} (l.foldl max a) := by
  induction l generalizing a with
  | nil => exact ⟨List.mem_singleton.2 rfl, fun b hb => (List.mem_singleton.1 hb).le⟩
  | cons c l ih =>
    obtain ⟨hmem, hupper⟩ := ih (max a c)
    rw [List.foldl_cons]
    constructor
    · -- the greater of the first two is one of them
      rcases List.mem_cons.1 hmem with heq | hl
      · rcases max_choice a c with hmax | hmax
        · exact List.mem_cons.2 (.inl (heq.trans hmax))
        · exact List.mem_cons_of_mem a (List.mem_cons.2 (.inl (heq.trans hmax)))
      · exact List.mem_cons_of_mem a (List.mem_cons_of_mem c hl)
    · intro b hb
      have hmax : max a c ≤ l.foldl max (max a c) := hupper List.mem_cons_self
      rcases List.mem_cons.1 hb with rfl | hb
      · exact (le_max_left b c).trans hmax
      · rcases List.mem_cons.1 hb with rfl | hb
        · exact (le_max_right a b).trans hmax
        · exact hupper (List.mem_cons_of_mem _ hb)

end KernelCharts
