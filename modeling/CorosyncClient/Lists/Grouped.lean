import Mathlib.Data.List.Infix
import Mathlib.Data.Finset.Card
import Mathlib.Data.Finset.Dedup

/-!
Lists in which equal elements stand together. Keys in ascending order that share a prefix
stand together, because the strings with a given prefix have no others between them; and
counting the elements that differ from their predecessor counts the distinct ones.
-/
namespace Lists

section
variable {α : Type} [LT α]

/-- Between two lists with a prefix every list has it. -/
theorem prefix_convex [Std.Asymm (α := α) (· < ·)] {p a b c : List α} (first : p <+: a) (last : p <+: c) (low : a < b)
    (high : b < c) : p <+: b := by
  induction p generalizing a b c with
  | nil => exact List.nil_prefix
  | cons x p ih =>
    obtain ⟨a, rfl⟩ := first
    obtain ⟨c, rfl⟩ := last
    cases b with
    | nil => exact absurd low (List.not_lt_nil _)
    | cons y b =>
      simp only [List.cons_append, List.cons_lt_cons_iff] at low high
      rcases low with low | ⟨rfl, low⟩
      · rcases high with high | ⟨rfl, _⟩
        · exact absurd high (Std.Asymm.asymm _ _ low)
        · exact absurd low (Std.Asymm.asymm _ _ low)
      · rcases high with high | ⟨_, high⟩
        · exact absurd high (Std.Asymm.asymm _ _ high)
        · exact (List.prefix_cons_inj x).mpr (ih (List.prefix_append _ _) (List.prefix_append _ _) low high)

end

section
variable {α β : Type}

/-- An element that comes again comes next. -/
def Grouped : List α → Prop
  | [] => True
  | a :: l => (a ∈ l → l.head? = some a) ∧ Grouped l

/-- In a sequence ordered by `R` the classes of `f` stand together if nothing outside a
    class is between two of its elements. -/
theorem grouped_map {R : α → α → Prop} {f : α → β} (convex : ∀ a b c, R a b → R b c → f a = f c → f b = f a)
    {l : List α} (ordered : l.Pairwise R) : Grouped (l.map f) := by
  induction ordered with
  | nil => trivial
  | @cons a l before ordered ih =>
    refine ⟨fun member => ?_, ih⟩
    obtain ⟨c, inside, same⟩ := List.mem_map.mp member
    cases l with
    | nil => simp at inside
    | cons b l =>
      rcases List.mem_cons.mp inside with rfl | later
      · simp [same]
      · have next := convex a b c (before b (by simp)) (List.rel_of_pairwise_cons ordered later) same.symm
        simp [next]

/-- Where a class comes first, if at all, what stands at the front is the class. -/
theorem takeWhile_grouped [DecidableEq β] {f : α → β} {x : β} {l : List α} (grouped : Grouped (l.map f))
    (first : x ∈ l.map f → (l.map f).head? = some x) :
    l.takeWhile (fun a => f a = x) = l.filter (fun a => f a = x) := by
  induction l with
  | nil => rfl
  | cons b l ih =>
    by_cases front : f b = x
    · subst front
      have rest := ih grouped.2 grouped.1
      simp [rest]
    · have none : x ∉ (b :: l).map f := fun member => front (by simpa using first member)
      rw [List.takeWhile_cons_of_neg (by simpa using front), eq_comm, List.filter_eq_nil_iff]
      intro a member
      simpa using fun same => none (List.mem_map.mpr ⟨a, member, same⟩)

theorem mem_takeWhile_grouped [DecidableEq β] {f : α → β} {x : β} {a : α} {l : List α} (grouped : Grouped (l.map f)) :
    a ∈ l.takeWhile (fun b => f b = x) ↔ (l.map f).head? = some x ∧ a ∈ l ∧ f a = x := by
  by_cases front : (l.map f).head? = some x
  · rw [takeWhile_grouped grouped (fun _ => front), List.mem_filter]
    simp [front]
  · cases l with
    | nil => simp
    | cons b l =>
      have other : f b ≠ x := by simpa using front
      simp [other]

variable [DecidableEq α]

/-- The elements that differ from their predecessor, `prev` before the first. -/
def changes (prev : α) : List α → List α
  | [] => []
  | a :: l => if a ≠ prev then a :: changes a l else changes a l

theorem changes_cons_self (prev : α) (l : List α) : changes prev (prev :: l) = changes prev l := by
  simp [changes]

theorem changes_cons_of_ne {prev a : α} (new : a ≠ prev) (l : List α) : changes prev (a :: l) = a :: changes a l := by
  simp [changes, new]

/-- Every element is a change, but for those that continue the predecessor. -/
theorem mem_changes {prev a : α} {l : List α} (grouped : Grouped l) :
    a ∈ changes prev l ↔ a ∈ l ∧ ¬ (a = prev ∧ l.head? = some prev) := by
  induction l generalizing prev with
  | nil => simp [changes]
  | cons b l ih =>
    have rest := @ih b grouped.2
    have again := grouped.1
    by_cases same : b = prev
    · subst same
      rw [changes_cons_self, rest]
      simp only [List.mem_cons, List.head?_cons, and_true]
      constructor
      · rintro ⟨member, other⟩
        exact ⟨.inr member, fun eq => other ⟨eq, again (eq ▸ member)⟩⟩
      · rintro ⟨rfl | member, other⟩
        · exact absurd rfl other
        · exact ⟨member, fun both => other both.1⟩
    · rw [changes_cons_of_ne same, List.mem_cons, rest]
      simp only [List.mem_cons, List.head?_cons, Option.some.injEq, same, and_false, not_false_eq_true, and_true]
      constructor
      · rintro (rfl | ⟨member, _⟩)
        · exact .inl rfl
        · exact .inr member
      · rintro (rfl | member)
        · exact .inl rfl
        · by_cases eq : a = b
          · exact .inl eq
          · exact .inr ⟨member, fun both => eq both.1⟩

/-- The element before the changes is not one of them. -/
theorem not_mem_changes {a : α} {l : List α} (grouped : Grouped (a :: l)) : a ∉ changes a l := by
  intro member
  obtain ⟨inside, other⟩ := (mem_changes grouped.2).mp member
  exact other ⟨rfl, grouped.1 inside⟩

theorem changes_nodup {prev : α} {l : List α} (grouped : Grouped l) : (changes prev l).Nodup := by
  induction l generalizing prev with
  | nil => simp [changes]
  | cons a l ih =>
    have rest := @ih a grouped.2
    simp only [changes]
    split
    · exact List.nodup_cons.mpr ⟨not_mem_changes grouped, rest⟩
    · exact rest

/-- The number of changes is the number of distinct elements, less one if the list begins
    with `prev`. -/
theorem changes_length {prev : α} {l : List α} (grouped : Grouped l) :
    (changes prev l).length = l.toFinset.card - if l.head? = some prev then 1 else 0 := by
  have distinct : (changes prev l).toFinset = if l.head? = some prev then l.toFinset.erase prev else l.toFinset := by
    ext a
    rw [List.mem_toFinset, mem_changes grouped]
    split
    · rename_i first
      simp [first, and_comm]
    · rename_i first
      simp [first]
  rw [← List.toFinset_card_of_nodup (changes_nodup grouped), distinct]
  split
  · rename_i first
    have member : prev ∈ l := List.mem_of_mem_head? (by simp [first])
    rw [Finset.card_erase_of_mem (List.mem_toFinset.mpr member)]
  · rfl

end

end Lists
