import Mathlib.Data.List.Basic

/-!
Readers that take values off the front of a text, and one equation for each: what it does
with the text that it is made for, whatever it is continued with. A text that was printed
piece by piece is read back by rewriting with them.
-/
namespace Lists
variable {τ α β γ : Type}

/-- A reader gives a value and what is left of the text. -/
abbrev Reader (τ α : Type) := StateT (List τ) Option α

namespace Reader

theorem pure_apply (a : α) (text : List τ) : (pure a : Reader τ α) text = some (a, text) := rfl

theorem bind_apply (p : Reader τ α) (f : α → Reader τ β) (text : List τ) :
    (p >>= f) text = (p text).bind fun out => f out.1 out.2 := rfl

section
variable [DecidableEq τ]

/-- The word itself. -/
def literal (word : List τ) : Reader τ Unit := fun text =>
  if word <+: text then some ((), text.drop word.length) else none

/-- Whether the word comes; it is taken if so. -/
def present (word : List τ) : Reader τ Bool := fun text =>
  if word <+: text then some (true, text.drop word.length) else some (false, text)

/-- What comes before the first mark, which is taken as well. -/
def before (mark : τ) : Reader τ (List τ) := fun text =>
  match text.dropWhile (· ≠ mark) with
  | [] => none
  | _ :: rest => some (text.takeWhile (· ≠ mark), rest)

theorem literal_append (word rest : List τ) : literal word (word ++ rest) = some ((), rest) := by
  simp [literal]

theorem literal_stops {word text : List τ} (other : ¬ word <+: text) (f : Unit → Reader τ α) : (literal word >>= f) text = none := by
  simp [bind_apply, literal, other]

theorem literal_then (word : List τ) (f : Unit → Reader τ α) (rest : List τ) : (literal word >>= f) (word ++ rest) = f () rest := by
  rw [bind_apply, literal_append]
  rfl

theorem present_then (word : List τ) (f : Bool → Reader τ α) (rest : List τ) : (present word >>= f) (word ++ rest) = f true rest := by
  simp [bind_apply, present]

theorem absent_then {word text : List τ} (other : ¬ word <+: text) (f : Bool → Reader τ α) : (present word >>= f) text = f false text := by
  simp [bind_apply, present, other]

theorem before_append {word : List τ} {mark : τ} (without : mark ∉ word) (rest : List τ) :
    before mark (word ++ mark :: rest) = some (word, rest) := by
  have all : ∀ a ∈ word, decide (a ≠ mark) = true := by
    intro a member
    rw [decide_eq_true_eq]
    rintro rfl
    exact without member
  have dropped : (word ++ mark :: rest).dropWhile (· ≠ mark) = mark :: rest := by
    rw [List.dropWhile_append_of_pos all, List.dropWhile_cons_of_neg (by simp)]
  have taken : (word ++ mark :: rest).takeWhile (· ≠ mark) = word := by
    rw [List.takeWhile_append_of_pos all, List.takeWhile_cons_of_neg (by simp), List.append_nil]
  rw [before, dropped, taken]

theorem before_then {word : List τ} {mark : τ} (without : mark ∉ word) (f : List τ → Reader τ α) (rest : List τ) :
    (before mark >>= f) (word ++ ([mark] ++ rest)) = f word rest := by
  rw [bind_apply, List.singleton_append, before_append without]
  rfl

end

/-- At most `n` of what `p` reads, and no more than there are. -/
def upTo (p : Reader τ α) : Nat → Reader τ (List α)
  | 0, text => some ([], text)
  | n + 1, text =>
    match p text with
    | some (a, rest) => (upTo p n rest).map fun out => (a :: out.1, out.2)
    | none => some ([], text)

/-- All that `p` reads. A text of which each reading takes something is read to the end. -/
def many (p : Reader τ α) : Reader τ (List α) := fun text => upTo p text.length text

theorem upTo_flatMap {p : Reader τ α} {print : β → List τ} {value : β → α} {Follows : List τ → Prop} {l : List β}
    (reads : ∀ b ∈ l, ∀ rest, Follows rest → p (print b ++ rest) = some (value b, rest))
    (follows : ∀ b ∈ l, ∀ rest, Follows (print b ++ rest)) {rest : List τ} (last : Follows rest) (stops : p rest = none) {n : Nat}
    (enough : l.length ≤ n) : upTo p n (l.flatMap print ++ rest) = some (l.map value, rest) := by
  induction l generalizing n with
  | nil =>
    cases n with
    | zero => rfl
    | succ n => simp [upTo, stops]
  | cons b l ih =>
    obtain ⟨n, rfl⟩ := Nat.exists_eq_add_of_le' (Nat.le_trans (by simp : 1 ≤ (b :: l).length) enough)
    have later := ih (fun b' member => reads b' (List.mem_cons_of_mem _ member)) (fun b' member => follows b' (List.mem_cons_of_mem _ member))
      (n := n) (by simpa using enough)
    have next : Follows (l.flatMap print ++ rest) := by
      cases l with
      | nil => exact last
      | cons b' l =>
        rw [List.flatMap_cons, List.append_assoc]
        exact follows b' (by simp) _
    rw [List.flatMap_cons, List.append_assoc, upTo, reads b (by simp) _ next]
    simp [later]

/-- What was printed of a list, one text for each item, is read back as that list. -/
theorem many_then {p : Reader τ α} {print : β → List τ} {value : β → α} {Follows : List τ → Prop} {l : List β}
    (reads : ∀ b ∈ l, ∀ rest, Follows rest → p (print b ++ rest) = some (value b, rest))
    (follows : ∀ b ∈ l, ∀ rest, Follows (print b ++ rest)) (some : ∀ b ∈ l, print b ≠ []) {rest : List τ} (last : Follows rest)
    (stops : p rest = none) (f : List α → Reader τ γ) : (many p >>= f) (l.flatMap print ++ rest) = f (l.map value) rest := by
  have enough : l.length ≤ (l.flatMap print ++ rest).length := by
    rw [List.length_append, List.length_flatMap]
    refine Nat.le_trans ?_ (Nat.le_add_right _ _)
    clear reads follows
    induction l with
    | nil => simp
    | cons b l ih =>
      have here := List.length_pos_iff.mpr (some b (by simp))
      have later := ih fun b' member => some b' (List.mem_cons_of_mem _ member)
      simp only [List.length_cons, List.map_cons, List.sum_cons]
      omega
  rw [bind_apply, many, upTo_flatMap reads follows last stops enough]
  rfl

end Reader

end Lists
