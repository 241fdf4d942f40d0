import CorosyncClient.Interaction.Program
import Mathlib.Logic.Function.Basic
import Mathlib.Tactic.Simps.Basic

/-!
A heap of arrays. `malloc` gives a block that was not allocated, or NULL; a block may be
freed while it is allocated, and its cells may be written while it is, inside its bounds.
`Owns` is a heap with at most one block more than another one.
-/
namespace CLib.Heap
open Interaction
variable {α β : Type}

abbrev Pointer := Nat

/-- The sizes are in elements. -/
inductive HeapCall (α : Type) where
  | malloc (n : Nat)
  | free (p : Pointer)
  | store (p : Pointer) (i : Int) (a : α)

@[reducible] def HeapReply : HeapCall α → Type
  | .malloc _ => Option Pointer
  | .free _ => Unit
  | .store _ _ _ => Unit

abbrev malloc (n : Nat) : Prog (HeapCall α) HeapReply (Option Pointer) := perform (HeapCall.malloc n)
abbrev free (p : Pointer) : Prog (HeapCall α) HeapReply Unit := perform (HeapCall.free p)
abbrev store (p : Pointer) (i : Int) (a : α) : Prog (HeapCall α) HeapReply Unit := perform (HeapCall.store p i a)

/-- The allocated blocks, with what their cells hold once they are written. -/
abbrev Blocks (α : Type) := Pointer → Option (List (Option α))

/-- Where `mayFail` holds, any `malloc` may give NULL. -/
@[simps] def heap (mayFail : Prop) : World (HeapCall α) HeapReply (Blocks α) where
  permits h c :=
    match c with
    | .malloc _ => True
    | .free p => h p ≠ none
    | .store p i _ => ∃ cells, h p = some cells ∧ 0 ≤ i ∧ i < cells.length
  answers h c r h' :=
    match c with
    | .malloc n => (mayFail ∧ r = none ∧ h' = h) ∨
        ∃ p, h p = none ∧ r = some p ∧ h' = Function.update h p (some (List.replicate n none))
    | .free p => h' = Function.update h p none
    | .store p i a => h' = Function.update h p ((h p).map fun cells => cells.set i.toNat (some a))

/-- `h` is `base`, and where there is a pointer, one block more with the elements of `l`. -/
def Owns (base : Blocks α) (h : Blocks α) : Option Pointer → List α → Prop
  | none, _ => h = base
  | some p, l => base p = none ∧ h = Function.update base p (some (l.map some))

section
variable {mayFail : Prop} {h base : Blocks α} {Q : β → Blocks α → Prop}

theorem wp_malloc {n : Nat} {next : Option Pointer → Prog (HeapCall α) HeapReply β} (fails : mayFail → wp (heap mayFail) (next none) Q h)
    (gives : ∀ p, h p = none → wp (heap mayFail) (next (some p)) Q (Function.update h p (some (List.replicate n none)))) :
    wp (heap mayFail) (.call (.malloc n) next) Q h := by
  refine ⟨trivial, ?_⟩
  rintro r h' (⟨may, rfl, rfl⟩ | ⟨p, fresh, rfl, rfl⟩)
  · exact fails may
  · exact gives p fresh

theorem wp_store {p : Pointer} {i : Int} {a : α} {next : Unit → Prog (HeapCall α) HeapReply β} {cells : List (Option α)}
    (live : h p = some cells) (low : 0 ≤ i) (high : i < cells.length)
    (rest : wp (heap mayFail) (next ()) Q (Function.update h p (some (cells.set i.toNat (some a))))) :
    wp (heap mayFail) (.call (.store p i a) next) Q h := by
  refine ⟨⟨cells, live, low, high⟩, ?_⟩
  rintro _ _ rfl
  rw [live]
  exact rest

/-- An owned block may be freed, and then there is nothing but `base`. -/
theorem wp_free {p : Pointer} {l : List α} {next : Unit → Prog (HeapCall α) HeapReply β} (owns : Owns base h (some p) l)
    (rest : wp (heap mayFail) (next ()) Q base) : wp (heap mayFail) (.call (.free p) next) Q h := by
  obtain ⟨fresh, rfl⟩ := owns
  refine ⟨by simp, ?_⟩
  rintro _ _ rfl
  rw [Function.update_idem, ← fresh, Function.update_eq_self]
  exact rest

end

end CLib.Heap
