import CorosyncClient.Interaction.Program
import Mathlib.Logic.Function.Basic

/-!
Processes: programs that run at the same time over a state that all share, each with a
state of its own besides. Each is verified alone, in a world of its own state. What the calls that
are permitted there keep of all the states holds in every interleaving (`processes_rule`).
-/
namespace Interaction
variable {Call : Type} {Reply : Call → Type} {α κ σ ι : Type} [DecidableEq ι]

/-- Calls of the processes are made in some order. A call may read and change the state of
    its process and the shared one. -/
inductive Processes (W : ι → World Call Reply (κ × σ)) :
    (ι → Prog Call Reply α) → (ι → κ) → σ → (ι → Prog Call Reply α) → (ι → κ) → σ → Prop
  | done {p : ι → Prog Call Reply α} {k : ι → κ} {s : σ} : Processes W p k s p k s
  | step {p q : ι → Prog Call Reply α} {i : ι} {c : Call} {next : Reply c → Prog Call Reply α} {r : Reply c}
      {k l : ι → κ} {k' : κ} {s s' t : σ} :
      p i = .call c next → (W i).answers (k i, s) c r (k', s') →
      Processes W (Function.update p i (next r)) (Function.update k i k') s' q l t → Processes W p k s q l t

/-- Each process has a spec in a world of its own, which answers as the shared one does as
    far as its own state goes; the permitted calls keep an invariant of all states. The spec
    may be `wp` or `wlp`: of a call it says that it is permitted, and what holds behind it. -/
theorem processes_rule {W : ι → World Call Reply (κ × σ)} (own : ι → World Call Reply κ)
    (alone : ∀ i k s c r k' s', (W i).answers (k, s) c r (k', s') → (own i).answers k c r k')
    (I : (ι → κ) → σ → Prop)
    (keeps : ∀ i k s c r k' s', I k s → (own i).permits (k i) c → (W i).answers (k i, s) c r (k', s') →
      I (Function.update k i k') s')
    (spec : ι → Prog Call Reply α → κ → Prop)
    (unfolds : ∀ i c next k, spec i (.call c next) k →
      (own i).permits k c ∧ ∀ r k', (own i).answers k c r k' → spec i (next r) k')
    {p q : ι → Prog Call Reply α} {k l : ι → κ} {s t : σ} (run : Processes W p k s q l t)
    (each : ∀ i, spec i (p i) (k i)) (start : I k s) : (∀ i, spec i (q i) (l i)) ∧ I l t := by
  induction run with
  | done => exact ⟨each, start⟩
  | @step p q i c next r k l k' s s' t comes answered _ ih =>
    have here := each i
    rw [comes] at here
    obtain ⟨permitted, behind⟩ := unfolds i c next (k i) here
    refine ih ?_ (keeps i k s c r k' s' start permitted answered)
    intro j
    rcases eq_or_ne j i with rfl | other
    · simpa using behind r k' (alone j (k j) s c r k' s' answered)
    · simpa [other] using each j

/-- The calls that a schedule asks for, against handlers. A turn of a process that has
    ended is skipped. -/
def schedule (h : ι → Handler Call Reply (κ × σ)) :
    List ι → (ι → Prog Call Reply α) → (ι → κ) → σ → (ι → Prog Call Reply α) × (ι → κ) × σ
  | [], p, k, s => (p, k, s)
  | i :: turns, p, k, s =>
    match p i with
    | .call c next =>
      let (r, k', s') := h i (k i, s) c
      schedule h turns (Function.update p i (next r)) (Function.update k i k') s'
    | _ => schedule h turns p k s

/-- What a schedule computes is a run in every world that allows its replies. -/
theorem schedule_processes {W : ι → World Call Reply (κ × σ)} {h : ι → Handler Call Reply (κ × σ)}
    (answered : ∀ i x c, (W i).answers x c (h i x c).1 (h i x c).2) (turns : List ι) (p : ι → Prog Call Reply α)
    (k : ι → κ) (s : σ) :
    Processes W p k s (schedule h turns p k s).1 (schedule h turns p k s).2.1 (schedule h turns p k s).2.2 := by
  induction turns generalizing p k s with
  | nil => exact .done
  | cons i turns ih =>
    unfold schedule
    split
    · rename_i c next comes
      exact .step comes (answered i (k i, s) c) (ih _ _ _)
    · exact ih p k s

end Interaction
