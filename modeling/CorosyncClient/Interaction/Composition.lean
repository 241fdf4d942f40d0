import CorosyncClient.Interaction.Program
import Mathlib.Logic.Relation
import Mathlib.Logic.Function.Basic
import Mathlib.Tactic.Simps.Basic

/-!
Programs in company: a session of programs that one party runs one after the other, a
program whose state others change between its calls, and a family of programs whose
calls interleave. Each has its rule: an invariant of the session, a fact that every
interfering step keeps, and a joint invariant over what each program knows. Where every
call is answered, any of the programs of a family come to their ends.
-/
namespace Interaction
variable {Call : Type} {Reply : Call → Type} {α Op σ : Type}

/-! ### One after the other -/

/-- The programs of some operations are run to their ends, in order. -/
inductive Session (W : World Call Reply σ) (program : Op → Prog Call Reply α) : σ → List (Op × α) → σ → Prop
  | nil {s : σ} : Session W program s [] s
  | snoc {s t u : σ} {done : List (Op × α)} {op : Op} {a : α} {tr : List (Event Call Reply)} :
      Session W program s done t → Run W (program op) t tr (.ret a) u → Session W program s (done ++ [(op, a)]) u

/-- What every program of a session keeps holds at the end of the session. -/
theorem session_invariant {W : World Call Reply σ} {program : Op → Prog Call Reply α} (P : Op → Prop) (I : σ → Prop)
    (kept : ∀ op s, P op → I s → wlp W (program op) (fun _ t => I t) s) {s t : σ} {done : List (Op × α)}
    (session : Session W program s done t) (allowed : ∀ op ∈ done.map Prod.fst, P op) (start : I s) : I t := by
  induction session with
  | nil => exact start
  | @snoc t u done op a tr _ run ih =>
    have before := ih (fun op member => allowed op (by simp [List.mem_map.mp member]))
    exact run_ret (kept op t (allowed op (by simp)) before) run

/-- One program of a history: the state before it, the calls that it made, and the state
    after it. -/
structure Turn (Op : Type) (Call : Type) (Reply : Call → Type) (σ : Type) where
  op : Op
  before : σ
  trace : List (Event Call Reply)
  after : σ

/-- As `Session`, with the trace of each program. -/
inductive Turns (W : World Call Reply σ) (program : Op → Prog Call Reply α) : σ → List (Turn Op Call Reply σ) → σ → Prop
  | nil {s : σ} : Turns W program s [] s
  | cons {s t u : σ} {op : Op} {a : α} {tr : List (Event Call Reply)} {rest : List (Turn Op Call Reply σ)} :
      Run W (program op) s tr (.ret a) t → Turns W program t rest u → Turns W program s (⟨op, s, tr, t⟩ :: rest) u

/-- What holds of every complete run of an operation holds of every turn. -/
theorem turns_each {W : World Call Reply σ} {program : Op → Prog Call Reply α} {P : Turn Op Call Reply σ → Prop}
    (each : ∀ op s tr a t, Run W (program op) s tr (.ret a) t → P ⟨op, s, tr, t⟩) {s t : σ}
    {done : List (Turn Op Call Reply σ)} (turns : Turns W program s done t) : ∀ turn ∈ done, P turn := by
  induction turns with
  | nil => simp
  | cons run _ ih =>
    intro turn member
    rcases List.mem_cons.mp member with rfl | later
    · exact each _ _ _ _ _ run
    · exact ih turn later

/-! ### Beside the steps of others -/

/-- The world `W` with steps of `R` before every call. -/
@[simps] def World.interfered (W : World Call Reply σ) (R : σ → σ → Prop) : World Call Reply σ where
  permits s c := ∀ t, Relation.ReflTransGen R s t → W.permits t c
  answers s c r s' := ∃ t, Relation.ReflTransGen R s t ∧ W.answers t c r s'

/-- What every step of `R` keeps is kept by any number of them. -/
theorem stable_of_step {R : σ → σ → Prop} {P : σ → Prop} (step : ∀ s t, R s t → P s → P t) {s t : σ}
    (path : Relation.ReflTransGen R s t) (holds : P s) : P t := by
  induction path with
  | refl => exact holds
  | tail _ last ih => exact step _ _ last ih

/-! ### Side by side -/

section
variable {ι : Type} [DecidableEq ι]

/-- Calls of a family of programs are made in some order; each event is labelled with
    the program that made the call. -/
inductive Interleaved (W : World Call Reply σ) :
    (ι → Prog Call Reply α) → σ → List (ι × Event Call Reply) → (ι → Prog Call Reply α) → σ → Prop
  | done {p : ι → Prog Call Reply α} {s : σ} : Interleaved W p s [] p s
  | step {p q : ι → Prog Call Reply α} {i : ι} {c : Call} {next : Reply c → Prog Call Reply α} {r : Reply c}
      {s s' t : σ} {tr : List (ι × Event Call Reply)} :
      p i = .call c next → W.answers s c r s' → Interleaved W (Function.update p i (next r)) s' tr q t →
      Interleaved W p s ((i, ⟨c, r⟩) :: tr) q t

/-- The parallel rule. Each program keeps to a world of its own, whose state is what the
    program knows; an invariant of the shared state, the trace and what all programs
    know is kept by every call that is permitted to one of them. -/
theorem interleaved_rule {κ : Type} {W : World Call Reply σ} (own : ι → World Call Reply κ)
    (I : σ → List (ι × Event Call Reply) → (ι → κ) → Prop)
    (step : ∀ i s tr k c r s', I s tr k → (own i).permits (k i) c → W.answers s c r s' →
      ∃ k', (own i).answers (k i) c r k' ∧ I s' (tr ++ [(i, ⟨c, r⟩)]) (Function.update k i k'))
    {Q : ι → α → κ → Prop} {p q : ι → Prog Call Reply α} {s t : σ} {before tr : List (ι × Event Call Reply)}
    (run : Interleaved W p s tr q t) {k : ι → κ} (each : ∀ i, wlp (own i) (p i) (Q i) (k i)) (start : I s before k) :
    ∃ k', (∀ i, wlp (own i) (q i) (Q i) (k' i)) ∧ I t (before ++ tr) k' := by
  induction run generalizing before k with
  | done => exact ⟨k, each, by simpa using start⟩
  | @step p q i c next r s s' t tr comes answered _ ih =>
    have spec := each i
    rw [comes] at spec
    obtain ⟨k', learnt, holds⟩ := step i s before k c r s' start spec.1 answered
    have each' : ∀ j, wlp (own j) (Function.update p i (next r) j) (Q j) (Function.update k i k' j) := by
      intro j
      rcases eq_or_ne j i with rfl | other
      · simpa using spec.2 r k' learnt
      · simpa [other] using each j
    obtain ⟨known, ends, final⟩ := ih each' holds
    exact ⟨known, ends, by simpa using final⟩

theorem interleaved_trans {W : World Call Reply σ} {p q l : ι → Prog Call Reply α} {s t u : σ}
    {tr more : List (ι × Event Call Reply)} (first : Interleaved W p s tr q t) (rest : Interleaved W q t more l u) :
    Interleaved W p s (tr ++ more) l u := by
  induction first with
  | done => exact rest
  | step comes answered _ ih => exact .step comes answered (ih rest)

theorem interleaved_uncut {W : World Call Reply σ} {p q : ι → Prog Call Reply α} {s t : σ} {tr : List (ι × Event Call Reply)}
    (run : Interleaved W p s tr q t) (uncut : ∀ i, (p i).Uncut) : ∀ i, (q i).Uncut := by
  induction run with
  | done => exact uncut
  | @step p q i c next r s s' t tr comes _ _ ih =>
    refine ih fun j => ?_
    have here := uncut i
    rw [comes] at here
    rcases eq_or_ne j i with rfl | other
    · simpa using here r
    · simpa [other] using uncut j

/-- One program comes to its end where every call is answered, and the others wait. -/
theorem interleaved_one {W : World Call Reply σ} (live : ∀ s c, ∃ r s', W.answers s c r s') (i : ι) {p : ι → Prog Call Reply α}
    {s : σ} (uncut : (p i).Uncut) : ∃ tr a t, Interleaved W p s tr (Function.update p i (.ret a)) t := by
  generalize comes : p i = program at uncut
  induction program generalizing p s with
  | ret a =>
    refine ⟨[], a, s, ?_⟩
    rw [← comes, Function.update_eq_self]
    exact .done
  | cut => exact uncut.elim
  | call c next ih =>
    obtain ⟨r, s', answered⟩ := live s c
    obtain ⟨tr, a, t, run⟩ := ih r (p := Function.update p i (next r)) (s := s') (by simp) (uncut r)
    rw [Function.update_idem] at run
    exact ⟨_, a, t, .step comes answered run⟩

/-- Some programs come to their ends. -/
theorem interleaved_all {W : World Call Reply σ} (live : ∀ s c, ∃ r s', W.answers s c r s') (l : List ι) {p : ι → Prog Call Reply α}
    (s : σ) (uncut : ∀ i, (p i).Uncut) : ∃ tr q t, Interleaved W p s tr q t ∧ ∀ i ∈ l, ∃ a, q i = .ret a := by
  induction l generalizing p s with
  | nil => exact ⟨[], p, s, .done, by simp⟩
  | cons i l ih =>
    obtain ⟨tr, q, t, run, ended⟩ := ih s uncut
    obtain ⟨more, a, u, last⟩ := interleaved_one live i (s := t) (interleaved_uncut run uncut i)
    refine ⟨tr ++ more, _, u, interleaved_trans run last, fun j member => ?_⟩
    rcases eq_or_ne j i with rfl | other
    · exact ⟨a, by simp⟩
    · simpa [other] using ended j ((List.mem_cons.mp member).resolve_left other)

/-- The calls that a schedule asks for, against a handler. A turn of a program that has
    ended is skipped. -/
def interleave (h : Handler Call Reply σ) : List ι → (ι → Prog Call Reply α) → σ →
    List (ι × Event Call Reply) × (ι → Prog Call Reply α) × σ
  | [], p, s => ([], p, s)
  | i :: turns, p, s =>
    match p i with
    | .call c next =>
      let rest := interleave h turns (Function.update p i (next (h s c).1)) (h s c).2
      ((i, ⟨c, (h s c).1⟩) :: rest.1, rest.2)
    | _ => interleave h turns p s

/-- What a schedule computes is an interleaving in every world that allows its replies. -/
theorem interleave_run {W : World Call Reply σ} {h : Handler Call Reply σ}
    (answered : ∀ s c, W.answers s c (h s c).1 (h s c).2) (turns : List ι) (p : ι → Prog Call Reply α) (s : σ) :
    Interleaved W p s (interleave h turns p s).1 (interleave h turns p s).2.1 (interleave h turns p s).2.2 := by
  induction turns generalizing p s with
  | nil => exact .done
  | cons i turns ih =>
    unfold interleave
    split
    · rename_i c next comes
      exact .step comes (answered s c) (ih _ _)
    · exact ih p s

end

end Interaction
