import CorosyncClient.Interaction.Program
import Mathlib.Tactic.Simps.Basic

/-!
Large calls made of small ones. A program over large calls is expanded by a program for
each of them, and a run of the expansion is a run over the large calls together with a
run of the program behind each.
-/
namespace Interaction
variable {Call : Type} {Reply : Call → Type} {Op : Type} {Result : Op → Type} {α β σ : Type}

/-- The program with each large call replaced by the program for it. -/
def Prog.expand (impl : (o : Op) → Prog Call Reply (Result o)) : Prog Op Result α → Prog Call Reply α
  | ret a => ret a
  | cut => cut
  | call o next => impl o >>= fun r => (next r).expand impl

section
variable (impl : (o : Op) → Prog Call Reply (Result o))

@[simp] theorem expand_ret (a : α) : (Prog.ret a : Prog Op Result α).expand impl = .ret a := rfl

@[simp] theorem expand_call (o : Op) (next : Result o → Prog Op Result α) :
    (Prog.call o next).expand impl = impl o >>= fun r => (next r).expand impl := rfl

@[simp] theorem expand_perform (o : Op) : (perform o).expand impl = impl o := Prog.bind_ret (impl o)

@[simp] theorem expand_bind (p : Prog Op Result α) (f : α → Prog Op Result β) :
    (p >>= f).expand impl = p.expand impl >>= fun a => (f a).expand impl := by
  induction p with
  | ret a => rfl
  | cut => rfl
  | call o next ih =>
    rw [Prog.call_bind, expand_call, expand_call, Prog.bind_assoc]
    congr 1
    funext r
    exact ih r

@[simp] theorem expand_ite (P : Prop) [Decidable P] (p q : Prog Op Result α) :
    (if P then p else q).expand impl = if P then p.expand impl else q.expand impl := by
  split <;> rfl

/-- Small calls that are taken for large ones are expanded to themselves. -/
theorem expand_lifted (lift : (c : Call) → Prog Op Result (Reply c))
    (back : ∀ c, (lift c).expand impl = perform c) (p : Prog Call Reply α) : (p.expand lift).expand impl = p := by
  induction p with
  | ret a => rfl
  | cut => rfl
  | call c next ih =>
    rw [expand_call, expand_bind, back, perform_bind]
    congr 1
    funext r
    exact ih r

end

/-- Every call is permitted, and every reply is possible. -/
@[simps] def World.free : World Call Reply Unit where
  permits _ _ := True
  answers _ _ _ _ := True

/-- Large calls, and the small calls that each of them came to. -/
inductive Expands (W : World Call Reply σ) (impl : (o : Op) → Prog Call Reply (Result o)) :
    List (Event Op Result) → σ → List (Event Call Reply) → σ → Prop
  | nil {s : σ} : Expands W impl [] s [] s
  | cons {o : Op} {r : Result o} {s t u : σ} {tr more : List (Event Call Reply)} {steps : List (Event Op Result)} :
      Run W (impl o) s tr (.ret r) t → Expands W impl steps t more u → Expands W impl (⟨o, r⟩ :: steps) s (tr ++ more) u

/-- A run of the expansion is a run of the program over its large calls. -/
theorem run_expand {W : World Call Reply σ} {impl : (o : Op) → Prog Call Reply (Result o)} {p : Prog Op Result α} {a : α}
    {s t : σ} {tr : List (Event Call Reply)} (run : Run W (p.expand impl) s tr (.ret a) t) :
    ∃ steps, Run World.free p () steps (.ret a) () ∧ Expands W impl steps s tr t := by
  induction p generalizing s tr with
  | ret b =>
    cases run
    exact ⟨[], .done, .nil⟩
  | cut => cases run
  | call o next ih =>
    obtain ⟨r, u, first, rest, rfl, called, run⟩ := run_bind_ret run
    obtain ⟨steps, large, expands⟩ := ih r run
    exact ⟨⟨o, r⟩ :: steps, .step trivial large, .cons called expands⟩

end Interaction
