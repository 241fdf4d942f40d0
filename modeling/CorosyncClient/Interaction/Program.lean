import Mathlib.Data.List.Basic

/-!
Programs that call operations of an environment. A program is a tree of calls,
each continued by the reply it receives; a world says which replies a call may
receive, how its state moves and which calls it permits. `Run` is the resulting
relation between configurations, `wlp` the weakest precondition under which every
run makes permitted calls only and ends in a given postcondition, and `wlp_iff`
connects the two. `exec` runs a program against one deterministic environment.
-/
namespace Interaction

/-- A program ends in a value, or makes a call and continues with the reply, or is
    cut off where a loop has used up its fuel. -/
inductive Prog (Call : Type) (Reply : Call → Type) (α : Type) where
  | ret (value : α)
  | call (c : Call) (next : Reply c → Prog Call Reply α)
  | cut

variable {Call : Type} {Reply : Call → Type} {α β σ : Type}

namespace Prog

/-- Continue with `f` where `p` ends. -/
def bind : Prog Call Reply α → (α → Prog Call Reply β) → Prog Call Reply β
  | ret a, f => f a
  | call c next, f => call c (fun r => (next r).bind f)
  | cut, _ => cut

instance : Monad (Prog Call Reply) where
  pure := ret
  bind := bind

@[simp] theorem pure_eq (a : α) : (pure a : Prog Call Reply α) = ret a := rfl
@[simp] theorem ret_bind (a : α) (f : α → Prog Call Reply β) : (ret a >>= f) = f a := rfl

@[simp] theorem call_bind (c : Call) (next : Reply c → Prog Call Reply α) (f : α → Prog Call Reply β) :
    (call c next >>= f) = call c (fun r => next r >>= f) := rfl

theorem bind_assoc {γ : Type} (p : Prog Call Reply α) (f : α → Prog Call Reply β) (g : β → Prog Call Reply γ) :
    (p >>= f) >>= g = p >>= fun a => f a >>= g := by
  induction p with
  | ret a => rfl
  | cut => rfl
  | call c next ih =>
    simp only [call_bind]
    congr 1
    funext r
    exact ih r

@[simp] theorem bind_ret (p : Prog Call Reply α) : (p >>= ret) = p := by
  induction p with
  | ret a => rfl
  | cut => rfl
  | call c next ih =>
    rw [call_bind]
    congr 1
    funext r
    exact ih r

end Prog

/-- One call, whose reply is the value. -/
def perform (c : Call) : Prog Call Reply (Reply c) := .call c .ret

@[simp] theorem perform_bind (c : Call) (f : Reply c → Prog Call Reply α) :
    (perform c >>= f) = Prog.call c f := rfl

/-- A loop of at most `fuel` rounds; a round gives the next loop state or the result. -/
def loop (body : β → Prog Call Reply (β ⊕ α)) : Nat → β → Prog Call Reply α
  | 0, _ => .cut
  | fuel + 1, b => do
    match ← body b with
    | .inl again => loop body fuel again
    | .inr result => return result

/-- A call that was made and the reply it received. -/
structure Event (Call : Type) (Reply : Call → Type) where
  call : Call
  reply : Reply call

/-- Some event of the trace is one of those that `p` picks. -/
def Occurs (p : Event Call Reply → Bool) (tr : List (Event Call Reply)) : Prop := tr.any p = true

instance (p : Event Call Reply → Bool) (tr : List (Event Call Reply)) : Decidable (Occurs p tr) :=
  inferInstanceAs (Decidable (_ = true))

@[simp] theorem occurs_nil (p : Event Call Reply → Bool) : ¬ Occurs p [] := by simp [Occurs]
@[simp] theorem occurs_cons (p : Event Call Reply → Bool) (e : Event Call Reply) (tr : List (Event Call Reply)) :
    Occurs p (e :: tr) ↔ p e = true ∨ Occurs p tr := by
  simp [Occurs]
@[simp] theorem occurs_append (p : Event Call Reply → Bool) (first rest : List (Event Call Reply)) :
    Occurs p (first ++ rest) ↔ Occurs p first ∨ Occurs p rest := by
  simp [Occurs]

/-- What a program runs against: the calls that the state permits, and the replies
    and next states that a call may receive. -/
structure World (Call : Type) (Reply : Call → Type) (σ : Type) where
  permits : σ → Call → Prop
  answers : σ → (c : Call) → Reply c → σ → Prop

/-- Some calls of the program are made, in order, and the program is continued. -/
inductive Run (W : World Call Reply σ) :
    Prog Call Reply α → σ → List (Event Call Reply) → Prog Call Reply α → σ → Prop
  | done {p : Prog Call Reply α} {s : σ} : Run W p s [] p s
  | step {c : Call} {next : Reply c → Prog Call Reply α} {r : Reply c} {q : Prog Call Reply α}
      {s s' t : σ} {tr : List (Event Call Reply)} :
      W.answers s c r s' → Run W (next r) s' tr q t → Run W (.call c next) s (⟨c, r⟩ :: tr) q t

/-- Every call that a run comes to is permitted where it is made. -/
def Safe (W : World Call Reply σ) (p : Prog Call Reply α) (s : σ) : Prop :=
  ∀ tr c next t, Run W p s tr (.call c next) t → W.permits t c

/-- Every call on every run from `s` is permitted, and a run that ends satisfies `Q`. -/
def wlp (W : World Call Reply σ) : Prog Call Reply α → (α → σ → Prop) → σ → Prop
  | .ret a, Q, s => Q a s
  | .cut, _, _ => True
  | .call c next, Q, s => W.permits s c ∧ ∀ r s', W.answers s c r s' → wlp W (next r) Q s'

section
variable (W : World Call Reply σ)

@[simp] theorem wlp_ret (a : α) (Q : α → σ → Prop) (s : σ) : wlp W (.ret a) Q s ↔ Q a s := Iff.rfl

@[simp] theorem wlp_call (c : Call) (next : Reply c → Prog Call Reply α) (Q : α → σ → Prop) (s : σ) :
    wlp W (.call c next) Q s ↔ W.permits s c ∧ ∀ r s', W.answers s c r s' → wlp W (next r) Q s' := Iff.rfl

theorem wlp_bind (p : Prog Call Reply α) (f : α → Prog Call Reply β) (Q : β → σ → Prop) (s : σ) :
    wlp W (p >>= f) Q s ↔ wlp W p (fun a t => wlp W (f a) Q t) s := by
  induction p generalizing s with
  | ret a => exact Iff.rfl
  | cut => exact Iff.rfl
  | call c next ih =>
    simp only [Prog.call_bind, wlp_call]
    exact and_congr_right (fun _ => forall_congr' (fun r => forall_congr' (fun s' => imp_congr_right (fun _ => ih r s'))))

theorem wlp_ite (P : Prop) [Decidable P] (p q : Prog Call Reply α) (Q : α → σ → Prop) (s : σ) :
    wlp W (if P then p else q) Q s ↔ (P → wlp W p Q s) ∧ (¬ P → wlp W q Q s) := by
  split <;> simp_all

variable {W}

theorem wlp_mono {p : Prog Call Reply α} {Q R : α → σ → Prop} {s : σ} (holds : wlp W p Q s)
    (weaker : ∀ a t, Q a t → R a t) : wlp W p R s := by
  induction p generalizing s with
  | ret a => exact weaker a s holds
  | cut => trivial
  | call c next ih => exact ⟨holds.1, fun r s' answered => ih r (holds.2 r s' answered)⟩

/-- A spec of `p` and a spec of the continuation give a spec of both in sequence. -/
theorem wlp_seq {p : Prog Call Reply α} {f : α → Prog Call Reply β} {Q : α → σ → Prop} {R : β → σ → Prop} {s : σ}
    (first : wlp W p Q s) (rest : ∀ a t, Q a t → wlp W (f a) R t) : wlp W (p >>= f) R s :=
  (wlp_bind W p f R s).mpr (wlp_mono first rest)

/-- The loop rule: what every round preserves holds whenever the loop is left. -/
theorem wlp_loop {body : β → Prog Call Reply (β ⊕ α)} {Q : α → σ → Prop} (I : β → σ → Prop)
    (round : ∀ b t, I b t → wlp W (body b) (fun out u => Sum.elim (fun again => I again u) (fun result => Q result u) out) t)
    (fuel : Nat) (b : β) {s : σ} (start : I b s) : wlp W (loop body fuel b) Q s := by
  induction fuel generalizing b s with
  | zero => trivial
  | succ fuel ih =>
    refine wlp_seq (round b s start) ?_
    intro out t holds
    cases out with
    | inl again => exact ih again holds
    | inr result => exact holds

theorem run_wlp {p q : Prog Call Reply α} {s t : σ} {tr : List (Event Call Reply)} {Q : α → σ → Prop}
    (run : Run W p s tr q t) (holds : wlp W p Q s) : wlp W q Q t := by
  induction run with
  | done => exact holds
  | step answered _ ih => exact ih (holds.2 _ _ answered)

/-- What `wlp` promises of a run that has ended. -/
theorem run_ret {p : Prog Call Reply α} {a : α} {s t : σ} {tr : List (Event Call Reply)} {Q : α → σ → Prop}
    (holds : wlp W p Q s) (run : Run W p s tr (.ret a) t) : Q a t := run_wlp run holds

/-- `wlp` is exactly safety of all runs together with the postcondition of those that end. -/
theorem wlp_iff (p : Prog Call Reply α) (Q : α → σ → Prop) (s : σ) :
    wlp W p Q s ↔ Safe W p s ∧ ∀ tr a t, Run W p s tr (.ret a) t → Q a t := by
  constructor
  · intro holds
    exact ⟨fun tr c next t run => (run_wlp run holds).1, fun tr a t run => run_ret holds run⟩
  · rintro ⟨safe, ends⟩
    induction p generalizing s with
    | ret a => exact ends [] a s .done
    | cut => trivial
    | call c next ih =>
      refine ⟨safe [] c next s .done, fun r s' answered => ih r s' ?_ ?_⟩
      · intro tr c' next' t run
        exact safe _ c' next' t (.step answered run)
      · intro tr a t run
        exact ends _ a t (.step answered run)

/-- A spec of a sequence holds of the rest after a run of the first part. -/
theorem wlp_after_run {p : Prog Call Reply α} {f : α → Prog Call Reply β} {Q : β → σ → Prop} {s t : σ}
    {tr : List (Event Call Reply)} {a : α} (holds : wlp W (p >>= f) Q s) (run : Run W p s tr (.ret a) t) :
    wlp W (f a) Q t := by
  have rest := run_ret ((wlp_bind W p f Q s).mp holds) run
  exact rest

theorem wlp_safe {p : Prog Call Reply α} {Q : α → σ → Prop} {s : σ} (holds : wlp W p Q s) : Safe W p s :=
  ((wlp_iff p Q s).mp holds).1

theorem safe_iff (p : Prog Call Reply α) (s : σ) : Safe W p s ↔ wlp W p (fun _ _ => True) s := by
  rw [wlp_iff]
  simp

@[simp] theorem safe_ret (a : α) (s : σ) : Safe W (.ret a) s := wlp_safe (Q := fun _ _ => True) trivial

/-- A run of a sequence is a run of its first part, or a complete one and a run of the rest. -/
theorem run_bind_cases {p : Prog Call Reply α} {f : α → Prog Call Reply β} {q : Prog Call Reply β} {s t : σ}
    {tr : List (Event Call Reply)} (run : Run W (p >>= f) s tr q t) :
    (∃ p', q = (p' >>= f) ∧ Run W p s tr p' t) ∨
      ∃ a u tr₁ tr₂, tr = tr₁ ++ tr₂ ∧ Run W p s tr₁ (.ret a) u ∧ Run W (f a) u tr₂ q t := by
  induction p generalizing s tr with
  | ret a => exact .inr ⟨a, s, [], tr, rfl, .done, run⟩
  | cut =>
    cases run
    exact .inl ⟨.cut, rfl, .done⟩
  | call c next ih =>
    simp only [Prog.call_bind] at run
    cases run with
    | done => exact .inl ⟨.call c next, rfl, .done⟩
    | step answered rest =>
      rcases ih _ rest with ⟨p', same, first⟩ | ⟨a, u, tr₁, tr₂, split, first, second⟩
      · exact .inl ⟨p', same, .step answered first⟩
      · exact .inr ⟨a, u, _ :: tr₁, tr₂, by rw [split]; rfl, .step answered first, second⟩

/-- A run of a sequence up to a call comes to the call in its first part or in the rest. -/
theorem run_bind_call {p : Prog Call Reply α} {f : α → Prog Call Reply β} {c : Call}
    {next : Reply c → Prog Call Reply β} {s t : σ} {tr : List (Event Call Reply)}
    (run : Run W (p >>= f) s tr (.call c next) t) :
    (∃ next', Run W p s tr (.call c next') t) ∨
      ∃ a u tr₁ tr₂, tr = tr₁ ++ tr₂ ∧ Run W p s tr₁ (.ret a) u ∧ Run W (f a) u tr₂ (.call c next) t := by
  rcases run_bind_cases run with ⟨p', same, first⟩ | rest
  · cases p' with
    | ret a => exact .inr ⟨a, t, tr, [], by simp, first, same ▸ .done⟩
    | cut => cases same
    | call c' next' =>
      obtain ⟨rfl, -⟩ := Prog.call.inj same
      exact .inl ⟨next', first⟩
  · exact .inr rest

/-- A complete run of a sequence is a complete run of each part. -/
theorem run_bind_ret {p : Prog Call Reply α} {f : α → Prog Call Reply β} {b : β} {s t : σ} {tr : List (Event Call Reply)}
    (run : Run W (p >>= f) s tr (.ret b) t) :
    ∃ a u tr₁ tr₂, tr = tr₁ ++ tr₂ ∧ Run W p s tr₁ (.ret a) u ∧ Run W (f a) u tr₂ (.ret b) t := by
  rcases run_bind_cases run with ⟨p', same, first⟩ | parts
  · cases p' with
    | ret a => exact ⟨a, t, tr, [], by simp, first, same ▸ .done⟩
    | cut => cases same
    | call c next => cases same
  · exact parts

/-- The replies determine where a program ends and with which result. -/
theorem run_prefix {W' : World Call Reply σ} {p : Prog Call Reply α} {a a' : α} {s t s' t' : σ}
    {tr tr' more more' : List (Event Call Reply)} (run : Run W p s tr (.ret a) t) (run' : Run W' p s' tr' (.ret a') t')
    (same : tr ++ more = tr' ++ more') : a = a' ∧ tr = tr' ∧ more = more' := by
  induction p generalizing s s' tr tr' with
  | ret b =>
    cases run
    cases run'
    exact ⟨rfl, rfl, same⟩
  | cut => cases run
  | call c next ih =>
    cases run with
    | step _ rest =>
      cases run' with
      | step _ rest' =>
        simp only [List.cons_append, List.cons.injEq, Event.mk.injEq, heq_eq_eq, true_and] at same
        obtain ⟨rfl, same⟩ := same
        obtain ⟨result, trace, later⟩ := ih _ rest rest' same
        exact ⟨result, by rw [trace], later⟩

end

/-- A loop has made `n` rounds from `b` and `s` on, and none of them was the last. -/
inductive Rounds (W : World Call Reply σ) (body : β → Prog Call Reply (β ⊕ α)) (b : β) (s : σ) : Nat → β → σ → Prop
  | start : Rounds W body b s 0 b s
  | again {n : Nat} {c d : β} {t u : σ} {tr : List (Event Call Reply)} :
      Rounds W body b s n c t → Run W (body c) t tr (.ret (.inl d)) u → Rounds W body b s (n + 1) d u

/-- What every round keeps, with the number of rounds, holds after any number of them. -/
theorem rounds_invariant {W : World Call Reply σ} {body : β → Prog Call Reply (β ⊕ α)} (I : Nat → β → σ → Prop)
    (round : ∀ n b s, I n b s → wlp W (body b) (fun out t => Sum.elim (fun again => I (n + 1) again t) (fun _ => True) out) s)
    {b c : β} {s t : σ} {n : Nat} (rounds : Rounds W body b s n c t) (start : I 0 b s) : I n c t := by
  induction rounds with
  | start => exact start
  | @again n c d t u tr _ run ih =>
    have kept := run_ret (round n c t ih) run
    exact kept

/-! ### Total correctness -/

/-- As `wlp`, and no run is cut off. -/
def wp (W : World Call Reply σ) : Prog Call Reply α → (α → σ → Prop) → σ → Prop
  | .ret a, Q, s => Q a s
  | .cut, _, _ => False
  | .call c next, Q, s => W.permits s c ∧ ∀ r s', W.answers s c r s' → wp W (next r) Q s'

section
variable (W : World Call Reply σ)

@[simp] theorem wp_ret (a : α) (Q : α → σ → Prop) (s : σ) : wp W (.ret a) Q s ↔ Q a s := Iff.rfl
@[simp] theorem wp_call (c : Call) (next : Reply c → Prog Call Reply α) (Q : α → σ → Prop) (s : σ) :
    wp W (.call c next) Q s ↔ W.permits s c ∧ ∀ r s', W.answers s c r s' → wp W (next r) Q s' := Iff.rfl

theorem wp_ite (P : Prop) [Decidable P] (p q : Prog Call Reply α) (Q : α → σ → Prop) (s : σ) :
    wp W (if P then p else q) Q s ↔ (P → wp W p Q s) ∧ (¬ P → wp W q Q s) := by
  split <;> simp_all

variable {W}

theorem wp_seq {p : Prog Call Reply α} {f : α → Prog Call Reply β} {Q : α → σ → Prop} {R : β → σ → Prop} {s : σ}
    (first : wp W p Q s) (rest : ∀ a t, Q a t → wp W (f a) R t) : wp W (p >>= f) R s := by
  induction p generalizing s with
  | ret a => exact rest a s first
  | cut => exact first.elim
  | call c next ih => exact ⟨first.1, fun r s' answered => ih r (first.2 r s' answered)⟩

theorem wp_mono {p : Prog Call Reply α} {Q R : α → σ → Prop} {s : σ} (holds : wp W p Q s)
    (weaker : ∀ a t, Q a t → R a t) : wp W p R s := by
  induction p generalizing s with
  | ret a => exact weaker a s holds
  | cut => exact holds
  | call c next ih => exact ⟨holds.1, fun r s' answered => ih r (holds.2 r s' answered)⟩

theorem wlp_of_wp {p : Prog Call Reply α} {Q : α → σ → Prop} {s : σ} (holds : wp W p Q s) : wlp W p Q s := by
  induction p generalizing s with
  | ret a => exact holds
  | cut => trivial
  | call c next ih => exact ⟨holds.1, fun r s' answered => ih r (holds.2 r s' answered)⟩

theorem run_wp {p q : Prog Call Reply α} {s t : σ} {tr : List (Event Call Reply)} {Q : α → σ → Prop}
    (run : Run W p s tr q t) (holds : wp W p Q s) : wp W q Q t := by
  induction run with
  | done => exact holds
  | step answered _ ih => exact ih (holds.2 _ _ answered)

/-- Where every call is answered some run comes to its end, and it satisfies the
    postcondition. -/
theorem wp_terminates (live : ∀ s c, W.permits s c → ∃ r s', W.answers s c r s') {p : Prog Call Reply α}
    {Q : α → σ → Prop} {s : σ} (holds : wp W p Q s) : ∃ tr a t, Run W p s tr (.ret a) t ∧ Q a t := by
  induction p generalizing s with
  | ret a => exact ⟨[], a, s, .done, holds⟩
  | cut => exact holds.elim
  | call c next ih =>
    obtain ⟨r, s', answered⟩ := live s c holds.1
    obtain ⟨tr, a, t, run, ends⟩ := ih r (holds.2 r s' answered)
    exact ⟨_, a, t, .step answered run, ends⟩

/-- The runs make permitted calls only and are not cut off; some run ends, and each that
    ends satisfies `Q`. -/
structure Returns (W : World Call Reply σ) (p : Prog Call Reply α) (s : σ) (Q : α → σ → Prop) : Prop where
  safe : Safe W p s
  uncut : ∀ tr t, ¬ Run W p s tr .cut t
  ends : ∃ tr a t, Run W p s tr (.ret a) t
  result : ∀ tr a t, Run W p s tr (.ret a) t → Q a t

theorem returns_of_wp (live : ∀ s c, W.permits s c → ∃ r s', W.answers s c r s') {p : Prog Call Reply α}
    {Q : α → σ → Prop} {s : σ} (holds : wp W p Q s) : Returns W p s Q where
  safe := wlp_safe (wlp_of_wp holds)
  uncut _ _ run := run_wp run holds
  ends := by
    obtain ⟨tr, a, t, run, _⟩ := wp_terminates live holds
    exact ⟨tr, a, t, run⟩
  result _ _ _ run := run_wp run holds

/-- No reply leads to a cut: there is no loop whose fuel may be used up. -/
def Prog.Uncut : Prog Call Reply α → Prop
  | .ret _ => True
  | .cut => False
  | .call _ next => ∀ r, (next r).Uncut

@[simp] theorem uncut_ret (a : α) : (Prog.ret a : Prog Call Reply α).Uncut := trivial
@[simp] theorem uncut_call (c : Call) (next : Reply c → Prog Call Reply α) : (Prog.call c next).Uncut ↔ ∀ r, (next r).Uncut := Iff.rfl

theorem uncut_bind {p : Prog Call Reply α} {f : α → Prog Call Reply β} (first : p.Uncut) (rest : ∀ a, (f a).Uncut) :
    (p >>= f).Uncut := by
  induction p with
  | ret a => exact rest a
  | cut => exact first.elim
  | call c next ih => exact fun r => ih r (first r)

theorem uncut_ite {P : Prop} [Decidable P] {p q : Prog Call Reply α} (yes : p.Uncut) (no : q.Uncut) :
    (if P then p else q).Uncut := by
  split
  · exact yes
  · exact no

theorem wp_of_uncut {p : Prog Call Reply α} {Q : α → σ → Prop} {s : σ} (uncut : p.Uncut) (holds : wlp W p Q s) : wp W p Q s := by
  induction p generalizing s with
  | ret a => exact holds
  | cut => exact uncut.elim
  | call c next ih => exact ⟨holds.1, fun r s' answered => ih r (uncut r) (holds.2 r s' answered)⟩

/-- A program that cannot be cut off returns where every call is permitted and answered. -/
theorem returns_of_uncut (permits : ∀ s c, W.permits s c) (live : ∀ s c, ∃ r s', W.answers s c r s') {p : Prog Call Reply α}
    (uncut : p.Uncut) {Q : α → σ → Prop} {s : σ} (result : ∀ tr a t, Run W p s tr (.ret a) t → Q a t) : Returns W p s Q :=
  returns_of_wp (fun s c _ => live s c) (wp_of_uncut uncut ((wlp_iff p Q s).mpr ⟨fun _ _ _ _ _ => permits _ _, result⟩))

/-- The loop rule with a variant: every round keeps the invariant and leaves fewer rounds
    to come. -/
theorem wp_loop_measured {body : β → Prog Call Reply (β ⊕ α)} {Q : α → σ → Prop} (I : β → σ → Prop) (variant : β → σ → Nat)
    (round : ∀ b t, I b t → wp W (body b)
      (fun out u => Sum.elim (fun again => I again u ∧ variant again u < variant b t) (fun result => Q result u) out) t)
    {fuel : Nat} {b : β} {s : σ} (enough : variant b s < fuel) (start : I b s) : wp W (loop body fuel b) Q s := by
  induction fuel generalizing b s with
  | zero => exact absurd enough (Nat.not_lt_zero _)
  | succ fuel ih =>
    refine wp_seq (round b s start) ?_
    intro out t holds
    cases out with
    | inl again => exact ih (Nat.lt_of_lt_of_le holds.2 (Nat.lt_succ_iff.mp enough)) holds.1
    | inr result => exact holds

/-- The loop rule with a variant that the state alone determines. -/
theorem wp_loop {body : β → Prog Call Reply (β ⊕ α)} {Q : α → σ → Prop} (I : β → σ → Prop) (variant : σ → Nat)
    (round : ∀ b t, I b t →
      wp W (body b) (fun out u => Sum.elim (fun again => I again u ∧ variant u < variant t) (fun result => Q result u) out) t)
    {fuel : Nat} {b : β} {s : σ} (enough : variant s < fuel) (start : I b s) : wp W (loop body fuel b) Q s :=
  wp_loop_measured I (fun _ => variant) round enough start

/-- A loop that takes one item in each round, and is left when there is none, folds over
    the items. -/
theorem wp_loop_foldl {κ : Type} {body : β → Prog Call Reply (β ⊕ α)} {step : β → κ → β} {result : β → α} (ahead : List κ → σ → Prop)
    (next : ∀ b k items t, ahead (k :: items) t → wp W (body b) (fun out u => out = .inl (step b k) ∧ ahead items u) t)
    (last : ∀ b t, ahead [] t → wp W (body b) (fun out u => out = .inr (result b) ∧ ahead [] u) t)
    {items : List κ} {fuel : Nat} (enough : items.length < fuel) {b : β} {s : σ} (start : ahead items s) :
    wp W (loop body fuel b) (fun a t => a = result (items.foldl step b) ∧ ahead [] t) s := by
  induction items generalizing fuel b s with
  | nil =>
    cases fuel with
    | zero => exact absurd enough (Nat.not_lt_zero _)
    | succ fuel =>
      refine wp_seq (last b s start) ?_
      rintro _ t ⟨rfl, rest⟩
      exact ⟨rfl, rest⟩
  | cons k items ih =>
    cases fuel with
    | zero => exact absurd enough (Nat.not_lt_zero _)
    | succ fuel =>
      refine wp_seq (next b k items s start) ?_
      rintro _ t ⟨rfl, rest⟩
      exact ih (Nat.lt_of_succ_lt_succ enough) rest

/-- What holds in a world holds in one that permits as much and answers with less. -/
theorem wp_restrict {V : World Call Reply σ} (permits : ∀ s c, V.permits s c → W.permits s c)
    (answers : ∀ s c r s', W.answers s c r s' → V.answers s c r s') {p : Prog Call Reply α} {Q : α → σ → Prop} {s : σ}
    (holds : wp V p Q s) : wp W p Q s := by
  induction p generalizing s with
  | ret a => exact holds
  | cut => exact holds
  | call c next ih => exact ⟨permits s c holds.1, fun r s' answered => ih r (holds.2 r s' (answers s c r s' answered))⟩

theorem wlp_restrict {V : World Call Reply σ} (permits : ∀ s c, V.permits s c → W.permits s c)
    (answers : ∀ s c r s', W.answers s c r s' → V.answers s c r s') {p : Prog Call Reply α} {Q : α → σ → Prop} {s : σ}
    (holds : wlp V p Q s) : wlp W p Q s := by
  induction p generalizing s with
  | ret a => exact holds
  | cut => trivial
  | call c next ih => exact ⟨permits s c holds.1, fun r s' answered => ih r (holds.2 r s' (answers s c r s' answered))⟩

theorem wp_bind (p : Prog Call Reply α) (f : α → Prog Call Reply β) (Q : β → σ → Prop) (s : σ) :
    wp W (p >>= f) Q s ↔ wp W p (fun a t => wp W (f a) Q t) s := by
  induction p generalizing s with
  | ret a => exact Iff.rfl
  | cut => exact Iff.rfl
  | call c next ih =>
    simp only [Prog.call_bind, wp_call]
    exact and_congr_right (fun _ => forall_congr' (fun r => forall_congr' (fun s' => imp_congr_right (fun _ => ih r s'))))

/-- A loop that comes to its end with some fuel may be given any other. -/
theorem wlp_loop_of_wp {body : β → Prog Call Reply (β ⊕ α)} {Q : α → σ → Prop} {enough : Nat} {b : β} {s : σ}
    (holds : wp W (loop body enough b) Q s) (fuel : Nat) : wlp W (loop body fuel b) Q s := by
  induction fuel generalizing enough b s with
  | zero => trivial
  | succ fuel ih =>
    cases enough with
    | zero => exact holds.elim
    | succ enough =>
      refine wlp_seq (wlp_of_wp ((wp_bind _ _ _ _).mp holds)) ?_
      intro out t rest
      cases out with
      | inl again => exact ih rest
      | inr result => exact rest

end

/-- A run of a world is a run of every world that allows its replies. -/
theorem run_mono {W T : World Call Reply σ} (allowed : ∀ s c r s', W.answers s c r s' → T.answers s c r s')
    {p q : Prog Call Reply α} {s t : σ} {tr : List (Event Call Reply)} (run : Run W p s tr q t) : Run T p s tr q t := by
  induction run with
  | done => exact .done
  | step answered _ ih => exact .step (allowed _ _ _ _ answered) ih

/-- The world `W` where the calls of `C` alone are permitted. -/
def World.guarded (W : World Call Reply σ) (C : Call → Prop) : World Call Reply σ where
  permits _ c := C c
  answers := W.answers

theorem run_guarded {W : World Call Reply σ} {C : Call → Prop} {p q : Prog Call Reply α} {s t : σ} {tr : List (Event Call Reply)} :
    Run (W.guarded C) p s tr q t ↔ Run W p s tr q t := by
  constructor
  · exact run_mono (W := W.guarded C) (T := W) fun _ _ _ _ answered => answered
  · exact run_mono (W := W) (T := W.guarded C) fun _ _ _ _ answered => answered

/-- The world `W` where every call asks for `I` before it is made. -/
def World.asking (W : World Call Reply σ) (I : σ → Prop) : World Call Reply σ where
  permits s _ := I s
  answers := W.answers

/-- What every call asks for, and the end as well, holds at any moment of a run. -/
theorem run_always {W : World Call Reply σ} {I : σ → Prop} {p q : Prog Call Reply α} {s t : σ} {tr : List (Event Call Reply)}
    (run : Run W p s tr q t) (holds : wlp (W.asking I) p (fun _ t => I t) s) (uncut : q ≠ .cut) : I t := by
  have run' : Run (W.asking I) p s tr q t := by
    refine run_mono ?_ run
    intro s c r s' answered
    exact answered
  have after := run_wlp run' holds
  cases q with
  | ret a => exact after
  | cut => exact absurd rfl uncut
  | call c next => exact after.1

/-- What the permitted calls keep holds at any moment of a run of a safe program. -/
theorem run_permitted {W : World Call Reply σ} {I : σ → Prop}
    (keeps : ∀ s c r s', W.permits s c → W.answers s c r s' → I s → I s') {p q : Prog Call Reply α} {s t : σ}
    {tr : List (Event Call Reply)} (run : Run W p s tr q t) {Q : α → σ → Prop} (holds : wlp W p Q s) (start : I s) : I t := by
  induction run with
  | done => exact start
  | step answered _ ih => exact ih (holds.2 _ _ answered) (keeps _ _ _ _ holds.1 answered start)

/-- The world `W` with the trace of the run kept beside its state. -/
def World.traced (W : World Call Reply σ) : World Call Reply (σ × List (Event Call Reply)) where
  permits s c := W.permits s.1 c
  answers s c r s' := W.answers s.1 c r s'.1 ∧ s'.2 = s.2 ++ [⟨c, r⟩]

theorem run_traced {W : World Call Reply σ} {p q : Prog Call Reply α} {s t : σ} {tr : List (Event Call Reply)}
    (run : Run W p s tr q t) (before : List (Event Call Reply)) :
    Run W.traced p (s, before) tr q (t, before ++ tr) := by
  induction run generalizing before with
  | done => simpa using Run.done
  | @step c next r q s s' t tr answered _ ih =>
    have rest := ih (before ++ [⟨c, r⟩])
    rw [List.append_assoc] at rest
    exact .step ⟨answered, rfl⟩ rest

theorem answers_traced (W : World Call Reply σ) {s : σ} {tr : List (Event Call Reply)} {c : Call} {r : Reply c}
    {P : σ × List (Event Call Reply) → Prop} :
    (∀ t, W.traced.answers (s, tr) c r t → P t) ↔ ∀ s', W.answers s c r s' → P (s', tr ++ [⟨c, r⟩]) := by
  constructor
  · intro every s' answered
    exact every (s', _) ⟨answered, rfl⟩
  · rintro every ⟨s', _⟩ ⟨answered, rfl⟩
    exact every s' answered

@[simp] theorem wlp_traced_call (W : World Call Reply σ) (c : Call) (next : Reply c → Prog Call Reply α)
    (Q : α → σ × List (Event Call Reply) → Prop) (s : σ) (tr : List (Event Call Reply)) :
    wlp W.traced (.call c next) Q (s, tr) ↔
      W.permits s c ∧ ∀ r s', W.answers s c r s' → wlp W.traced (next r) Q (s', tr ++ [⟨c, r⟩]) := by
  simp only [wlp_call, answers_traced]
  rfl

@[simp] theorem wp_traced_call (W : World Call Reply σ) (c : Call) (next : Reply c → Prog Call Reply α)
    (Q : α → σ × List (Event Call Reply) → Prop) (s : σ) (tr : List (Event Call Reply)) :
    wp W.traced (.call c next) Q (s, tr) ↔
      W.permits s c ∧ ∀ r s', W.answers s c r s' → wp W.traced (next r) Q (s', tr ++ [⟨c, r⟩]) := by
  simp only [wp_call, answers_traced]
  rfl

/-- A spec over the trace holds of the trace of every run. -/
theorem run_ret_traced {W : World Call Reply σ} {p : Prog Call Reply α} {a : α} {s t : σ}
    {tr : List (Event Call Reply)} {Q : α → σ × List (Event Call Reply) → Prop} (holds : wlp W.traced p Q (s, []))
    (run : Run W p s tr (.ret a) t) : Q a (t, tr) := by
  simpa using run_ret holds (run_traced run [])

/-- In a world that permits every call, a program leaves a trace by which it runs to its end. -/
theorem wlp_traced_self {W : World Call Reply σ} (permits : ∀ s c, W.permits s c) (p : Prog Call Reply α) (s : σ)
    (before : List (Event Call Reply)) :
    wlp W.traced p (fun a t => ∃ tr, t.2 = before ++ tr ∧ Run W p s tr (.ret a) t.1) (s, before) := by
  induction p generalizing s before with
  | ret a => exact ⟨[], by simp, .done⟩
  | cut => trivial
  | call c next ih =>
    rw [wlp_traced_call]
    refine ⟨permits s c, fun r s' answered => ?_⟩
    refine wlp_mono (ih r s' (before ++ [⟨c, r⟩])) ?_
    rintro a t ⟨tr, same, run⟩
    exact ⟨⟨c, r⟩ :: tr, by simp [same], .step answered run⟩

/-! ### The calls of a program -/

/-- All calls that the program can make are among those of `C`. -/
def Prog.Makes (C : Call → Prop) : Prog Call Reply α → Prop
  | ret _ => True
  | cut => True
  | call c next => C c ∧ ∀ r, (next r).Makes C

section
variable {C : Call → Prop}

@[simp] theorem makes_ret (a : α) : (Prog.ret a : Prog Call Reply α).Makes C := trivial
@[simp] theorem makes_call (c : Call) (next : Reply c → Prog Call Reply α) :
    (Prog.call c next).Makes C ↔ C c ∧ ∀ r, (next r).Makes C := Iff.rfl

theorem makes_bind {p : Prog Call Reply α} {f : α → Prog Call Reply β} (first : p.Makes C) (rest : ∀ a, (f a).Makes C) :
    (p >>= f).Makes C := by
  induction p with
  | ret a => exact rest a
  | cut => trivial
  | call c next ih => exact ⟨first.1, fun r => ih r (first.2 r)⟩

theorem makes_ite {P : Prop} [Decidable P] {p q : Prog Call Reply α} (yes : p.Makes C) (no : q.Makes C) :
    (if P then p else q).Makes C := by
  split
  · exact yes
  · exact no

theorem makes_loop {body : β → Prog Call Reply (β ⊕ α)} (round : ∀ b, (body b).Makes C) (fuel : Nat) (b : β) :
    (loop body fuel b).Makes C := by
  induction fuel generalizing b with
  | zero => trivial
  | succ fuel ih =>
    refine makes_bind (round b) ?_
    intro out
    cases out with
    | inl again => exact ih again
    | inr result => trivial

theorem makes_mono {D : Call → Prop} {p : Prog Call Reply α} (makes : p.Makes C) (sub : ∀ c, C c → D c) : p.Makes D := by
  induction p with
  | ret a => trivial
  | cut => trivial
  | call c next ih => exact ⟨sub c makes.1, fun r => ih r (makes.2 r)⟩

theorem run_makes {W : World Call Reply σ} {p q : Prog Call Reply α} {s t : σ} {tr : List (Event Call Reply)}
    (run : Run W p s tr q t) (makes : p.Makes C) : ∀ e ∈ tr, C e.call := by
  induction run with
  | done => simp
  | step _ _ ih =>
    intro e member
    rcases List.mem_cons.mp member with rfl | later
    · exact makes.1
    · exact ih (makes.2 _) e later

/-- A program whose calls are all permitted is safe. -/
theorem wlp_of_makes {W : World Call Reply σ} {p : Prog Call Reply α} (makes : p.Makes C)
    (permitted : ∀ s c, C c → W.permits s c) (s : σ) : wlp W p (fun _ _ => True) s := by
  induction p generalizing s with
  | ret a => trivial
  | cut => trivial
  | call c next ih => exact ⟨permitted s c makes.1, fun r s' _ => ih r (makes.2 r) s'⟩

end

/-- What every call of the program keeps holds at its end. -/
theorem wlp_keep {C : Call → Prop} {W : World Call Reply σ} {p : Prog Call Reply α} (makes : p.Makes C) (P : σ → Prop)
    (keeps : ∀ s c, C c → P s → W.permits s c ∧ ∀ r s', W.answers s c r s' → P s') {s : σ} (start : P s) :
    wlp W p (fun _ t => P t) s := by
  induction p generalizing s with
  | ret a => exact start
  | cut => trivial
  | call c next ih =>
    obtain ⟨permitted, kept⟩ := keeps s c makes.1 start
    exact ⟨permitted, fun r s' answered => ih r (makes.2 r) (kept r s' answered)⟩

/-- The program without the calls that are marks: `mark` gives their reply. -/
def Prog.without (mark : (c : Call) → Option (Reply c)) : Prog Call Reply α → Prog Call Reply α
  | ret a => ret a
  | cut => cut
  | call c next =>
    match mark c with
    | some r => (next r).without mark
    | none => call c fun r => (next r).without mark

section
variable {mark : (c : Call) → Option (Reply c)}

@[simp] theorem without_ret (a : α) : (Prog.ret a : Prog Call Reply α).without mark = .ret a := rfl

theorem without_mark {c : Call} {r : Reply c} (marked : mark c = some r) (next : Reply c → Prog Call Reply α) :
    (Prog.call c next).without mark = (next r).without mark := by
  simp [Prog.without, marked]

theorem without_call {c : Call} (unmarked : mark c = none) (next : Reply c → Prog Call Reply α) :
    (Prog.call c next).without mark = .call c fun r => (next r).without mark := by
  simp [Prog.without, unmarked]

theorem without_bind (p : Prog Call Reply α) (f : α → Prog Call Reply β) :
    (p >>= f).without mark = p.without mark >>= fun a => (f a).without mark := by
  induction p with
  | ret a => rfl
  | cut => rfl
  | call c next ih =>
    cases marked : mark c with
    | some r =>
      rw [Prog.call_bind, without_mark marked, without_mark marked]
      exact ih r
    | none =>
      rw [Prog.call_bind, without_call marked, without_call marked, Prog.call_bind]
      congr 1
      funext r
      exact ih r

end

/-- Where marks change nothing, a program does what it does without them. -/
theorem wp_without {mark : (c : Call) → Option (Reply c)} {W : World Call Reply σ}
    (still : ∀ s c r, mark c = some r → W.permits s c ∧ ∀ r' s', W.answers s c r' s' ↔ r' = r ∧ s' = s)
    (p : Prog Call Reply α) (Q : α → σ → Prop) (s : σ) : wp W (p.without mark) Q s ↔ wp W p Q s := by
  induction p generalizing s with
  | ret a => exact Iff.rfl
  | cut => exact Iff.rfl
  | call c next ih =>
    cases marked : mark c with
    | some r =>
      obtain ⟨permitted, answers⟩ := still s c r marked
      rw [without_mark marked, ih, wp_call]
      constructor
      · intro holds
        refine ⟨permitted, fun r' s' answered => ?_⟩
        obtain ⟨rfl, rfl⟩ := (answers r' s').mp answered
        exact holds
      · intro holds
        exact holds.2 r s ((answers r s).mpr ⟨rfl, rfl⟩)
    | none =>
      rw [without_call marked, wp_call, wp_call]
      exact and_congr_right fun _ => forall_congr' fun r => forall_congr' fun s' => imp_congr_right fun _ => ih r s'

/-- An environment that gives one reply to every call. -/
abbrev Handler (Call : Type) (Reply : Call → Type) (σ : Type) := σ → (c : Call) → Reply c × σ

/-- The result of the program against a handler, if no loop is cut off. -/
def exec (h : Handler Call Reply σ) : Prog Call Reply α → σ → Option (α × σ)
  | .ret a, s => some (a, s)
  | .cut, _ => none
  | .call c next, s => exec h (next (h s c).1) (h s c).2

/-- The calls of the program against a handler, with their replies. -/
def transcript (h : Handler Call Reply σ) : Prog Call Reply α → σ → List (Event Call Reply)
  | .ret _, _ => []
  | .cut, _ => []
  | .call c next, s => ⟨c, (h s c).1⟩ :: transcript h (next (h s c).1) (h s c).2

section
variable (h : Handler Call Reply σ)

@[simp] theorem exec_ret (a : α) (s : σ) : exec h (.ret a) s = some (a, s) := rfl
@[simp] theorem exec_call (c : Call) (next : Reply c → Prog Call Reply α) (s : σ) :
    exec h (.call c next) s = exec h (next (h s c).1) (h s c).2 := rfl

variable {h}

/-- What a handler computes is a run of every world that allows its replies. -/
theorem exec_run {W : World Call Reply σ} (I : σ → Prop) (answered : ∀ s c, I s → W.answers s c (h s c).1 (h s c).2 ∧ I (h s c).2)
    {p : Prog Call Reply α} {s t : σ} {a : α} (start : I s) (ends : exec h p s = some (a, t)) :
    Run W p s (transcript h p s) (.ret a) t := by
  induction p generalizing s with
  | ret b =>
    simp only [exec_ret, Option.some.injEq, Prod.mk.injEq] at ends
    obtain ⟨rfl, rfl⟩ := ends
    exact .done
  | cut => cases ends
  | call c next ih => exact .step (answered s c start).1 (ih _ (answered s c start).2 ends)

end

/-- The world of an environment that gives one reply to every call. -/
def World.of (h : Handler Call Reply σ) : World Call Reply σ where
  permits _ _ := True
  answers s c r s' := h s c = (r, s')

@[simp] theorem wp_of_call (h : Handler Call Reply σ) (c : Call) (next : Reply c → Prog Call Reply α) (Q : α → σ → Prop)
    (s : σ) : wp (World.of h) (.call c next) Q s ↔ wp (World.of h) (next (h s c).1) Q (h s c).2 := by
  constructor
  · intro holds
    exact holds.2 _ _ rfl
  · intro holds
    refine ⟨trivial, fun r s' answered => ?_⟩
    have answered : h s c = (r, s') := answered
    rwa [answered] at holds

section
variable {h : Handler Call Reply σ} {C : Call → Prop}

theorem safe_guarded_call (c : Call) (next : Reply c → Prog Call Reply α) (s : σ) :
    Safe ((World.of h).guarded C) (.call c next) s ↔ C c ∧ Safe ((World.of h).guarded C) (next (h s c).1) (h s c).2 := by
  simp only [safe_iff, wlp_call]
  refine and_congr_right fun _ => ⟨fun holds => holds _ _ rfl, fun holds r s' answered => ?_⟩
  have answered : h s c = (r, s') := answered
  rwa [answered] at holds

theorem safe_of_makes {p : Prog Call Reply α} (makes : p.Makes C) (s : σ) : Safe ((World.of h).guarded C) p s :=
  wlp_safe (wlp_of_makes makes (fun _ _ permitted => permitted) s)

end

/-- A run of a program whose outcome is known, in an environment that answers every call. -/
theorem run_of_wp {h : Handler Call Reply σ} {p : Prog Call Reply α} {Q : α → σ → Prop} {s : σ}
    (holds : wp (World.of h) p Q s) : ∃ tr a t, Run (World.of h) p s tr (.ret a) t ∧ Q a t :=
  wp_terminates (fun _ _ _ => ⟨_, _, rfl⟩) holds

/-- Where the outcome of `p` is known, a sequence that begins with `p` is safe if and only
    if `p` is, and the rest is from there. -/
theorem safe_seq_iff {h : Handler Call Reply σ} {C : Call → Prop} {p : Prog Call Reply α} {f : α → Prog Call Reply β}
    {Q : α → σ → Prop} {D : Prop} {s : σ} (first : wp (World.of h) p Q s)
    (rest : ∀ a t, Q a t → (Safe ((World.of h).guarded C) (f a) t ↔ D)) :
    Safe ((World.of h).guarded C) (p >>= f) s ↔ Safe ((World.of h).guarded C) p s ∧ D := by
  rw [safe_iff, wlp_bind]
  constructor
  · intro holds
    obtain ⟨tr, a, t, run, ends⟩ := run_of_wp first
    have after := run_ret holds (run_guarded.mpr run)
    exact ⟨wlp_safe holds, (rest a t ends).mp ((safe_iff _ _).mpr after)⟩
  · rintro ⟨safe, holds⟩
    refine (wlp_iff _ _ _).mpr ⟨safe, fun tr a t run => ?_⟩
    have ends := run_wp (run_guarded.mp run) first
    exact (safe_iff _ _).mp ((rest a t ends).mpr holds)

end Interaction
