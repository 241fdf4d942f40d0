import CorosyncClient.Interaction.Program

/-!
Forward simulation between worlds. What is known of a program in one world holds in every
world that answers its calls in the same way, up to a relation between the two states.
-/
namespace Interaction
variable {Call : Type} {Reply : Call → Type} {α σ τ : Type}

/-- On the calls in `C`, and from related states, `W` permits what `V` permits and answers
    as `V` may answer, and the next states are related. -/
structure Simulates (C : Call → Prop) (R : σ → τ → Prop) (W : World Call Reply σ) (V : World Call Reply τ) : Prop where
  permits : ∀ s t c, C c → R s t → V.permits t c → W.permits s c
  answers : ∀ s t c r s', C c → R s t → W.answers s c r s' → ∃ t', V.answers t c r t' ∧ R s' t'

/-- A spec in `V` is a spec in `W`, with a related state behind the one at the end. -/
theorem wlp_simulates {C : Call → Prop} {R : σ → τ → Prop} {W : World Call Reply σ} {V : World Call Reply τ}
    (simulates : Simulates C R W V) {p : Prog Call Reply α} (makes : p.Makes C) {Q : α → τ → Prop} {s : σ} {t : τ}
    (related : R s t) (holds : wlp V p Q t) : wlp W p (fun a s' => ∃ t', R s' t' ∧ Q a t') s := by
  induction p generalizing s t with
  | ret a => exact ⟨t, related, holds⟩
  | cut => trivial
  | call c next ih =>
    refine ⟨simulates.permits s t c makes.1 related holds.1, fun r s' answered => ?_⟩
    obtain ⟨t', answered', related'⟩ := simulates.answers s t c r s' makes.1 related answered
    exact ih r (makes.2 r) related' (holds.2 r t' answered')

/-- As `wlp_simulates`, for runs that come to their end. -/
theorem wp_simulates {R : σ → τ → Prop} {W : World Call Reply σ} {V : World Call Reply τ}
    (simulates : Simulates (fun _ => True) R W V) {p : Prog Call Reply α} {Q : α → τ → Prop} {s : σ} {t : τ}
    (related : R s t) (holds : wp V p Q t) : wp W p (fun a s' => ∃ t', R s' t' ∧ Q a t') s := by
  induction p generalizing s t with
  | ret a => exact ⟨t, related, holds⟩
  | cut => exact holds
  | call c next ih =>
    refine ⟨simulates.permits s t c trivial related holds.1, fun r s' answered => ?_⟩
    obtain ⟨t', answered', related'⟩ := simulates.answers s t c r s' trivial related answered
    exact ih r related' (holds.2 r t' answered')

end Interaction
