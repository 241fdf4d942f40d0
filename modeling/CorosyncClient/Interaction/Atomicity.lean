import CorosyncClient.Interaction.Program
import Mathlib.Logic.Function.Basic

/-!
Operations that many clients run at the same time, each by a program of several calls.
`Concurrent` is their history as the clients see it, with the calls of all programs in any
order; `Atomic` is the history of an object that carries out each operation in one step
between its invocation and its response. Where each program has one call at which its
operation takes effect, every concurrent history is an atomic one
(`concurrent_atomic`), and an atomic one has its operations in a sequence that every
client agrees with (`atomic_sequential`).
-/
namespace Interaction
variable {Call : Type} {Reply : Call → Type} {Op Result σ ι : Type}

/-- What a client sees: the operation that it begins, and the result that it gets. -/
inductive Action (ι Op Result : Type) where
  | invoke (i : ι) (op : Op)
  | respond (i : ι) (result : Result)
  deriving DecidableEq

section
variable [DecidableEq ι]

/-- Each client runs the programs of its operations one after the other; the calls of
    different clients come in any order. -/
inductive Concurrent (W : World Call Reply σ) (program : Op → Prog Call Reply Result) :
    (ι → Option (Prog Call Reply Result)) → σ → List (Action ι Op Result) → (ι → Option (Prog Call Reply Result)) → σ → Prop
  | done {p : ι → Option (Prog Call Reply Result)} {s : σ} : Concurrent W program p s [] p s
  | invoke {p q : ι → Option (Prog Call Reply Result)} {i : ι} {op : Op} {s t : σ} {h : List (Action ι Op Result)} :
      p i = none → Concurrent W program (Function.update p i (some (program op))) s h q t →
      Concurrent W program p s (.invoke i op :: h) q t
  | call {p q : ι → Option (Prog Call Reply Result)} {i : ι} {c : Call} {next : Reply c → Prog Call Reply Result} {r : Reply c}
      {s s' t : σ} {h : List (Action ι Op Result)} :
      p i = some (.call c next) → W.answers s c r s' → Concurrent W program (Function.update p i (some (next r))) s' h q t →
      Concurrent W program p s h q t
  | respond {p q : ι → Option (Prog Call Reply Result)} {i : ι} {a : Result} {s t : σ} {h : List (Action ι Op Result)} :
      p i = some (.ret a) → Concurrent W program (Function.update p i none) s h q t →
      Concurrent W program p s (.respond i a :: h) q t

/-- A schedule names the client that moves, and the operation that it begins, if it is to
    begin one; the calls are answered by a handler. A client that cannot move is skipped. -/
def follow (handler : Handler Call Reply σ) (program : Op → Prog Call Reply Result) :
    List (ι × Option Op) → (ι → Option (Prog Call Reply Result)) → σ →
    List (Action ι Op Result) × (ι → Option (Prog Call Reply Result)) × σ
  | [], p, s => ([], p, s)
  | (i, begins) :: moves, p, s =>
    match p i, begins with
    | none, some op =>
      let rest := follow handler program moves (Function.update p i (some (program op))) s
      (.invoke i op :: rest.1, rest.2)
    | some (.ret a), none =>
      let rest := follow handler program moves (Function.update p i none) s
      (.respond i a :: rest.1, rest.2)
    | some (.call c next), none =>
      follow handler program moves (Function.update p i (some (next (handler s c).1))) (handler s c).2
    | _, _ => follow handler program moves p s

theorem follow_concurrent {W : World Call Reply σ} {handler : Handler Call Reply σ}
    (answered : ∀ s c, W.answers s c (handler s c).1 (handler s c).2) {program : Op → Prog Call Reply Result}
    (moves : List (ι × Option Op)) (p : ι → Option (Prog Call Reply Result)) (s : σ) :
    Concurrent W program p s (follow handler program moves p s).1 (follow handler program moves p s).2.1
      (follow handler program moves p s).2.2 := by
  induction moves generalizing p s with
  | nil => exact .done
  | cons move moves ih =>
    obtain ⟨i, begins⟩ := move
    unfold follow
    split
    · rename_i op free
      exact .invoke free (ih _ _)
    · rename_i a comes
      exact .respond comes (ih _ _)
    · rename_i c next comes
      exact .call comes (answered s c) (ih _ _)
    · exact ih p s

/-- How an operation of a client stands with the object. -/
inductive Pending (Op Result : Type) where
  | idle
  | asked (op : Op)
  | answered (result : Result)

/-- An object whose operations take effect in one step each. -/
inductive Atomic (Spec : σ → Op → Result → σ → Prop) :
    (ι → Pending Op Result) → σ → List (Action ι Op Result) → (ι → Pending Op Result) → σ → Prop
  | done {k : ι → Pending Op Result} {s : σ} : Atomic Spec k s [] k s
  | invoke {k l : ι → Pending Op Result} {i : ι} {op : Op} {s t : σ} {h : List (Action ι Op Result)} :
      k i = .idle → Atomic Spec (Function.update k i (.asked op)) s h l t → Atomic Spec k s (.invoke i op :: h) l t
  | effect {k l : ι → Pending Op Result} {i : ι} {op : Op} {a : Result} {s s' t : σ} {h : List (Action ι Op Result)} :
      k i = .asked op → Spec s op a s' → Atomic Spec (Function.update k i (.answered a)) s' h l t → Atomic Spec k s h l t
  | respond {k l : ι → Pending Op Result} {i : ι} {a : Result} {s t : σ} {h : List (Action ι Op Result)} :
      k i = .answered a → Atomic Spec (Function.update k i .idle) s h l t → Atomic Spec k s (.respond i a :: h) l t

end

/-! ### Programs with one effect -/

/-- A step of the operation with the result that is fixed by it, or no change. -/
def Moves (Spec : σ → Op → Result → σ → Prop) (op : Op) (s s' : σ) : Option Result → Prop
  | some a => Spec s op a s'
  | none => s' = s

theorem moves_of_unchanged {Spec : σ → Op → Result → σ → Prop} {op : Op} {s : σ} {fixed : Option Result}
    (given : ∀ a, fixed = some a → Spec s op a s) : Moves Spec op s s fixed := by
  cases fixed with
  | none => rfl
  | some a => exact given a rfl

/-- For each operation the calls that its program may make, and the result that is fixed
    by a call and its reply, if the operation takes effect there. In states of `Inv` such a
    call is a step of the operation, and every other call changes nothing. -/
structure Effects (W : World Call Reply σ) (Inv : σ → Prop) (Spec : σ → Op → Result → σ → Prop) where
  allowed : Op → Call → Prop
  point : Op → (c : Call) → Reply c → Option Result
  sound : ∀ op s c r s', Inv s → allowed op c → W.answers s c r s' →
    Inv s' ∧ Moves Spec op s s' (point op c r)

namespace Effects
variable {W : World Call Reply σ} {Inv : σ → Prop} {Spec : σ → Op → Result → σ → Prop} (E : Effects W Inv Spec)

/-- What a client knows of its own operation: the result that it will have, once it has
    taken effect. Then no other call may have an effect. -/
@[simps] def own (op : Op) : World Call Reply (Option Result) where
  permits known c := E.allowed op c ∧ (known ≠ none → ∀ r, E.point op c r = none)
  answers known c r known' := (∃ s s', Inv s ∧ W.answers s c r s') ∧ known' = known.or (E.point op c r)

/-- The operation takes effect once before the program ends, and the program gives the
    result that was fixed there. -/
def Carries (program : Prog Call Reply Result) (op : Op) : Prop :=
  wlp (E.own op) program (fun a known => known = some a) none

/-- How a client's program stands to its operation at the atomic object. -/
inductive Tracks : Option (Prog Call Reply Result) → Pending Op Result → Prop
  | idle : Tracks none .idle
  | before {op : Op} {p : Prog Call Reply Result} :
      wlp (E.own op) p (fun a known => known = some a) none → Tracks (some p) (.asked op)
  | behind {op : Op} {p : Prog Call Reply Result} {result : Result} :
      wlp (E.own op) p (fun a known => known = some a) (some result) → Tracks (some p) (.answered result)

variable {E}

/-- A call before the operation has its result. -/
theorem before_call {α : Type} {op : Op} {c : Call} {next : Reply c → Prog Call Reply α} {Q : α → Option Result → Prop}
    (allowed : E.allowed op c)
    (rest : ∀ r s s', Inv s → W.answers s c r s' → wlp (E.own op) (next r) Q (E.point op c r)) :
    wlp (E.own op) (.call c next) Q none := by
  refine ⟨⟨allowed, fun known => absurd rfl known⟩, ?_⟩
  rintro r known ⟨⟨s, s', inv, answered⟩, rfl⟩
  rw [Option.none_or]
  exact rest r s s' inv answered

/-- A call after it. -/
theorem behind_call {α : Type} {op : Op} {c : Call} {next : Reply c → Prog Call Reply α} {Q : α → Option Result → Prop}
    {result : Result} (allowed : E.allowed op c) (quiet : ∀ r, E.point op c r = none)
    (rest : ∀ r, wlp (E.own op) (next r) Q (some result)) : wlp (E.own op) (.call c next) Q (some result) := by
  refine ⟨⟨allowed, fun _ => quiet⟩, ?_⟩
  rintro r known ⟨-, rfl⟩
  rw [Option.some_or]
  exact rest r

theorem tracks_idle {k : Pending Op Result} (tracks : E.Tracks none k) : k = .idle := by
  cases tracks
  rfl

theorem tracks_ret {k : Pending Op Result} {a : Result} (tracks : E.Tracks (some (.ret a)) k) : k = .answered a := by
  cases tracks with
  | before holds => cases holds
  | behind holds => rw [Option.some.inj holds]

/-- A call leaves the object alone, or is the step of the operation. -/
theorem tracks_call {k : Pending Op Result} {c : Call} {next : Reply c → Prog Call Reply Result} {r : Reply c} {s s' : σ}
    (tracks : E.Tracks (some (.call c next)) k) (inv : Inv s) (answered : W.answers s c r s') :
    Inv s' ∧ ((s' = s ∧ E.Tracks (some (next r)) k) ∨
      ∃ op a, k = .asked op ∧ Spec s op a s' ∧ E.Tracks (some (next r)) (.answered a)) := by
  cases tracks with
  | @before op _ holds =>
    obtain ⟨⟨allowed, -⟩, rest⟩ := holds
    obtain ⟨inv', steps⟩ := E.sound op s c r s' inv allowed answered
    refine ⟨inv', ?_⟩
    have later := rest r _ ⟨⟨s, s', inv, answered⟩, rfl⟩
    rw [Option.none_or] at later
    cases fixed : E.point op c r with
    | none =>
      rw [fixed] at steps later
      exact .inl ⟨steps, .before later⟩
    | some a =>
      rw [fixed] at steps later
      exact .inr ⟨op, a, rfl, steps, .behind later⟩
  | @behind op _ result holds =>
    obtain ⟨⟨allowed, none⟩, rest⟩ := holds
    obtain ⟨inv', steps⟩ := E.sound op s c r s' inv allowed answered
    have quiet := none (by simp) r
    rw [quiet] at steps
    have later := rest r _ ⟨⟨s, s', inv, answered⟩, rfl⟩
    rw [Option.some_or] at later
    exact ⟨inv', .inl ⟨steps, .behind later⟩⟩

end Effects

section
variable [DecidableEq ι] {W : World Call Reply σ} {Inv : σ → Prop} {Spec : σ → Op → Result → σ → Prop}
  {program : Op → Prog Call Reply Result}

/-- Tracking is kept where one client moves. -/
theorem tracks_update {E : Effects W Inv Spec} {p : ι → Option (Prog Call Reply Result)} {k : ι → Pending Op Result}
    (tracks : ∀ i, E.Tracks (p i) (k i)) {i : ι} {x : Option (Prog Call Reply Result)} {y : Pending Op Result}
    (moved : E.Tracks x y) (j : ι) : E.Tracks (Function.update p i x j) (Function.update k i y j) := by
  rcases eq_or_ne j i with rfl | other
  · simpa using moved
  · simpa [other] using tracks j

theorem concurrent_tracks (E : Effects W Inv Spec) (each : ∀ op, E.Carries (program op) op)
    {p q : ι → Option (Prog Call Reply Result)} {s t : σ} {h : List (Action ι Op Result)}
    (run : Concurrent W program p s h q t) {k : ι → Pending Op Result} (tracks : ∀ i, E.Tracks (p i) (k i)) (inv : Inv s) :
    Inv t ∧ ∃ l, Atomic Spec k s h l t ∧ ∀ i, E.Tracks (q i) (l i) := by
  induction run generalizing k with
  | done => exact ⟨inv, k, .done, tracks⟩
  | @invoke p q i op s t h free _ ih =>
    have idle := Effects.tracks_idle (free ▸ tracks i)
    obtain ⟨inv', l, atomic, after⟩ := ih (tracks_update tracks (.before (each op))) inv
    exact ⟨inv', l, .invoke idle atomic, after⟩
  | @call p q i c next r s s' t h comes answered _ ih =>
    obtain ⟨inv', ⟨rfl, moved⟩ | ⟨op, a, asked, steps, moved⟩⟩ := Effects.tracks_call (comes ▸ tracks i) inv answered
    · have still := tracks_update (i := i) tracks moved
      rw [Function.update_eq_self] at still
      exact ih still inv'
    · obtain ⟨inv'', l, atomic, after⟩ := ih (tracks_update tracks moved) inv'
      exact ⟨inv'', l, .effect asked steps atomic, after⟩
  | @respond p q i a s t h comes _ ih =>
    have answered := Effects.tracks_ret (comes ▸ tracks i)
    obtain ⟨inv', l, atomic, after⟩ := ih (tracks_update tracks .idle) inv
    exact ⟨inv', l, .respond answered atomic, after⟩

/-- Every concurrent history from idle clients on is a history of the atomic object. -/
theorem concurrent_atomic (E : Effects W Inv Spec) (each : ∀ op, E.Carries (program op) op)
    {q : ι → Option (Prog Call Reply Result)} {s t : σ} {h : List (Action ι Op Result)}
    (run : Concurrent W program (fun _ => none) s h q t) (inv : Inv s) :
    ∃ l : ι → Pending Op Result, Atomic Spec (fun _ => .idle) s h l t := by
  obtain ⟨-, l, atomic, -⟩ := concurrent_tracks E each run (fun _ => .idle) inv
  exact ⟨l, atomic⟩

end

/-! ### The sequence behind an atomic history -/

/-- Operations carried out one after the other. -/
inductive Steps (Spec : σ → Op → Result → σ → Prop) : σ → List (ι × Op × Result) → σ → Prop
  | nil {s : σ} : Steps Spec s [] s
  | cons {s t u : σ} {i : ι} {op : Op} {a : Result} {rest : List (ι × Op × Result)} :
      Spec s op a t → Steps Spec t rest u → Steps Spec s ((i, op, a) :: rest) u

section
variable [DecidableEq ι]

/-- The operations that a client has begun. -/
def invoked (i : ι) (h : List (Action ι Op Result)) : List Op :=
  h.filterMap fun x => match x with
    | .invoke j op => if j = i then some op else none
    | .respond _ _ => none

/-- The results that a client has got. -/
def responded (i : ι) (h : List (Action ι Op Result)) : List Result :=
  h.filterMap fun x => match x with
    | .invoke _ _ => none
    | .respond j a => if j = i then some a else none

/-- What a sequence says of one client. -/
def share (i : ι) (steps : List (ι × Op × Result)) : List (Op × Result) :=
  steps.filterMap fun x => if x.1 = i then some x.2 else none

theorem share_snoc (steps : List (ι × Op × Result)) (i j : ι) (step : Op × Result) :
    share j (steps ++ [(i, step)]) = share j steps ++ if i = j then [step] else [] := by
  rw [share, List.filterMap_append]
  by_cases same : i = j
  · simp [share, same]
  · simp [share, same]

/-- The operation of a client that has not taken effect, and the result that it has not
    got yet. -/
def Pending.ahead : Pending Op Result → List Op
  | asked op => [op]
  | _ => []

def Pending.owed : Pending Op Result → List Result
  | answered a => [a]
  | _ => []

theorem atomic_sequence {Spec : σ → Op → Result → σ → Prop} {k l : ι → Pending Op Result} {s t : σ}
    {h : List (Action ι Op Result)} (atomic : Atomic Spec k s h l t) :
    ∃ steps, Steps Spec s steps t ∧ ∀ i,
      (k i).ahead ++ invoked i h = (share i steps).map Prod.fst ++ (l i).ahead ∧
      (k i).owed ++ (share i steps).map Prod.snd = responded i h ++ (l i).owed := by
  induction atomic with
  | done => exact ⟨[], .nil, fun i => ⟨by simp [invoked, share], by simp [responded, share]⟩⟩
  | @invoke k l i op s t h idle _ ih =>
    obtain ⟨steps, sequence, agree⟩ := ih
    refine ⟨steps, sequence, fun j => ?_⟩
    have after := agree j
    rcases eq_or_ne j i with rfl | other
    · simpa [idle, invoked, responded, Pending.ahead, Pending.owed] using after
    · simpa [other, other.symm, invoked, responded] using after
  | @effect k l i op a s s' t h asked step _ ih =>
    obtain ⟨steps, sequence, agree⟩ := ih
    refine ⟨(i, op, a) :: steps, .cons step sequence, fun j => ?_⟩
    have after := agree j
    rcases eq_or_ne j i with rfl | other
    · simpa [asked, share, Pending.ahead, Pending.owed] using after
    · simpa [other, other.symm, share] using after
  | @respond k l i a s t h answered _ ih =>
    obtain ⟨steps, sequence, agree⟩ := ih
    refine ⟨steps, sequence, fun j => ?_⟩
    have after := agree j
    rcases eq_or_ne j i with rfl | other
    · simpa [answered, invoked, responded, Pending.ahead, Pending.owed] using after
    · simpa [other, other.symm, invoked, responded] using after

/-- The operations of an atomic history in a sequence: the results that a client has got
    are those of its operations in their order, and at most its last operation is missing. -/
theorem atomic_sequential {Spec : σ → Op → Result → σ → Prop} {l : ι → Pending Op Result} {s t : σ}
    {h : List (Action ι Op Result)} (atomic : Atomic Spec (fun _ => .idle) s h l t) :
    ∃ steps, Steps Spec s steps t ∧ ∀ i,
      (share i steps).map Prod.fst <+: invoked i h ∧ responded i h <+: (share i steps).map Prod.snd := by
  obtain ⟨steps, sequence, agree⟩ := atomic_sequence atomic
  exact ⟨steps, sequence, fun i => ⟨⟨(l i).ahead, (agree i).1.symm⟩, ⟨(l i).owed, (agree i).2.symm⟩⟩⟩

end

end Interaction
