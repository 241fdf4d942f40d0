import CorosyncClient.VoteProtocol

/-!
Any number of clients that run `set_votes_and_adjust` on distinct nodes at the same time.
A ledger of the trace follows which changes the expected votes take in: those of the
client that set them last, and those that they took in when this client read them. No
change is lost exactly when no client sets the expected votes after another has set them
behind its back.
-/
namespace CorosyncClient.VoteChains
open CLib Interaction Votes VoteProtocol
set_option linter.unusedSimpArgs false
variable {ι : Type} [DecidableEq ι]

/-! ### The ledger of a trace -/

/-- What a trace tells of the expected votes. -/
structure Ledger (ι : Type) where
  /-- Whose changes were in the expected votes when a client asked last. -/
  taken : ι → List ι
  /-- The expected votes were set since then. -/
  stale : ι → Bool
  /-- Whose changes are in the expected votes. -/
  counted : List ι
  /-- Who has set the expected votes. -/
  setters : List ι
  /-- A client has set the expected votes that it had read before another set them. -/
  lost : Bool

namespace Ledger

def empty : Ledger ι := ⟨fun _ => [], fun _ => false, [], [], false⟩

/-- Of the two calls of `votequorum_getinfo` the last reads the expected votes. -/
@[simps] def info (l : Ledger ι) (i : ι) : Ledger ι :=
  { l with taken := Function.update l.taken i l.counted, stale := Function.update l.stale i false }

@[simps] def setExpected (l : Ledger ι) (i : ι) : Ledger ι :=
  { l with counted := l.taken i ++ [i], setters := l.setters ++ [i], stale := fun _ => true, lost := l.lost || l.stale i }

def record (l : Ledger ι) (e : ι × LibEvent) : Ledger ι :=
  if isInfo e.2 then l.info e.1 else if isSet e.2 then l.setExpected e.1 else l

end Ledger

def ledger (tr : List (ι × LibEvent)) : Ledger ι := tr.foldl Ledger.record .empty

/-- The clients whose changes the expected votes take in at the end of a trace. -/
def counted (tr : List (ι × LibEvent)) : List ι := (ledger tr).counted

/-- The clients that have set the expected votes, in the order in which they did. -/
def setters (tr : List (ι × LibEvent)) : List ι := (ledger tr).setters

/-- Some client has set the expected votes that another had set since it read them. -/
def Lost (tr : List (ι × LibEvent)) : Prop := (ledger tr).lost = true

instance (tr : List (ι × LibEvent)) : Decidable (Lost tr) := inferInstanceAs (Decidable (_ = true))

section
variable {tr : List (ι × LibEvent)} {i : ι} {e : LibEvent}

theorem ledger_snoc (x : ι × LibEvent) : ledger (tr ++ [x]) = (ledger tr).record x := by
  simp [ledger]

theorem ledger_info (info : isInfo e = true) : ledger (tr ++ [(i, e)]) = (ledger tr).info i := by
  simp [ledger_snoc, Ledger.record, info]

theorem ledger_set (noInfo : isInfo e = false) (sets : isSet e = true) :
    ledger (tr ++ [(i, e)]) = (ledger tr).setExpected i := by
  simp [ledger_snoc, Ledger.record, noInfo, sets]

theorem ledger_quiet (noInfo : isInfo e = false) (noSet : isSet e = false) : ledger (tr ++ [(i, e)]) = ledger tr := by
  simp [ledger_snoc, Ledger.record, noInfo, noSet]

end

/-! ### Which changes a ledger counts -/

/-- What a ledger keeps, where the `waiting` clients are those that have read the expected
    votes and not set them. -/
structure Sound (l : Ledger ι) (waiting : ι → Prop) : Prop where
  within : l.counted.Sublist l.setters
  before : ∀ i, waiting i → (l.taken i).Sublist l.setters
  missed : ∀ i, waiting i → l.stale i = true → (l.taken i).length < l.setters.length
  current : ∀ i, waiting i → l.stale i = false → l.taken i = l.counted
  lost : l.lost = false ↔ l.counted = l.setters
  last : l.counted.getLast? = l.setters.getLast?

section
variable {l : Ledger ι} {waiting : ι → Prop}

omit [DecidableEq ι] in
theorem sound_empty : Sound (Ledger.empty : Ledger ι) fun _ => False where
  within := .slnil
  before _ waits := waits.elim
  missed _ waits := waits.elim
  current _ waits := waits.elim
  lost := by simp [Ledger.empty]
  last := rfl

omit [DecidableEq ι] in
theorem sound_mono (sound : Sound l waiting) {fewer : ι → Prop} (sub : ∀ i, fewer i → waiting i) : Sound l fewer where
  within := sound.within
  before i waits := sound.before i (sub i waits)
  missed i waits := sound.missed i (sub i waits)
  current i waits := sound.current i (sub i waits)
  lost := sound.lost
  last := sound.last

/-- A client that reads the expected votes is up to date. -/
theorem sound_info (sound : Sound l waiting) (i : ι) : Sound (l.info i) fun j => j = i ∨ waiting j where
  within := sound.within
  before j waits := by
    by_cases same : j = i
    · simpa [Ledger.info, same] using sound.within
    · simpa [Ledger.info, same] using sound.before j (waits.resolve_left same)
  missed j waits isStale := by
    by_cases same : j = i
    · simp [Ledger.info, same] at isStale
    · simpa [Ledger.info, same] using sound.missed j (waits.resolve_left same) (by simpa [Ledger.info, same] using isStale)
  current j waits fresh := by
    by_cases same : j = i
    · simp [Ledger.info, same]
    · simpa [Ledger.info, same] using sound.current j (waits.resolve_left same) (by simpa [Ledger.info, same] using fresh)
  lost := sound.lost
  last := sound.last

omit [DecidableEq ι] in
/-- A client that sets the expected votes carries on what it has read; it misses a change
    exactly where another was there since. -/
theorem sound_setExpected (sound : Sound l waiting) {i : ι} (waits : waiting i) :
    Sound (l.setExpected i) fun j => j ≠ i ∧ waiting j where
  within := (sound.before i waits).append_right [i]
  before j other := (sound.before j other.2).trans (List.sublist_append_left _ _)
  missed j other _ := by
    have shorter := (sound.before j other.2).length_le
    simp only [Ledger.setExpected, List.length_append, List.length_singleton]
    omega
  current j _ fresh := by simp [Ledger.setExpected] at fresh
  lost := by
    simp only [Ledger.setExpected, Bool.or_eq_false_iff, List.append_cancel_right_eq]
    cases isStale : l.stale i with
    | false => simpa [sound.current i waits isStale] using sound.lost
    | true =>
      have fewer := sound.missed i waits isStale
      constructor
      · rintro ⟨-, fresh⟩
        cases fresh
      · intro same
        rw [same] at fewer
        exact absurd fewer (Nat.lt_irrefl _)
  last := by simp

end

/-! ### The joint invariant -/

/-- A client that has read the expected votes and not set them. -/
def Waiting (p : Phase) : Prop := p.seen ≠ none

section
variable (c₀ : Cluster) (node votes : ι → UInt32)

/-- The expected votes with the changes of some clients. -/
def tally (clients : List ι) : UInt32 := clients.foldl (fun e i => e + (votes i - c₀.votes (node i))) c₀.expected

omit [DecidableEq ι] in
theorem tally_snoc (clients : List ι) (i : ι) :
    tally c₀ node votes (clients ++ [i]) = tally c₀ node votes clients + (votes i - c₀.votes (node i)) := by
  simp [tally]

/-- What holds of the cluster, the trace and what the clients know. -/
structure Joint (c : Cluster) (tr : List (ι × LibEvent)) (k : ι → Phase) : Prop where
  own : ∀ i, c.votes (node i) = if (k i).hasVoted then votes i else c₀.votes (node i)
  others : ∀ m, (∀ i, m ≠ node i) → c.votes m = c₀.votes m
  old : ∀ i old, (k i).old = some old → old = c₀.votes (node i)
  seen : ∀ i expected, (k i).seen = some expected → expected = tally c₀ node votes ((ledger tr).taken i)
  expected : c.expected = tally c₀ node votes (counted tr)
  set : ∀ i, i ∈ setters tr ↔ k i = .done
  once : (setters tr).Nodup
  sound : Sound (ledger tr) fun i => Waiting (k i)

variable {c₀ node votes} {c : Cluster} {tr : List (ι × LibEvent)} {k : ι → Phase} {i : ι} {e : LibEvent}

theorem joint_start : Joint c₀ node votes c₀ [] (fun _ => .start) where
  own i := by simp [Phase.hasVoted]
  others m _ := rfl
  old i old known := by simp [Phase.old] at known
  seen i expected known := by simp [Phase.seen] at known
  expected := rfl
  set i := by simp [setters, ledger, Ledger.empty]
  once := List.nodup_nil
  sound := sound_mono sound_empty fun i waits => waits rfl

theorem joint_quiet (joint : Joint c₀ node votes c tr k) (noInfo : isInfo e = false) (noSet : isSet e = false) :
    Joint c₀ node votes c (tr ++ [(i, e)]) k := by
  have same : ledger (tr ++ [(i, e)]) = ledger tr := ledger_quiet noInfo noSet
  constructor
  case seen => simpa only [same] using joint.seen
  case expected => simpa only [counted, same] using joint.expected
  case set => simpa only [setters, same] using joint.set
  case once => simpa only [setters, same] using joint.once
  case sound => simpa only [same] using joint.sound
  all_goals first | exact joint.own | exact joint.others | exact joint.old

/-- Client `i` goes on to `p`, with the votes of its node only. -/
theorem joint_move (distinct : Function.Injective node) (joint : Joint c₀ node votes c tr k) {p : Phase} {c' : Cluster}
    (own : c'.votes (node i) = if p.hasVoted then votes i else c₀.votes (node i))
    (elsewhere : ∀ m, m ≠ node i → c'.votes m = c.votes m)
    (old : ∀ old, p.old = some old → old = c₀.votes (node i))
    (seen : ∀ x, p.seen = some x → x = tally c₀ node votes ((ledger (tr ++ [(i, e)])).taken i))
    (taken : ∀ j, j ≠ i → (ledger (tr ++ [(i, e)])).taken j = (ledger tr).taken j)
    (expected : c'.expected = tally c₀ node votes (counted (tr ++ [(i, e)])))
    (set : ∀ j, j ∈ setters (tr ++ [(i, e)]) ↔ Function.update k i p j = .done)
    (once : (setters (tr ++ [(i, e)])).Nodup)
    (sound : Sound (ledger (tr ++ [(i, e)])) fun j => Waiting (Function.update k i p j)) :
    Joint c₀ node votes c' (tr ++ [(i, e)]) (Function.update k i p) where
  own := by
    refine (Function.forall_update_iff k fun j p => c'.votes (node j) = if p.hasVoted then votes j else c₀.votes (node j)).mpr
      ⟨own, ?_⟩
    intro j other
    rw [elsewhere (node j) (distinct.ne other)]
    exact joint.own j
  others m unrelated := by
    rw [elsewhere m (unrelated i)]
    exact joint.others m unrelated
  old := (Function.forall_update_iff k fun j p => ∀ old, p.old = some old → old = c₀.votes (node j)).mpr
    ⟨old, fun j _ => joint.old j⟩
  seen := by
    refine (Function.forall_update_iff k fun j p =>
      ∀ x, p.seen = some x → x = tally c₀ node votes ((ledger (tr ++ [(i, e)])).taken j)).mpr ⟨seen, ?_⟩
    intro j other
    rw [taken j other]
    exact joint.seen j
  expected := expected
  set := set
  once := once
  sound := sound

/-- The setters stay the same where client `i` does not set the expected votes. -/
theorem set_unchanged (joint : Joint c₀ node votes c tr k) (same : (ledger (tr ++ [(i, e)])).setters = (ledger tr).setters)
    (running : k i ≠ .done) {p : Phase} (more : p ≠ .done) (j : ι) :
    j ∈ setters (tr ++ [(i, e)]) ↔ Function.update k i p j = .done := by
  rw [setters, same]
  refine (Function.forall_update_iff k fun j p => j ∈ (ledger tr).setters ↔ p = .done).mpr ⟨?_, fun j _ => joint.set j⟩ j
  exact iff_of_false (fun member => running ((joint.set i).mp member)) more

/-- Client `i` asks for votes and goes on with what it is told. -/
theorem joint_info (distinct : Function.Injective node) (joint : Joint c₀ node votes c tr k) (info : isInfo e = true)
    {p : Phase} (running : k i ≠ .done) (more : p ≠ .done) (voted : p.hasVoted = (k i).hasVoted)
    (old : ∀ old, p.old = some old → old = c₀.votes (node i)) (seen : ∀ x, p.seen = some x → x = c.expected) :
    Joint c₀ node votes c (tr ++ [(i, e)]) (Function.update k i p) := by
  have after : ledger (tr ++ [(i, e)]) = (ledger tr).info i := ledger_info info
  apply joint_move distinct joint
  case own =>
    rw [voted]
    exact joint.own i
  case elsewhere =>
    intro m _
    rfl
  case old => exact old
  case seen =>
    intro x known
    rw [seen x known, joint.expected, after]
    simp [counted]
  case taken =>
    intro j other
    simp [after, other]
  case expected =>
    rw [joint.expected, counted, counted, after, Ledger.info_counted]
  case set => exact set_unchanged joint (by rw [after, Ledger.info_setters]) running more
  case once =>
    rw [setters, after, Ledger.info_setters]
    exact joint.once
  case sound =>
    rw [after]
    refine sound_mono (sound_info joint.sound i) fun j waits => ?_
    by_cases same : j = i
    · exact .inl same
    · exact .inr (by simpa [same] using waits)

theorem joint_voted (distinct : Function.Injective node) (joint : Joint c₀ node votes c tr k) {old expected : UInt32}
    (comes : k i = .read old expected) (noInfo : isInfo e = false) (noSet : isSet e = false) :
    Joint c₀ node votes (c.setVotes (node i) (votes i)) (tr ++ [(i, e)]) (Function.update k i (.voted old expected)) := by
  have after : ledger (tr ++ [(i, e)]) = ledger tr := ledger_quiet noInfo noSet
  apply joint_move distinct joint
  case own => simp [Phase.hasVoted]
  case elsewhere =>
    intro m other
    simp [other]
  case old =>
    intro x known
    exact joint.old i x (by simpa [comes, Phase.old] using known)
  case seen =>
    intro x known
    rw [after]
    exact joint.seen i x (by simpa [comes, Phase.seen] using known)
  case taken =>
    intro j _
    rw [after]
  case expected =>
    rw [counted, after]
    exact joint.expected
  case set => exact set_unchanged joint (by rw [after]) (by simp [comes]) (by simp)
  case once =>
    rw [setters, after]
    exact joint.once
  case sound =>
    rw [after]
    refine sound_mono joint.sound fun j waits => ?_
    by_cases same : j = i
    · simp [same, comes, Waiting, Phase.seen]
    · simpa [same] using waits

/-- Client `i` sets the expected votes to those that it has read, with its own change. -/
theorem joint_done (distinct : Function.Injective node) (joint : Joint c₀ node votes c tr k) {old expected : UInt32}
    (comes : k i = .voted old expected) (noInfo : isInfo e = false) (sets : isSet e = true) :
    Joint c₀ node votes (c.setExpected (expected + (votes i - old))) (tr ++ [(i, e)]) (Function.update k i .done) := by
  have after : ledger (tr ++ [(i, e)]) = (ledger tr).setExpected i := ledger_set noInfo sets
  have unset : i ∉ setters tr := fun member => absurd ((joint.set i).mp member) (by simp [comes])
  apply joint_move distinct joint
  case own => simpa [comes, Phase.hasVoted] using joint.own i
  case elsewhere =>
    intro m _
    rfl
  case old =>
    intro x known
    simp [Phase.old] at known
  case seen =>
    intro x known
    simp [Phase.seen] at known
  case taken =>
    intro j _
    rw [after, Ledger.setExpected_taken]
  case expected =>
    rw [counted, after, Ledger.setExpected_counted, tally_snoc, ← joint.seen i expected (by simp [comes, Phase.seen]),
      ← joint.old i old (by simp [comes, Phase.old])]
    rfl
  case set =>
    rw [setters, after, Ledger.setExpected_setters]
    refine (Function.forall_update_iff k fun j p => j ∈ (ledger tr).setters ++ [i] ↔ p = .done).mpr ⟨by simp, ?_⟩
    intro j other
    simpa [other, setters] using joint.set j
  case once =>
    rw [setters, after, Ledger.setExpected_setters]
    refine List.nodup_append.mpr ⟨joint.once, List.nodup_singleton i, ?_⟩
    rintro j member _ last rfl
    exact unset (List.mem_singleton.mp last ▸ member)
  case sound =>
    rw [after]
    refine sound_mono (sound_setExpected joint.sound (i := i) (by simp [comes, Waiting, Phase.seen])) fun j waits => ?_
    by_cases same : j = i
    · simp [same, Waiting, Phase.seen] at waits
    · exact ⟨same, by simpa [same] using waits⟩

/-- Every move of a client keeps the joint invariant. -/
theorem joint_step (distinct : Function.Injective node) (joint : Joint c₀ node votes c tr k) {p : Phase} {c' : Cluster}
    (moves : Moves (node i) (votes i) c e (k i) p c') : Joint c₀ node votes c' (tr ++ [(i, e)]) (Function.update k i p) := by
  generalize comes : k i = before at moves
  cases moves with
  | quiet noInfo noSet =>
    rw [← comes, Function.update_eq_self]
    exact joint_quiet joint noInfo noSet
  | knows info noSet =>
    refine joint_info distinct joint info (by simp [comes]) (by simp) (by simp [comes, Phase.hasVoted]) ?_ ?_
    · intro old known
      have own := joint.own i
      simp only [comes, Phase.hasVoted, Bool.false_eq_true, if_false] at own
      rw [← own]
      exact (Option.some.inj known).symm
    · intro x known
      simp [Phase.seen] at known
  | read info noSet =>
    refine joint_info distinct joint info (by simp [comes]) (by simp) (by simp [comes, Phase.hasVoted]) ?_ ?_
    · intro x known
      exact joint.old i x (by simpa [comes, Phase.old] using known)
    · intro x known
      exact (Option.some.inj known).symm
  | voted noInfo noSet => exact joint_voted distinct joint comes noInfo noSet
  | done noInfo sets => exact joint_done distinct joint comes noInfo sets

/-- At any moment of any interleaving the expected votes are the first ones with the
    changes of the counted clients. All changes are counted as long as no client has set
    expected votes that another had set since it read them. A client that has come to its
    end has set the votes of its node and the expected votes; other nodes keep theirs. -/
theorem clients_adjust (distinct : Function.Injective node) {t : Cluster} {q : ι → Client Err}
    (run : Interleaved (cluster False) (fun i => set_votes_and_adjust (node i) (votes i)) c₀ tr q t) :
    t.expected = tally c₀ node votes (counted tr) ∧ (setters tr).Nodup ∧ (counted tr).Sublist (setters tr) ∧
      (counted tr = setters tr ↔ ¬ Lost tr) ∧
      (∀ i err, q i = .ret err → err = CS_OK ∧ t.votes (node i) = votes i ∧ i ∈ setters tr) ∧
      ∀ m, (∀ i, m ≠ node i) → t.votes m = c₀.votes m := by
  obtain ⟨k, joint, each⟩ := clients_rule (Joint c₀ node votes)
    (fun _ _ _ _ _ _ _ joint moves => joint_step distinct joint moves) run joint_start
  refine ⟨joint.expected, joint.once, joint.sound.within, ?_, fun i err ended => ?_, joint.others⟩
  · rw [Lost, Bool.not_eq_true]
    exact joint.sound.lost.symm
  · obtain ⟨ok, done⟩ := each i err ended
    refine ⟨ok, ?_, (joint.set i).mpr done⟩
    simpa [done, Phase.hasVoted] using joint.own i

end

/-- Three nodes are given three votes each; the first two clients take turns, and the third
    comes when they are done. -/
def node : Fin 3 → UInt32 := fun i => UInt32.ofNat (i.val + 1)

def threeEach : Fin 3 → Client Err := fun i => set_votes_and_adjust (node i) 3

def turns : List (Fin 3) := (List.replicate 21 [0, 1]).flatten ++ List.replicate 21 2

/-- Three nodes with a vote each. -/
def threeNodes : Cluster := ⟨{1, 2, 3}, fun _ => 1, 3⟩

def taken : List (Fin 3 × LibEvent) × (Fin 3 → Client Err) × Cluster := interleave (obliging false) turns threeEach threeNodes

theorem taken_run : Interleaved (cluster False) threeEach threeNodes taken.1 taken.2.1 taken.2.2 :=
  interleave_run (obliging_answers (by simp)) turns threeEach threeNodes

theorem node_injective : Function.Injective node := by
  unfold Function.Injective
  decide

example : counted taken.1 = [1, 2] ∧ setters taken.1 = [0, 1, 2] := by decide

theorem clients_adjust_taken :
    taken.2.2.expected = tally threeNodes node (fun _ => 3) (counted taken.1) ∧ (counted taken.1 = setters taken.1 ↔ ¬ Lost taken.1) := by
  obtain ⟨expected, -, -, all, -⟩ := clients_adjust node_injective taken_run
  exact ⟨expected, all⟩

end CorosyncClient.VoteChains
