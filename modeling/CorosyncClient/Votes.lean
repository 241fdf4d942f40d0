import CorosyncClient.QuorumManager
import CorosyncClient.Interaction.Composition
import Mathlib.Algebra.BigOperators.Group.Finset.Piecewise
import Mathlib.Data.Int.ModEq

/-!
What `set_votes_and_adjust` does to the votes of a cluster and to the votes it expects.
One client alone keeps the difference between the two, and reaches every expected value
that a `uint32_t` can hold; a call that fails has changed nothing, or just the votes of
its node.
-/
namespace CorosyncClient.Votes
open CLib Interaction
set_option linter.unusedSimpArgs false

/-- The votes of the nodes, and the expected votes. `votes` is read on `nodes` only. -/
structure Cluster where
  nodes : Finset UInt32
  votes : UInt32 → UInt32
  expected : UInt32

namespace Cluster
variable (c : Cluster)

def setVotes (n v : UInt32) : Cluster := { c with votes := Function.update c.votes n v }
def setExpected (e : UInt32) : Cluster := { c with expected := e }

/-- What a successful `set_votes_and_adjust` makes of the cluster. -/
def adjust (n v : UInt32) : Cluster := (c.setVotes n v).setExpected (c.expected + (v - c.votes n))

@[simp] theorem setVotes_nodes (n v : UInt32) : (c.setVotes n v).nodes = c.nodes := rfl
@[simp] theorem setVotes_votes (n v : UInt32) : (c.setVotes n v).votes = Function.update c.votes n v := rfl
@[simp] theorem setVotes_expected (n v : UInt32) : (c.setVotes n v).expected = c.expected := rfl
@[simp] theorem setExpected_nodes (e : UInt32) : (c.setExpected e).nodes = c.nodes := rfl
@[simp] theorem setExpected_votes (e : UInt32) : (c.setExpected e).votes = c.votes := rfl
@[simp] theorem setExpected_expected (e : UInt32) : (c.setExpected e).expected = e := rfl
@[simp] theorem adjust_nodes (n v : UInt32) : (c.adjust n v).nodes = c.nodes := rfl
@[simp] theorem adjust_votes (n v : UInt32) : (c.adjust n v).votes = Function.update c.votes n v := rfl
@[simp] theorem adjust_expected (n v : UInt32) : (c.adjust n v).expected = c.expected + (v - c.votes n) := rfl

/-- The expected votes less the votes of all nodes. -/
def difference : ℤ := c.expected.toNat - ∑ n ∈ c.nodes, ((c.votes n).toNat : ℤ)

/-- The votes and the expected votes change by the same number. -/
theorem adjust_difference {n : UInt32} (known : n ∈ c.nodes) (v : UInt32) :
    (c.adjust n v).difference ≡ c.difference [ZMOD 2 ^ 32] := by
  have sum : ∑ m ∈ c.nodes, ((Function.update c.votes n v m).toNat : ℤ) =
      (v.toNat : ℤ) + ∑ m ∈ c.nodes \ {n}, ((c.votes m).toNat : ℤ) := by
    have moved : ∀ m, ((Function.update c.votes n v m).toNat : ℤ) =
        Function.update (fun m => ((c.votes m).toNat : ℤ)) n v.toNat m :=
      fun m => Function.apply_update (fun _ w => ((UInt32.toNat w : ℕ) : ℤ)) c.votes n v m
    rw [Finset.sum_congr rfl (fun m _ => moved m), Finset.sum_update_of_mem known]
  have before : ∑ m ∈ c.nodes, ((c.votes m).toNat : ℤ) =
      ((c.votes n).toNat : ℤ) + ∑ m ∈ c.nodes \ {n}, ((c.votes m).toNat : ℤ) := by
    rw [Finset.sdiff_singleton_eq_erase, Finset.add_sum_erase _ (fun m => ((c.votes m).toNat : ℤ)) known]
  simp only [difference, adjust_nodes, adjust_votes, adjust_expected, sum, before, Int.ModEq, UInt32.toNat_add,
    UInt32.toNat_sub]
  have small := (c.votes n).toNat_lt
  omega

/-- A new value that a `uint32_t` can hold is reached exactly. -/
theorem adjust_exact (n v : UInt32) (low : 0 ≤ (c.expected.toNat : ℤ) - (c.votes n).toNat + v.toNat)
    (high : (c.expected.toNat : ℤ) - (c.votes n).toNat + v.toNat < 2 ^ 32) :
    ((c.adjust n v).expected.toNat : ℤ) = c.expected.toNat - (c.votes n).toNat + v.toNat := by
  simp only [adjust_expected, UInt32.toNat_add, UInt32.toNat_sub]
  have small := (c.votes n).toNat_lt
  omega

end Cluster

/-! ### The calls of libvotequorum -/

section
variable (mayFail : Prop)

/-- Where `mayFail` holds any call may fail, and then changes nothing. -/
@[simps] def cluster : LibWorld Cluster where
  permits _ _ := True
  answers c call r c' :=
    match call with
    | Call.votequorum_initialize => c' = c ∧ (r.1 = .CS_OK ∨ mayFail)
    | Call.corosync_cfg_initialize => c' = c ∧ (r.1 = .CS_OK ∨ mayFail)
    | .corosync_cfg_local_get _ => c' = c ∧ (r.1 = .CS_OK ∨ mayFail)
    | .votequorum_getinfo _ n =>
      c' = c ∧ ((r.1 = .CS_OK ∧ r.2.node_votes = c.votes n ∧ r.2.highest_expected = c.expected) ∨ (mayFail ∧ r.1 ≠ .CS_OK))
    | .votequorum_setvotes _ n v => (r = .CS_OK ∧ c' = c.setVotes n v) ∨ (mayFail ∧ r ≠ .CS_OK ∧ c' = c)
    | .votequorum_setexpected _ e => (r = .CS_OK ∧ c' = c.setExpected e) ∨ (mayFail ∧ r ≠ .CS_OK ∧ c' = c)
    | _ => c' = c

/-- A successful `votequorum_setvotes`. -/
def setsVotes : LibEvent → Bool
  | ⟨.votequorum_setvotes _ _ _, r⟩ => r = .CS_OK
  | _ => false

/-- In some call of the trace the votes of a node were set. -/
abbrev VotesSet (tr : List LibEvent) : Prop := Occurs setsVotes tr

/-! ### Specs of the source's functions -/

/-- A function that only reads: it changes nothing, and fails for a reason. -/
structure OnlyReads (before : Cluster × List LibEvent) (err : Err) (after : Cluster × List LibEvent) : Prop where
  same : after.1 = before.1
  unset : VotesSet after.2 ↔ VotesSet before.2
  reliable : ¬ mayFail → err = CS_OK

end

section
variable {mayFail : Prop}

theorem not_ok_of_failed {err : CsError} (opened : err = .CS_OK ∨ mayFail) (failed : err ≠ .CS_OK) {P : Prop} :
    ¬ mayFail → P := fun sound => absurd (opened.resolve_right sound) failed

theorem get_local_nodeid_spec (id : UInt32) (s : Cluster × List LibEvent) :
    wlp (cluster mayFail).traced (get_local_nodeid id) (fun out t => OnlyReads mayFail s out.1 t) s := by
  obtain ⟨c, tr⟩ := s
  simp only [get_local_nodeid, wlp_ite, perform_bind, wlp_traced_call, wlp_ret, Prog.pure_eq, cluster_permits,
    cluster_answers, true_and, forall_eq]
  rintro ⟨err, handle⟩ _ ⟨rfl, opened⟩
  refine ⟨fun failed => ⟨rfl, by simp [setsVotes], not_ok_of_failed opened failed⟩, fun _ => ?_⟩
  rintro ⟨err, found⟩ _ ⟨rfl, got⟩
  exact ⟨fun failed _ => ⟨rfl, by simp [setsVotes], not_ok_of_failed got failed⟩,
    fun _ _ => ⟨rfl, by simp [setsVotes], fun _ => rfl⟩⟩

theorem get_votes_spec (nodeid votes : UInt32) (s : Cluster × List LibEvent) :
    wlp (cluster mayFail).traced (get_votes nodeid votes)
      (fun out t => OnlyReads mayFail s out.1 t ∧ (out.1 = CS_OK → out.2 = s.1.votes nodeid)) s := by
  obtain ⟨c, tr⟩ := s
  simp only [get_votes, wlp_ite, perform_bind, wlp_traced_call, wlp_ret, Prog.pure_eq, cluster_permits,
    cluster_answers, true_and, forall_eq]
  rintro ⟨err, handle⟩ _ ⟨rfl, opened⟩
  refine ⟨fun failed => ⟨⟨rfl, by simp [setsVotes], not_ok_of_failed opened failed⟩, fun ok => ?_⟩, fun _ => ?_⟩
  · exact absurd ok (by simpa using failed)
  refine wlp_seq (get_local_nodeid_spec 0 _) ?_
  rintro _ ⟨c, tr'⟩ ⟨rfl, unset, _⟩
  simp only [wlp_ite, wlp_traced_call, wlp_ret, cluster_permits, cluster_answers, true_and, forall_eq]
  rintro ⟨err, info⟩ _ ⟨rfl, ⟨ok, own, _⟩ | ⟨faulty, failed⟩⟩
  · refine ⟨fun failed => absurd ok failed, fun _ _ => ⟨⟨rfl, by simp [setsVotes, unset], fun _ => rfl⟩, fun _ => ?_⟩⟩
    simpa using own
  · refine ⟨fun _ _ => ⟨⟨rfl, by simp [setsVotes, unset], fun sound => absurd faulty sound⟩, fun ok => ?_⟩, fun ok => ?_⟩
    · exact absurd ok (by simpa using failed)
    · exact absurd failed ok

theorem get_expected_votes_spec (expected_votes : UInt32) (s : Cluster × List LibEvent) :
    wlp (cluster mayFail).traced (get_expected_votes expected_votes)
      (fun out t => OnlyReads mayFail s out.1 t ∧ (out.1 = CS_OK → out.2 = s.1.expected)) s := by
  obtain ⟨c, tr⟩ := s
  refine wlp_seq (get_local_nodeid_spec 0 _) ?_
  rintro ⟨err, id⟩ ⟨c, tr'⟩ ⟨rfl, unset, reliable⟩
  simp only [wlp_ite, perform_bind, wlp_traced_call, wlp_ret, Prog.pure_eq, cluster_permits,
    cluster_answers, true_and, forall_eq]
  refine ⟨fun failed => ⟨⟨rfl, unset, reliable⟩, fun ok => absurd ok failed⟩, fun _ => ?_⟩
  rintro ⟨err, handle⟩ _ ⟨rfl, opened⟩
  refine ⟨fun failed => ⟨⟨rfl, by simp [setsVotes, unset], not_ok_of_failed opened failed⟩, fun ok => ?_⟩, fun _ => ?_⟩
  · exact absurd ok (by simpa using failed)
  rintro ⟨err, info⟩ _ ⟨rfl, ⟨ok, _, expected⟩ | ⟨faulty, failed⟩⟩
  · refine ⟨fun failed => absurd ok failed, fun _ _ => ⟨⟨rfl, by simp [setsVotes, unset], fun _ => rfl⟩, fun _ => ?_⟩⟩
    simpa using expected
  · refine ⟨fun _ _ => ⟨⟨rfl, by simp [setsVotes, unset], fun sound => absurd faulty sound⟩, fun ok => ?_⟩, fun ok => ?_⟩
    · exact absurd ok (by simpa using failed)
    · exact absurd failed ok

/-- The two ways in which `set_expected_votes` ends. -/
def SetEnd (mayFail : Prop) (before : Cluster × List LibEvent) (expected_votes : UInt32) (err : Err)
    (after : Cluster × List LibEvent) : Prop :=
  (VotesSet after.2 ↔ VotesSet before.2) ∧
    ((err = CS_OK ∧ after.1 = before.1.setExpected expected_votes) ∨ (mayFail ∧ err ≠ CS_OK ∧ after.1 = before.1))

theorem set_expected_votes_spec (expected_votes : UInt32) (s : Cluster × List LibEvent) :
    wlp (cluster mayFail).traced (set_expected_votes expected_votes) (SetEnd mayFail s expected_votes) s := by
  obtain ⟨c, tr⟩ := s
  refine wlp_seq (get_local_nodeid_spec 0 _) ?_
  rintro ⟨err, id⟩ ⟨c, tr'⟩ ⟨rfl, unset, reliable⟩
  simp only [wlp_ite, perform_bind, wlp_traced_call, wlp_ret, Prog.pure_eq, cluster_permits,
    cluster_answers, true_and, forall_eq]
  refine ⟨fun failed => ⟨unset, .inr ⟨by_contra fun sound => failed (reliable sound), failed, rfl⟩⟩, fun _ => ?_⟩
  rintro ⟨err, handle⟩ _ ⟨rfl, opened⟩
  refine ⟨fun failed => ⟨by simp [setsVotes, unset], .inr ⟨opened.resolve_left failed, by simpa using failed, rfl⟩⟩, fun _ => ?_⟩
  rintro err _ (⟨rfl, rfl⟩ | ⟨faulty, failed, rfl⟩)
  · exact ⟨fun failed => absurd rfl failed, fun _ _ => ⟨by simp [setsVotes, unset], .inl ⟨rfl, rfl⟩⟩⟩
  · exact ⟨fun _ _ => ⟨by simp [setsVotes, unset], .inr ⟨faulty, by simpa using failed, rfl⟩⟩, fun ok => absurd failed ok⟩

/-- The three ways in which `set_votes_and_adjust` ends. -/
def AdjustEnd (mayFail : Prop) (c : Cluster) (n v : UInt32) (err : Err) (s : Cluster × List LibEvent) : Prop :=
  (err = CS_OK ∧ s.1 = c.adjust n v) ∨ (mayFail ∧ err ≠ CS_OK ∧ s.1 = c ∧ ¬ VotesSet s.2) ∨
    (mayFail ∧ err ≠ CS_OK ∧ s.1 = c.setVotes n v ∧ VotesSet s.2)

theorem set_votes_and_adjust_spec (nodeid votes : UInt32) (c : Cluster) :
    wlp (cluster mayFail).traced (set_votes_and_adjust nodeid votes) (AdjustEnd mayFail c nodeid votes) (c, []) := by
  simp only [set_votes_and_adjust, wlp_ite, perform_bind, wlp_traced_call, wlp_ret, Prog.pure_eq, cluster_permits,
    cluster_answers, true_and, forall_eq]
  rintro ⟨err, handle⟩ _ ⟨rfl, opened⟩
  refine ⟨fun failed => .inr (.inl ⟨opened.resolve_left failed, by simpa using failed, rfl, by simp [setsVotes]⟩), fun _ => ?_⟩
  refine wlp_seq (get_votes_spec nodeid 0 _) ?_
  rintro ⟨err, cur_votes⟩ ⟨c, tr₁⟩ ⟨⟨rfl, unset₁, reliable₁⟩, own⟩
  simp only [wlp_ite, wlp_traced_call, wlp_ret, cluster_permits, cluster_answers, true_and, forall_eq]
  refine ⟨fun failed _ => .inr (.inl ⟨by_contra fun sound => failed (reliable₁ sound), failed, rfl, ?_⟩), fun succeeded => ?_⟩
  · simp [setsVotes, unset₁]
  obtain rfl := own (not_ne_iff.mp succeeded)
  refine wlp_seq (get_expected_votes_spec 0 _) ?_
  rintro ⟨err, expected_votes⟩ ⟨c, tr₂⟩ ⟨⟨rfl, unset₂, reliable₂⟩, expected⟩
  simp only [wlp_ite, wlp_traced_call, wlp_ret, cluster_permits, cluster_answers, true_and, forall_eq]
  refine ⟨fun failed _ => .inr (.inl ⟨by_contra fun sound => failed (reliable₂ sound), failed, rfl, ?_⟩), fun succeeded => ?_⟩
  · simp [setsVotes, unset₂, unset₁]
  obtain rfl := expected (not_ne_iff.mp succeeded)
  rintro err _ (⟨rfl, rfl⟩ | ⟨faulty, failed, rfl⟩)
  · refine ⟨fun failed => absurd rfl failed, fun _ => wlp_seq (set_expected_votes_spec _ _) ?_⟩
    rintro err ⟨_, tr₃⟩ ⟨set, ⟨rfl, rfl⟩ | ⟨faulty, failed, rfl⟩⟩
    · simp only [wlp_ite, wlp_traced_call, wlp_ret, cluster_permits, cluster_answers, true_and, forall_eq]
      exact ⟨fun failed => absurd rfl failed, fun _ _ => .inl ⟨rfl, by simp [Cluster.adjust]⟩⟩
    · simp only [wlp_ite, wlp_traced_call, wlp_ret, cluster_permits, cluster_answers, true_and, forall_eq]
      refine ⟨fun _ _ => .inr (.inr ⟨faulty, failed, rfl, ?_⟩), fun ok => absurd failed ok⟩
      simp [set, setsVotes]
  · refine ⟨fun _ _ => .inr (.inl ⟨faulty, by simpa using failed, rfl, ?_⟩), fun ok => absurd failed ok⟩
    simp [setsVotes, unset₂, unset₁, failed]

/-- Without failures the call ends in the adjusted cluster. -/
theorem set_votes_and_adjust_ok {nodeid votes : UInt32} {c c' : Cluster} {tr : List LibEvent} {err : Err}
    (run : Run (cluster False) (set_votes_and_adjust nodeid votes) c tr (.ret err) c') :
    err = CS_OK ∧ c' = c.adjust nodeid votes := by
  rcases run_ret_traced (set_votes_and_adjust_spec nodeid votes c) run with ends | ⟨faulty, _⟩ | ⟨faulty, _⟩
  · exact ends
  · exact faulty.elim
  · exact faulty.elim

end

/-! ### One client -/

theorem get_local_nodeid_uncut (id : UInt32) : (get_local_nodeid id).Uncut := by
  simp only [get_local_nodeid, perform_bind, Prog.pure_eq]
  exact fun _ => uncut_ite trivial fun _ => uncut_ite (fun _ => trivial) fun _ => trivial

theorem get_votes_uncut (nodeid votes : UInt32) : (get_votes nodeid votes).Uncut := by
  simp only [get_votes, perform_bind, Prog.pure_eq]
  refine fun _ => uncut_ite trivial (uncut_bind (get_local_nodeid_uncut 0) fun _ _ => ?_)
  exact uncut_ite (fun _ => trivial) fun _ => trivial

theorem get_expected_votes_uncut (expected_votes : UInt32) : (get_expected_votes expected_votes).Uncut := by
  simp only [get_expected_votes, perform_bind, Prog.pure_eq]
  refine uncut_bind (get_local_nodeid_uncut 0) fun _ => uncut_ite trivial fun _ => uncut_ite trivial fun _ => ?_
  exact uncut_ite (fun _ => trivial) fun _ => trivial

theorem set_expected_votes_uncut (expected_votes : UInt32) : (set_expected_votes expected_votes).Uncut := by
  simp only [set_expected_votes, perform_bind, Prog.pure_eq]
  refine uncut_bind (get_local_nodeid_uncut 0) fun _ => uncut_ite trivial fun _ => uncut_ite trivial fun _ => ?_
  exact uncut_ite (fun _ => trivial) fun _ => trivial

theorem set_votes_and_adjust_uncut (nodeid votes : UInt32) : (set_votes_and_adjust nodeid votes).Uncut := by
  simp only [set_votes_and_adjust, perform_bind, Prog.pure_eq]
  refine fun _ => uncut_ite trivial (uncut_bind (get_votes_uncut _ _) fun _ => uncut_ite (fun _ => trivial) ?_)
  refine uncut_bind (get_expected_votes_uncut _) fun _ => uncut_ite (fun _ => trivial) fun _ => uncut_ite (fun _ => trivial) ?_
  exact uncut_bind (set_expected_votes_uncut _) fun _ => uncut_ite (fun _ => trivial) fun _ => trivial

/-- A call of `set_votes_and_adjust` in a session, by its arguments. -/
def adjustment (call : UInt32 × UInt32) : Client Err := set_votes_and_adjust call.1 call.2

/-- What a call of `set_votes_and_adjust` has done to a cluster. -/
structure Adjusted (nodeid votes : UInt32) (err : Err) (before after : Cluster) : Prop where
  ok : err = CS_OK
  own : after.votes nodeid = votes
  others : ∀ m ≠ nodeid, after.votes m = before.votes m
  balanced : after.difference ≡ before.difference [ZMOD 2 ^ 32]
  exact : 0 ≤ (before.expected.toNat : ℤ) - (before.votes nodeid).toNat + votes.toNat →
    (before.expected.toNat : ℤ) - (before.votes nodeid).toNat + votes.toNat < 2 ^ 32 →
    (after.expected.toNat : ℤ) = before.expected.toNat - (before.votes nodeid).toNat + votes.toNat

theorem adjusted_of_run {nodeid votes : UInt32} {c c' : Cluster} {tr : List LibEvent} {err : Err}
    (known : nodeid ∈ c.nodes) (run : Run (cluster False) (set_votes_and_adjust nodeid votes) c tr (.ret err) c') :
    Adjusted nodeid votes err c c' := by
  obtain ⟨rfl, rfl⟩ := set_votes_and_adjust_ok run
  exact ⟨rfl, by simp, fun m other => by simp [other], c.adjust_difference known votes, c.adjust_exact nodeid votes⟩

theorem adjustments_balanced {c₀ c : Cluster} {done : List ((UInt32 × UInt32) × Err)}
    (session : Session (cluster False) adjustment c₀ done c) (known : ∀ call ∈ done.map Prod.fst, call.1 ∈ c₀.nodes) :
    c.nodes = c₀.nodes ∧ c.difference ≡ c₀.difference [ZMOD 2 ^ 32] := by
  refine session_invariant (fun call => call.1 ∈ c₀.nodes)
    (fun c => c.nodes = c₀.nodes ∧ c.difference ≡ c₀.difference [ZMOD 2 ^ 32]) ?_ session known ⟨rfl, Int.ModEq.refl _⟩
  rintro ⟨n, v⟩ c member ⟨same, balanced⟩
  refine (wlp_iff _ _ _).mpr ⟨fun _ _ _ _ _ => trivial, fun tr err c' run => ?_⟩
  obtain ⟨rfl, rfl⟩ := set_votes_and_adjust_ok run
  exact ⟨same, (c.adjust_difference (same ▸ member) v).trans balanced⟩

/-- The cluster carries out every call, or `refuses` to change the expected votes. -/
def obliging (refuses : Bool) : Handler Call Reply Cluster := fun c call =>
  match call with
  | .votequorum_getinfo _ n =>
    ((.CS_OK, ⟨n, 1, c.votes n, c.expected, c.expected, 0, 0, 0, 0, []⟩), c)
  | .votequorum_setvotes _ n v => (.CS_OK, c.setVotes n v)
  | .votequorum_setexpected _ e => if refuses then (.CS_ERR_ACCESS, c) else (.CS_OK, c.setExpected e)
  | call => (Reply.success call, c)

theorem obliging_answers {mayFail : Prop} {refuses : Bool} (why : refuses = true → mayFail) (c : Cluster) (call : Call) :
    (cluster mayFail).answers c call (obliging refuses c call).1 (obliging refuses c call).2 := by
  cases call
  case votequorum_initialize => exact ⟨rfl, .inl rfl⟩
  case corosync_cfg_initialize => exact ⟨rfl, .inl rfl⟩
  case corosync_cfg_local_get => exact ⟨rfl, .inl rfl⟩
  case votequorum_getinfo => exact ⟨rfl, .inl ⟨rfl, rfl, rfl⟩⟩
  case votequorum_setvotes => exact .inl ⟨rfl, rfl⟩
  case votequorum_setexpected =>
    cases refuses with
    | false => exact .inl ⟨rfl, rfl⟩
    | true => exact .inr ⟨why rfl, by simp [obliging], rfl⟩
  all_goals rfl

theorem cluster_live {mayFail : Prop} (c : Cluster) (call : Call) : ∃ r c', (cluster mayFail).answers c call r c' :=
  ⟨_, _, @obliging_answers mayFail false (by simp) c call⟩

theorem obliging_run {mayFail : Prop} (refuses : Bool) (why : refuses = true → mayFail) {nodeid votes : UInt32}
    {c c' : Cluster} {err : Err} (ends : exec (obliging refuses) (set_votes_and_adjust nodeid votes) c = some (err, c')) :
    Run (cluster mayFail) (set_votes_and_adjust nodeid votes) c
      (transcript (obliging refuses) (set_votes_and_adjust nodeid votes) c) (.ret err) c' :=
  exec_run (fun _ => True) (fun c call _ => ⟨obliging_answers why c call, trivial⟩) trivial ends

/-- Two nodes with a vote each. -/
def twoNodes : Cluster := ⟨{1, 2}, fun _ => 1, 2⟩

/-- After any session of one client on known nodes the difference between the expected
    votes and all votes is the same modulo `2 ^ 32`, and a further call returns and has
    then adjusted the cluster as it should. -/
theorem session_adjusts {c₀ c : Cluster} {done : List ((UInt32 × UInt32) × Err)}
    (session : Session (cluster False) adjustment c₀ done c) (known : ∀ call ∈ done.map Prod.fst, call.1 ∈ c₀.nodes) :
    c.difference ≡ c₀.difference [ZMOD 2 ^ 32] ∧
      ∀ nodeid ∈ c₀.nodes, ∀ votes : UInt32,
        Returns (cluster False) (set_votes_and_adjust nodeid votes) c (fun err c' => Adjusted nodeid votes err c c') := by
  obtain ⟨same, balanced⟩ := adjustments_balanced session known
  refine ⟨balanced, fun nodeid member votes => ?_⟩
  refine returns_of_uncut (fun _ _ => trivial) cluster_live (set_votes_and_adjust_uncut nodeid votes) ?_
  exact fun tr err c' run => adjusted_of_run (same ▸ member) run

theorem session_adjusts_twoNodes :
    (twoNodes.adjust 2 5).difference ≡ twoNodes.difference [ZMOD 2 ^ 32] ∧
      Adjusted 1 0 CS_OK (twoNodes.adjust 2 5) ((twoNodes.adjust 2 5).adjust 1 0) := by
  have first : Session (cluster False) adjustment twoNodes [((2, 5), CS_OK)] (twoNodes.adjust 2 5) :=
    .snoc .nil (obliging_run false (by simp) rfl)
  obtain ⟨balanced, next⟩ := session_adjusts first (by simp [twoNodes])
  exact ⟨balanced, (next 1 (by simp [twoNodes]) 0).result _ _ _ (obliging_run false (by simp) rfl)⟩

/-! ### Failures -/

/-- A call that fails leaves the expected votes and the votes of all other nodes as they
    were; its node has the new votes where these were set, and else its old ones. -/
theorem set_votes_and_adjust_failed {nodeid votes : UInt32} {c c' : Cluster} {tr : List LibEvent} {err : Err}
    (run : Run (cluster True) (set_votes_and_adjust nodeid votes) c tr (.ret err) c') (failed : err ≠ CS_OK) :
    c' = if VotesSet tr then c.setVotes nodeid votes else c := by
  rcases run_ret_traced (set_votes_and_adjust_spec nodeid votes c) run with
    ⟨ok, _⟩ | ⟨_, _, same, unset⟩ | ⟨_, _, same, set⟩
  · exact absurd ok failed
  · rw [if_neg unset]
    exact same
  · rw [if_pos set]
    exact same

/-- The change of the votes is refused its change of the expected votes. -/
theorem refused_run :
    Run (cluster True) (set_votes_and_adjust 2 5) twoNodes
      (transcript (obliging true) (set_votes_and_adjust 2 5) twoNodes) (.ret CsError.CS_ERR_ACCESS.code)
      (twoNodes.setVotes 2 5) :=
  obliging_run true (fun _ => trivial) rfl

theorem set_votes_and_adjust_failed_refused :
    twoNodes.setVotes 2 5 =
      if VotesSet (transcript (obliging true) (set_votes_and_adjust 2 5) twoNodes) then twoNodes.setVotes 2 5
      else twoNodes :=
  set_votes_and_adjust_failed refused_run (by decide)

/-- A failed call may have changed the votes of its node. -/
theorem failed_call_changes_votes :
    ¬ ∀ (tr : List LibEvent) (err : Err) (c' : Cluster),
      Run (cluster True) (set_votes_and_adjust 2 5) twoNodes tr (.ret err) c' → err ≠ CS_OK →
      c'.votes = twoNodes.votes ∧ c'.expected = twoNodes.expected := by
  intro atomic
  have same := (atomic _ _ _ refused_run (by decide)).1
  exact absurd (congrFun same 2) (by decide)

end CorosyncClient.Votes
