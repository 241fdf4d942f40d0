import CorosyncClient.Votes

/-!
What a client of `set_votes_and_adjust` knows at each of its calls, whatever others do
meanwhile (`protocol`), and where a call takes the client and the cluster (`Moves`). An
invariant of the moves holds at any moment of any interleaving of clients
(`clients_rule`).
-/
namespace CorosyncClient.VoteProtocol
open CLib Interaction Votes
set_option linter.unusedSimpArgs false

/-! ### What a client knows -/

/-- How far a client has come, and what it has read on the way: the votes of its node
    and the expected votes. -/
inductive Phase where
  | start
  | knows (old : UInt32)
  | read (old expected : UInt32)
  | voted (old expected : UInt32)
  | done
  deriving DecidableEq

namespace Phase

/-- The calls of `votequorum_getinfo` that were made. -/
def infos : Phase → Nat
  | start => 0
  | knows _ => 1
  | _ => 2

def old : Phase → Option UInt32
  | knows old => some old
  | read old _ => some old
  | voted old _ => some old
  | _ => none

/-- The expected votes as they were read. -/
def seen : Phase → Option UInt32
  | read _ expected => some expected
  | voted _ expected => some expected
  | _ => none

/-- The votes of the node are set. -/
def hasVoted : Phase → Bool
  | start | knows _ | read _ _ => false
  | voted _ _ | done => true

end Phase

/-- The protocol of one client: each write is permitted where it follows its reads, and
    every call succeeds. -/
@[simps] def protocol (nodeid votes : UInt32) : LibWorld Phase where
  permits p c :=
    match c with
    | .votequorum_getinfo _ n => (p = .start ∧ n = nodeid) ∨ ∃ old, p = .knows old
    | .votequorum_setvotes _ n v => n = nodeid ∧ v = votes ∧ ∃ old expected, p = .read old expected
    | .votequorum_setexpected _ e => ∃ old expected, p = .voted old expected ∧ e = expected + (votes - old)
    | _ => True
  answers p c r p' :=
    match c with
    | Call.votequorum_initialize => p' = p ∧ r.1 = .CS_OK
    | Call.corosync_cfg_initialize => p' = p ∧ r.1 = .CS_OK
    | .corosync_cfg_local_get _ => p' = p ∧ r.1 = .CS_OK
    | .votequorum_getinfo _ _ =>
      r.1 = .CS_OK ∧ ((p = .start ∧ p' = .knows r.2.node_votes) ∨
        ∃ old, p = .knows old ∧ p' = .read old r.2.highest_expected)
    | .votequorum_setvotes _ _ _ => r = .CS_OK ∧ ∃ old expected, p = .read old expected ∧ p' = .voted old expected
    | .votequorum_setexpected _ _ => r = .CS_OK ∧ (∃ old expected, p = .voted old expected) ∧ p' = .done
    | _ => p' = p

section
variable (nodeid votes : UInt32)

theorem get_local_nodeid_protocol (id : UInt32) (p : Phase) :
    wlp (protocol nodeid votes) (get_local_nodeid id) (fun out q => out.1 = CS_OK ∧ q = p) p := by
  simp only [get_local_nodeid, wlp_ite, perform_bind, wlp_call, wlp_ret, Prog.pure_eq, protocol_permits,
    protocol_answers, true_and]
  rintro ⟨err, handle⟩ _ ⟨rfl, opened⟩
  refine ⟨fun failed => absurd opened failed, fun _ => ?_⟩
  rintro ⟨err, found⟩ _ ⟨rfl, got⟩
  exact ⟨fun failed => absurd got failed, fun _ _ _ same => same⟩

theorem get_votes_protocol (start : UInt32) :
    wlp (protocol nodeid votes) (get_votes nodeid start) (fun out p => out.1 = CS_OK ∧ p = .knows out.2) .start := by
  simp only [get_votes, wlp_ite, perform_bind, wlp_call, wlp_ret, Prog.pure_eq, protocol_permits, protocol_answers,
    true_and]
  rintro ⟨err, handle⟩ _ ⟨rfl, opened⟩
  refine ⟨fun failed => absurd opened failed, fun _ => ?_⟩
  refine wlp_seq (get_local_nodeid_protocol nodeid votes 0 .start) ?_
  rintro _ _ ⟨_, rfl⟩
  simp only [wlp_ite, wlp_call, wlp_ret, protocol_permits, protocol_answers, true_and]
  refine ⟨.inl trivial, ?_⟩
  rintro ⟨err, info⟩ _ ⟨got, rfl | ⟨_, other, _⟩⟩
  · refine ⟨fun failed => absurd got failed, ?_⟩
    rintro _ _ _ rfl
    simp
  · cases other

theorem get_expected_votes_protocol (start old : UInt32) :
    wlp (protocol nodeid votes) (get_expected_votes start) (fun out p => out.1 = CS_OK ∧ p = .read old out.2)
      (.knows old) := by
  refine wlp_seq (get_local_nodeid_protocol nodeid votes 0 (.knows old)) ?_
  rintro ⟨err, id⟩ _ ⟨ok, rfl⟩
  simp only [wlp_ite, perform_bind, wlp_call, wlp_ret, Prog.pure_eq, protocol_permits, protocol_answers, true_and]
  refine ⟨fun failed => absurd ok failed, fun _ => ?_⟩
  rintro ⟨err, handle⟩ _ ⟨rfl, opened⟩
  refine ⟨fun failed => absurd opened failed, fun _ => ⟨.inr ⟨old, rfl⟩, ?_⟩⟩
  rintro ⟨err, info⟩ _ ⟨got, ⟨other, _⟩ | ⟨_, known, rfl⟩⟩
  · cases other
  · cases known
    refine ⟨fun failed => absurd got failed, ?_⟩
    rintro _ _ _ rfl
    simp

theorem set_expected_votes_protocol (old expected : UInt32) :
    wlp (protocol nodeid votes) (set_expected_votes (expected + (votes - old)))
      (fun err p => err = CS_OK ∧ p = .done) (.voted old expected) := by
  refine wlp_seq (get_local_nodeid_protocol nodeid votes 0 (.voted old expected)) ?_
  rintro ⟨err, id⟩ _ ⟨ok, rfl⟩
  simp only [wlp_ite, perform_bind, wlp_call, wlp_ret, Prog.pure_eq, protocol_permits, protocol_answers, true_and]
  refine ⟨fun failed => absurd ok failed, fun _ => ?_⟩
  rintro ⟨err, handle⟩ _ ⟨rfl, opened⟩
  refine ⟨fun failed => absurd opened failed, fun _ => ⟨⟨old, expected, rfl, rfl⟩, ?_⟩⟩
  rintro err _ ⟨set, _, rfl⟩
  exact ⟨fun failed => absurd set failed, fun _ _ _ same => same⟩

/-- The source's function keeps to the protocol, whatever others do meanwhile. -/
theorem set_votes_and_adjust_protocol :
    wlp (protocol nodeid votes) (set_votes_and_adjust nodeid votes) (fun err p => err = CS_OK ∧ p = .done) .start := by
  simp only [set_votes_and_adjust, wlp_ite, perform_bind, wlp_call, wlp_ret, Prog.pure_eq, protocol_permits,
    protocol_answers, true_and]
  rintro ⟨err, handle⟩ _ ⟨rfl, opened⟩
  refine ⟨fun failed => absurd opened failed, fun _ => ?_⟩
  refine wlp_seq (get_votes_protocol nodeid votes 0) ?_
  rintro ⟨err, old⟩ _ ⟨ok, rfl⟩
  rw [wlp_ite]
  refine ⟨fun failed => absurd ok failed, fun _ => ?_⟩
  refine wlp_seq (get_expected_votes_protocol nodeid votes 0 old) ?_
  rintro ⟨err, expected⟩ _ ⟨ok, rfl⟩
  simp only [wlp_ite, wlp_call, wlp_ret, protocol_permits, protocol_answers, true_and]
  refine ⟨fun failed => absurd ok failed, fun _ => ⟨⟨old, expected, rfl⟩, ?_⟩⟩
  rintro err _ ⟨set, _, _, known, rfl⟩
  cases known
  refine ⟨fun failed => absurd set failed, fun _ => ?_⟩
  refine wlp_seq (set_expected_votes_protocol nodeid votes old expected) ?_
  rintro err _ ⟨ok, rfl⟩
  simp only [wlp_ite, wlp_call, wlp_ret, protocol_permits, protocol_answers, true_and]
  exact ⟨fun failed => absurd ok failed, fun _ _ _ same => same⟩

end

/-! ### Where a call leads -/

def isInfo : LibEvent → Bool
  | ⟨.votequorum_getinfo _ _, _⟩ => true
  | _ => false

def isSet : LibEvent → Bool
  | ⟨.votequorum_setexpected _ _, _⟩ => true
  | _ => false

/-- A call that is permitted to a client takes it from one phase to another, and the
    cluster from `c` to another. -/
inductive Moves (nodeid votes : UInt32) (c : Cluster) : LibEvent → Phase → Phase → Cluster → Prop
  | quiet {e : LibEvent} {p : Phase} : isInfo e = false → isSet e = false → Moves nodeid votes c e p p c
  | knows {e : LibEvent} : isInfo e = true → isSet e = false → Moves nodeid votes c e .start (.knows (c.votes nodeid)) c
  | read {e : LibEvent} {old : UInt32} :
      isInfo e = true → isSet e = false → Moves nodeid votes c e (.knows old) (.read old c.expected) c
  | voted {e : LibEvent} {old expected : UInt32} :
      isInfo e = false → isSet e = false →
      Moves nodeid votes c e (.read old expected) (.voted old expected) (c.setVotes nodeid votes)
  | done {e : LibEvent} {old expected : UInt32} :
      isInfo e = false → isSet e = true →
      Moves nodeid votes c e (.voted old expected) .done (c.setExpected (expected + (votes - old)))

/-- In a cluster where no call fails every permitted call is a move. -/
theorem moves_of_call {nodeid votes : UInt32} {c c' : Cluster} {p : Phase} {call : Call} {r : Reply call}
    (allowed : (protocol nodeid votes).permits p call) (answered : (cluster False).answers c call r c') :
    ∃ p', (protocol nodeid votes).answers p call r p' ∧ Moves nodeid votes c ⟨call, r⟩ p p' c' := by
  cases call
  case votequorum_getinfo handle n =>
    obtain ⟨rfl, ⟨ok, own, expected⟩ | ⟨faulty, _⟩⟩ := answered
    · rcases allowed with ⟨rfl, rfl⟩ | ⟨old, rfl⟩
      · exact ⟨_, ⟨ok, .inl ⟨rfl, rfl⟩⟩, own ▸ .knows rfl rfl⟩
      · exact ⟨_, ⟨ok, .inr ⟨old, rfl, rfl⟩⟩, expected ▸ .read rfl rfl⟩
    · exact faulty.elim
  case votequorum_setvotes handle n v =>
    obtain ⟨rfl, rfl, old, expected, rfl⟩ := allowed
    rcases answered with ⟨ok, rfl⟩ | ⟨faulty, _⟩
    · exact ⟨_, ⟨ok, old, expected, rfl, rfl⟩, .voted rfl rfl⟩
    · exact faulty.elim
  case votequorum_setexpected handle e =>
    obtain ⟨old, expected, rfl, rfl⟩ := allowed
    rcases answered with ⟨ok, rfl⟩ | ⟨faulty, _⟩
    · exact ⟨_, ⟨ok, ⟨old, expected, rfl⟩, rfl⟩, .done rfl rfl⟩
    · exact faulty.elim
  case votequorum_initialize | corosync_cfg_initialize | corosync_cfg_local_get =>
    obtain ⟨rfl, ok⟩ := answered
    exact ⟨p, ⟨rfl, by simpa using ok⟩, .quiet rfl rfl⟩
  all_goals
    obtain rfl := answered
    exact ⟨p, rfl, .quiet rfl rfl⟩

section
variable {ι : Type} [DecidableEq ι] {c₀ : Cluster} {node votes : ι → UInt32}

/-- What every move of every client keeps holds at any moment of an interleaving, and a
    client that has returned has come to its end. -/
theorem clients_rule (J : Cluster → List (ι × LibEvent) → (ι → Phase) → Prop)
    (step : ∀ i c tr k e p c', J c tr k → Moves (node i) (votes i) c e (k i) p c' →
      J c' (tr ++ [(i, e)]) (Function.update k i p))
    {t : Cluster} {tr : List (ι × LibEvent)} {q : ι → Client Err}
    (run : Interleaved (cluster False) (fun i => set_votes_and_adjust (node i) (votes i)) c₀ tr q t)
    (start : J c₀ [] fun _ => .start) : ∃ k, J t tr k ∧ ∀ i err, q i = .ret err → err = CS_OK ∧ k i = .done := by
  have calls : ∀ i s tr k call r s', J s tr k → (protocol (node i) (votes i)).permits (k i) call →
      (cluster False).answers s call r s' → ∃ p, (protocol (node i) (votes i)).answers (k i) call r p ∧
        J s' (tr ++ [(i, ⟨call, r⟩)]) (Function.update k i p) := by
    intro i s tr k call r s' holds allowed answered
    obtain ⟨p, learnt, moves⟩ := moves_of_call allowed answered
    exact ⟨p, learnt, step i s tr k _ p s' holds moves⟩
  obtain ⟨k, each, holds⟩ := interleaved_rule (fun i => protocol (node i) (votes i)) J calls
    (Q := fun _ err p => err = CS_OK ∧ p = .done) run (fun i => set_votes_and_adjust_protocol (node i) (votes i)) start
  refine ⟨k, by simpa using holds, fun i err ended => ?_⟩
  have ends := each i
  rw [ended] at ends
  exact ends

/-- From any moment on some clients can come to their ends. -/
theorem clients_return {t : Cluster} {tr : List (ι × LibEvent)} {q : ι → Client Err}
    (run : Interleaved (cluster False) (fun i => set_votes_and_adjust (node i) (votes i)) c₀ tr q t) (clients : List ι) :
    ∃ more q' t', Interleaved (cluster False) q t more q' t' ∧ ∀ i ∈ clients, q' i = .ret CS_OK := by
  have uncut := interleaved_uncut run fun i => set_votes_and_adjust_uncut (node i) (votes i)
  obtain ⟨more, q', t', rest, ended⟩ := interleaved_all cluster_live clients t uncut
  obtain ⟨k, -, ends⟩ := clients_rule (fun _ _ _ => True) (fun _ _ _ _ _ _ _ _ _ => trivial)
    (interleaved_trans run rest) trivial
  refine ⟨more, q', t', rest, fun i member => ?_⟩
  obtain ⟨err, ret⟩ := ended i member
  rw [ret, (ends i err ret).1]

end

end CorosyncClient.VoteProtocol
