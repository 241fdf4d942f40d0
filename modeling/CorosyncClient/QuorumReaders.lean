import CorosyncClient.QuorumManager
import Mathlib.Data.Finset.Basic
import Mathlib.Tactic.Simps.Basic

/-!
The two readers of the state of the quorum. `get_expected_votes` asks for the local node,
and `get_quorum_info` for node 1.
-/
namespace CorosyncClient.QuorumReaders
open CLib Interaction
set_option linter.unusedSimpArgs false

/-- The fields that do not belong to a node. -/
def ClusterWide (info info' : VotequorumInfo) : Prop :=
  info.highest_expected = info'.highest_expected ∧ info.total_votes = info'.total_votes ∧ info.quorum = info'.quorum ∧
    info.flags &&& VOTEQUORUM_INFO_QUORATE = info'.flags &&& VOTEQUORUM_INFO_QUORATE

/-- What the daemon knows of the cluster. -/
structure ClusterView where
  nodes : Finset UInt32
  info : UInt32 → VotequorumInfo
  local_nodeid : UInt32
  local_known : local_nodeid ∈ nodes
  cluster_wide : ∀ n ∈ nodes, ClusterWide (info n) (info local_nodeid)

/-- How the daemon answers a client that opens its services and asks for the local id. -/
structure Services where
  votequorum : CsError
  cfg : CsError
  local_get : CsError

/-- The daemon answers for the nodes that it knows. -/
@[simps] def daemon (view : ClusterView) (services : Services) : LibWorld Unit where
  permits _ _ := True
  answers _ c r _ :=
    match c with
    | Call.votequorum_initialize => r.1 = services.votequorum
    | Call.corosync_cfg_initialize => r.1 = services.cfg
    | .corosync_cfg_local_get _ => r.1 = services.local_get ∧ (r.1 = .CS_OK → r.2 = view.local_nodeid)
    | .votequorum_getinfo _ n => (r.1 = .CS_OK ↔ n ∈ view.nodes) ∧ (r.1 = .CS_OK → r.2 = view.info n)
    | _ => True

theorem daemon_live (view : ClusterView) (services : Services) (s : Unit) (c : Call)
    (_ : (daemon view services).permits s c) : ∃ r s', (daemon view services).answers s c r s' := by
  cases c
  case votequorum_initialize => exact ⟨(_, 1), (), rfl⟩
  case corosync_cfg_initialize => exact ⟨(_, 1), (), rfl⟩
  case corosync_cfg_local_get => exact ⟨(_, view.local_nodeid), (), rfl, fun _ => rfl⟩
  case votequorum_getinfo _ n _ =>
    by_cases known : n ∈ view.nodes
    · exact ⟨(.CS_OK, view.info n), (), by simp [known], fun _ => rfl⟩
    · exact ⟨(.CS_ERR_NOT_EXIST, view.info n), (), by simp [known], fun _ => rfl⟩
  all_goals exact ⟨Reply.success _, (), trivial⟩

section
variable (view : ClusterView) (services : Services)

/-- The services can all be used. -/
def Services.Open (services : Services) : Prop :=
  services.votequorum = .CS_OK ∧ services.cfg = .CS_OK ∧ services.local_get = .CS_OK

theorem get_local_nodeid_spec (id : UInt32) (s : Unit) :
    wp (daemon view services) (get_local_nodeid id)
      (fun out _ => (out.1 = CS_OK ↔ services.cfg = .CS_OK ∧ services.local_get = .CS_OK) ∧
        (out.1 = CS_OK → out.2 = view.local_nodeid)) s := by
  simp only [get_local_nodeid, perform_bind, Prog.pure_eq, wp_call, wp_ite, wp_ret, daemon_permits, daemon_answers, true_and]
  rintro ⟨err, handle⟩ _ rfl
  constructor
  · intro failed
    have failed : services.cfg ≠ .CS_OK := failed
    simp [failed]
  intro opened
  rintro ⟨err, local_nodeid⟩ _ ⟨rfl, given⟩
  have opened : services.cfg = .CS_OK := not_ne_iff.mp opened
  refine ⟨fun failed _ _ _ => ?_, fun got _ _ _ => ?_⟩
  · have failed : services.local_get ≠ .CS_OK := failed
    simp [failed]
  · have got : services.local_get = .CS_OK := not_ne_iff.mp got
    exact ⟨by simp [opened, got], fun _ => given got⟩

theorem get_expected_votes_spec (expected_votes : UInt32) (s : Unit) :
    wp (daemon view services) (get_expected_votes expected_votes)
      (fun out _ => (out.1 = CS_OK ↔ services.Open) ∧
        (out.1 = CS_OK → out.2 = (view.info view.local_nodeid).highest_expected)) s := by
  simp only [get_expected_votes, perform_bind, Prog.pure_eq]
  refine wp_seq (get_local_nodeid_spec view services 0 s) ?_
  rintro ⟨err, nodeid⟩ _ ⟨ok_iff, given⟩
  simp only [wp_call, wp_ite, wp_ret, daemon_permits, daemon_answers, true_and] at ok_iff given ⊢
  constructor
  · intro failed
    have unused := mt ok_iff.mpr failed
    exact ⟨by simpa [Services.Open, failed] using fun _ cfg got => unused ⟨cfg, got⟩, fun ok => absurd ok failed⟩
  · intro ok
    obtain rfl := given (not_ne_iff.mp ok)
    obtain ⟨cfg, got⟩ := ok_iff.mp (not_ne_iff.mp ok)
    rintro ⟨err, handle⟩ _ rfl
    constructor
    · intro failed
      have failed : services.votequorum ≠ .CS_OK := failed
      simp [Services.Open, failed]
    intro opened
    rintro ⟨err, info⟩ _ ⟨known, info_is⟩
    have answered : err = .CS_OK := known.mpr view.local_known
    obtain rfl := info_is answered
    refine ⟨fun failed => absurd answered failed, fun _ _ _ _ => ?_⟩
    exact ⟨by simpa [Services.Open, cfg, got] using opened, fun _ => by simp⟩

/-- What `get_quorum_info` gives where it succeeds. -/
def detailsOf (info : VotequorumInfo) : QuorumDetails where
  highest_expected := info.highest_expected
  total_votes := info.total_votes
  quorum := info.quorum
  quorate := info.flags &&& VOTEQUORUM_INFO_QUORATE

theorem get_quorum_info_spec (qd : QuorumDetails) (s : Unit) :
    wp (daemon view services) (get_quorum_info qd)
      (fun out _ => (out.1 = CS_OK ↔ services.votequorum = .CS_OK ∧ 1 ∈ view.nodes) ∧
        (out.1 = CS_OK → out.2 = detailsOf (view.info 1))) s := by
  simp only [get_quorum_info, perform_bind, Prog.pure_eq, wp_call, wp_ite, wp_ret, daemon_permits, daemon_answers, true_and]
  rintro ⟨err, handle⟩ _ rfl
  constructor
  · intro failed
    have failed : services.votequorum ≠ .CS_OK := failed
    simp [failed]
  intro opened
  refine wp_seq (get_local_nodeid_spec view services 0 _) ?_
  rintro _ _ -
  simp only [wp_call, wp_ite, wp_ret, daemon_permits, daemon_answers, true_and]
  rintro ⟨err, info⟩ _ ⟨known, info_is⟩
  have opened : services.votequorum = .CS_OK := not_ne_iff.mp opened
  refine ⟨fun failed _ _ _ => ?_, fun answered _ _ _ => ?_⟩
  · have failed : err ≠ .CS_OK := failed
    simp [← known, failed]
  · have answered : err = .CS_OK := not_ne_iff.mp answered
    obtain rfl := info_is answered
    exact ⟨by simpa [opened, ← known] using answered, fun _ => rfl⟩

end

/-- Whenever `get_expected_votes` succeeds, `get_quorum_info` succeeds with its value and
    the view of the local node. -/
def ReadersAgree (view : ClusterView) (services : Services) : Prop :=
  ∀ (expected₀ expected : UInt32) (qd : QuorumDetails) (tr : List LibEvent),
    Run (daemon view services) (get_expected_votes expected₀) () tr (.ret (CS_OK, expected)) () →
    Returns (daemon view services) (get_quorum_info qd) () (fun out _ =>
      out.1 = CS_OK ∧ out.2.highest_expected = expected ∧
        out.2.total_votes = (view.info view.local_nodeid).total_votes ∧
        out.2.quorum = (view.info view.local_nodeid).quorum ∧
        out.2.quorate = (view.info view.local_nodeid).flags &&& VOTEQUORUM_INFO_QUORATE)

/-- The readers agree exactly where node 1 is known, or the services cannot be used. -/
theorem readersAgree_iff (view : ClusterView) (services : Services) :
    ReadersAgree view services ↔ 1 ∈ view.nodes ∨ ¬ services.Open := by
  constructor
  · intro agree
    by_contra other
    simp only [not_or, not_not] at other
    obtain ⟨unknown, opened⟩ := other
    obtain ⟨tr, ⟨err, expected⟩, _, run, ends⟩ :=
      wp_terminates (daemon_live view services) (get_expected_votes_spec view services 0 ())
    obtain rfl : err = CS_OK := ends.1.mpr opened
    have returns := agree 0 expected ⟨0, 0, 0, 0⟩ tr run
    obtain ⟨tr', out, _, run'⟩ := returns.ends
    have failed := (run_wp run' (get_quorum_info_spec view services ⟨0, 0, 0, 0⟩ ())).1
    exact unknown (failed.mp (returns.result _ _ _ run').1).2
  · intro condition expected₀ expected qd tr run
    obtain ⟨ok_iff, given⟩ := run_wp run (get_expected_votes_spec view services expected₀ ())
    have opened : services.Open := ok_iff.mp rfl
    have known : 1 ∈ view.nodes := condition.resolve_right (not_not_intro opened)
    have value : expected = (view.info view.local_nodeid).highest_expected := given rfl
    refine returns_of_wp (daemon_live view services) (wp_mono (get_quorum_info_spec view services qd ()) ?_)
    rintro ⟨err, details⟩ _ ⟨ok_iff, given⟩
    have ok : err = CS_OK := ok_iff.mpr ⟨opened.1, known⟩
    have details_are : details = detailsOf (view.info 1) := given ok
    obtain ⟨highest, total, quorum, quorate⟩ := view.cluster_wide 1 known
    exact ⟨ok, by simp [details_are, detailsOf, highest, value], by simp [details_are, detailsOf, total],
      by simp [details_are, detailsOf, quorum], by simp [details_are, detailsOf, quorate]⟩

/-- A cluster whose nodes are numbered 2 and 3. -/
def withoutNode1 : ClusterView where
  nodes := {2, 3}
  info n := ⟨n, 1, 1, 2, 2, 2, 2, VOTEQUORUM_INFO_QUORATE, 0, []⟩
  local_nodeid := 2
  local_known := by decide
  cluster_wide _ _ := ⟨rfl, rfl, rfl, rfl⟩

/-- In a cluster without node 1 the expected votes can be read and the rest cannot. -/
theorem readers_disagree : ¬ ReadersAgree withoutNode1 ⟨.CS_OK, .CS_OK, .CS_OK⟩ := by
  intro agree
  obtain ⟨tr, ⟨err, expected⟩, _, run, ends⟩ :=
    wp_terminates (daemon_live _ _) (get_expected_votes_spec withoutNode1 ⟨.CS_OK, .CS_OK, .CS_OK⟩ 0 ())
  obtain rfl : err = CS_OK := ends.1.mpr ⟨rfl, rfl, rfl⟩
  have returns := agree 0 expected ⟨0, 0, 0, 0⟩ tr run
  obtain ⟨tr', out, _, run'⟩ := returns.ends
  have failed := (run_wp run' (get_quorum_info_spec withoutNode1 _ ⟨0, 0, 0, 0⟩ ())).1
  have known := (failed.mp (returns.result _ _ _ run').1).2
  exact absurd known (by decide)

end CorosyncClient.QuorumReaders
