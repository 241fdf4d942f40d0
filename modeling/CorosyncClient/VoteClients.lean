import CorosyncClient.Votes
import CorosyncClient.Interaction.Atomicity

/-!
Many clients of one cluster that read or set votes and expected votes, each by one
function of `quorum_manager.c` that makes one such call. Whatever order their calls come
in, each function takes effect at that call.
-/
namespace CorosyncClient.VoteClients
open CLib Interaction Votes
set_option linter.unusedSimpArgs false

/-- A function of `quorum_manager.c` with its arguments. An out parameter is what it
    holds before the call. -/
inductive Request where
  | get_votes (nodeid votes : UInt32)
  | get_expected_votes (expected_votes : UInt32)
  | get_votequorum_info (vqi : VotequorumInfo) (id : UInt32)
  | get_quorum_info (qd : QuorumDetails)
  | set_votes (nodeid votes : UInt32)
  | set_expected_votes (expected_votes : UInt32)

/-- What an out parameter holds. -/
inductive Out where
  | number (n : UInt32)
  | info (vqi : VotequorumInfo)
  | details (qd : QuorumDetails)
  | nothing
  deriving DecidableEq

structure Outcome where
  err : Err
  out : Out
  deriving DecidableEq

/-- What the out parameter holds before the call. -/
def Request.before : Request → Out
  | get_votes _ votes => .number votes
  | get_expected_votes expected_votes => .number expected_votes
  | get_votequorum_info vqi _ => .info vqi
  | get_quorum_info qd => .details qd
  | set_votes _ _ => .nothing
  | set_expected_votes _ => .nothing

def Request.run : Request → Client Outcome
  | get_votes nodeid votes => do
    let (err, votes) ← CorosyncClient.get_votes nodeid votes
    return ⟨err, .number votes⟩
  | get_expected_votes expected_votes => do
    let (err, expected_votes) ← CorosyncClient.get_expected_votes expected_votes
    return ⟨err, .number expected_votes⟩
  | get_votequorum_info vqi id => do
    let (err, vqi) ← CorosyncClient.get_votequorum_info vqi id
    return ⟨err, .info vqi⟩
  | get_quorum_info qd => do
    let (err, qd) ← CorosyncClient.get_quorum_info qd
    return ⟨err, .details qd⟩
  | set_votes nodeid votes => do
    let err ← CorosyncClient.set_votes nodeid votes
    return ⟨err, .nothing⟩
  | set_expected_votes expected_votes => do
    let err ← CorosyncClient.set_expected_votes expected_votes
    return ⟨err, .nothing⟩

/-- What a successful read tells of the cluster. Both numbers of `get_votequorum_info`
    are of one moment. -/
def Tells (c : Cluster) : Request → Out → Prop
  | .get_votes n _, out => out = .number (c.votes n)
  | .get_expected_votes _, out => out = .number c.expected
  | .get_votequorum_info _ n, out => ∃ vqi, out = .info vqi ∧ vqi.node_votes = c.votes n ∧ vqi.highest_expected = c.expected
  | .get_quorum_info _, out => ∃ qd, out = .details qd ∧ qd.highest_expected = c.expected
  | _, out => out = .nothing

/-- What a successful write makes of the cluster. -/
def written (c : Cluster) : Request → Cluster
  | .set_votes n v => c.setVotes n v
  | .set_expected_votes e => c.setExpected e
  | _ => c

/-- One step of a cluster that carries out a request at once. A failed request changes
    nothing and leaves its out parameter. -/
def Spec (mayFail : Prop) (c : Cluster) (request : Request) (r : Outcome) (c' : Cluster) : Prop :=
  (r.err = CS_OK ∧ Tells c request r.out ∧ c' = written c request) ∨
    (mayFail ∧ r.err ≠ CS_OK ∧ r.out = request.before ∧ c' = c)

/-! ### Where the requests take effect -/

/-- The calls of a request. -/
def mayCall : Request → Call → Prop
  | _, Call.votequorum_initialize => True
  | _, .votequorum_finalize _ => True
  | _, Call.corosync_cfg_initialize => True
  | _, .corosync_cfg_local_get _ => True
  | _, .corosync_cfg_finalize _ => True
  | .get_votes n _, .votequorum_getinfo _ m => m = n
  | .get_expected_votes _, .votequorum_getinfo _ _ => True
  | .get_votequorum_info _ n, .votequorum_getinfo _ m => m = n
  | .get_quorum_info _, .votequorum_getinfo _ m => m = 1
  | .set_votes n v, .votequorum_setvotes _ m w => m = n ∧ w = v
  | .set_expected_votes e, .votequorum_setexpected _ x => x = e
  | _, _ => False

/-- A request that looks up the local node first, and fails where the lookup fails. -/
def Request.needsNode : Request → Bool
  | get_expected_votes _ | set_expected_votes _ => true
  | _ => false

/-- What a reply of `votequorum_getinfo` leaves in the out parameter. -/
def filled (info : VotequorumInfo) : Request → Out
  | .get_votes _ _ => .number info.node_votes
  | .get_expected_votes _ => .number info.highest_expected
  | .get_votequorum_info _ _ => .info info
  | .get_quorum_info _ => .details ⟨info.highest_expected, info.total_votes, info.quorum, info.flags &&& VOTEQUORUM_INFO_QUORATE⟩
  | _ => .nothing

/-- A request that ends with the error of a call. -/
def failed (request : Request) (err : CsError) : Outcome := ⟨err.code, request.before⟩

/-- The outcome that a call and its reply fix. -/
def fixedAt (request : Request) : (c : Call) → Reply c → Option Outcome
  | Call.votequorum_initialize, (err, _) => if err = .CS_OK then none else some (failed request err)
  | Call.corosync_cfg_initialize, (err, _) => if err = .CS_OK ∨ !request.needsNode then none else some (failed request err)
  | .corosync_cfg_local_get _, (err, _) => if err = .CS_OK ∨ !request.needsNode then none else some (failed request err)
  | .votequorum_getinfo _ _, (err, info) => some (if err = .CS_OK then ⟨CS_OK, filled info request⟩ else failed request err)
  | .votequorum_setvotes _ _ _, err => some ⟨err.code, .nothing⟩
  | .votequorum_setexpected _ _, err => some ⟨err.code, .nothing⟩
  | _, _ => none

section
variable {mayFail : Prop}

theorem spec_failed (faulty : mayFail) {request : Request} {err : CsError} (notOk : err ≠ .CS_OK) (c : Cluster) :
    Spec mayFail c request (failed request err) c :=
  .inr ⟨faulty, by simpa [failed] using notOk, rfl, rfl⟩

/-- A call that opens a handle, or looks up the node, fixes no more than a failure. -/
theorem sound_opening {request : Request} {c c' : Cluster} {err : CsError} {fixed : Option Outcome}
    (answered : c' = c ∧ (err = .CS_OK ∨ mayFail)) (given : ∀ a, fixed = some a → err ≠ .CS_OK ∧ a = failed request err) :
    Moves (Spec mayFail) request c c' fixed := by
  obtain ⟨rfl, opened⟩ := answered
  refine moves_of_unchanged fun a isFixed => ?_
  obtain ⟨notOk, rfl⟩ := given a isFixed
  exact spec_failed (opened.resolve_left notOk) notOk c'

theorem tells_filled {request : Request} {handle : Handle} {n : UInt32} {c : Cluster} {info : VotequorumInfo}
    (allowed : mayCall request (.votequorum_getinfo handle n)) (own : info.node_votes = c.votes n)
    (expected : info.highest_expected = c.expected) : Tells c request (filled info request) ∧ written c request = c := by
  cases request with
  | get_votes m votes =>
    obtain rfl : n = m := allowed
    exact ⟨congrArg Out.number own, rfl⟩
  | get_expected_votes => exact ⟨congrArg Out.number expected, rfl⟩
  | get_votequorum_info vqi m =>
    obtain rfl : n = m := allowed
    exact ⟨⟨info, rfl, own, expected⟩, rfl⟩
  | get_quorum_info => exact ⟨⟨_, rfl, expected⟩, rfl⟩
  | set_votes => cases allowed
  | set_expected_votes => cases allowed

theorem sound_write {request : Request} {c c' : Cluster} {err : CsError} (write : request.before = .nothing)
    (tells : Tells c request .nothing) (answered : (err = .CS_OK ∧ c' = written c request) ∨ (mayFail ∧ err ≠ .CS_OK ∧ c' = c)) :
    Spec mayFail c request ⟨err.code, .nothing⟩ c' := by
  rcases answered with ⟨rfl, rfl⟩ | ⟨faulty, notOk, rfl⟩
  · exact .inl ⟨rfl, tells, rfl⟩
  · exact .inr ⟨faulty, by simpa using notOk, write.symm, rfl⟩

/-- Each request takes effect at its one call that reads or sets the votes. -/
def effects (mayFail : Prop) : Effects (cluster mayFail) (fun _ => True) (Spec mayFail) where
  allowed := mayCall
  point := fixedAt
  sound := by
    intro request c call r c' _ allowed answered
    refine ⟨trivial, ?_⟩
    cases call
    case votequorum_initialize =>
      refine sound_opening answered fun a fixed => ?_
      obtain ⟨notOk, rfl⟩ : r.1 ≠ .CS_OK ∧ failed request r.1 = a := by simpa [fixedAt] using fixed
      exact ⟨notOk, rfl⟩
    case corosync_cfg_initialize | corosync_cfg_local_get =>
      refine sound_opening answered fun a fixed => ?_
      obtain ⟨⟨notOk, -⟩, rfl⟩ : (r.1 ≠ .CS_OK ∧ request.needsNode = true) ∧ failed request r.1 = a := by
        simpa [fixedAt] using fixed
      exact ⟨notOk, rfl⟩
    case votequorum_getinfo handle n =>
      obtain ⟨rfl, ⟨ok, own, expected⟩ | ⟨faulty, notOk⟩⟩ := answered
      · obtain ⟨tells, same⟩ := tells_filled allowed own expected
        simp only [fixedAt, if_pos ok]
        exact .inl ⟨rfl, tells, same.symm⟩
      · simp only [fixedAt, if_neg notOk]
        exact spec_failed faulty notOk c'
    case votequorum_setvotes handle m w =>
      cases request with
      | set_votes n v =>
        obtain ⟨rfl, rfl⟩ := allowed
        exact sound_write rfl rfl answered
      | _ => cases allowed
    case votequorum_setexpected handle x =>
      cases request with
      | set_expected_votes e =>
        obtain rfl : x = e := allowed
        exact sound_write rfl rfl answered
      | _ => cases allowed
    case votequorum_finalize | corosync_cfg_finalize => exact answered
    all_goals cases request <;> cases allowed

/-! ### What the programs do -/

/-- The handle is closed when the request has its outcome. -/
theorem closes {request : Request} {α : Type} {Q : α → Option Outcome → Prop} {handle : Handle} {a : α} {outcome : Outcome}
    (given : Q a (some outcome)) :
    wlp ((effects mayFail).own request) (.call (.votequorum_finalize handle) fun _ => .ret a) Q (some outcome) := by
  refine Effects.behind_call ?_ (fun _ => rfl) (fun _ => given)
  cases request <;> trivial

theorem call_cfg_finalize {request : Request} {α : Type} {Q : α → Option Outcome → Prop} {handle : Handle} {a : α}
    {known : Option Outcome} (given : Q a known) :
    wlp ((effects mayFail).own request) (.call (.corosync_cfg_finalize handle) fun _ => .ret a) Q known := by
  have allowed : (effects mayFail).allowed request (.corosync_cfg_finalize handle) := by cases request <;> trivial
  cases known with
  | none => exact Effects.before_call allowed (fun _ _ _ _ _ => given)
  | some outcome => exact Effects.behind_call allowed (fun _ => rfl) (fun _ => given)

/-- A lookup of the local node has no outcome, or the one of a request that needs it. -/
theorem get_local_nodeid_own (request : Request) (id : UInt32) :
    wlp ((effects mayFail).own request) (get_local_nodeid id) (fun out known =>
      known = if out.1 = CS_OK ∨ !request.needsNode then none else some ⟨out.1, request.before⟩) none := by
  simp only [get_local_nodeid, perform_bind, Prog.pure_eq]
  refine Effects.before_call (by cases request <;> trivial) ?_
  rintro ⟨err, handle⟩ - - - -
  simp only [wlp_ite]
  constructor
  · intro notOk
    simp [effects, fixedAt, notOk, failed]
  · intro ok
    rw [show (effects mayFail).point request Call.corosync_cfg_initialize (err, handle) = none by simp [effects, fixedAt, not_ne_iff.mp ok]]
    refine Effects.before_call (by cases request <;> trivial) ?_
    rintro ⟨err, found⟩ - - - -
    simp only [wlp_ite]
    constructor
    · intro notOk
      exact call_cfg_finalize (by simp [effects, fixedAt, notOk, failed])
    · intro ok
      exact call_cfg_finalize (by simp [effects, fixedAt, not_ne_iff.mp ok])

/-- Without a handle there is no request. -/
theorem call_votequorum_initialize {request : Request} {α : Type} {Q : α → Option Outcome → Prop}
    {next : CsError × Handle → Client α}
    (fails : ∀ err handle, err ≠ .CS_OK → wlp ((effects mayFail).own request) (next (err, handle)) Q (some (failed request err)))
    (succeeds : ∀ handle, wlp ((effects mayFail).own request) (next (.CS_OK, handle)) Q none) :
    wlp ((effects mayFail).own request) (.call Call.votequorum_initialize next) Q none := by
  refine Effects.before_call (by cases request <;> trivial) ?_
  rintro ⟨err, handle⟩ - - - -
  by_cases ok : err = .CS_OK
  · subst ok
    exact succeeds handle
  · rw [show (effects mayFail).point request Call.votequorum_initialize (err, handle) = some (failed request err) from if_neg ok]
    exact fails err handle ok

/-- The lookup of the local node, by a request that fails with it. -/
theorem call_get_local_nodeid {request : Request} {α : Type} {Q : α → Option Outcome → Prop} {next : Err × UInt32 → Client α}
    (needs : request.needsNode = true)
    (fails : ∀ err id, err ≠ CS_OK → wlp ((effects mayFail).own request) (next (err, id)) Q (some ⟨err, request.before⟩))
    (succeeds : ∀ id, wlp ((effects mayFail).own request) (next (CS_OK, id)) Q none) :
    wlp ((effects mayFail).own request) (get_local_nodeid 0 >>= next) Q none := by
  refine wlp_seq (get_local_nodeid_own request 0) ?_
  rintro ⟨err, id⟩ _ rfl
  simp only [needs, Bool.not_true, Bool.false_eq_true, or_false]
  by_cases ok : err = CS_OK
  · subst ok
    exact succeeds id
  · rw [if_neg ok]
    exact fails err id ok

/-- The question of a request that reads. -/
theorem call_votequorum_getinfo {request : Request} {α : Type} {Q : α → Option Outcome → Prop} {handle : Handle} {n : UInt32}
    {next : CsError × VotequorumInfo → Client α} (allowed : mayCall request (.votequorum_getinfo handle n))
    (fails : ∀ err info, err ≠ .CS_OK → wlp ((effects mayFail).own request) (next (err, info)) Q (some (failed request err)))
    (succeeds : ∀ info, wlp ((effects mayFail).own request) (next (.CS_OK, info)) Q (some ⟨CS_OK, filled info request⟩)) :
    wlp ((effects mayFail).own request) (.call (.votequorum_getinfo handle n) next) Q none := by
  refine Effects.before_call allowed ?_
  rintro ⟨err, info⟩ - - - -
  by_cases ok : err = .CS_OK
  · subst ok
    exact succeeds info
  · rw [show (effects mayFail).point request (.votequorum_getinfo handle n) (err, info) = some (failed request err) from
      congrArg some (if_neg ok)]
    exact fails err info ok

theorem get_votes_carries (nodeid votes : UInt32) :
    (effects mayFail).Carries (Request.run (.get_votes nodeid votes)) (.get_votes nodeid votes) := by
  rw [Effects.Carries, Request.run, wlp_bind, CorosyncClient.get_votes]
  simp only [perform_bind, Prog.pure_eq, wlp_ret]
  refine call_votequorum_initialize ?_ fun handle => ?_
  · intro err handle notOk
    rw [if_pos notOk]
    rfl
  · refine wlp_seq (get_local_nodeid_own _ 0) ?_
    rintro _ _ rfl
    rw [if_pos (.inr rfl)]
    refine call_votequorum_getinfo rfl ?_ ?_
    · intro err info notOk
      rw [if_pos notOk]
      exact closes rfl
    · intro info
      exact closes (by simp [filled])

theorem get_expected_votes_carries (expected_votes : UInt32) :
    (effects mayFail).Carries (Request.run (.get_expected_votes expected_votes)) (.get_expected_votes expected_votes) := by
  rw [Effects.Carries, Request.run, wlp_bind, CorosyncClient.get_expected_votes]
  simp only [perform_bind, Prog.pure_eq, wlp_ret]
  refine call_get_local_nodeid (by rfl) ?_ fun nodeid => ?_
  · intro err id notOk
    rw [if_pos notOk]
    rfl
  · refine call_votequorum_initialize ?_ fun handle => ?_
    · intro err handle notOk
      rw [if_pos notOk]
      rfl
    · refine call_votequorum_getinfo trivial ?_ ?_
      · intro err info notOk
        rw [if_pos notOk]
        exact closes rfl
      · intro info
        exact closes (by simp [filled])

theorem get_votequorum_info_carries (vqi : VotequorumInfo) (id : UInt32) :
    (effects mayFail).Carries (Request.run (.get_votequorum_info vqi id)) (.get_votequorum_info vqi id) := by
  rw [Effects.Carries, Request.run, wlp_bind, CorosyncClient.get_votequorum_info]
  simp only [perform_bind, Prog.pure_eq, wlp_ret]
  refine call_votequorum_initialize ?_ fun handle => ?_
  · intro err handle notOk
    rw [if_pos notOk]
    rfl
  · refine call_votequorum_getinfo rfl ?_ ?_
    · intro err info notOk
      rw [if_pos notOk]
      exact closes rfl
    · intro info
      exact closes rfl

theorem get_quorum_info_carries (qd : QuorumDetails) :
    (effects mayFail).Carries (Request.run (.get_quorum_info qd)) (.get_quorum_info qd) := by
  rw [Effects.Carries, Request.run, wlp_bind, CorosyncClient.get_quorum_info]
  simp only [perform_bind, Prog.pure_eq, wlp_ret]
  refine call_votequorum_initialize ?_ fun handle => ?_
  · intro err handle notOk
    rw [if_pos notOk]
    rfl
  · refine wlp_seq (get_local_nodeid_own _ 0) ?_
    rintro _ _ rfl
    rw [if_pos (.inr rfl)]
    refine call_votequorum_getinfo rfl ?_ ?_
    · intro err info notOk
      rw [if_pos notOk]
      exact closes rfl
    · intro info
      exact closes rfl

theorem set_votes_carries (nodeid votes : UInt32) :
    (effects mayFail).Carries (Request.run (.set_votes nodeid votes)) (.set_votes nodeid votes) := by
  rw [Effects.Carries, Request.run, wlp_bind, CorosyncClient.set_votes]
  simp only [perform_bind, Prog.pure_eq, wlp_ret]
  refine call_votequorum_initialize ?_ fun handle => ?_
  · intro err handle notOk
    rw [if_pos notOk]
    rfl
  · refine Effects.before_call ⟨rfl, rfl⟩ ?_
    intro err _ _ _ _
    rw [wlp_ite]
    refine ⟨fun _ => closes rfl, fun ok => ?_⟩
    rw [not_ne_iff.mp ok]
    exact closes rfl

theorem set_expected_votes_carries (expected_votes : UInt32) :
    (effects mayFail).Carries (Request.run (.set_expected_votes expected_votes)) (.set_expected_votes expected_votes) := by
  rw [Effects.Carries, Request.run, wlp_bind, CorosyncClient.set_expected_votes]
  simp only [perform_bind, Prog.pure_eq, wlp_ret]
  refine call_get_local_nodeid (by rfl) ?_ fun nodeid => ?_
  · intro err id notOk
    rw [if_pos notOk]
    rfl
  · refine call_votequorum_initialize ?_ fun handle => ?_
    · intro err handle notOk
      rw [if_pos notOk]
      rfl
    · refine Effects.before_call rfl ?_
      intro err _ _ _ _
      rw [wlp_ite]
      refine ⟨fun _ => closes rfl, fun ok => ?_⟩
      rw [not_ne_iff.mp ok]
      exact closes rfl

/-- Any number of clients that read and set the votes and the expected votes of a cluster,
    however their calls interleave and whatever calls fail: the history is that of a
    cluster that carries out each request at one moment between its call and its return. -/
theorem requests_atomic {ι : Type} [DecidableEq ι] {q : ι → Option (Client Outcome)} {c t : Cluster}
    {h : List (Action ι Request Outcome)} (run : Concurrent (cluster mayFail) Request.run (fun _ => none) c h q t) :
    (∃ l, Atomic (Spec mayFail) (fun _ => .idle) c h l t) ∧
    ∃ steps, Steps (Spec mayFail) c steps t ∧
      ∀ i, (share i steps).map Prod.fst <+: invoked i h ∧ responded i h <+: (share i steps).map Prod.snd := by
  have carries : ∀ request, (effects mayFail).Carries (Request.run request) request := by
    intro request
    cases request with
    | get_votes nodeid votes => exact get_votes_carries nodeid votes
    | get_expected_votes expected_votes => exact get_expected_votes_carries expected_votes
    | get_votequorum_info vqi id => exact get_votequorum_info_carries vqi id
    | get_quorum_info qd => exact get_quorum_info_carries qd
    | set_votes nodeid votes => exact set_votes_carries nodeid votes
    | set_expected_votes expected_votes => exact set_expected_votes_carries expected_votes
  obtain ⟨l, atomic⟩ := concurrent_atomic (effects mayFail) carries run trivial
  exact ⟨⟨l, atomic⟩, atomic_sequential atomic⟩

end

/-- One client sets the votes of node 2, another reads them, their calls in turn. -/
def pair : List (Bool × Option Request) :=
  [(true, some (.get_votes 2 0)), (false, some (.set_votes 2 5))] ++ (List.replicate 8 [(true, none), (false, none)]).flatten

/-- What the two clients see. -/
def pairSeen : List (Action Bool Request Outcome) := (follow (obliging false) Request.run pair (fun _ => none) twoNodes).1

example : responded true pairSeen = [⟨CS_OK, .number 5⟩] := by rfl

theorem pair_run : Concurrent (cluster False) Request.run (fun _ => none) twoNodes pairSeen
    (follow (obliging false) Request.run pair (fun _ => none) twoNodes).2.1
    (follow (obliging false) Request.run pair (fun _ => none) twoNodes).2.2 :=
  follow_concurrent (obliging_answers (by decide)) pair (fun _ => none) twoNodes

theorem requests_atomic_pair :
    ∃ steps t, Steps (Spec False) twoNodes steps t ∧
      ∀ i, (share i steps).map Prod.fst <+: invoked i pairSeen ∧ responded i pairSeen <+: (share i steps).map Prod.snd := by
  obtain ⟨-, steps, sequence, agree⟩ := requests_atomic pair_run
  exact ⟨steps, _, sequence, agree⟩

end CorosyncClient.VoteClients
