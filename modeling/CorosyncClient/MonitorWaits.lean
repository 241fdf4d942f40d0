import CorosyncClient.Handles

/-!
The handles with which the monitor waits for events. `init_all` opens a votequorum handle
only where the configuration names votequorum as the provider; the loop dispatches on it
in any case.
-/
namespace CorosyncClient.MonitorWaits
open CLib Interaction Handles
set_option linter.unusedSimpArgs false

/-! ### What a trace tells -/

def givesQuorum (h : Handle) : LibEvent → Bool
  | ⟨ Call.quorum_initialize, r⟩ => r.1 = .CS_OK && r.2.1 = h
  | _ => false

def givesVotequorum (h : Handle) : LibEvent → Bool
  | ⟨ Call.votequorum_initialize, r⟩ => r.1 = .CS_OK && r.2 = h
  | _ => false

def findsProvider : LibEvent → Bool
  | ⟨.cmap_get_string _ key, (err, str)⟩ =>
    key = ascii "quorum.provider" && err = .CS_OK && str.map CString.chars = some (ascii "corosync_votequorum")
  | _ => false

/-- `quorum_initialize` has given the handle. -/
abbrev QuorumOpened (tr : List LibEvent) (h : Handle) : Prop := Occurs (givesQuorum h) tr

/-- `votequorum_initialize` has given the handle. -/
abbrev VotequorumOpened (tr : List LibEvent) (h : Handle) : Prop := Occurs (givesVotequorum h) tr

/-- A lookup of the provider has found votequorum. -/
abbrev ProviderFound (tr : List LibEvent) : Prop := Occurs findsProvider tr

/-- The matching call has given the handle with which the monitor waits. -/
def OpenedFor (tr : List LibEvent) : Call → Prop
  | .quorum_trackstart h _ => QuorumOpened tr h
  | .votequorum_trackstart h _ => VotequorumOpened tr h
  | .votequorum_dispatch h => VotequorumOpened tr h
  | _ => False

/-- The handle with which the monitor waits is open. -/
def OpenNow (s : Finset Resource) : Call → Prop
  | .quorum_trackstart h _ => .quorum h ∈ s
  | .votequorum_trackstart h _ => .votequorum h ∈ s
  | .votequorum_dispatch h => .votequorum h ∈ s
  | _ => False

/-! ### `init_all` -/

/-- The trace goes on by a lookup of the provider, which finds votequorum where `yes`. -/
def LookedUp (before after : Finset Resource × List LibEvent) (yes : Prop) : Prop :=
  after.1 = before.1 ∧ ∃ lookup, after.2 = before.2 ++ lookup ∧ (ProviderFound lookup ↔ yes) ∧
    (∀ h, ¬ QuorumOpened lookup h) ∧ ∀ h, ¬ VotequorumOpened lookup h

theorem code_ne_zero (err : CsError) : err.code ≠ 0 := by
  cases err <;> decide

/-- The buffer of 256 bytes holds the whole name of votequorum, and no other name
    becomes that name when it is cut. -/
theorem cut_eq_iff (text : Bytes) :
    text.take 255 = ascii "corosync_votequorum" ↔ text = ascii "corosync_votequorum" := by
  constructor
  · intro same
    have short := congrArg List.length same
    rw [List.length_take, show (ascii "corosync_votequorum").length = 19 from by decide] at short
    rwa [List.take_of_length_le (by omega)] at same
  · rintro rfl
    decide

theorem get_quorum_type_spec (g : Globals) (size : Nat) (s : Finset Resource × List LibEvent) :
    wlp services.traced (get_quorum_type g (List.replicate size 0) 256)
      (fun out t => LookedUp s t (out.1 = 0 ∧ cstr out.2 = ascii "corosync_votequorum")) s := by
  obtain ⟨s, tr⟩ := s
  simp only [get_quorum_type, perform_bind, Prog.pure_eq, wlp_ite, wlp_traced_call]
  refine ⟨fun _ => ⟨rfl, [], by simp⟩, fun _ => ⟨⟨by simp [closes], by simp⟩, ?_⟩⟩
  rintro ⟨err, str⟩ _ rfl
  refine ⟨fun failed => ⟨rfl, _, rfl, ?_⟩, fun ok => ?_⟩
  · have notOk : err ≠ .CS_OK := failed
    simp [findsProvider, givesQuorum, givesVotequorum, code_ne_zero, notOk]
  · have err_ok : err = .CS_OK := not_ne_iff.mp ok
    cases str with
    | none =>
      refine ⟨rfl, _, rfl, ?_⟩
      simp [findsProvider, givesQuorum, givesVotequorum]
    | some str =>
      refine ⟨rfl, _, rfl, ?_⟩
      simp [findsProvider, givesQuorum, givesVotequorum, err_ok,
        cstr_strncpy str.nul_free, cut_eq_iff]

theorem using_votequorum_spec (g : Globals) (s : Finset Resource × List LibEvent) :
    wlp services.traced (using_votequorum g) (fun v t => LookedUp s t (0 < v)) s := by
  refine wlp_seq (get_quorum_type_spec g 256 s) ?_
  rintro ⟨failed, quorumtype⟩ t looked
  simp only [wlp_ite, wlp_ret, Prog.pure_eq]
  refine ⟨fun bad => ?_, fun good => ⟨fun same => ?_, fun other => ?_⟩⟩
  · simpa [bad] using looked
  · simpa [not_ne_iff.mp good, same] using looked
  · simpa [other] using looked

/-- Where `init_all` succeeds, the handles in the globals are what its calls have given,
    the one of votequorum where the lookup has found it. -/
structure InitTrace (g : Globals) (tr : List LibEvent) : Prop where
  quorum : QuorumOpened tr g.q_handle
  quorum_set : g.q_handle ≠ 0
  found : ProviderFound tr → VotequorumOpened tr g.v_handle ∧ g.v_handle ≠ 0
  other : ¬ ProviderFound tr → ¬ VotequorumOpened tr g.v_handle

theorem init_all_trace (g : Globals) (s : Finset Resource) :
    wlp services.traced (init_all g) (fun out t => out.1 = 0 → InitTrace out.2 t.2) (s, []) := by
  have message : ∀ (text : Bytes) (g : Globals) (t : Finset Resource × List LibEvent),
      wlp services.traced (.call (.eprintf text) fun _ => .ret (-1, g)) (fun out t => out.1 = 0 → InitTrace out.2 t.2) t :=
    fun text g t => ⟨⟨by simp [closes], fun _ => trivial⟩, fun _ _ _ bad => absurd bad (by simp)⟩
  simp only [init_all, perform_bind, Prog.pure_eq, wlp_traced_call]
  refine ⟨⟨by simp [closes], fun _ => trivial⟩, fun cmap t _ => ?_⟩
  rw [wlp_ite]
  refine ⟨fun _ => message _ _ _, fun _ => ?_⟩
  rw [wlp_traced_call]
  refine ⟨⟨by simp [closes], fun _ => trivial⟩, fun quorum t opened => ?_⟩
  rw [wlp_ite]
  refine ⟨fun _ => message _ _ _, fun quorumOk => ?_⟩
  have quorum_ok : quorum.1 = .CS_OK := not_ne_iff.mp quorumOk
  have quorum_set : quorum.2.1 ≠ 0 := by
    simp only [ledger, closes, opens, quorum_ok, if_true] at opened
    exact opened.1.1
  rw [wlp_traced_call]
  refine ⟨⟨by simp [closes], fun _ => trivial⟩, fun cfg t _ => ?_⟩
  rw [wlp_ite]
  refine ⟨fun _ => message _ _ _, fun _ => ?_⟩
  refine wlp_seq (using_votequorum_spec _ _) ?_
  rintro using_vq ⟨t, tr⟩ ⟨_, lookup, extended, found, noQuorum, noVotequorum⟩
  simp only at extended
  subst extended
  rw [wlp_ite]
  refine ⟨fun negative _ => ⟨?_, quorum_set, ?_, ?_⟩, fun positive => ?_⟩
  · simp [givesQuorum, quorum_ok]
  · intro isFound
    have isFound' : ProviderFound lookup := by simpa [findsProvider] using isFound
    exact absurd (found.mp isFound') (not_lt.mpr negative)
  · intro _
    simpa [givesVotequorum] using noVotequorum 0
  have provider : ProviderFound lookup := found.mpr (not_le.mp positive)
  rw [wlp_traced_call]
  refine ⟨⟨by simp [closes], fun _ => trivial⟩, fun votequorum t opened => ?_⟩
  rw [wlp_ite]
  refine ⟨fun _ => message _ _ _, fun votequorumOk => ?_⟩
  have votequorum_ok : votequorum.1 = .CS_OK := not_ne_iff.mp votequorumOk
  have votequorum_set : votequorum.2 ≠ 0 := by
    simp only [ledger, closes, opens, votequorum_ok, if_true] at opened
    exact opened.1.1
  rw [wlp_traced_call]
  refine ⟨⟨by simp [closes], fun _ => trivial⟩, fun id t _ => ?_⟩
  rw [wlp_ite]
  refine ⟨fun _ => message _ _ _, fun _ _ => ⟨?_, quorum_set, fun _ => ⟨?_, votequorum_set⟩, fun none => ?_⟩⟩
  · simp [givesQuorum, quorum_ok]
  · simp [givesVotequorum, votequorum_ok]
  · simp [provider] at none

/-! ### The monitor -/

/-- Whenever the monitor waits, its handle has been opened by `init_all` and is still open
    exactly when it waits by `quorum_trackstart`, or the lookup of the provider in
    `init_all` has found votequorum. -/
theorem waits_on_open_iff {fuel : Nat} {u : Nat → Uninit} {g : Globals} {s t : Finset Resource} {tr : List LibEvent}
    {c : Call} {next : Reply c → Client (Int × Globals)}
    (run : Run services (monitor_status fuel u g) s tr (.call c next) t) (waiting : tracks c = true) :
    ∃ tr₁ g', tr₁ <+: tr ∧ Run services (init_all g) s tr₁ (.ret (0, g')) t ∧
      (OpenedFor tr₁ c ∧ OpenNow t c ↔ (∃ h flags, c = .quorum_trackstart h flags) ∨ ProviderFound tr₁) := by
  obtain ⟨tr₁, g', isPrefix, first, member⟩ := waits_after_init run waiting
  have trace := run_ret_traced (init_all_trace g s) first rfl
  have opened := run_ret (init_all_spec g s) first
  have quorumOpen : .quorum g'.q_handle ∈ t := opened_mem opened (by simp [handles, trace.quorum_set])
  have votequorumOpen : ProviderFound tr₁ → VotequorumOpened tr₁ g'.v_handle ∧ .votequorum g'.v_handle ∈ t :=
    fun found => ⟨(trace.found found).1, opened_mem opened (by simp [handles, (trace.found found).2])⟩
  have given : VotequorumOpened tr₁ g'.v_handle → ProviderFound tr₁ :=
    fun isGiven => by_contra fun other => trace.other other isGiven
  refine ⟨tr₁, g', isPrefix, first, ?_⟩
  simp only [waits, List.mem_cons, List.not_mem_nil, or_false] at member
  rcases member with rfl | rfl | rfl
  · exact iff_of_true ⟨trace.quorum, quorumOpen⟩ (.inl ⟨_, _, rfl⟩)
  · exact ⟨fun valid => .inr (given valid.1), fun found => votequorumOpen (by simpa using found)⟩
  · exact ⟨fun valid => .inr (given valid.1), fun found => votequorumOpen (by simpa using found)⟩

/-- The provider is not votequorum. -/
def otherProvider : CsError × Option CString := (.CS_OK, some ⟨ascii "corosync_quorum_ykd", by decide⟩)

def otherTrace : List LibEvent :=
  [⟨ Call.cmap_initialize, (.CS_OK, 1)⟩, ⟨ Call.quorum_initialize, (.CS_OK, 2, 1)⟩, ⟨ Call.corosync_cfg_initialize, (.CS_OK, 3)⟩,
    ⟨.cmap_get_string 1 (ascii "quorum.provider"), otherProvider⟩, ⟨.quorum_trackstart 2 CS_TRACK_CHANGES, .CS_OK⟩,
    ⟨.cmap_get_string 1 (ascii "quorum.provider"), otherProvider⟩]

/-- The monitor with memory and globals that are zero when it starts. -/
def monitor : Client (Int × Globals) := monitor_status 1 (fun _ => ⟨0, 0, 0, [], fun _ => ⟨0, [], []⟩, 0, 0⟩) ⟨0, 0, 0, 0, 0, 0⟩

theorem other_run : ∃ next t, Run services monitor ∅ otherTrace (.call (.votequorum_dispatch 0) next) t :=
  ⟨_, _, .step ⟨⟨by decide, by simp, by simp⟩, rfl⟩ <| .step ⟨⟨by decide, by simp, by simp [Resource.Within]⟩, rfl⟩ <|
    .step ⟨⟨by decide, by simp, by simp [Resource.Within]⟩, rfl⟩ <| .step rfl <| .step rfl <| .step rfl .done⟩

theorem waits_on_open_iff_other :
    ∃ next t, Run services monitor ∅ otherTrace (.call (.votequorum_dispatch 0) next) t ∧
      ∃ tr₁ g', tr₁ <+: otherTrace ∧ Run services (init_all ⟨0, 0, 0, 0, 0, 0⟩) ∅ tr₁ (.ret (0, g')) t ∧
        (OpenedFor tr₁ (.votequorum_dispatch 0) ∧ OpenNow t (.votequorum_dispatch 0) ↔
          (∃ h flags, Call.votequorum_dispatch 0 = .quorum_trackstart h flags) ∨ ProviderFound tr₁) := by
  obtain ⟨next, t, run⟩ := other_run
  exact ⟨next, t, run, waits_on_open_iff run rfl⟩

/-- Under another provider the monitor dispatches on a handle that was never opened. -/
theorem dispatch_without_handle :
    ¬ ∀ (tr : List LibEvent) (c : Call) (next : Reply c → Client (Int × Globals)) (t : Finset Resource),
      Run services monitor ∅ tr (.call c next) t → tracks c = true →
      ∃ tr₁ g', tr₁ <+: tr ∧ Run services (init_all ⟨0, 0, 0, 0, 0, 0⟩) ∅ tr₁ (.ret (0, g')) t ∧
        OpenedFor tr₁ c ∧ OpenNow t c := by
  intro disciplined
  obtain ⟨next, t, run⟩ := other_run
  obtain ⟨tr₁, _, ⟨rest, split⟩, _, given, _⟩ := disciplined _ _ _ _ run rfl
  have occurs : VotequorumOpened otherTrace 0 := by
    rw [← split, VotequorumOpened, occurs_append]
    exact .inl given
  exact absurd occurs (by decide)

end CorosyncClient.MonitorWaits
