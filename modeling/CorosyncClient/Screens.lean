import CorosyncClient.Interaction.Simulation
import CorosyncClient.MemberTable
import CorosyncClient.Tasks

/-!
What the prints and the monitor show. A print is a function of what the services of an
unchanging cluster tell. Where the cluster changes only when an event is delivered, and no
call fails but the wait for it, the output of the monitor is one screen for each event,
of what the services tell at that event.
-/
namespace CorosyncClient.Screens
open CLib Interaction Services CmapStore Tasks CorosyncClient.Membership
set_option linter.unusedSimpArgs false

/-! ### Views and screens -/

/-- What the services tell at one moment. Its members are such that the print of the
    membership needs nothing but what they hold. -/
structure View where
  /-- The keys under `members.` with their values; a key `ip` or `status` of a node holds
      a string. -/
  members : Content
  /-- Every node has an `ip` of at most 45 characters and a `status` of at most 31, no
      suffix of a key has more than 63, and no node has the id 4294967295. -/
  regular : members.Regular
  /-- The count of the nodes is an `int`. -/
  few : members.ids.card < 2 ^ 31
  /-- What votequorum tells of each node. -/
  info : UInt32 → VotequorumInfo
  local_nodeid : UInt32

namespace View
variable (v : View)

/-- The state of the quorum, as node 1 is told of it. -/
def quorumText : Bytes :=
  ascii "\nQuorum information\n" ++ ascii "----------------------\n" ++
    (ascii "Quorate: " ++ (if (v.info 1).flags &&& VOTEQUORUM_INFO_QUORATE = VOTEQUORUM_INFO_QUORATE then ascii "yes"
      else ascii "no (Activity Blocked)") ++ ascii "\n") ++
    (ascii "Quorum: " ++ decimalInt (v.info 1).quorum.toInt32.toInt ++ ascii "\n") ++
    (ascii "Total Votes: " ++ decimalInt (v.info 1).total_votes.toInt32.toInt ++ ascii "\n") ++
    (ascii "Expected Votes: " ++ decimalInt (v.info 1).highest_expected.toInt32.toInt ++ ascii "\n")

/-- The table of the members. -/
def membershipText : Bytes :=
  ascii "\nMembership information\n" ++ ascii "----------------------\n" ++
    v.members.order.flatMap (v.members.line (fun n => (v.info n).node_votes) v.local_nodeid)

/-- A screen, with what `ctime` has given. -/
def screen (time : Bytes) : Bytes := v.quorumText ++ time ++ v.membershipText

end View

/-- `out` is `before` and one screen for each of the events, in their order; `Clock` says
    what `ctime` may give. -/
inductive Shown (Clock : Bytes → Prop) (before : Bytes) : List View → Bytes → Prop
  | start : Shown Clock before [] before
  | next {events : List View} {out : Bytes} (v : View) {time : Bytes} :
      Clock time → Shown Clock before events out → Shown Clock before (events ++ [v]) (out ++ v.screen time)

/-! ### The prints of an unchanging cluster -/

section
variable {Clock : Bytes → Prop} {v : View}

/-- The services of an unchanging cluster. -/
@[simps] def telling (Clock : Bytes → Prop) (v : View) : LibWorld Scan where
  permits := (members False (fun n => (v.info n).node_votes) v.local_nodeid).permits
  answers s c r s' :=
    (members False (fun n => (v.info n).node_votes) v.local_nodeid).answers s c r s' ∧
      match c with
      | .votequorum_getinfo _ n => r = (.CS_OK, v.info n)
      | .ctime => Clock r
      | _ => True

/-- A spec of the membership alone is one of all services. -/
theorem telling_of_members {α : Type} {p : Client α} {Q : α → Scan → Prop} {s : Scan}
    (holds : wp (members False (fun n => (v.info n).node_votes) v.local_nodeid) p Q s) : wp (telling Clock v) p Q s := by
  refine wp_restrict ?_ ?_ holds
  · exact fun _ _ permitted => permitted
  · exact fun _ _ _ _ answered => answered.1

theorem get_quorum_info_tells (qd : QuorumDetails) (s : Scan) :
    wp (telling Clock v) (get_quorum_info qd) (fun out t => t = s ∧ out = (CS_OK,
      { highest_expected := (v.info 1).highest_expected, total_votes := (v.info 1).total_votes,
        quorum := (v.info 1).quorum, quorate := (v.info 1).flags &&& VOTEQUORUM_INFO_QUORATE })) s := by
  simp only [get_quorum_info, perform_bind, Prog.pure_eq, wp_call, wp_ite, wp_ret, telling_permits, telling_answers, members_permits,
    members_answers, true_and, and_true]
  rintro ⟨err, handle⟩ _ ⟨rfl, opened⟩
  refine ⟨fun failed => absurd (opened.resolve_right id) failed, fun _ => ?_⟩
  refine wp_seq (telling_of_members (get_local_nodeid_spec 0 _)) ?_
  rintro _ _ ⟨rfl, -, -⟩
  simp only [wp_call, wp_ite, wp_ret, telling_permits, telling_answers, members_permits, members_answers, true_and, and_true]
  rintro _ _ ⟨⟨rfl, -⟩, rfl⟩
  refine ⟨fun failed => absurd rfl failed, fun _ => ?_⟩
  rintro _ _ rfl
  exact ⟨rfl, rfl⟩

theorem print_quorum_tells (s : Scan) :
    wp (telling Clock v) print_quorum
      (fun err t => err = CS_OK ∧ ∃ time, Clock time ∧ t = { s with out := s.out ++ v.quorumText ++ time }) s := by
  unfold print_quorum
  refine wp_seq (get_quorum_info_tells _ s) ?_
  rintro _ s ⟨rfl, rfl⟩
  simp only [print_time, ne_eq, not_true, if_false, perform_bind, Prog.call_bind, Prog.pure_eq, Prog.ret_bind, wp_call, wp_ret,
    telling_permits, telling_answers, members_permits, members_answers, true_and, and_true, forall_eq]
  rintro _ _ _ _ _ _ time _ ⟨rfl, clock⟩ _
  refine ⟨time, clock, ?_⟩
  simp [View.quorumText]

end

/-! ### The services -/

/-- What is true now, the events so far, the keys that an iteration still has to give, and
    what was printed. -/
structure Watch where
  view : View
  events : List View
  rest : List Member
  out : Bytes

/-- Only the wait for an event may fail, and only an event changes what is true. Before
    the first event the string that is read is the name of the provider, which may be any.
    At each wait the state must satisfy `I`. -/
@[simps] def watched (Clock : Bytes → Prop) (I : Watch → Prop) : LibWorld Watch where
  permits s c :=
    match c with
    | .votequorum_dispatch _ => I s
    | _ => True
  answers s c r s' :=
    match c with
    | .votequorum_dispatch _ =>
      (r = .CS_OK ∧ ∃ v, s' = { s with view := v, events := s.events ++ [v] }) ∨ (r ≠ .CS_OK ∧ s' = s)
    | Call.cmap_initialize => s' = s ∧ r.1 = .CS_OK
    | .cmap_iter_init _ key_prefix =>
      r.1 = .CS_OK ∧ s' = { s with rest := s.view.members.entries.filter (fun m => key_prefix <+: m.key) }
    | .cmap_iter_next _ _ =>
      match s.rest with
      | m :: rest => r = (.CS_OK, m.key, m.value.len, m.value.type) ∧ s' = { s with rest := rest }
      | [] => r.1 ≠ .CS_OK ∧ s' = s
    | .cmap_get _ key value_len => s' = s ∧ GetReply False (s.view.members.find key) value_len r
    | .cmap_get_string _ key => s' = s ∧ (s.events = [] ∨ GetStringReply False (s.view.members.find key) r)
    | Call.votequorum_initialize => s' = s ∧ r.1 = .CS_OK
    | .votequorum_getinfo _ n => s' = s ∧ r = (.CS_OK, s.view.info n)
    | Call.corosync_cfg_initialize => s' = s ∧ r.1 = .CS_OK
    | .corosync_cfg_local_get _ => s' = s ∧ r = (.CS_OK, s.view.local_nodeid)
    | .ctime => s' = s ∧ Clock r
    | .printf text => s' = { s with out := s.out ++ text }
    | _ => s' = s

section
variable {Clock : Bytes → Prop} {I : Watch → Prop}

/-! ### The membership -/

/-- The table is printed whatever the fuel is, if the print comes to its end. -/
theorem print_membership_spec (v : View) (fuel : Nat) (u : Uninit) (rest : List Member) (out : Bytes) :
    wlp (telling Clock v) (print_membership fuel u) (fun _ t => t.out = out ++ v.membershipText)
      ⟨v.members, v.members, rest, out⟩ := by
  -- the table is that of the scans alone
  refine wlp_restrict (V := members False (fun n => (v.info n).node_votes) v.local_nodeid) (W := telling Clock v)
    (fun _ _ permitted => permitted) (fun _ _ _ _ answered => answered.1) ?_
  have safe := (scanSafe_iff_bounded v.members v.members).mpr (bounded_of_regular v.regular v.few)
  have length : (Int32.ofNat v.members.order.length).toInt.toNat = v.members.order.length := by
    rw [Content.order_length, counted_eq v.regular, Int32.toInt_ofNat_of_lt v.few, Int.toNat_natCast]
  unfold print_membership
  refine wlp_seq (get_member_count_wlp _ _ fuel _) ?_
  rintro ⟨err, count⟩ t ⟨sound, ends⟩
  obtain rfl := sound not_false
  obtain ⟨_, ⟨rfl, rfl⟩, rfl⟩ := ends rfl
  simp only [ne_eq, not_true, if_false]
  refine wlp_seq (wlp_of_wp (malloc_entries_spec _ _)) ?_
  rintro _ _ rfl
  refine wlp_seq (wlp_of_wp (get_local_nodeid_spec _ _)) ?_
  rintro ⟨err, here⟩ _ ⟨rfl, sound, found⟩
  obtain rfl : here = _ := found (sound not_false)
  rw [← Content.order_length] at safe
  refine wlp_seq (get_members_wlp _ _ _ safe fuel) ?_
  rintro ⟨err, arr⟩ t ⟨sound, ends⟩
  obtain rfl := sound not_false
  obtain ⟨_, ⟨rfl, placed⟩, rfl⟩ := ends rfl
  obtain rfl : arr = _ := placed not_false
  simp only [perform_bind, Prog.pure_eq, wlp_call, members_permits, members_answers, true_and, forall_eq]
  refine fun _ _ => wlp_seq (wlp_of_wp (print_members_spec _ _ _ _ _)) ?_
  rintro _ _ ⟨lines, rfl, printed⟩
  have table := placeAll_table v.regular v.few u.entries
  rw [wlp_ret, printed not_false, length, flatMap_range fun k n comes => memberLine_eq table _ _ comes]
  simp [View.membershipText]

/-- The state of the scans at an event. -/
structure Scanning (v : View) (events : List View) (s : Watch) (t : Scan) : Prop where
  view : s.view = v
  events : s.events = events
  scan : t = ⟨v.members, v.members, s.rest, s.out⟩

/-- Behind an event the services tell the prints what those of an unchanging cluster tell. -/
theorem watched_simulates {v : View} {events : List View} (some : events ≠ []) :
    Simulates (fun c => service c ∈ membership) (Scanning v events) (watched Clock I) (telling Clock v) where
  permits s t c member _ _ := by
    cases c
    case votequorum_dispatch => simp at member
    all_goals trivial
  answers s t c r s' member scanning answered := by
    obtain ⟨rfl, rfl, rfl⟩ := scanning
    cases c
    case cmap_initialize =>
      obtain ⟨rfl, ok⟩ := answered
      exact ⟨_, ⟨⟨rfl, .inl ok⟩, trivial⟩, rfl, rfl, rfl⟩
    case cmap_iter_init =>
      obtain ⟨ok, rfl⟩ := answered
      exact ⟨_, ⟨.inl ⟨ok, rfl⟩, trivial⟩, rfl, rfl, rfl⟩
    case cmap_iter_next =>
      simp only [watched_answers] at answered
      simp only [telling_answers, members_answers]
      cases comes : s.rest with
      | cons m rest =>
        rw [comes] at answered
        obtain ⟨rfl, rfl⟩ := answered
        exact ⟨_, ⟨⟨rfl, rfl⟩, trivial⟩, rfl, rfl, rfl⟩
      | nil =>
        rw [comes] at answered
        obtain ⟨failed, rfl⟩ := answered
        exact ⟨_, ⟨⟨failed, rfl⟩, trivial⟩, rfl, rfl, by rw [comes]⟩
    case cmap_get =>
      obtain ⟨rfl, reply⟩ := answered
      exact ⟨_, ⟨⟨rfl, reply⟩, trivial⟩, rfl, rfl, rfl⟩
    case cmap_get_string =>
      obtain ⟨rfl, reply⟩ := answered
      exact ⟨_, ⟨⟨rfl, reply.resolve_left some⟩, trivial⟩, rfl, rfl, rfl⟩
    case votequorum_initialize =>
      obtain ⟨rfl, ok⟩ := answered
      exact ⟨_, ⟨⟨rfl, .inl ok⟩, trivial⟩, rfl, rfl, rfl⟩
    case votequorum_getinfo =>
      obtain ⟨rfl, rfl⟩ := answered
      exact ⟨_, ⟨⟨rfl, .inl ⟨rfl, rfl⟩⟩, rfl⟩, rfl, rfl, rfl⟩
    case corosync_cfg_initialize =>
      obtain ⟨rfl, ok⟩ := answered
      exact ⟨_, ⟨⟨rfl, .inl ok⟩, trivial⟩, rfl, rfl, rfl⟩
    case corosync_cfg_local_get =>
      obtain ⟨rfl, rfl⟩ := answered
      exact ⟨_, ⟨⟨rfl, .inl ⟨rfl, rfl⟩⟩, trivial⟩, rfl, rfl, rfl⟩
    case printf =>
      obtain rfl := answered
      exact ⟨_, ⟨rfl, trivial⟩, rfl, rfl, rfl⟩
    case ctime =>
      obtain ⟨rfl, clock⟩ := answered
      exact ⟨_, ⟨rfl, clock⟩, rfl, rfl, rfl⟩
    case votequorum_dispatch => simp at member
    all_goals
      obtain rfl := answered
      exact ⟨_, ⟨rfl, trivial⟩, rfl, rfl, rfl⟩

/-- A print of the membership shows the table of the view. -/
theorem print_membership_shows (fuel : Nat) (u : Uninit) {s : Watch} (some : s.events ≠ []) :
    wlp (watched Clock I) (print_membership fuel u)
      (fun _ t => t.view = s.view ∧ t.events = s.events ∧ t.out = s.out ++ s.view.membershipText) s := by
  refine wlp_mono (wlp_simulates (watched_simulates some) (print_membership_within fuel u) ⟨rfl, rfl, rfl⟩
    (print_membership_spec s.view fuel u s.rest s.out)) ?_
  rintro _ t ⟨_, ⟨view, events, rfl⟩, printed⟩
  exact ⟨view, events, printed⟩

/-! ### The quorum -/

/-- A call that neither prints, nor waits, nor goes on with an iteration. -/
def Still : Call → Prop
  | .printf _ => False
  | .votequorum_dispatch _ => False
  | .cmap_iter_init _ _ => False
  | .cmap_iter_next _ _ => False
  | _ => True

/-- Still calls change nothing. -/
theorem still_spec {α : Type} {p : Client α} (still : p.Makes Still) (s : Watch) : wlp (watched Clock I) p (fun _ t => t = s) s := by
  refine wlp_keep still (fun t => t = s) ?_ rfl
  rintro _ c still rfl
  cases c
  case printf => exact still.elim
  case votequorum_dispatch => exact still.elim
  case cmap_iter_init => exact still.elim
  case cmap_iter_next => exact still.elim
  case cmap_initialize | cmap_get | cmap_get_string | votequorum_initialize | votequorum_getinfo | corosync_cfg_initialize |
      corosync_cfg_local_get | ctime => exact ⟨trivial, fun _ _ answered => answered.1⟩
  all_goals exact ⟨trivial, fun _ _ answered => answered⟩

theorem still_of_within {α : Type} {l : List Service} {p : Client α} (within : Within l p)
    (other : .output ∉ l ∧ .tracking ∉ l ∧ .iteration ∉ l) : p.Makes Still := by
  refine makes_mono within fun c member => ?_
  cases c
  case printf => exact absurd member other.1
  case votequorum_dispatch => exact absurd member other.2.1
  case cmap_iter_init => exact absurd member other.2.2
  case cmap_iter_next => exact absurd member other.2.2
  all_goals trivial

/-- A print of the quorum shows the quorum of the view, and the time. -/
theorem print_quorum_shows {s : Watch} (some : s.events ≠ []) :
    wlp (watched Clock I) print_quorum
      (fun err t => err = CS_OK ∧ ∃ time, Clock time ∧ t = { s with out := s.out ++ s.view.quorumText ++ time }) s := by
  refine wlp_mono (wlp_simulates (watched_simulates some) (within_mono print_quorum_within (by simp)) ⟨rfl, rfl, rfl⟩
    (wlp_of_wp (print_quorum_tells ⟨s.view.members, s.view.members, s.rest, s.out⟩))) ?_
  rintro _ ⟨view, events, rest, out⟩ ⟨_, ⟨rfl, rfl, same⟩, rfl, time, clock, rfl⟩
  obtain ⟨-, -, rfl, rfl⟩ := Scan.mk.inj same
  exact ⟨rfl, time, clock, rfl⟩

/-! ### The monitor -/

theorem using_votequorum_still (g : Globals) : (using_votequorum g).Makes Still :=
  still_of_within (using_votequorum_within g) (by simp)

theorem init_all_still (g : Globals) : (init_all g).Makes Still := by
  have fail : ∀ (text : Bytes) (out : Int × Globals), (Prog.call (.eprintf text) fun _ => .ret out : Client _).Makes Still :=
    fun text out => ⟨trivial, fun _ => makes_ret out⟩
  simp only [init_all, perform_bind, Prog.pure_eq]
  refine ⟨trivial, fun _ => makes_ite (fail _ _) ⟨trivial, fun _ => makes_ite (fail _ _) ?_⟩⟩
  refine ⟨trivial, fun _ => makes_ite (fail _ _) ?_⟩
  refine makes_bind (using_votequorum_still _) fun _ => makes_ite (makes_ret _) ?_
  refine ⟨trivial, fun _ => makes_ite (fail _ _) ⟨trivial, fun _ => makes_ite (fail _ _) ?_⟩⟩
  exact makes_ret _

theorem close_all_still (g : Globals) : (close_all g).Makes Still := by
  have close : ∀ {c : Call} {p : Client Unit} {P : Prop} [Decidable P], Still c → p.Makes Still →
      (if P then .call c fun _ => p else p).Makes Still := fun still rest => makes_ite ⟨still, fun _ => rest⟩ rest
  simp only [close_all, perform_bind, Prog.pure_eq]
  refine close trivial (close trivial (close trivial ?_))
  exact close trivial (makes_ret _)

section
variable {before : Bytes}

/-- A round waits for an event and adds its screen. -/
theorem monitor_round_shows (fuel : Nat) (u : Nat → Uninit) (g : Globals) (n : Nat) {s : Watch} (shown : Shown Clock before s.events s.out) :
    wlp (watched Clock fun s => Shown Clock before s.events s.out) (monitor_round fuel u g n)
      (fun _ t => Shown Clock before t.events t.out) s := by
  simp only [monitor_round, perform_bind, Prog.pure_eq, wlp_call, watched_permits, watched_answers]
  refine ⟨shown, ?_⟩
  rintro err _ (⟨rfl, v, rfl⟩ | ⟨failed, rfl⟩)
  · simp only [ne_eq, not_true, if_false]
    refine wlp_seq (print_quorum_shows (by simp)) ?_
    rintro _ _ ⟨rfl, time, clock, rfl⟩
    simp only [ne_eq, not_true, if_false]
    refine wlp_seq (print_membership_shows fuel (u n) (by simp)) ?_
    rintro _ t ⟨-, events, printed⟩
    rw [wlp_ret, events, printed]
    have next := shown.next v clock
    simpa [View.screen] using next
  · rw [if_pos failed, wlp_call]
    refine ⟨trivial, ?_⟩
    rintro text _ rfl
    refine ⟨trivial, ?_⟩
    rintro _ _ rfl
    exact shown

theorem monitor_loop_shows (fuel : Nat) (u : Nat → Uninit) (g : Globals) {s : Watch} (none : s.events = []) (start : s.out = before) :
    wlp (watched Clock fun s => Shown Clock before s.events s.out) (monitor_loop fuel u g)
      (fun _ t => t.events = [] ∨ Shown Clock before t.events t.out) s := by
  have shown : Shown Clock before s.events s.out := by
    rw [none, start]
    exact .start
  have fail : ∀ (text : Bytes → Bytes) {err : CsError}, wlp (watched Clock fun s => Shown Clock before s.events s.out)
      (.call (.cs_strerror err) fun r => .call (.eprintf (text r)) fun _ => .ret (-1))
      (fun (_ : Int) t => t.events = [] ∨ Shown Clock before t.events t.out) s := by
    refine fun text err => ⟨trivial, ?_⟩
    rintro _ _ rfl
    refine ⟨trivial, ?_⟩
    rintro _ _ rfl
    exact .inl none
  have rounds : wlp (watched Clock fun s => Shown Clock before s.events s.out) (loop (monitor_round fuel u g) fuel 0)
      (fun _ t => t.events = [] ∨ Shown Clock before t.events t.out) s := by
    refine wlp_loop (fun _ t => Shown Clock before t.events t.out) ?_ fuel 0 shown
    intro n t shown
    refine wlp_mono (monitor_round_shows fuel u g n shown) ?_
    rintro (again | result) t' shown'
    · exact shown'
    · exact .inr shown'
  simp only [monitor_loop, perform_bind, Prog.pure_eq, wlp_ite]
  refine ⟨fun _ => ⟨trivial, ?_⟩, fun _ => ⟨trivial, ?_⟩⟩
  · rintro _ _ rfl
    exact .inl none
  rintro err _ rfl
  rw [wlp_ite]
  refine ⟨fun _ => fail _, fun _ => wlp_seq (still_spec (using_votequorum_still g) _) ?_⟩
  rintro using_vq _ rfl
  rw [wlp_ite]
  refine ⟨fun _ => ⟨trivial, ?_⟩, fun _ => rounds⟩
  rintro err _ rfl
  rw [wlp_ite]
  exact ⟨fun _ => fail _, fun _ => rounds⟩

/-- A monitor that ends after some event is a success. -/
theorem monitor_status_shows (fuel : Nat) (u : Nat → Uninit) (g : Globals) {s : Watch} (none : s.events = []) (start : s.out = before) :
    wlp (watched Clock fun s => Shown Clock before s.events s.out) (monitor_status fuel u g)
      (fun out t => t.events = [] ∨ (out.1 = CS_OK ∧ Shown Clock before t.events t.out)) s := by
  unfold monitor_status
  refine wlp_seq (still_spec (init_all_still g) s) ?_
  rintro ⟨failed, g⟩ s rfl
  rw [wlp_ite]
  constructor
  · intro _
    refine wlp_seq (still_spec (close_all_still g) s) ?_
    rintro _ _ rfl
    exact .inl none
  · intro _
    refine wlp_seq (monitor_loop_shows fuel u g none start) ?_
    rintro _ t shown
    refine wlp_seq (still_spec (close_all_still g) t) ?_
    rintro _ _ rfl
    exact shown.imp_right fun shown => ⟨rfl, shown⟩

/-! ### Command lines -/

/-- Without a wait there is no event. -/
theorem eventless_spec {α : Type} {l : List Service} {p : Client α} (within : Within l p) (other : .tracking ∉ l) {s : Watch}
    (none : s.events = []) : wlp (watched Clock I) p (fun _ t => t.events = []) s := by
  refine wlp_keep within (fun t : Watch => t.events = []) ?_ none
  intro s c member none
  cases c
  case votequorum_dispatch => exact absurd member other
  case cmap_iter_init =>
    refine ⟨trivial, ?_⟩
    rintro _ _ ⟨-, rfl⟩
    exact none
  case cmap_iter_next =>
    refine ⟨trivial, fun r s' answered => ?_⟩
    simp only [watched_answers] at answered
    split at answered
    · rw [answered.2]
      exact none
    · rw [answered.2]
      exact none
  case printf =>
    refine ⟨trivial, ?_⟩
    rintro _ _ rfl
    exact none
  case cmap_initialize | cmap_get | cmap_get_string | votequorum_initialize | votequorum_getinfo | corosync_cfg_initialize |
      corosync_cfg_local_get | ctime => exact ⟨trivial, fun _ _ answered => answered.1 ▸ none⟩
  all_goals exact ⟨trivial, fun _ _ answered => answered ▸ none⟩

/-- How a task ends: without an event, or with the screens of its events. -/
abbrev Ended (Clock : Bytes → Prop) (before : Bytes) (t : Watch) : Prop := t.events = [] ∨ Shown Clock before t.events t.out

theorem client_monitor_option_shows (fuel : Nat) (u : Nat → Uninit) (g : Globals) (argz : Bytes) {s : Watch} (none : s.events = [])
    (start : s.out = before) :
    wlp (watched Clock fun s => Shown Clock before s.events s.out) (client_monitor_option fuel u g argz) (fun _ t => Ended Clock before t) s := by
  refine wlp_seq (still_spec (still_of_within (read_word_within _) (by simp)) s) ?_
  rintro target s rfl
  rw [wlp_ite]
  refine ⟨fun _ => ?_, fun _ => .inl none⟩
  refine wlp_seq (monitor_status_shows fuel u g none start) ?_
  rintro ⟨err, g⟩ t (none | ⟨rfl, shown⟩)
  · refine wlp_mono (eventless_spec (l := [.output]) (makes_ite (within_last (by simp) _) (makes_ret _)) (by simp) none) ?_
    exact fun _ _ none => .inl none
  · rw [wlp_ite]
    exact ⟨fun failed => absurd rfl failed, fun _ => .inr shown⟩

theorem run_task_shows (fuel : Nat) (u : ClientUninit) (arguments : Parsed) {s : Watch} (none : s.events = []) (start : s.out = before) :
    wlp (watched Clock fun s => Shown Clock before s.events s.out) (run_task fuel u arguments) (fun _ t => Ended Clock before t) s := by
  have within := run_task_within fuel u arguments
  have eventless : .tracking ∉ uses arguments.task →
      wlp (watched Clock fun s => Shown Clock before s.events s.out) (run_task fuel u arguments) (fun _ t => Ended Clock before t) s :=
    fun other => wlp_mono (eventless_spec within other none) fun _ _ none => .inl none
  cases task : arguments.task with
  | print_option => exact eventless (by simp [task, uses])
  | quorum_option => exact eventless (by simp [task, uses])
  | ssh_cmd => exact eventless (by simp [task, uses])
  | monitor_option =>
    simp only [run_task, task]
    exact client_monitor_option_shows fuel u.prints u.globals arguments.argz none start

end

/-- Each wait finds the screens of the events so far; a line feed follows them at the end. -/
theorem main_spec (fuel : Nat) (u : ClientUninit) (name : Bytes) (line : List (OptKey × CString)) {s : Watch} (none : s.events = []) :
    wlp (watched Clock fun t => Shown Clock (s.out ++ ascii "\n") t.events t.out) (main fuel u name line)
      (fun _ t => t.events ≠ [] → ∃ out, Shown Clock (s.out ++ ascii "\n") t.events out ∧ t.out = out ++ ascii "\n") s := by
  simp only [main, perform_bind, Prog.pure_eq]
  refine ⟨trivial, ?_⟩
  rintro _ _ rfl
  cases argp_parse line with
  | error message =>
    refine ⟨trivial, ?_⟩
    rintro _ _ rfl
    exact fun some => absurd none some
  | ok arguments =>
    refine wlp_seq (run_task_shows fuel u arguments none rfl) ?_
    rintro _ t ended
    refine ⟨trivial, ?_⟩
    rintro _ _ rfl
    exact fun some => ⟨t.out, ended.resolve_left some, rfl⟩

theorem main_shown {fuel : Nat} {u : ClientUninit} {name : Bytes} {line : List (OptKey × CString)} {s t : Watch} {tr : List LibEvent}
    {q : Client Unit} (none : s.events = []) (run : Run (watched Clock fun _ => True) (main fuel u name line) s tr q t) :
    wlp (watched Clock fun t => Shown Clock (s.out ++ ascii "\n") t.events t.out) q
      (fun _ t => t.events ≠ [] → ∃ out, Shown Clock (s.out ++ ascii "\n") t.events out ∧ t.out = out ++ ascii "\n") t := by
  refine run_wlp (run_mono ?_ run) (main_spec fuel u name line none)
  intro s c r s' answered
  exact answered

/-- In any run of the program on any command line, whenever it waits for an event, its
    output is one screen for each event so far, in their order, each of what was true at its
    event; when the program ends after some event, a line feed has followed. -/
theorem main_shows {fuel : Nat} {u : ClientUninit} {name : Bytes} {line : List (OptKey × CString)} {s t : Watch} {tr : List LibEvent}
    {q : Client Unit} (none : s.events = []) (run : Run (watched Clock fun _ => True) (main fuel u name line) s tr q t) :
    (∀ h next, q = .call (.votequorum_dispatch h) next → Shown Clock (s.out ++ ascii "\n") t.events t.out) ∧
      (q = .ret () → t.events ≠ [] → ∃ out, Shown Clock (s.out ++ ascii "\n") t.events out ∧ t.out = out ++ ascii "\n") := by
  have shown := main_shown none run
  constructor
  · rintro h next rfl
    exact shown.1
  · rintro rfl
    exact shown

end

/-- One event, and then the wait fails. -/
def tell : Handler Call Reply Watch := fun s c =>
  match c with
  | .votequorum_dispatch _ => if s.events.isEmpty then (.CS_OK, { s with events := [s.view] }) else (.CS_ERR_LIBRARY, s)
  | .cmap_iter_init _ key_prefix =>
    ((.CS_OK, 1), { s with rest := s.view.members.entries.filter (fun m => key_prefix <+: m.key) })
  | .cmap_iter_next _ _ =>
    match s.rest with
    | m :: rest => ((.CS_OK, m.key, m.value.len, m.value.type), { s with rest := rest })
    | [] => ((.CS_ERR_NO_SECTIONS, [], 0, .UINT8), s)
  | .cmap_get handle key value_len => ((reliable s.view.members.find (.cmap_get handle key value_len)).1, s)
  | .cmap_get_string handle key => ((reliable s.view.members.find (.cmap_get_string handle key)).1, s)
  | .votequorum_getinfo _ n => ((.CS_OK, s.view.info n), s)
  | .corosync_cfg_local_get _ => ((.CS_OK, s.view.local_nodeid), s)
  | .ctime => (ascii "Thu Jan  1 00:00:00 1970\n", s)
  | .printf text => (text.length, { s with out := s.out ++ text })
  | c => (Reply.success c, s)

theorem tell_answers {Clock : Bytes → Prop} (clock : Clock (ascii "Thu Jan  1 00:00:00 1970\n")) (s : Watch) (c : Call) :
    (watched Clock fun _ => True).answers s c (tell s c).1 (tell s c).2 := by
  cases c
  case votequorum_dispatch =>
    simp only [watched_answers, tell]
    cases first : s.events with
    | nil => exact .inl ⟨rfl, s.view, rfl⟩
    | cons v events => exact .inr ⟨by simp, rfl⟩
  case cmap_iter_next =>
    simp only [watched_answers, tell]
    cases s.rest with
    | nil => exact ⟨by simp, rfl⟩
    | cons m rest => exact ⟨rfl, rfl⟩
  case cmap_get handle key value_len => exact ⟨rfl, (reliable_answers s.view.members.find (.cmap_get handle key value_len)).2⟩
  case ctime => exact ⟨rfl, clock⟩
  case cmap_get_string handle key => exact ⟨rfl, .inr (reliable_answers s.view.members.find (.cmap_get_string handle key)).2⟩
  case cmap_initialize | cmap_iter_init | votequorum_initialize | votequorum_getinfo | corosync_cfg_initialize | corosync_cfg_local_get =>
    exact ⟨rfl, rfl⟩
  all_goals rfl

def oneVote (id : UInt32) : VotequorumInfo := ⟨id, 1, 1, 2, 2, 2, 2, VOTEQUORUM_INFO_QUORATE, 0, []⟩

theorem twoNodes_few : twoNodes.ids.card < 2 ^ 31 := by decide

/-- Two nodes with a vote each. -/
def pairView : View := ⟨twoNodes, twoNodes_regular, twoNodes_few, oneVote, 2⟩

def quietWatch : Watch := ⟨pairView, [], [], []⟩

theorem quorum_terminated : 0 ∉ ascii "quorum" := by decide

def pairMonitor : Client Unit := main 5 Operands.cleared [] [(.m, ⟨ascii "quorum", quorum_terminated⟩)]

def pairEnd : Option (Unit × Watch) := exec tell pairMonitor quietWatch

def pairLast : Watch := (pairEnd.map Prod.snd).getD quietWatch

theorem pair_ends : pairEnd.isSome = true ∧ pairLast.events.length = 1 := by decide +kernel

theorem pair_run {Clock : Bytes → Prop} (clock : Clock (ascii "Thu Jan  1 00:00:00 1970\n")) :
    Run (watched Clock fun _ => True) pairMonitor quietWatch (transcript tell pairMonitor quietWatch) (.ret ()) pairLast := by
  obtain ⟨⟨⟨⟩, t⟩, ends⟩ := Option.isSome_iff_exists.mp pair_ends.1
  have last : pairLast = t := by simp [pairLast, ends]
  rw [last]
  exact exec_run (fun _ => True) (fun s c _ => ⟨tell_answers clock s c, trivial⟩) trivial ends

theorem pair_some : pairLast.events ≠ [] := by
  intro none
  have one := pair_ends.2
  rw [none] at one
  simp at one

theorem main_shows_pair : pairLast.events.length = 1 ∧
    ∃ out, Shown (fun _ => True) (ascii "\n") pairLast.events out ∧ pairLast.out = out ++ ascii "\n" :=
  ⟨pair_ends.2, (main_shows (by rfl) (pair_run trivial)).2 rfl pair_some⟩

end CorosyncClient.Screens
