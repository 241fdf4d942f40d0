import CorosyncClient.Monitor
import CorosyncClient.SshManager

/-!
For which services each function of the client makes calls.
-/
namespace CorosyncClient.Services
open CLib Interaction

/-- What a call is for. -/
inductive Service where
  | cmap | iteration | votequorum | quorum | cfg | tracking | output | ssh | sftp | files | entries | words | stray
  | buffer (capacity : Nat)
  deriving DecidableEq

@[simp] def service : Call → Service
  | Call.cmap_initialize => .cmap
  | .cmap_finalize _ => .cmap
  | .cmap_set _ _ _ => .cmap
  | .cmap_get _ _ _ => .cmap
  | .cmap_get_string _ _ => .cmap
  | .cmap_get_uint32 _ _ => .cmap
  | .cmap_delete _ _ => .cmap
  | .cmap_iter_init _ _ => .iteration
  | .cmap_iter_next _ _ => .iteration
  | .cmap_iter_finalize _ _ => .iteration
  | Call.votequorum_initialize => .votequorum
  | .votequorum_finalize _ => .votequorum
  | .votequorum_getinfo _ _ => .votequorum
  | .votequorum_setexpected _ _ => .votequorum
  | .votequorum_setvotes _ _ _ => .votequorum
  | .votequorum_trackstart _ _ => .tracking
  | .votequorum_dispatch _ => .tracking
  | Call.quorum_initialize => .quorum
  | .quorum_finalize _ => .quorum
  | .quorum_trackstart _ _ => .tracking
  | Call.corosync_cfg_initialize => .cfg
  | .corosync_cfg_local_get _ => .cfg
  | .corosync_cfg_finalize _ => .cfg
  | .cs_strerror _ => .output
  | .ssh_new => .ssh
  | .ssh_options_set _ _ => .ssh
  | .ssh_connect _ => .ssh
  | .ssh_userauth_password _ _ => .ssh
  | .ssh_disconnect _ => .ssh
  | .ssh_free _ => .ssh
  | .ssh_channel_new _ => .ssh
  | .ssh_channel_open_session _ => .ssh
  | .ssh_channel_request_exec _ _ => .ssh
  | .ssh_channel_read _ _ => .ssh
  | .ssh_channel_send_eof _ => .ssh
  | .ssh_channel_close _ => .ssh
  | .ssh_channel_free _ => .ssh
  | .sftp_new _ => .sftp
  | .sftp_init _ => .sftp
  | .sftp_open _ _ _ => .sftp
  | .sftp_write _ _ => .sftp
  | .sftp_close _ => .sftp
  | .sftp_free _ => .sftp
  | .stat _ => .files
  | .fopen _ => .files
  | .fseek _ _ => .files
  | .fread _ _ => .files
  | .fclose _ => .files
  | .printf _ => .output
  | .eprintf _ => .output
  | .ctime => .output
  | .access (.entry _ _) => .entries
  | .access (.fill capacity _) => .buffer capacity
  | .access (.word _) => .words
  | .read_stray => .stray

/-- The program makes calls for the services `l` only. -/
abbrev Within (l : List Service) {α : Type} (p : Client α) : Prop := p.Makes (fun c => service c ∈ l)

section
variable {l m : List Service} {α β : Type}

theorem within_mono {p : Client α} (within : Within l p) (sub : l ⊆ m) : Within m p :=
  makes_mono within (fun _ member => sub member)

/-- A last call, whose reply is dropped. -/
theorem within_last {c : Call} (member : service c ∈ l) (a : α) : Within l (.call c fun _ => .ret a) :=
  ⟨member, fun _ => makes_ret a⟩

/-- A program leaves no calls for a service that it does not use. -/
theorem run_avoids {σ : Type} {W : LibWorld σ} {p q : Client α} {s t : σ} {tr : List LibEvent} {k : Service}
    (run : Run W p s tr q t) (within : Within l p) (other : k ∉ l) : ∀ e ∈ tr, service e.call ≠ k :=
  fun e member same => other (same ▸ run_makes run within e member)

end

/-! ### Cluster and quorum -/

theorem get_local_nodeid_within (id : UInt32) : Within [.cfg] (get_local_nodeid id) := by
  simp only [get_local_nodeid, perform_bind, Prog.pure_eq]
  refine ⟨by decide, fun r => makes_ite (makes_ret _) ⟨by simp, fun r => ?_⟩⟩
  exact makes_ite (within_last (by simp) _) (within_last (by simp) _)

theorem get_quorum_info_within (qd : QuorumDetails) : Within [.votequorum, .cfg] (get_quorum_info qd) := by
  simp only [get_quorum_info, perform_bind, Prog.pure_eq]
  refine ⟨by decide, fun r => makes_ite (makes_ret _) (makes_bind ?_ fun _ => ⟨by simp, fun r => ?_⟩)⟩
  · exact within_mono (get_local_nodeid_within 0) (by simp)
  · exact makes_ite (within_last (by simp) _) (within_last (by simp) _)

theorem get_votes_within (nodeid votes : UInt32) : Within [.votequorum, .cfg] (get_votes nodeid votes) := by
  simp only [get_votes, perform_bind, Prog.pure_eq]
  refine ⟨by decide, fun r => makes_ite (makes_ret _) (makes_bind ?_ fun _ => ⟨by simp, fun r => ?_⟩)⟩
  · exact within_mono (get_local_nodeid_within 0) (by simp)
  · exact makes_ite (within_last (by simp) _) (within_last (by simp) _)

theorem set_votes_within (nodeid votes : UInt32) : Within [.votequorum] (set_votes nodeid votes) := by
  simp only [set_votes, perform_bind, Prog.pure_eq]
  refine ⟨by decide, fun r => makes_ite (makes_ret _) ⟨by simp, fun r => ?_⟩⟩
  exact makes_ite (within_last (by simp) _) (within_last (by simp) _)

/-! ### The cmap -/

theorem get_cmap_value_within (key : Bytes) (value : Bool) (type : CmapType) :
    Within [.cmap] (get_cmap_value key value type) := by
  simp only [get_cmap_value, fetch_value, perform_bind, Prog.pure_eq]
  refine ⟨by decide, fun r => makes_ite (makes_ret _) ⟨by simp, fun probe => ?_⟩⟩
  refine makes_ite (within_last (by simp) _) (makes_ite (within_last (by simp) _) ?_)
  refine makes_bind (makes_ite ?_ ?_) fun out => ?_
  · exact ⟨by simp, fun _ => makes_ret _⟩
  · exact ⟨by simp, fun _ => makes_ret _⟩
  · exact makes_ite (within_last (by simp) _) (within_last (by simp) _)

theorem deref_within (str : Option Fetched) : Within [.stray] (deref str) := by
  unfold deref
  split
  · exact makes_ret _
  · exact ⟨by decide, fun _ => makes_ret _⟩

theorem read_string_within (key : Bytes) (type : CmapType) (capacity : Nat) (buffer : Bytes) :
    Within [.cmap, .stray, .buffer capacity] (read_string key type capacity buffer) := by
  simp only [read_string, perform_bind, Prog.pure_eq]
  refine makes_bind (within_mono (get_cmap_value_within key true type) (by simp)) fun out => makes_ite ?_ (makes_ret _)
  refine makes_bind (within_mono (deref_within _) (by simp)) fun text => ?_
  exact within_last (by simp) _

theorem store_suffix_within (key_suffix : Bytes) (word : Option Bytes) :
    Within [.buffer 64] (store_suffix key_suffix word) := by
  cases word with
  | none => exact makes_ret _
  | some word => exact within_last (by simp) _

theorem begin_entry_within (array_len id : Int32) (s : MembersState) : Within [.entries] (begin_entry array_len id s) := by
  simp only [begin_entry, perform_bind, Prog.pure_eq]
  exact makes_ite (within_last (by simp) _) (makes_ret _)

theorem get_member_count_within (fuel : Nat) (id count : Int32) :
    Within [.cmap, .iteration] (get_member_count fuel id count) := by
  simp only [get_member_count, perform_bind, Prog.pure_eq]
  refine ⟨by decide, fun r => makes_ite (makes_ret _) ⟨by simp, fun iter => ?_⟩⟩
  refine makes_ite (within_last (by simp) _) (makes_bind (makes_loop (fun s => ?_) fuel _) fun _ => ?_)
  · simp only [count_round, perform_bind, Prog.pure_eq]
    exact ⟨by simp, fun r => makes_ite (makes_ret _) (makes_ite (makes_ret _) (makes_ret _))⟩
  · exact ⟨by simp, fun _ => within_last (by simp) _⟩

/-- The calls of a scan of the members. -/
abbrev scanning : List Service :=
  [.cmap, .iteration, .stray, .entries, .buffer 64, .buffer INET6_ADDRSTRLEN, .buffer 32]

theorem members_round_within (cmap_handle iter_handle : Handle) (array_len : Int32) (s : MembersState) :
    Within scanning (members_round cmap_handle iter_handle array_len s) := by
  simp only [members_round, perform_bind, Prog.pure_eq]
  refine ⟨by simp, fun r => makes_ite (makes_ret _) ?_⟩
  refine makes_bind (within_mono (store_suffix_within _ _) (by simp)) fun _ => ?_
  refine makes_bind (within_mono (begin_entry_within _ _ _) (by simp)) fun _ => ?_
  refine makes_ite ⟨by simp, fun _ => ?_⟩ (makes_ite ⟨by simp, fun _ => ?_⟩ (makes_ret _))
  · exact makes_bind (within_mono (read_string_within _ _ _ _) (by simp)) fun _ => makes_ret _
  · exact makes_bind (within_mono (read_string_within _ _ _ _) (by simp)) fun _ => makes_ret _

theorem get_members_within (fuel : Nat) (id : Int32) (key_suffix : Bytes) (array : Int32 → ClusterMember)
    (array_len : Int32) : Within scanning (get_members fuel id key_suffix array array_len) := by
  simp only [get_members, perform_bind, Prog.pure_eq]
  refine ⟨by simp, fun r => makes_ite (makes_ret _) ⟨by simp, fun iter => ?_⟩⟩
  refine makes_ite (within_last (by simp) _) (makes_bind ?_ fun _ => ?_)
  · exact makes_loop (members_round_within _ _ _) fuel _
  · exact ⟨by simp, fun _ => within_last (by simp) _⟩

/-! ### Printing -/

/-- The calls of a line; its entry is all that it accesses. -/
theorem print_member_makes (arr : Int32 → ClusterMember) (arr_len : Int32) (local_nodeid : UInt32) (i : Int32) (votes : UInt32) :
    (print_member arr arr_len local_nodeid i votes).Makes
      (fun c => c = .access (.entry i arr_len) ∨ service c ∈ [.votequorum, .cfg, .output]) := by
  simp only [print_member, perform_bind, Prog.pure_eq]
  refine ⟨.inl rfl, fun _ => makes_mono (C := fun c => service c ∈ [.votequorum, .cfg, .output]) ?_ fun _ => .inr⟩
  have print : ∀ {text : Bytes} {p : Client UInt32}, Within [.votequorum, .cfg, .output] p →
      Within [.votequorum, .cfg, .output] (.call (.printf text) fun _ => p) :=
    fun rest => ⟨by simp, fun _ => rest⟩
  refine makes_bind (within_mono (get_votes_within _ _) (by simp)) fun out => ?_
  refine print (print (print (makes_ite (print ?_) ?_)))
  · exact makes_ite (print (print (makes_ret _))) (print (makes_ret _))
  · exact makes_ite (print (print (makes_ret _))) (print (makes_ret _))

theorem print_member_within (arr : Int32 → ClusterMember) (arr_len : Int32) (local_nodeid : UInt32) (i : Int32)
    (votes : UInt32) : Within [.entries, .votequorum, .cfg, .output] (print_member arr arr_len local_nodeid i votes) := by
  refine makes_mono (print_member_makes arr arr_len local_nodeid i votes) ?_
  rintro c (rfl | other)
  · simp
  · exact List.mem_cons_of_mem _ other

/-- What is printed once the members are found. -/
theorem print_lines_within (arr : Int32 → ClusterMember) (arr_len : Int32) (local_nodeid votes : UInt32) :
    Within [.entries, .votequorum, .cfg, .output] (do
      let _ ← printf (ascii "\nMembership information\n")
      let _ ← printf (ascii "----------------------\n")
      let _ ← forEntries arr_len (print_member arr arr_len local_nodeid) votes
      return CS_OK) := by
  simp only [perform_bind, Prog.pure_eq]
  refine ⟨by simp, fun _ => ⟨by simp, fun _ => makes_bind ?_ fun _ => makes_ret _⟩⟩
  exact makes_forEntries (fun _ _ _ => print_member_within _ _ _ _ _) _

/-- The calls of a print of the membership. -/
abbrev membership : List Service := scanning ++ [.votequorum, .cfg, .output]

theorem print_membership_within (fuel : Nat) (u : Uninit) : Within membership (print_membership fuel u) := by
  have entry : ∀ i len, Within membership (access (.entry i len)) := fun i len => ⟨by simp, fun _ => makes_ret _⟩
  simp only [print_membership]
  refine makes_bind (within_mono (get_member_count_within _ _ _) (by simp)) fun _ => makes_ite (makes_ret _) ?_
  refine makes_bind (makes_forEntries (fun _ _ _ => entry _ _) ()) fun _ => ?_
  refine makes_bind (within_mono (get_local_nodeid_within _) (by simp)) fun _ => ?_
  refine makes_bind (within_mono (get_members_within _ _ _ _ _) (by simp)) fun _ => ?_
  exact within_mono (print_lines_within _ _ _ _) (by simp)

theorem print_time_within : Within [.output] print_time := by
  simp only [print_time, perform_bind, Prog.pure_eq]
  exact ⟨by decide, fun _ => within_last (by simp) _⟩

theorem print_quorum_within : Within [.votequorum, .cfg, .output] print_quorum := by
  simp only [print_quorum, perform_bind, Prog.pure_eq]
  refine makes_bind (within_mono (get_quorum_info_within _) (by simp)) fun _ => makes_ite (makes_ret _) ?_
  refine ⟨by simp, fun _ => ⟨by simp, fun _ => ⟨by simp, fun _ => ?_⟩⟩⟩
  refine ⟨by simp, fun _ => ⟨by simp, fun _ => ⟨by simp, fun _ => ?_⟩⟩⟩
  exact makes_bind (within_mono print_time_within (by simp)) fun _ => makes_ret _

/-! ### The monitor -/

theorem using_votequorum_within (g : Globals) : Within [.cmap] (using_votequorum g) := by
  simp only [using_votequorum, get_quorum_type, perform_bind, Prog.pure_eq]
  refine makes_bind (makes_ite (makes_ret _) ⟨by simp, fun r => makes_ite (makes_ret _) ?_⟩) fun out => ?_
  · split
    · exact makes_ret _
    · exact makes_ret _
  · exact makes_ite (makes_ret _) (makes_ite (makes_ret _) (makes_ret _))

/-- The calls by which the services are opened and closed. -/
abbrev opening : List Service := [.cmap, .quorum, .cfg, .votequorum, .output]

theorem init_all_within (g : Globals) : Within opening (init_all g) := by
  have fail : ∀ (text : Bytes) (out : Int × Globals), Within opening (.call (.eprintf text) fun _ => .ret out) :=
    fun text out => within_last (by simp) out
  simp only [init_all, perform_bind, Prog.pure_eq]
  refine ⟨by simp, fun _ => makes_ite (fail _ _) ⟨by simp, fun _ => makes_ite (fail _ _) ?_⟩⟩
  refine ⟨by simp, fun _ => makes_ite (fail _ _) ?_⟩
  refine makes_bind (within_mono (using_votequorum_within _) (by simp)) fun _ => makes_ite (makes_ret _) ?_
  refine ⟨by simp, fun _ => makes_ite (fail _ _) ⟨by simp, fun _ => makes_ite (fail _ _) ?_⟩⟩
  exact makes_ret _

theorem close_all_within (g : Globals) : Within opening (close_all g) := by
  have close : ∀ {c : Call} {p : Client Unit} {P : Prop} [Decidable P], service c ∈ opening → Within opening p →
      Within opening (if P then .call c fun _ => p else p) := fun member rest => makes_ite ⟨member, fun _ => rest⟩ rest
  simp only [close_all, perform_bind, Prog.pure_eq]
  refine close (by simp) (close (by simp) (close (by simp) ?_))
  exact close (by simp) (makes_ret _)

/-- The calls of the monitor. -/
abbrev monitoring : List Service := .quorum :: .tracking :: membership

theorem monitor_loop_within (fuel : Nat) (u : Nat → Uninit) (g : Globals) :
    Within monitoring (monitor_loop fuel u g) := by
  have fail : ∀ (text : Bytes → Bytes) {err : CsError} {β : Type} (out : β),
      Within monitoring (.call (.cs_strerror err) fun r => .call (.eprintf (text r)) fun _ => .ret out) :=
    fun text err β out => ⟨by simp, fun _ => within_last (by simp) out⟩
  have rounds : Within monitoring (loop (monitor_round fuel u g) fuel 0) := by
    refine makes_loop (fun n => ?_) fuel 0
    simp only [monitor_round, perform_bind, Prog.pure_eq]
    refine ⟨by simp, fun err => makes_ite (fail _ _) ?_⟩
    refine makes_bind (within_mono print_quorum_within (by simp)) fun _ => makes_ite (makes_ret _) ?_
    exact makes_bind (within_mono (print_membership_within _ _) (by simp)) fun _ => makes_ret _
  simp only [monitor_loop, perform_bind, Prog.pure_eq]
  refine makes_ite (within_last (by simp) _) ⟨by simp, fun err => makes_ite (fail _ _) ?_⟩
  refine makes_bind (within_mono (using_votequorum_within _) (by simp)) fun _ => makes_ite ?_ rounds
  exact ⟨by simp, fun err => makes_ite (fail _ _) rounds⟩

theorem monitor_status_within (fuel : Nat) (u : Nat → Uninit) (g : Globals) :
    Within monitoring (monitor_status fuel u g) := by
  have close : ∀ (g : Globals) (out : Int × Globals), Within monitoring (close_all g >>= fun _ => .ret out) :=
    fun g out => makes_bind (within_mono (close_all_within g) (by simp)) fun _ => makes_ret _
  simp only [monitor_status, Prog.pure_eq]
  refine makes_bind (within_mono (init_all_within g) (by simp)) fun _ => makes_ite (close _ _) ?_
  exact makes_bind (monitor_loop_within _ _ _) fun _ => close _ _

/-! ### Other machines -/

theorem free_session_within (session : Handle) : Within [.ssh] (free_session session) :=
  ⟨by simp, fun _ => within_last (by simp) ()⟩

theorem free_channel_within (channel : Handle) : Within [.ssh] (free_channel channel) :=
  ⟨by simp, fun _ => ⟨by simp, fun _ => within_last (by simp) ()⟩⟩

theorem drain_within (fuel : Nat) (channel : Handle) : Within [.ssh] (drain fuel channel) := by
  simp only [drain, perform_bind]
  refine ⟨by simp, fun _ => makes_loop (fun nbytes => ?_) fuel _⟩
  exact makes_ite ⟨by simp, fun _ => makes_ret _⟩ (makes_ret _)

theorem run_in_channel_within (cmd : Bytes) (fuel : Nat) (session : Handle) :
    Within [.ssh] (run_in_channel cmd fuel session) := by
  have fail : ∀ (channel : Handle) (err : Err), Within [.ssh] (do free_channel channel; free_session session; return err) :=
    fun channel err => makes_bind (free_channel_within _) fun _ => makes_bind (free_session_within _) fun _ => makes_ret _
  simp only [run_in_channel, perform_bind, Prog.pure_eq]
  refine ⟨by simp, fun channel => ?_⟩
  cases channel with
  | none => exact makes_bind (free_session_within _) fun _ => makes_ret _
  | some channel =>
    refine ⟨by simp, fun _ => makes_ite (fail _ _) ⟨by simp, fun _ => makes_ite (fail _ _) ?_⟩⟩
    exact makes_bind (drain_within _ _) fun _ => fail _ _

theorem remote_command_within (cmd : Bytes) (fuel : Nat) (addr : Bytes) : Within [.ssh] (remote_command cmd fuel addr) := by
  simp only [remote_command, perform_bind, Prog.pure_eq]
  refine ⟨by simp, fun session => ?_⟩
  cases session with
  | none => exact makes_ret _
  | some session =>
    refine ⟨by simp, fun _ => ⟨by simp, fun _ => ⟨by simp, fun _ => ?_⟩⟩⟩
    refine ⟨by simp, fun _ => makes_ite (makes_bind (free_session_within _) fun _ => makes_ret _) ?_⟩
    exact ⟨by simp, fun _ => makes_ite (makes_ret _) (run_in_channel_within _ _ _)⟩

theorem sftp_conf_within (fuel : Nat) (st_size : UInt64) (buffer : Bytes) (session : Handle) (source_file dest_directory : Bytes) :
    Within [.sftp, .files] (sftp_conf fuel st_size buffer session source_file dest_directory) := by
  simp only [sftp_conf, perform_bind, Prog.pure_eq]
  refine ⟨by simp, fun _ => ⟨by simp, fun sftp => ?_⟩⟩
  cases sftp with
  | none => exact makes_ret _
  | some sftp =>
    refine ⟨by simp, fun _ => makes_ite (makes_ret _) ⟨by simp, fun dest => ?_⟩⟩
    cases dest with
    | none => exact within_last (by simp) _
    | some dest =>
      refine ⟨by simp, fun source => ?_⟩
      cases source with
      | none => exact ⟨by simp, fun _ => within_last (by simp) _⟩
      | some source =>
        refine ⟨by simp, fun _ => makes_bind (makes_loop (fun s => ?_) fuel _) fun _ => ?_⟩
        · simp only [copy_round, perform_bind, Prog.pure_eq]
          refine makes_ite ?_ ?_
          · exact ⟨by simp, fun _ => within_last (by simp) _⟩
          · exact ⟨by simp, fun _ => within_last (by simp) _⟩
        · exact ⟨by simp, fun _ => ⟨by simp, fun _ => within_last (by simp) _⟩⟩

theorem copy_conf_within (fuel : Nat) (st_size : UInt64) (buffer addr source_file dest_directory : Bytes) :
    Within [.ssh, .sftp, .files] (copy_conf fuel st_size buffer addr source_file dest_directory) := by
  have free : ∀ (session : Handle) (err : Err), Within [.ssh, .sftp, .files] (do free_session session; return err) :=
    fun session err => makes_bind (within_mono (free_session_within _) (by simp)) fun _ => makes_ret _
  simp only [copy_conf, perform_bind]
  refine ⟨by simp, fun session => ?_⟩
  cases session with
  | none => exact makes_ret _
  | some session =>
    refine ⟨by simp, fun _ => ⟨by simp, fun _ => ⟨by simp, fun _ => ?_⟩⟩⟩
    refine ⟨by simp, fun _ => makes_ite (free _ _) ⟨by simp, fun _ => makes_ite (free _ _) ?_⟩⟩
    refine makes_bind (within_mono (sftp_conf_within _ _ _ _ _ _) (by simp)) fun _ => ?_
    exact makes_ite (free _ _) (free _ _)

end CorosyncClient.Services
