import CorosyncClient.Tasks
import CorosyncClient.VoteOperands

/-!
What the program may change outside of itself: nothing by a print or by the monitor, the
votes of one node by a quorum line, and other machines by a command.
-/
namespace CorosyncClient.Authority
open CLib Interaction Services Tasks Failures VoteOperands
set_option linter.unusedSimpArgs false

/-- The calls that change something in the cluster or on another machine. -/
def Changes : Call → Prop
  | .cmap_set _ _ _ => True
  | .cmap_delete _ _ => True
  | .votequorum_setexpected _ _ => True
  | .votequorum_setvotes _ _ _ => True
  | .ssh_channel_request_exec _ _ => True
  | .sftp_open _ _ _ => True
  | .sftp_write _ _ => True
  | _ => False

/-- The program changes nothing outside of itself. -/
abbrev ReadOnly {α : Type} (p : Client α) : Prop := p.Makes fun c => ¬ Changes c

/-! ### Reading -/

section
variable {α : Type}

/-- The services whose calls only read are harmless in any number. -/
theorem readOnly_within {l : List Service} {p : Client α} (within : Within l p)
    (other : .cmap ∉ l ∧ .votequorum ∉ l ∧ .ssh ∉ l ∧ .sftp ∉ l) : ReadOnly p := by
  refine makes_mono within fun c member => ?_
  cases c
  case cmap_set => exact absurd member other.1
  case cmap_delete => exact absurd member other.1
  case votequorum_setexpected => exact absurd member other.2.1
  case votequorum_setvotes => exact absurd member other.2.1
  case ssh_channel_request_exec => exact absurd member other.2.2.1
  case sftp_open => exact absurd member other.2.2.2
  case sftp_write => exact absurd member other.2.2.2
  all_goals exact id

theorem readOnly_call {c : Call} {next : Reply c → Client α} (harmless : ¬ Changes c) (rest : ∀ r, ReadOnly (next r)) :
    ReadOnly (.call c next) := ⟨harmless, rest⟩

theorem readOnly_last {c : Call} (harmless : ¬ Changes c) (a : α) : ReadOnly (.call c fun _ => .ret a) :=
  ⟨harmless, fun _ => makes_ret a⟩

end

theorem get_cmap_value_readOnly (key : Bytes) (value : Bool) (type : CmapType) : ReadOnly (get_cmap_value key value type) := by
  simp only [get_cmap_value, fetch_value, perform_bind, Prog.pure_eq]
  refine readOnly_call id fun _ => makes_ite (makes_ret _) (readOnly_call id fun _ => ?_)
  refine makes_ite (readOnly_last id _) (makes_ite (readOnly_last id _) ?_)
  refine makes_bind (makes_ite ?_ ?_) fun _ => makes_ite (readOnly_last id _) (readOnly_last id _)
  · exact readOnly_call id fun _ => makes_ret _
  · exact readOnly_call id fun _ => makes_ret _

theorem get_member_count_readOnly (fuel : Nat) (last count : Int32) : ReadOnly (get_member_count fuel last count) := by
  simp only [get_member_count, perform_bind, Prog.pure_eq]
  refine readOnly_call id fun _ => makes_ite (makes_ret _) (readOnly_call id fun _ => makes_ite (readOnly_last id _) ?_)
  refine makes_bind (makes_loop (fun s => ?_) fuel _) fun _ => readOnly_call id fun _ => readOnly_last id _
  simp only [count_round, perform_bind, Prog.pure_eq]
  exact readOnly_call id fun _ => makes_ite (makes_ret _) (makes_ite (makes_ret _) (makes_ret _))

theorem read_string_readOnly (key : Bytes) (type : CmapType) (capacity : Nat) (buffer : Bytes) :
    ReadOnly (read_string key type capacity buffer) := by
  simp only [read_string, perform_bind, Prog.pure_eq]
  refine makes_bind (get_cmap_value_readOnly key true type) fun _ => makes_ite ?_ (makes_ret _)
  exact makes_bind (readOnly_within (deref_within _) (by simp)) fun _ => readOnly_last id _

theorem get_members_readOnly (fuel : Nat) (last : Int32) (key_suffix : Bytes) (array : Int32 → ClusterMember) (array_len : Int32) :
    ReadOnly (get_members fuel last key_suffix array array_len) := by
  simp only [get_members, perform_bind, Prog.pure_eq]
  refine readOnly_call id fun _ => makes_ite (makes_ret _) (readOnly_call id fun _ => makes_ite (readOnly_last id _) ?_)
  refine makes_bind (makes_loop (fun s => ?_) fuel _) fun _ => readOnly_call id fun _ => readOnly_last id _
  simp only [members_round, perform_bind, Prog.pure_eq]
  refine readOnly_call id fun _ => makes_ite (makes_ret _) ?_
  refine makes_bind (readOnly_within (store_suffix_within _ _) (by simp)) fun _ => ?_
  refine makes_bind (readOnly_within (begin_entry_within _ _ _) (by simp)) fun s => ?_
  have entry : ∀ suffix type capacity buffer (f : Bytes → MembersState), ReadOnly (.call (.access (.entry s.i array_len)) fun _ =>
      read_string suffix type capacity buffer >>= fun text => .ret (.inl (f text)) : Client (MembersState ⊕ (Int32 → ClusterMember))) :=
    fun suffix type capacity buffer f => readOnly_call id fun _ => makes_bind (read_string_readOnly _ _ _ _) fun _ => makes_ret _
  exact makes_ite (entry _ _ _ _ _) (makes_ite (entry _ _ _ _ _) (makes_ret _))

theorem get_votes_readOnly (nodeid votes : UInt32) : ReadOnly (get_votes nodeid votes) := by
  simp only [get_votes, perform_bind, Prog.pure_eq]
  refine readOnly_call id fun _ => makes_ite (makes_ret _) ?_
  refine makes_bind (readOnly_within (get_local_nodeid_within 0) (by simp)) fun _ => readOnly_call id fun _ => ?_
  exact makes_ite (readOnly_last id _) (readOnly_last id _)

theorem get_quorum_info_readOnly (qd : QuorumDetails) : ReadOnly (get_quorum_info qd) := by
  simp only [get_quorum_info, perform_bind, Prog.pure_eq]
  refine readOnly_call id fun _ => makes_ite (makes_ret _) ?_
  refine makes_bind (readOnly_within (get_local_nodeid_within 0) (by simp)) fun _ => readOnly_call id fun _ => ?_
  exact makes_ite (readOnly_last id _) (readOnly_last id _)

/-! ### Prints and the monitor -/

theorem readOnly_forEntries {β : Type} (len : Int32) {body : Int32 → β → Client β} (each : ∀ i b, ReadOnly (body i b)) (b : β) :
    ReadOnly (forEntries len body b) := by
  unfold forEntries
  generalize len.toInt.toNat = n
  induction n generalizing b with
  | zero => exact makes_ret b
  | succ n ih => exact makes_bind (ih b) (each _)

theorem print_membership_readOnly (fuel : Nat) (u : Uninit) : ReadOnly (print_membership fuel u) := by
  have entry : ∀ i len, ReadOnly (access (.entry i len)) := fun i len => readOnly_last id ()
  have print : ∀ {text : Bytes} {p : Client UInt32}, ReadOnly p → ReadOnly (.call (.printf text) fun _ => p) :=
    fun rest => readOnly_call id fun _ => rest
  have member : ∀ arr arr_len local_nodeid i votes, ReadOnly (print_member arr arr_len local_nodeid i votes) := by
    intro arr arr_len local_nodeid i votes
    simp only [print_member, perform_bind, Prog.pure_eq]
    refine readOnly_call id fun _ => makes_bind (get_votes_readOnly _ _) fun _ => print (print (print (makes_ite (print ?_) ?_)))
    · exact makes_ite (print (print (makes_ret _))) (print (makes_ret _))
    · exact makes_ite (print (print (makes_ret _))) (print (makes_ret _))
  simp only [print_membership, perform_bind, Prog.pure_eq]
  refine makes_bind (get_member_count_readOnly _ _ _) fun _ => makes_ite (makes_ret _) ?_
  refine makes_bind (readOnly_forEntries _ (fun _ _ => entry _ _) ()) fun _ => ?_
  refine makes_bind (readOnly_within (get_local_nodeid_within _) (by simp)) fun _ => ?_
  refine makes_bind (get_members_readOnly _ _ _ _ _) fun _ => readOnly_call id fun _ => readOnly_call id fun _ => ?_
  exact makes_bind (readOnly_forEntries _ (fun _ _ => member _ _ _ _ _) _) fun _ => makes_ret _

theorem print_quorum_readOnly : ReadOnly print_quorum := by
  have print : ∀ {text : Bytes} {p : Client Err}, ReadOnly p → ReadOnly (.call (.printf text) fun _ => p) :=
    fun rest => readOnly_call id fun _ => rest
  simp only [print_quorum, perform_bind, Prog.pure_eq]
  refine makes_bind (get_quorum_info_readOnly _) fun _ => makes_ite (makes_ret _) ?_
  refine print (print (print (print (print (print ?_)))))
  exact makes_bind (readOnly_within print_time_within (by simp)) fun _ => makes_ret _

theorem using_votequorum_readOnly (g : Globals) : ReadOnly (using_votequorum g) := by
  simp only [using_votequorum, get_quorum_type, perform_bind, Prog.pure_eq]
  refine makes_bind (makes_ite (makes_ret _) (readOnly_call id fun r => makes_ite (makes_ret _) ?_)) fun out => ?_
  · split
    · exact makes_ret _
    · exact makes_ret _
  · exact makes_ite (makes_ret _) (makes_ite (makes_ret _) (makes_ret _))

theorem init_all_readOnly (g : Globals) : ReadOnly (init_all g) := by
  have fail : ∀ (text : Bytes) (out : Int × Globals), ReadOnly (.call (.eprintf text) fun _ => .ret out) :=
    fun text out => readOnly_last id out
  simp only [init_all, perform_bind, Prog.pure_eq]
  refine readOnly_call id fun _ => makes_ite (fail _ _) (readOnly_call id fun _ => makes_ite (fail _ _) ?_)
  refine readOnly_call id fun _ => makes_ite (fail _ _) ?_
  refine makes_bind (using_votequorum_readOnly _) fun _ => makes_ite (makes_ret _) ?_
  refine readOnly_call id fun _ => makes_ite (fail _ _) (readOnly_call id fun _ => makes_ite (fail _ _) ?_)
  exact makes_ret _

theorem close_all_readOnly (g : Globals) : ReadOnly (close_all g) := by
  have close : ∀ {c : Call} {p : Client Unit} {P : Prop} [Decidable P], ¬ Changes c → ReadOnly p →
      ReadOnly (if P then .call c fun _ => p else p) := fun harmless rest => makes_ite (readOnly_call harmless fun _ => rest) rest
  simp only [close_all, perform_bind, Prog.pure_eq]
  exact close id (close id (close id (close id (makes_ret _))))

theorem monitor_loop_readOnly (fuel : Nat) (u : Nat → Uninit) (g : Globals) : ReadOnly (monitor_loop fuel u g) := by
  have fail : ∀ (text : Bytes → Bytes) {err : CsError} {β : Type} (out : β),
      ReadOnly (.call (.cs_strerror err) fun r => .call (.eprintf (text r)) fun _ => .ret out) :=
    fun text err β out => readOnly_call id fun _ => readOnly_last id out
  have rounds : ReadOnly (loop (monitor_round fuel u g) fuel 0) := by
    refine makes_loop (fun n => ?_) fuel 0
    simp only [monitor_round, perform_bind, Prog.pure_eq]
    refine readOnly_call id fun err => makes_ite (fail _ _) ?_
    refine makes_bind print_quorum_readOnly fun _ => makes_ite (makes_ret _) ?_
    exact makes_bind (print_membership_readOnly _ _) fun _ => makes_ret _
  simp only [monitor_loop, perform_bind, Prog.pure_eq]
  refine makes_ite (readOnly_last id _) (readOnly_call id fun err => makes_ite (fail _ _) ?_)
  refine makes_bind (using_votequorum_readOnly _) fun _ => makes_ite ?_ rounds
  exact readOnly_call id fun err => makes_ite (fail _ _) rounds

theorem monitor_status_readOnly (fuel : Nat) (u : Nat → Uninit) (g : Globals) : ReadOnly (monitor_status fuel u g) := by
  have close : ∀ (g : Globals) (out : Int × Globals), ReadOnly (close_all g >>= fun _ => .ret out) :=
    fun g out => makes_bind (close_all_readOnly g) fun _ => makes_ret _
  simp only [monitor_status, Prog.pure_eq]
  refine makes_bind (init_all_readOnly _) fun _ => makes_ite (close _ _) ?_
  exact makes_bind (monitor_loop_readOnly _ _ _) fun _ => close _ _

/-! ### The tasks -/

/-- The calls that a task may make. -/
def Licensed (task : ClientTask) (c : Call) : Prop :=
  match task with
  | .print_option => ¬ Changes c
  | .monitor_option => ¬ Changes c
  | .quorum_option => Changes c → ∃ handle nodeid votes, c = .votequorum_setvotes handle nodeid votes
  | .ssh_cmd => Changes c → service c = .ssh ∨ service c = .sftp

theorem licensed_harmless (task : ClientTask) {c : Call} (harmless : ¬ Changes c) : Licensed task c := by
  cases task with
  | print_option => exact harmless
  | monitor_option => exact harmless
  | quorum_option => exact fun changes => absurd changes harmless
  | ssh_cmd => exact fun changes => absurd changes harmless

theorem licensed_of_readOnly {α : Type} {p : Client α} (readOnly : ReadOnly p) (task : ClientTask) : p.Makes (Licensed task) :=
  makes_mono readOnly fun _ harmless => licensed_harmless task harmless

theorem read_word_readOnly (text : Option Bytes) : ReadOnly (read_word text) := readOnly_within (read_word_within text) (by simp)

theorem next_entry_readOnly (argz : Bytes) (entry : Option Nat) : ReadOnly (next_entry argz entry) :=
  readOnly_within (next_entry_within argz entry) (by simp)

theorem client_print_option_readOnly (fuel : Nat) (u : Uninit) (argz : Bytes) : ReadOnly (client_print_option fuel u argz) := by
  have report : ∀ err : Err, ReadOnly (if err ≠ CS_OK then
      (printf (ascii "print manager recieved an error: " ++ get_error err ++ ascii "\n") >>= fun _ => pure ())
      else (pure () : Client Unit)) := fun err => makes_ite (readOnly_last id _) (makes_ret _)
  refine makes_bind (read_word_readOnly _) fun target => makes_ite ?_ (makes_ite ?_ (makes_ret _))
  · exact makes_bind (print_membership_readOnly _ _) report
  · exact makes_bind print_quorum_readOnly report

theorem client_monitor_option_readOnly (fuel : Nat) (u : Nat → Uninit) (g : Globals) (argz : Bytes) :
    ReadOnly (client_monitor_option fuel u g argz) := by
  refine makes_bind (read_word_readOnly _) fun target => makes_ite ?_ (makes_ret _)
  refine makes_bind (monitor_status_readOnly _ _ _) fun out => ?_
  exact makes_ite (readOnly_last id _) (makes_ret _)

theorem client_quorum_option_licensed (fuel : Nat) (argz : Bytes) : (client_quorum_option fuel argz).Makes (Licensed .quorum_option) := by
  have readOnly : ∀ {α : Type} {p : Client α}, ReadOnly p → p.Makes (Licensed .quorum_option) :=
    fun readOnly => licensed_of_readOnly readOnly .quorum_option
  have votes : ∀ nodeid votes, (set_votes nodeid votes).Makes (Licensed .quorum_option) := by
    intro nodeid votes
    simp only [set_votes, perform_bind, Prog.pure_eq]
    refine ⟨fun changes => changes.elim, fun r => makes_ite (makes_ret _) ⟨fun _ => ⟨_, _, _, rfl⟩, fun _ => ?_⟩⟩
    exact makes_ite (readOnly (readOnly_last id _)) (readOnly (readOnly_last id _))
  have change : ∀ nodeid votes, (client_change_votes nodeid votes).Makes (Licensed .quorum_option) := by
    intro nodeid votes'
    simp only [client_change_votes, perform_bind, Prog.pure_eq]
    refine makes_bind (votes _ _) fun _ => readOnly (makes_ite (readOnly_call id fun _ => readOnly_last id _) (readOnly_last id _))
  refine makes_loop (fun prev => ?_) fuel _
  refine makes_bind (readOnly (next_entry_readOnly _ _)) fun next => ?_
  cases next with
  | none => exact makes_ret _
  | some q_target =>
    refine makes_bind (readOnly (read_word_readOnly _)) fun option => makes_ite ?_ (makes_ret _)
    refine makes_bind (readOnly (read_word_readOnly _)) fun nodeid => makes_bind (readOnly (next_entry_readOnly _ _)) fun next => ?_
    exact makes_bind (readOnly (read_word_readOnly _)) fun votes => makes_bind (change _ _) fun _ => makes_ret _

theorem client_ssh_option_licensed (fuel : Nat) (u : Nat → CommandUninit) (argz : Bytes) :
    (client_ssh_option fuel u argz).Makes (Licensed .ssh_cmd) := by
  refine makes_mono (client_ssh_option_within fuel u argz) fun c member changes => ?_
  cases c
  case ssh_channel_request_exec => exact .inl rfl
  case sftp_open => exact .inr rfl
  case sftp_write => exact .inr rfl
  case cmap_set => simp at member
  case cmap_delete => simp at member
  case votequorum_setexpected => simp at member
  case votequorum_setvotes => simp at member
  all_goals exact changes.elim

theorem run_task_licensed (fuel : Nat) (u : ClientUninit) (arguments : Parsed) :
    (run_task fuel u arguments).Makes (Licensed arguments.task) := by
  unfold run_task
  cases arguments.task with
  | print_option => exact client_print_option_readOnly _ _ _
  | monitor_option => exact client_monitor_option_readOnly _ _ _ _
  | quorum_option => exact client_quorum_option_licensed _ _
  | ssh_cmd => exact client_ssh_option_licensed _ _ _

theorem main_licensed (fuel : Nat) (u : ClientUninit) (name : Bytes) (line : List (OptKey × CString)) :
    (main fuel u name line).Makes (Licensed (lastTask line .print_option)) := by
  have readOnly : ∀ {α : Type} {p : Client α}, ReadOnly p → p.Makes (Licensed (lastTask line .print_option)) :=
    fun readOnly => licensed_of_readOnly readOnly _
  simp only [main, perform_bind, Prog.pure_eq]
  refine ⟨licensed_harmless _ id, fun _ => ?_⟩
  cases parsed : argp_parse line with
  | error message => exact readOnly (readOnly_last id _)
  | ok arguments =>
    have licensed := run_task_licensed fuel u arguments
    obtain ⟨-, rfl⟩ := (argp_parse_ok line arguments).mp parsed
    exact makes_bind licensed fun _ => readOnly (readOnly_last id _)

/-! ### One vote -/

def setsVotes : Call → Bool
  | .votequorum_setvotes _ _ _ => true
  | _ => false

/-- Any reply may come. The state counts how often votes were set, which may be done once. -/
@[simps] def once : LibWorld Nat where
  permits n c := setsVotes c = true → n = 0
  answers n c _ n' := n' = n + (setsVotes c).toNat

/-- What only reads leaves the count as it is. -/
theorem once_readOnly {α : Type} {p : Client α} (readOnly : ReadOnly p) (n : Nat) : wlp once p (fun _ m => m = n) n := by
  refine wlp_keep readOnly (fun m => m = n) ?_ rfl
  rintro m c harmless rfl
  have other : setsVotes c = false := by
    cases c
    case votequorum_setvotes => exact absurd trivial harmless
    all_goals rfl
  refine ⟨fun sets => absurd (other.symm.trans sets) Bool.false_ne_true, ?_⟩
  rintro r m' same
  simpa [other] using same

theorem once_within {α : Type} {l : List Service} {p : Client α} (within : Within l p) (other : .votequorum ∉ l) (n : Nat) :
    wlp once p (fun _ _ => True) n := by
  refine wlp_of_makes within ?_ n
  intro n c member sets
  cases c
  case votequorum_setvotes => exact absurd member other
  all_goals exact absurd sets Bool.false_ne_true

theorem set_votes_once (nodeid votes : UInt32) : wlp once (set_votes nodeid votes) (fun _ _ => True) 0 := by
  have last : ∀ (handle : Handle) (err : Err) (n : Nat),
      wlp once (.call (.votequorum_finalize handle) fun _ => .ret err) (fun _ _ => True) n :=
    fun handle err n => wlp_mono (once_readOnly (readOnly_last id _) n) fun _ _ _ => trivial
  simp only [set_votes, perform_bind, Prog.pure_eq]
  refine ⟨fun _ => rfl, ?_⟩
  rintro r _ rfl
  rw [wlp_ite]
  refine ⟨fun _ => trivial, fun _ => ⟨fun _ => rfl, ?_⟩⟩
  rintro err _ rfl
  rw [wlp_ite]
  exact ⟨fun _ => last _ _ _, fun _ => last _ _ _⟩

/-- The round that sets votes is the last one. -/
theorem client_quorum_option_once (fuel : Nat) (argz : Bytes) : wlp once (client_quorum_option fuel argz) (fun _ _ => True) 0 := by
  refine wlp_loop (fun _ n => n = 0) ?_ fuel _ rfl
  rintro prev _ rfl
  refine wlp_seq (once_readOnly (next_entry_readOnly _ _) 0) ?_
  rintro next _ rfl
  cases next with
  | none => trivial
  | some q_target =>
    refine wlp_seq (once_readOnly (read_word_readOnly _) 0) ?_
    rintro option _ rfl
    rw [wlp_ite]
    refine ⟨fun _ => ?_, fun _ => rfl⟩
    refine wlp_seq (once_readOnly (read_word_readOnly _) 0) ?_
    rintro nodeid _ rfl
    refine wlp_seq (once_readOnly (next_entry_readOnly _ _) 0) ?_
    rintro next _ rfl
    refine wlp_seq (once_readOnly (read_word_readOnly _) 0) ?_
    rintro votes _ rfl
    refine wlp_seq (Q := fun _ _ => True) ?_ fun _ _ _ => trivial
    simp only [client_change_votes, perform_bind, Prog.pure_eq]
    refine wlp_seq (set_votes_once _ _) fun err n _ => ?_
    refine wlp_mono (once_readOnly (makes_ite ?_ (readOnly_last id _)) n) fun _ _ _ => trivial
    exact readOnly_call id fun _ => readOnly_last id _

theorem run_task_once (fuel : Nat) (u : ClientUninit) (arguments : Parsed) :
    wlp once (run_task fuel u arguments) (fun _ _ => True) 0 := by
  have reads : ∀ {p : Client Unit}, ReadOnly p → wlp once p (fun _ _ => True) 0 :=
    fun readOnly => wlp_mono (once_readOnly readOnly 0) fun _ _ _ => trivial
  unfold run_task
  cases arguments.task with
  | print_option => exact reads (client_print_option_readOnly _ _ _)
  | monitor_option => exact reads (client_monitor_option_readOnly _ _ _ _)
  | quorum_option => exact client_quorum_option_once _ _
  | ssh_cmd => exact once_within (client_ssh_option_within _ _ _) (by simp) 0

theorem main_once (fuel : Nat) (u : ClientUninit) (name : Bytes) (line : List (OptKey × CString)) :
    wlp once (main fuel u name line) (fun _ _ => True) 0 := by
  have last : ∀ (c : Call) (n : Nat), ¬ Changes c → wlp once (.call c fun _ => .ret ()) (fun _ _ => True) n :=
    fun c n harmless => wlp_mono (once_readOnly (readOnly_last harmless ()) n) fun _ _ _ => trivial
  simp only [main, perform_bind, Prog.pure_eq]
  refine ⟨fun _ => rfl, ?_⟩
  rintro _ _ rfl
  cases argp_parse line with
  | error message => exact last _ _ id
  | ok arguments => exact wlp_seq (run_task_once fuel u arguments) fun _ n _ => last _ n id

/-- How often votes are set in a trace. -/
def timesSet (tr : List LibEvent) : Nat := tr.countP fun e => setsVotes e.call

/-- The state counts the calls. -/
theorem run_once {α : Type} {p q : Client α} {s t : Unit} {tr : List LibEvent} (run : Run anything p s tr q t) (n : Nat) :
    Run once p n tr q (n + timesSet tr) := by
  induction run generalizing n with
  | done => exact .done
  | @step c next r q s s' t tr _ _ ih =>
    have rest := ih (n + (setsVotes c).toNat)
    have same : n + timesSet (⟨c, r⟩ :: tr) = n + (setsVotes c).toNat + timesSet tr := by
      unfold timesSet
      rw [List.countP_cons]
      cases setsVotes c with
      | true => simp; omega
      | false => simp
    rw [same]
    exact .step rfl rest

/-- In any run of the program, whatever the libraries answer: a line whose last task is a
    print or the monitor changes nothing outside of the program, a quorum line only sets
    the votes of a node, and a command only reaches other machines. Votes are never set
    twice. -/
theorem main_authority {fuel : Nat} {u : ClientUninit} {name : Bytes} {line : List (OptKey × CString)} {tr : List LibEvent}
    {q : Client Unit} (run : Run anything (main fuel u name line) () tr q ()) :
    (∀ e ∈ tr, Licensed (lastTask line .print_option) e.call) ∧ timesSet tr ≤ 1 := by
  refine ⟨run_makes run (main_licensed fuel u name line), ?_⟩
  have counted := run_once run 0
  rw [Nat.zero_add] at counted
  refine run_permitted (I := fun n => n ≤ 1) ?_ counted (main_once fuel u name line) (Nat.zero_le 1)
  rintro n c r _ permitted rfl few
  cases sets : setsVotes c with
  | true =>
    rw [permitted sets]
    exact Nat.le_refl 1
  | false => exact few

theorem two_nul_free : 0 ∉ ascii "2" := by decide
theorem three_nul_free : 0 ∉ ascii "3" := by decide

/-- `-q set_votes 2 3` -/
def threeVotes : Client Unit :=
  main 4 Operands.cleared [] [(.q, setVotesWord), (.ARG, ⟨ascii "2", two_nul_free⟩), (.ARG, ⟨ascii "3", three_nul_free⟩)]

theorem threeVotes_ends : exec succeeding threeVotes () = some ((), ()) ∧ timesSet (transcript succeeding threeVotes ()) = 1 := by
  decide +kernel

theorem main_authority_threeVotes : ∃ tr, Run anything threeVotes () tr (.ret ()) () ∧ timesSet tr = 1 ∧
    ∀ e ∈ tr, Licensed .quorum_option e.call := by
  have run := exec_run (W := anything) (fun _ => True) (fun _ _ _ => ⟨trivial, trivial⟩) trivial threeVotes_ends.1
  exact ⟨_, run, threeVotes_ends.2, (main_authority run).1⟩

end CorosyncClient.Authority
