import CorosyncClient.Tasks
import CorosyncClient.ConfCopy

/-!
The other machines. A command line reaches the machines that it lists, in their order, by
its one command and by the one file that `reset_conf` writes, and no other machine; each
listing of a machine runs the command at most once.
-/
namespace CorosyncClient.RemoteMachines
open CLib Interaction Services SshOption Tasks
set_option linter.unusedSimpArgs false

/-! ### Machines and connections -/

/-- The machines by their addresses: the commands that were started on them, in order, and
    their files. -/
structure Machines where
  log : List (Bytes × Bytes)
  files : Bytes → Bytes → Option Bytes

/-- A command is started on a machine. -/
def ran (m : Machines) (addr cmd : Bytes) : Machines := { m with log := m.log ++ [(addr, cmd)] }

/-- A file of a machine gets a new content. -/
def wrote (m : Machines) (addr path : Bytes) (content : Option Bytes) : Machines :=
  { m with files := Function.update m.files addr (Function.update (m.files addr) path content) }

theorem wrote_self (m : Machines) (addr path : Bytes) : wrote m addr path (m.files addr path) = m := by
  simp [wrote]

@[simp] theorem wrote_wrote (m : Machines) (addr path : Bytes) (content content' : Option Bytes) :
    wrote (wrote m addr path content) addr path content' = wrote m addr path content' := by
  simp [wrote]

/-- The machines, and what the libraries keep behind their handles. -/
structure Fleet where
  machines : Machines
  /-- The host that is set for a session. -/
  host : Handle → Option Bytes
  /-- The session of a channel. -/
  channel : Handle → Handle
  /-- The output that a channel has not handed out. -/
  output : Handle → Nat
  /-- The session of an sftp session. -/
  sftp : Handle → Handle
  /-- The machine of an open remote file, and its path there. -/
  target : Handle → Option (Bytes × Bytes)
  /-- The content of an open local file, and the position in it. -/
  source : Handle → Bytes × Nat

namespace Fleet
variable (f : Fleet)

/-- A command is started over a channel, with some output to come. -/
def exec (channel : Handle) (cmd : Bytes) (output : Nat) : Fleet :=
  match f.host (f.channel channel) with
  | some addr => { f with machines := ran f.machines addr cmd, output := Function.update f.output channel output }
  | none => f

/-- A remote file is opened. -/
def opened (sftp : Handle) (path : Bytes) (flags : OpenFlags) (file : Handle) : Fleet :=
  match f.host (f.sftp sftp) with
  | some addr =>
    { f with machines := wrote f.machines addr path (some (if flags.O_TRUNC then [] else (f.machines.files addr path).getD [])),
             target := Function.update f.target file (some (addr, path)) }
  | none => { f with target := Function.update f.target file none }

/-- Some bytes are appended to an open remote file. -/
def append (file : Handle) (sent : Bytes) : Fleet :=
  match f.target file with
  | some (addr, path) =>
    { f with machines := wrote f.machines addr path ((f.machines.files addr path).map (· ++ sent)) }
  | none => f

/-- Some bytes of an open local file are read. -/
def read (stream : Handle) (n : Nat) : Fleet :=
  { f with source := Function.update f.source stream ((f.source stream).1, (f.source stream).2 + n) }

end Fleet

/-- The local files, whether calls may fail, and how much output a command may have. -/
structure Setting where
  templates : Bytes → Option ConfCopy.SourceFile
  mayFail : Prop
  output : Nat → Prop

/-- The libraries and the machines behind them. Where calls may not fail, every call does
    all that it is asked to do. Before each call the machines must satisfy `I`. -/
@[simps] def fleet (I : Machines → Prop) (S : Setting) : LibWorld Fleet where
  permits f _ := I f.machines
  answers f c r f' :=
    match c with
    | .ssh_new => (∃ h, r = some h ∧ f' = { f with host := Function.update f.host h none }) ∨ (S.mayFail ∧ r = none ∧ f' = f)
    | .ssh_options_set h (.host addr) =>
      (r = 0 ∧ f' = { f with host := Function.update f.host h (some addr) }) ∨ (S.mayFail ∧ r ≠ 0 ∧ f' = f)
    | .ssh_connect h => f' = f ∧ (r = SSH_OK → (f.host h).isSome) ∧ ((f.host h).isSome → r = SSH_OK ∨ S.mayFail)
    | .ssh_userauth_password _ _ => f' = f ∧ (r = SSH_AUTH_SUCCESS ∨ S.mayFail)
    | .ssh_channel_new h =>
      (∃ c, r = some c ∧ f' = { f with channel := Function.update f.channel c h }) ∨ (S.mayFail ∧ r = none ∧ f' = f)
    | .ssh_channel_open_session _ => f' = f ∧ (r = SSH_OK ∨ S.mayFail)
    -- a command whose start is not confirmed may have been started
    | .ssh_channel_request_exec c cmd =>
      (∃ output, S.output output ∧ f' = f.exec c cmd output ∧ (r = SSH_OK ∨ S.mayFail)) ∨ (S.mayFail ∧ r ≠ SSH_OK ∧ f' = f)
    | .ssh_channel_read c count =>
      f' = { f with output := Function.update f.output c (f.output c - count) } ∧
        (r.toInt = min (f.output c) count ∨ 2 ^ 31 ≤ count ∨ S.mayFail)
    | .sftp_new h => (∃ x, r = some x ∧ f' = { f with sftp := Function.update f.sftp x h }) ∨ (S.mayFail ∧ r = none ∧ f' = f)
    | .sftp_init _ => f' = f ∧ (0 ≤ r ∨ S.mayFail)
    | .sftp_open x path flags => (∃ file, r = some file ∧ f' = f.opened x path flags file) ∨ (S.mayFail ∧ r = none ∧ f' = f)
    | .sftp_write file buf => ∃ n ≤ buf.length, f' = f.append file (buf.take n) ∧ ((r = n ∧ n = buf.length) ∨ S.mayFail)
    | .stat path => f' = f ∧ ((∃ file, S.templates path = some file ∧ r = (0, file.size)) ∨ S.templates path = none ∨ S.mayFail)
    | .fopen path =>
      (∃ file h, S.templates path = some file ∧ r = some h ∧ f' = { f with source := Function.update f.source h (file.bytes, 0) }) ∨
        ((S.templates path = none ∨ S.mayFail) ∧ r = none ∧ f' = f)
    | .fseek h offset =>
      (r = 0 ∧ f' = { f with source := Function.update f.source h ((f.source h).1, offset) }) ∨ (S.mayFail ∧ f' = f)
    | .fread h size =>
      f' = f.read h r.length ∧ (r = ((f.source h).1.drop (f.source h).2).take size ∨ S.mayFail)
    | _ => f' = f

/-! ### One machine -/

section
variable {I : Machines → Prop} {S : Setting}

/-- The output of a command is read without a change to any machine. -/
theorem drain_spec (fuel : Nat) (channel : Handle) {f : Fleet} (holds : I f.machines) :
    wlp (fleet I S) (drain fuel channel) (fun _ g => g.machines = f.machines) f := by
  simp only [drain, perform_bind, wlp_call, fleet_permits, fleet_answers]
  refine ⟨holds, ?_⟩
  rintro r _ ⟨rfl, -⟩
  refine wlp_loop (fun _ g => g.machines = f.machines) ?_ fuel _ (by rfl)
  rintro nbytes g same
  simp only [drain_round, wlp_ite, perform_bind, Prog.pure_eq, wlp_call, wlp_ret, fleet_permits, fleet_answers]
  refine ⟨fun _ => ⟨same ▸ holds, ?_⟩, fun _ => same⟩
  rintro r _ ⟨rfl, -⟩
  exact same

theorem free_session_spec (session : Handle) {α : Type} {out : α} {f : Fleet} (holds : I f.machines) {Q : α → Fleet → Prop} (ends : Q out f) :
    wlp (fleet I S) (free_session session >>= fun _ => .ret out) Q f := by
  simp only [free_session, perform_bind, Prog.call_bind, Prog.ret_bind, wlp_call, wlp_ret, fleet_permits, fleet_answers]
  refine ⟨holds, ?_⟩
  rintro _ _ rfl
  refine ⟨holds, ?_⟩
  rintro _ _ rfl
  exact ends

theorem free_both_spec (channel session : Handle) {α : Type} {out : α} {f : Fleet} (holds : I f.machines) {Q : α → Fleet → Prop}
    (ends : Q out f) :
    wlp (fleet I S) (free_channel channel >>= fun _ => free_session session >>= fun _ => .ret out) Q f := by
  simp only [free_channel, perform_bind, Prog.call_bind, Prog.ret_bind, wlp_call, fleet_permits, fleet_answers]
  refine ⟨holds, ?_⟩
  rintro _ _ rfl
  refine ⟨holds, ?_⟩
  rintro _ _ rfl
  refine ⟨holds, ?_⟩
  rintro _ _ rfl
  exact free_session_spec session holds ends

/-- A command at most runs on the machine of the session, and has run there if it is
    reported so. -/
theorem run_in_channel_spec (cmd : Bytes) (fuel : Nat) {session : Handle} {addr : Bytes} {f : Fleet} (host : f.host session = some addr)
    (holds : I f.machines) (holds' : I (ran f.machines addr cmd)) :
    wlp (fleet I S) (run_in_channel cmd fuel session)
      (fun err g => (err ≠ CS_OK ∧ g.machines = f.machines) ∨ g.machines = ran f.machines addr cmd) f := by
  simp only [run_in_channel, perform_bind, Prog.pure_eq, wlp_call, fleet_permits, fleet_answers]
  refine ⟨holds, ?_⟩
  rintro _ _ (⟨channel, rfl, rfl⟩ | ⟨-, rfl, rfl⟩)
  · simp only [wlp_call, wlp_ite, fleet_permits, fleet_answers]
    refine ⟨holds, ?_⟩
    rintro rc _ ⟨rfl, -⟩
    refine ⟨fun _ => free_both_spec channel session ?_ ?_, fun _ => ⟨holds, ?_⟩⟩
    · exact holds
    · exact .inl ⟨by simp, rfl⟩
    rintro rc g answered
    have after : g.machines = ran f.machines addr cmd ∨ (rc ≠ SSH_OK ∧ g.machines = f.machines) := by
      rcases answered with ⟨output, -, rfl, -⟩ | ⟨-, failed, rfl⟩
      · exact .inl (by simp [Fleet.exec, host])
      · exact .inr ⟨failed, rfl⟩
    constructor
    · intro _
      rcases after with started | ⟨-, same⟩
      · refine free_both_spec channel session (started ▸ holds') ?_
        exact .inr started
      · refine free_both_spec channel session (same ▸ holds) ?_
        exact .inl ⟨by simp, same⟩
    · intro ok
      have started := after.resolve_right fun failed => ok failed.1
      refine wlp_seq (drain_spec fuel channel (started ▸ holds')) ?_
      rintro _ k same
      refine free_both_spec channel session (same ▸ started ▸ holds') ?_
      exact .inr (same.trans started)
  · refine free_session_spec session holds ?_
    exact .inl ⟨by simp, rfl⟩

/-- A session that is connected has the host that was set. -/
theorem remote_command_spec (cmd : Bytes) (fuel : Nat) (addr : Bytes) {f : Fleet} (holds : I f.machines)
    (holds' : I (ran f.machines addr cmd)) :
    wlp (fleet I S) (remote_command cmd fuel addr)
      (fun err g => (err ≠ CS_OK ∧ g.machines = f.machines) ∨ g.machines = ran f.machines addr cmd) f := by
  simp only [remote_command, perform_bind, Prog.pure_eq, wlp_call, fleet_permits, fleet_answers]
  refine ⟨holds, ?_⟩
  rintro _ _ (⟨session, rfl, rfl⟩ | ⟨-, rfl, rfl⟩)
  · simp only [wlp_call, wlp_ite, fleet_permits, fleet_answers]
    refine ⟨holds, ?_⟩
    rintro rc g answered
    obtain ⟨machines, host⟩ : g.machines = f.machines ∧ ((g.host session).isSome → g.host session = some addr) := by
      rcases answered with ⟨-, rfl⟩ | ⟨-, -, rfl⟩
      · exact ⟨rfl, by simp⟩
      · exact ⟨rfl, by simp⟩
    rw [← machines] at holds holds' ⊢
    refine ⟨holds, ?_⟩
    rintro _ _ rfl
    refine ⟨holds, ?_⟩
    rintro _ _ rfl
    refine ⟨holds, ?_⟩
    rintro rc _ ⟨rfl, connected, -⟩
    refine ⟨fun _ => free_session_spec session ?_ ?_, fun ok => ⟨holds, ?_⟩⟩
    · exact holds
    · exact .inl ⟨by simp, rfl⟩
    rintro rc _ ⟨rfl, -⟩
    refine ⟨fun _ => .inl ⟨by simp, rfl⟩, fun _ => ?_⟩
    exact run_in_channel_spec cmd fuel (host (connected (not_ne_iff.mp ok))) holds holds'
  · exact .inl ⟨by simp, rfl⟩

/-- At most one file of one machine has a new content. -/
def Rewritten (m : Machines) (addr path : Bytes) (m' : Machines) : Prop := ∃ content, m' = wrote m addr path content

theorem rewritten_self (m : Machines) (addr path : Bytes) : Rewritten m addr path m :=
  ⟨_, (wrote_self m addr path).symm⟩

theorem rewritten_wrote {m m' : Machines} {addr path : Bytes} (rewritten : Rewritten m addr path m') (content : Option Bytes) :
    Rewritten m addr path (wrote m' addr path content) := by
  obtain ⟨before, rfl⟩ := rewritten
  exact ⟨content, wrote_wrote m addr path before content⟩

section
variable {m : Machines} {addr dest_directory : Bytes} (holds : ∀ m', Rewritten m addr dest_directory m' → I m')
include holds

/-- What is written goes to the file that was opened. -/
theorem sftp_write_spec {file : Handle} {buf : Bytes} {α : Type} {next : Client α} {Q : α → Fleet → Prop} {f : Fleet}
    (target : f.target file = some (addr, dest_directory)) (rewritten : Rewritten m addr dest_directory f.machines)
    (rest : ∀ g : Fleet, g.target file = some (addr, dest_directory) → Rewritten m addr dest_directory g.machines →
      wlp (fleet I S) next Q g) :
    wlp (fleet I S) (.call (.sftp_write file buf) fun _ => next) Q f := by
  refine ⟨holds _ rewritten, ?_⟩
  rintro rc _ ⟨n, -, rfl, -⟩
  refine rest _ ?_ ?_
  · simp only [Fleet.append, target]
  · simp only [Fleet.append, target]
    exact rewritten_wrote rewritten _

theorem copy_loop_spec (source file : Handle) (fuel : Nat) (start : CopyState) {f : Fleet}
    (target : f.target file = some (addr, dest_directory)) (rewritten : Rewritten m addr dest_directory f.machines) :
    wlp (fleet I S) (loop (copy_round source file) fuel start)
      (fun _ g => Rewritten m addr dest_directory g.machines) f := by
  refine wlp_loop (fun _ g => g.target file = some (addr, dest_directory) ∧ Rewritten m addr dest_directory g.machines) ?_
    fuel start ⟨target, rewritten⟩
  rintro b g ⟨target, rewritten⟩
  simp only [copy_round, wlp_ite, perform_bind, Prog.pure_eq]
  constructor
  · refine fun last => ⟨holds _ rewritten, ?_⟩
    rintro got _ ⟨rfl, -⟩
    exact sftp_write_spec holds target rewritten fun g' _ rewritten => rewritten
  · refine fun more => ⟨holds _ rewritten, ?_⟩
    rintro got _ ⟨rfl, -⟩
    exact sftp_write_spec holds target rewritten fun g' target rewritten => ⟨target, rewritten⟩

theorem sftp_conf_spec (fuel : Nat) (st_size : UInt64) (buffer : Bytes) (session : Handle) (source_file : Bytes) {f : Fleet}
    (host : f.host session = some addr) (start : Rewritten m addr dest_directory f.machines) :
    wlp (fleet I S) (sftp_conf fuel st_size buffer session source_file dest_directory)
      (fun _ g => Rewritten m addr dest_directory g.machines) f := by
  simp only [sftp_conf, perform_bind, Prog.pure_eq, wlp_call, fleet_permits, fleet_answers]
  refine ⟨holds _ start, ?_⟩
  rintro status f ⟨rfl, -⟩
  refine ⟨holds _ start, ?_⟩
  rintro _ _ (⟨sftp, rfl, rfl⟩ | ⟨-, rfl, rfl⟩)
  · simp only [wlp_call, wlp_ite, wlp_ret, fleet_permits, fleet_answers]
    refine ⟨holds _ start, ?_⟩
    rintro rc f' ⟨rfl, -⟩
    refine ⟨fun _ => start, fun _ => ⟨holds _ start, ?_⟩⟩
    rintro _ g (⟨file, rfl, rfl⟩ | ⟨-, rfl, rfl⟩)
    · have opened : ({ f with sftp := Function.update f.sftp sftp session }.opened sftp dest_directory ⟨true, true, true⟩ file) =
          { f with sftp := Function.update f.sftp sftp session, machines := wrote f.machines addr dest_directory (some []),
                   target := Function.update f.target file (some (addr, dest_directory)) } := by
        simp [Fleet.opened, host]
      have emptied := rewritten_wrote start (some [])
      rw [opened]
      simp only [wlp_call, fleet_permits, fleet_answers]
      refine ⟨holds _ emptied, ?_⟩
      rintro _ _ (⟨content, stream, -, rfl, rfl⟩ | ⟨-, rfl, rfl⟩)
      · simp only [wlp_call, fleet_permits, fleet_answers]
        refine ⟨holds _ emptied, ?_⟩
        intro rc g sought
        obtain ⟨target, machines⟩ : g.target file = some (addr, dest_directory) ∧ g.machines = wrote f.machines addr dest_directory (some []) := by
          rcases sought with ⟨-, rfl⟩ | ⟨-, rfl⟩
          · simp
          · simp
        refine wlp_seq (copy_loop_spec holds stream file fuel _ target (machines ▸ emptied)) ?_
        rintro _ k rewritten
        simp only [wlp_call, wlp_ret, fleet_permits, fleet_answers]
        refine ⟨holds _ rewritten, ?_⟩
        rintro _ _ rfl
        refine ⟨holds _ rewritten, ?_⟩
        rintro _ _ rfl
        refine ⟨holds _ rewritten, ?_⟩
        rintro _ _ rfl
        exact rewritten
      · simp only [wlp_call, wlp_ret, fleet_permits, fleet_answers]
        refine ⟨holds _ emptied, ?_⟩
        rintro _ _ rfl
        refine ⟨holds _ emptied, ?_⟩
        rintro _ _ rfl
        exact emptied
    · simp only [wlp_call, wlp_ret, fleet_permits, fleet_answers]
      refine ⟨holds _ start, ?_⟩
      rintro _ _ rfl
      exact start
  · exact start

/-- A copy writes to one file of the machine at most. -/
theorem copy_conf_spec (fuel : Nat) (st_size : UInt64) (buffer source_file : Bytes) {f : Fleet}
    (start : Rewritten m addr dest_directory f.machines) :
    wlp (fleet I S) (copy_conf fuel st_size buffer addr source_file dest_directory)
      (fun _ g => Rewritten m addr dest_directory g.machines) f := by
  simp only [copy_conf, perform_bind, Prog.pure_eq, wlp_call, fleet_permits, fleet_answers]
  refine ⟨holds _ start, ?_⟩
  rintro _ _ (⟨session, rfl, rfl⟩ | ⟨-, rfl, rfl⟩)
  · simp only [wlp_call, wlp_ite, fleet_permits, fleet_answers]
    refine ⟨holds _ start, ?_⟩
    rintro rc g answered
    obtain ⟨machines, host⟩ : g.machines = f.machines ∧ ((g.host session).isSome → g.host session = some addr) := by
      rcases answered with ⟨-, rfl⟩ | ⟨-, -, rfl⟩
      · exact ⟨rfl, by simp⟩
      · exact ⟨rfl, by simp⟩
    rw [← machines] at start
    refine ⟨holds _ start, ?_⟩
    rintro _ _ rfl
    refine ⟨holds _ start, ?_⟩
    rintro _ _ rfl
    refine ⟨holds _ start, ?_⟩
    rintro rc _ ⟨rfl, connected, -⟩
    refine ⟨fun _ => free_session_spec session (holds _ start) start, fun ok => ⟨holds _ start, ?_⟩⟩
    rintro rc _ ⟨rfl, -⟩
    refine ⟨fun _ => free_session_spec session (holds _ start) start, fun _ => ?_⟩
    refine wlp_seq (sftp_conf_spec holds fuel st_size buffer session source_file (host (connected (not_ne_iff.mp ok))) start) ?_
    intro rc k rewritten
    rw [wlp_ite]
    exact ⟨fun _ => free_session_spec session (holds _ rewritten) rewritten,
      fun _ => free_session_spec session (holds _ rewritten) rewritten⟩
  · exact start

end

/-! ### Commands -/

/-- What a command of the client starts on a machine. -/
def remoteCommands (cmd : Bytes) : List Bytes :=
  if cmd = ascii "start" then [ascii "corosync"]
  else if cmd = ascii "stop" then [ascii "corosync-cfgtool -H"]
  else if cmd = ascii "reset_conf" then [ascii "corosync-cfgtool -H"]
  else if cmd = ascii "kill_conn" then [ascii "ifdown eth1"]
  else if cmd = ascii "start_conn" then [ascii "ifup eth1"]
  else []

/-- Some of the listed machines have been reached, in the order of the list, and their
    files are changed by `reset_conf` only. -/
structure Reached (cmd : Bytes) (addrs : List Bytes) (m m' : Machines) : Prop where
  log : ∃ visited : List Bytes, visited.Sublist addrs ∧
    m'.log = m.log ++ visited.flatMap fun addr => (remoteCommands cmd).map fun text => (addr, text)
  files : ∀ addr path, m'.files addr path ≠ m.files addr path →
    cmd = ascii "reset_conf" ∧ addr ∈ addrs ∧ path = corosyncConf

section
variable {cmd : Bytes} {addrs more : List Bytes} {m k k' : Machines}

theorem reached_start : Reached cmd [] m m where
  log := ⟨[], .slnil, by simp⟩
  files _ _ changed := absurd rfl changed

theorem reached_mono (reached : Reached cmd addrs m k) (sub : addrs.Sublist more) : Reached cmd more m k where
  log := by
    obtain ⟨visited, within, log⟩ := reached.log
    exact ⟨visited, within.trans sub, log⟩
  files addr path changed := by
    obtain ⟨reset, listed, conf⟩ := reached.files addr path changed
    exact ⟨reset, sub.subset listed, conf⟩

/-- The next machine of the list gets its file. -/
theorem reached_wrote {addr : Bytes} (reached : Reached cmd addrs m k) (reset : cmd = ascii "reset_conf")
    (rewritten : Rewritten k addr corosyncConf k') : Reached cmd (addrs ++ [addr]) m k' := by
  obtain ⟨content, rfl⟩ := rewritten
  refine ⟨(reached_mono reached (List.sublist_append_left addrs [addr])).log, fun a path changed => ?_⟩
  by_cases here : a = addr ∧ path = corosyncConf
  · exact ⟨reset, by simp [here.1], here.2⟩
  · have same : (wrote k addr corosyncConf content).files a path = k.files a path := by
      by_cases machine : a = addr
      · subst machine
        have other : path ≠ corosyncConf := fun conf => here ⟨rfl, conf⟩
        simp [wrote, other]
      · simp [wrote, machine]
    rw [same] at changed
    exact (reached_mono reached (List.sublist_append_left addrs [addr])).files a path changed

/-- The next machine of the list starts its command, with its file written before. -/
theorem reached_ran {addr text : Bytes} (reached : Reached cmd addrs m k) (started : remoteCommands cmd = [text])
    (files : ∀ a path, k'.files a path ≠ m.files a path → cmd = ascii "reset_conf" ∧ a ∈ addrs ++ [addr] ∧ path = corosyncConf)
    (log : k'.log = k.log) : Reached cmd (addrs ++ [addr]) m (ran k' addr text) where
  log := by
    obtain ⟨visited, within, before⟩ := reached.log
    exact ⟨visited ++ [addr], within.append_right [addr], by simp [ran, log, before, started]⟩
  files := files

end

/-- Calls of other services change nothing on the machines. -/
theorem quiet_spec {α : Type} {l : List Service} {p : Client α} (within : Within l p) (other : .ssh ∉ l ∧ .sftp ∉ l)
    {f : Fleet} (holds : I f.machines) :
    wlp (fleet I S) p (fun _ g => g.machines = f.machines) f := by
  refine wlp_keep within (fun g : Fleet => g.machines = f.machines) (fun g c member same => ?_) rfl
  refine ⟨by simpa only [fleet_permits, same] using holds, fun r g' answered => ?_⟩
  rw [← same]
  cases c
  case stat => exact congrArg Fleet.machines answered.1
  case fopen =>
    rcases answered with ⟨_, _, -, -, rfl⟩ | ⟨-, -, rfl⟩
    · rfl
    · rfl
  case fseek =>
    rcases answered with ⟨-, rfl⟩ | ⟨-, rfl⟩
    · rfl
    · rfl
  case fread =>
    obtain ⟨rfl, -⟩ := answered
    rfl
  case access => exact congrArg Fleet.machines answered
  all_goals first
    | exact congrArg Fleet.machines answered
    | exact absurd member other.1
    | exact absurd member other.2

theorem quiet_seq {α β : Type} {l : List Service} {p : Client α} {next : α → Client β} {Q : β → Fleet → Prop} {f : Fleet}
    (within : Within l p) (other : .ssh ∉ l ∧ .sftp ∉ l) (holds : I f.machines)
    (rest : ∀ a g, g.machines = f.machines → wlp (fleet I S) (next a) Q g) :
    wlp (fleet I S) (p >>= next) Q f := wlp_seq (quiet_spec within other holds) rest

theorem printf_spec {α : Type} {text : Bytes} {rest : Client α} {Q : α → Fleet → Prop} {f : Fleet} (holds : I f.machines)
    (ends : wlp (fleet I S) rest Q f) : wlp (fleet I S) (.call (.printf text) fun _ => rest) Q f := by
  refine ⟨holds, ?_⟩
  rintro _ _ rfl
  exact ends

/-- What goes on behind a report of an error goes on without it. -/
theorem report_spec {α : Type} {P : Prop} [Decidable P] {text : Bytes} {rest : Client α} {Q : α → Fleet → Prop} {f : Fleet}
    (holds : I f.machines) (ends : wlp (fleet I S) rest Q f) :
    wlp (fleet I S) (if P then .call (.printf text) fun _ => rest else rest) Q f := by
  split
  · exact printf_spec holds ends
  · exact ends

section
variable {cmd addr : Bytes} {m : Machines} {addrs : List Bytes}

/-- The machine of an address gets its command. -/
theorem reached_command {text : Bytes} (started : remoteCommands cmd = [text]) (fuel : Nat)
    (holds : ∀ m', Reached cmd (addrs ++ [addr]) m m' → I m') {k : Machines} (reached : Reached cmd addrs m k) {f : Fleet}
    (files : ∀ a path, f.machines.files a path ≠ m.files a path → cmd = ascii "reset_conf" ∧ a ∈ addrs ++ [addr] ∧ path = corosyncConf)
    (log : f.machines.log = k.log) :
    wlp (fleet I S) (remote_command text fuel addr) (fun _ g => Reached cmd (addrs ++ [addr]) m g.machines) f := by
  have before : Reached cmd (addrs ++ [addr]) m f.machines :=
    ⟨log ▸ (reached_mono reached (List.sublist_append_left addrs [addr])).log, files⟩
  have after : Reached cmd (addrs ++ [addr]) m (ran f.machines addr text) := reached_ran reached started files log
  refine wlp_mono (remote_command_spec text fuel addr (holds _ before) (holds _ after)) ?_
  rintro err g (⟨-, same⟩ | same)
  · exact same ▸ before
  · exact same ▸ after

/-- `reset_conf` writes the file and then stops corosync. -/
theorem reached_reset_conf (fuel : Nat) (u : CommandUninit) (file : Option Bytes) (reset : cmd = ascii "reset_conf")
    (holds : ∀ m', Reached cmd (addrs ++ [addr]) m m' → I m') {f : Fleet} (reached : Reached cmd addrs m f.machines) :
    wlp (fleet I S) (reset_conf fuel u addr file) (fun _ g => Reached cmd (addrs ++ [addr]) m g.machines) f := by
  have before := reached_mono reached (List.sublist_append_left addrs [addr])
  unfold reset_conf
  refine quiet_seq (fill_within _ _) (by simp) (holds _ before) fun _ f₁ same₁ => ?_
  refine quiet_seq (read_word_within file) (by simp) (same₁ ▸ holds _ before) fun name f₂ same₂ => ?_
  refine quiet_seq (fill_within _ _) (by simp) (same₂ ▸ same₁ ▸ holds _ before) fun _ f₃ same₃ => ?_
  have same : f₃.machines = f.machines := same₃.trans (same₂.trans same₁)
  have written : ∀ m', Rewritten f.machines addr corosyncConf m' → I m' := fun m' rewritten => holds m' (reached_wrote reached reset rewritten)
  refine wlp_seq (copy_conf_spec written fuel u.st_size u.buffer _ (same ▸ rewritten_self _ _ _)) ?_
  intro err g rewritten
  have after := reached_wrote reached reset rewritten
  have log : g.machines.log = f.machines.log := by
    obtain ⟨content, same⟩ := rewritten
    rw [same]
    rfl
  simp only [perform_bind, Prog.pure_eq]
  refine report_spec (holds _ after) ?_
  refine wlp_seq (reached_command (by rw [reset]; rfl) fuel holds reached after.files log) ?_
  intro err h ends
  exact report_spec (holds _ ends) (printf_spec (holds _ ends) ends)

/-- What one address adds to what the command line has reached. -/
theorem client_ssh_command_spec (fuel : Nat) (u : CommandUninit) (file : Option Bytes)
    (holds : ∀ m', Reached cmd (addrs ++ [addr]) m m' → I m') {f : Fleet} (reached : Reached cmd addrs m f.machines) :
    wlp (fleet I S) (client_ssh_command fuel u (some cmd) addr file)
      (fun _ g => Reached cmd (addrs ++ [addr]) m g.machines) f := by
  have before := reached_mono reached (List.sublist_append_left addrs [addr])
  have command : ∀ {text : Bytes} {g : Fleet}, remoteCommands cmd = [text] → g.machines = f.machines →
      wlp (fleet I S) (remote_command text fuel addr) (fun _ g => Reached cmd (addrs ++ [addr]) m g.machines) g :=
    fun started same => reached_command started fuel holds reached (by rw [same]; exact before.files) (by rw [same])
  unfold client_ssh_command
  refine wlp_seq (?_ : wlp _ (read_word (some cmd)) (fun word g => word = cmd ∧ g.machines = f.machines) f) ?_
  · refine ⟨holds _ before, ?_⟩
    rintro _ _ rfl
    exact ⟨rfl, rfl⟩
  rintro _ g ⟨rfl, same⟩
  simp only [perform_bind, Prog.pure_eq]
  split
  · rename_i start
    refine wlp_seq (command (by rw [start]; rfl) same) ?_
    intro err h ends
    exact printf_spec (holds _ ends) (report_spec (holds _ ends) ends)
  split
  · rename_i stop
    refine wlp_seq (command (by rw [stop]; rfl) same) ?_
    intro err h ends
    exact printf_spec (holds _ ends) (report_spec (holds _ ends) ends)
  split
  · rename_i reset
    exact reached_reset_conf fuel u file reset holds (same ▸ reached)
  split
  · rename_i kill
    refine printf_spec (same ▸ holds _ before) ?_
    refine quiet_seq print_time_within (by simp) (same ▸ holds _ before) fun _ h same' => ?_
    refine wlp_seq (command (by rw [kill]; rfl) (same'.trans same)) ?_
    intro err k ends
    exact ends
  split
  · rename_i start
    refine printf_spec (same ▸ holds _ before) ?_
    refine quiet_seq print_time_within (by simp) (same ▸ holds _ before) fun _ h same' => ?_
    refine wlp_seq (command (by rw [start]; rfl) (same'.trans same)) ?_
    intro err k ends
    exact ends
  · refine printf_spec (same ▸ holds _ before) ?_
    rw [wlp_ret, same]
    exact before

end

/-! ### Command lines -/

/-- The machines that a line lists. -/
def listed (line : List (OptKey × CString)) : List Bytes :=
  if lastTask line .print_option = .ssh_cmd then (addresses (line.map Prod.snd)).map CString.chars else []

/-- The command of a line. -/
def command (line : List (OptKey × CString)) : Bytes := ((line.map Prod.snd).head?.map CString.chars).getD []

section
variable {m : Machines}

/-- `-c` reaches the machines of its operands. A lone `reset_conf` has no operands to walk. -/
theorem ssh_option_spec (fuel : Nat) (u : Nat → CommandUninit) {cmd : CString} {operands : List CString}
    (named : cmd.chars = ascii "reset_conf" → operands ≠ [])
    (holds : ∀ m', Reached cmd.chars ((addresses (cmd :: operands)).map CString.chars) m m' → I m') {f : Fleet} (start : f.machines = m) :
    wlp (fleet I S) (client_ssh_option fuel u (argzOf (cmd :: operands)))
      (fun _ g => Reached cmd.chars ((addresses (cmd :: operands)).map CString.chars) m g.machines) f := by
  -- what is reached so far is on a first part of the list
  refine wlp_mono (ssh_option_rule (W := fleet I S)
    (fun done g => Reached cmd.chars done m g.machines ∧ done <+: (addresses (cmd :: operands)).map CString.chars) ?_ named ?_
    ⟨start ▸ reached_start, List.nil_prefix⟩) fun _ _ reached => reached.1
  · intro done g text reached
    refine ⟨holds _ (reached_mono reached.1 reached.2.sublist), ?_⟩
    rintro _ _ rfl
    exact reached
  · intro n done a rest g split reached
    have next : done ++ [a] <+: (addresses (cmd :: operands)).map CString.chars := ⟨rest, by simp [split]⟩
    refine wlp_mono (client_ssh_command_spec fuel (u n) _ (fun m' reached => holds m' (reached_mono reached next.sublist)) reached.1) ?_
    exact fun _ h reached => ⟨reached, next⟩

end

/-! ### Tasks -/

/-- What a line's task reaches. -/
theorem run_task_spec {m : Machines} (fuel : Nat) (u : ClientUninit) {line : List (OptKey × CString)}
    (named : lastTask line .print_option = .ssh_cmd → (line.map Prod.snd).map CString.chars ≠ [ascii "reset_conf"])
    (some : line ≠ []) (holds : ∀ m', Reached (command line) (listed line) m m' → I m') {f : Fleet} (start : f.machines = m) :
    wlp (fleet I S) (run_task fuel u ⟨lastTask line .print_option, argzOf (line.map Prod.snd)⟩)
      (fun _ g => Reached (command line) (listed line) m g.machines) f := by
  subst start
  have nothing : Reached (command line) (listed line) f.machines f.machines := reached_mono reached_start (List.nil_sublist _)
  have stays : ∀ {l : List Service} {p : Client Unit}, Within l p → .ssh ∉ l ∧ .sftp ∉ l →
      wlp (fleet I S) p (fun _ g => Reached (command line) (listed line) f.machines g.machines) f := by
    intro l p within other
    refine wlp_mono (quiet_spec within other (holds _ nothing)) ?_
    rintro _ g same
    rw [same]
    exact nothing
  cases task : lastTask line .print_option with
  | print_option => exact stays (client_print_option_within _ _ _) (by simp)
  | quorum_option => exact stays (client_quorum_option_within _ _) (by simp)
  | monitor_option => exact stays (client_monitor_option_within _ _ _ _) (by simp)
  | ssh_cmd =>
    have named := named task
    have here : listed line = (addresses (line.map Prod.snd)).map CString.chars := if_pos task
    rw [command, here] at holds ⊢
    have nonempty : line.map Prod.snd ≠ [] := by simpa using some
    generalize line.map Prod.snd = words at named holds nonempty
    cases words with
    | nil => exact absurd rfl nonempty
    | cons cmd operands =>
      refine ssh_option_spec fuel u.commands (fun reset none => ?_) holds rfl
      exact named (by simp [reset, none])

/-- At any moment of any run of the program, and whatever fails, the commands that were
    started are that of the line, on some of the machines that it lists and in their
    order, at most one for each listing; the only file that may have changed is the
    configuration of a listed machine, by `reset_conf`. -/
theorem main_reaches {fuel : Nat} {u : ClientUninit} {name : Bytes} {line : List (OptKey × CString)} {f g : Fleet}
    {tr : List LibEvent} {q : Client Unit}
    (named : lastTask line .print_option = .ssh_cmd → (line.map Prod.snd).map CString.chars ≠ [ascii "reset_conf"])
    (run : Run (fleet (fun _ => True) S) (main fuel u name line) f tr q g) (uncut : q ≠ .cut) :
    Reached (command line) (listed line) f.machines g.machines := by
  have nothing : Reached (command line) (listed line) f.machines f.machines := reached_mono reached_start (List.nil_sublist _)
  have holds : wlp (fleet (Reached (command line) (listed line) f.machines) S) (main fuel u name line)
      (fun _ g => Reached (command line) (listed line) f.machines g.machines) f := by
    unfold main
    refine printf_spec nothing ?_
    cases parsed : argp_parse line with
    | error message =>
      refine ⟨nothing, ?_⟩
      rintro _ _ rfl
      exact nothing
    | ok arguments =>
      obtain ⟨⟨some, -⟩, rfl⟩ := (argp_parse_ok line arguments).mp parsed
      refine wlp_seq (run_task_spec fuel u named (by rintro rfl; simp at some) (fun _ reached => reached) rfl) ?_
      rintro _ g reached
      exact printf_spec reached reached
  exact run_always (I := fun g : Fleet => Reached (command line) (listed line) f.machines g.machines) run holds uncut

/-- What a restart does on a machine. -/
def restartLog (addr : Bytes) : List (Bytes × Bytes) := [(addr, ascii "corosync-cfgtool -H"), (addr, ascii "corosync")]

/-- A restart has come to some point. -/
def Restarting (addr : Bytes) (m m' : Machines) : Prop := ∃ begun, begun <+: restartLog addr ∧ m' = { m with log := m.log ++ begun }

theorem restart_spec (fuel : Nat) {addr : Bytes} {f : Fleet} (holds : ∀ m', Restarting addr f.machines m' → I m') :
    wlp (fleet I S) (restart_corosync fuel addr)
      (fun err g => Restarting addr f.machines g.machines ∧ (err = CS_OK → g.machines.log = f.machines.log ++ restartLog addr)) f := by
  have start : Restarting addr f.machines f.machines := ⟨[], List.nil_prefix, by simp⟩
  have stop : Restarting addr f.machines (ran f.machines addr (ascii "corosync-cfgtool -H")) :=
    ⟨[(addr, ascii "corosync-cfgtool -H")], by simp [restartLog], by simp [ran]⟩
  have both : Restarting addr f.machines (ran (ran f.machines addr (ascii "corosync-cfgtool -H")) addr (ascii "corosync")) :=
    ⟨restartLog addr, List.prefix_refl _, by simp [ran, restartLog]⟩
  refine wlp_seq (remote_command_spec (ascii "corosync-cfgtool -H") fuel addr (holds _ start) (holds _ stop)) ?_
  intro err g stopped
  rw [wlp_ite]
  constructor
  · intro failed
    refine ⟨?_, fun ok => absurd ok failed⟩
    rcases stopped with ⟨-, same⟩ | same
    · exact same ▸ start
    · exact same ▸ stop
  · intro ok
    have stopped := stopped.resolve_left fun failed => ok failed.1
    rw [← stopped] at both stop
    refine wlp_seq (remote_command_spec (ascii "corosync") fuel addr (holds _ stop) (holds _ both)) ?_
    intro err h started
    rw [wlp_ite]
    constructor
    · intro failed
      refine ⟨?_, fun ok => absurd ok failed⟩
      rcases started with ⟨-, same⟩ | same
      · exact same ▸ stop
      · exact same ▸ both
    · intro ok
      have started := started.resolve_left fun failed => ok failed.1
      refine ⟨started ▸ both, fun _ => ?_⟩
      rw [started, stopped]
      simp [ran, restartLog]

/-- At any moment of a restart, and whatever fails, corosync has been started on the
    machine only after it was stopped there, and nothing else has happened; a success
    means that both have. -/
theorem restart_in_order {fuel : Nat} {addr : Bytes} {f g : Fleet} {tr : List LibEvent} {q : Client Err}
    (run : Run (fleet (fun _ => True) S) (restart_corosync fuel addr) f tr q g) (uncut : q ≠ .cut) :
    Restarting addr f.machines g.machines ∧ (q = .ret CS_OK → g.machines.log = f.machines.log ++ restartLog addr) := by
  constructor
  · refine run_always (I := fun g : Fleet => Restarting addr f.machines g.machines) run ?_ uncut
    exact wlp_mono (restart_spec fuel fun _ reached => reached) fun _ _ ends => ends.1
  · rintro rfl
    exact (run_ret (restart_spec fuel fun _ _ => trivial) run).2 rfl

end

/-! ### Libraries that never fail -/

/-- Every call does all that it is asked to do, with handle 1, and no command has output. -/
def flawless (templates : Bytes → Option ConfCopy.SourceFile) : Handler Call Reply Fleet := fun f c =>
  match c with
  | .ssh_new => (some 1, { f with host := Function.update f.host 1 none })
  | .ssh_options_set h (.host addr) => (0, { f with host := Function.update f.host h (some addr) })
  | .ssh_connect h => (if (f.host h).isSome then SSH_OK else -1, f)
  | .ssh_channel_new h => (some 1, { f with channel := Function.update f.channel 1 h })
  | .ssh_channel_request_exec c cmd => (SSH_OK, f.exec c cmd 0)
  | .ssh_channel_read c count =>
    (Int32.ofNat (min (f.output c) count), { f with output := Function.update f.output c (f.output c - count) })
  | .sftp_new h => (some 1, { f with sftp := Function.update f.sftp 1 h })
  | .sftp_open x path flags => (some 1, f.opened x path flags 1)
  | .sftp_write file buf => (buf.length, f.append file buf)
  | .stat path =>
    (match templates path with
      | some file => (0, file.size)
      | none => (-1, 0),
      f)
  | .fopen path =>
    match templates path with
    | some file => (some 1, { f with source := Function.update f.source 1 (file.bytes, 0) })
    | none => (none, f)
  | .fseek h offset => (0, { f with source := Function.update f.source h ((f.source h).1, offset) })
  | .fread h size =>
    let got := ((f.source h).1.drop (f.source h).2).take size
    (got, f.read h got.length)
  | c => (Reply.success c, f)

theorem flawless_answers (I : Machines → Prop) {S : Setting} (silent : S.output 0) (f : Fleet) (c : Call) :
    (fleet I S).answers f c (flawless S.templates f c).1 (flawless S.templates f c).2 := by
  cases c
  case ssh_new => exact .inl ⟨1, rfl, rfl⟩
  case ssh_options_set h option =>
    cases option with
    | host addr => exact .inl ⟨rfl, rfl⟩
    | port => rfl
    | user => rfl
  case ssh_connect h =>
    refine ⟨rfl, ?_, ?_⟩
    · cases set : (f.host h).isSome with
      | true => exact fun _ => rfl
      | false => simp [flawless, set, SSH_OK]
    · intro set
      simp [flawless, set]
  case ssh_userauth_password => exact ⟨rfl, .inl rfl⟩
  case ssh_channel_new => exact .inl ⟨1, rfl, rfl⟩
  case ssh_channel_open_session => exact ⟨rfl, .inl rfl⟩
  case ssh_channel_request_exec => exact .inl ⟨0, silent, rfl, .inl rfl⟩
  case ssh_channel_read c count =>
    refine ⟨rfl, ?_⟩
    by_cases large : 2 ^ 31 ≤ count
    · exact .inr (.inl large)
    · refine .inl (Int32.toInt_ofNat_of_lt ?_)
      omega
  case sftp_new => exact .inl ⟨1, rfl, rfl⟩
  case sftp_init => exact ⟨rfl, .inl (by simp [flawless, Reply.success])⟩
  case sftp_open => exact .inl ⟨1, rfl, rfl⟩
  case sftp_write file buf => exact ⟨buf.length, le_refl _, by simp [flawless], .inl ⟨rfl, rfl⟩⟩
  case stat path =>
    refine ⟨rfl, ?_⟩
    cases found : S.templates path with
    | some file => exact .inl ⟨file, rfl, by simp [flawless, found]⟩
    | none => exact .inr (.inl rfl)
  case fopen path =>
    cases found : S.templates path with
    | some file => exact .inl ⟨file, 1, found, by simp [flawless, found], by simp [flawless, found]⟩
    | none => exact .inr ⟨.inl found, by simp [flawless, found], by simp [flawless, found]⟩
  case fseek => exact .inl ⟨rfl, rfl⟩
  case fread => exact ⟨rfl, .inl rfl⟩
  all_goals rfl

theorem stop_terminated : 0 ∉ ascii "stop" := by decide
theorem node2_terminated : 0 ∉ ascii "11.0.0.2" := by decide
theorem node3_terminated : 0 ∉ ascii "11.0.0.3" := by decide

/-- Corosync is stopped on two machines. -/
def stopBoth : List (OptKey × CString) :=
  [(.c, ⟨ascii "stop", stop_terminated⟩), (.ARG, ⟨ascii "11.0.0.2", node2_terminated⟩),
    (.ARG, ⟨ascii "11.0.0.3", node3_terminated⟩)]

/-- Nothing has happened yet. -/
def idle : Fleet := ⟨⟨[], fun _ _ => none⟩, fun _ => none, fun _ => 0, fun _ => 0, fun _ => 0, fun _ => none, fun _ => ([], 0)⟩

def stopped : Fleet := ((exec (flawless fun _ => none) (main 3 Operands.cleared [] stopBoth) idle).map Prod.snd).getD idle

theorem stopBoth_run : Run (fleet (fun _ => True) ⟨fun _ => none, False, fun _ => True⟩) (main 3 Operands.cleared [] stopBoth) idle
    (transcript (flawless fun _ => none) (main 3 Operands.cleared [] stopBoth) idle) (.ret ()) stopped :=
  exec_run (fun _ => True) (fun f c _ => ⟨flawless_answers (fun _ => True) trivial f c, trivial⟩) trivial rfl

example : stopped.machines.log = [(ascii "11.0.0.2", ascii "corosync-cfgtool -H"), (ascii "11.0.0.3", ascii "corosync-cfgtool -H")] := by
  rfl

theorem main_reaches_stopBoth : Reached (ascii "stop") [ascii "11.0.0.2", ascii "11.0.0.3"] idle.machines stopped.machines :=
  @main_reaches _ 3 Operands.cleared [] stopBoth _ _ _ _ (fun _ reset => absurd reset (by decide)) stopBoth_run (by simp)

def restarted : Fleet := ((exec (flawless fun _ => none) (restart_corosync 2 (ascii "11.0.0.2")) idle).map Prod.snd).getD idle

theorem restart_run : Run (fleet (fun _ => True) ⟨fun _ => none, False, fun _ => True⟩) (restart_corosync 2 (ascii "11.0.0.2")) idle
    (transcript (flawless fun _ => none) (restart_corosync 2 (ascii "11.0.0.2")) idle) (.ret CS_OK) restarted :=
  exec_run (fun _ => True) (fun f c _ => ⟨flawless_answers (fun _ => True) trivial f c, trivial⟩) trivial rfl

theorem restart_in_order_node2 : Restarting (ascii "11.0.0.2") idle.machines restarted.machines ∧
    restarted.machines.log = idle.machines.log ++ restartLog (ascii "11.0.0.2") :=
  ⟨(restart_in_order restart_run (by simp)).1, (restart_in_order restart_run (by simp)).2 rfl⟩

end CorosyncClient.RemoteMachines
