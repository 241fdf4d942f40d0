import CorosyncClient.Interaction.Simulation
import CorosyncClient.RemoteMachines
import CorosyncClient.RemoteOutput

/-!
Command lines for other machines where the libraries do not fail: every machine that is
listed has then started the command, once for each time it is listed, and `reset_conf` has
left the file of the line as its configuration.
-/
namespace CorosyncClient.Deployment
open CLib Interaction Services SshOption RemoteMachines
set_option linter.unusedSimpArgs false

/-- The local files, and the most output that a command has. -/
structure Supply where
  templates : Bytes → Option ConfCopy.SourceFile
  limit : Nat

/-- Libraries that do all that they are asked to do. A word that is read must exist, and
    `src_file` not be overrun. -/
@[simps] def sound (S : Supply) : LibWorld Fleet where
  permits _ c := Operands.Allowed c
  answers f c r f' := (fleet (fun _ => True) ⟨S.templates, False, (· ≤ S.limit)⟩).answers f c r f'

theorem sound_live (S : Supply) (f : Fleet) (c : Call) : ∃ r f', (sound S).answers f c r f' :=
  ⟨_, _, flawless_answers (fun _ => True) (S := ⟨S.templates, False, (· ≤ S.limit)⟩) (Nat.zero_le _) f c⟩

/-! ### One operator -/

/-- What the libraries keep for one operator: the machines as this operator alone has left
    them, and in each remote file that is open the position of the next write. -/
structure Desk where
  fleet : Fleet
  position : Handle → Option Nat

/-- No remote file is open. -/
def closed : Handle → Option Nat := fun _ => none

/-- A call opens a file at its start, writes on from the position, or closes the file. -/
def moved (position : Handle → Option Nat) (c : Call) (r : Reply c) : Handle → Option Nat :=
  match c, r with
  | .sftp_open _ _ _, some file => Function.update position file (some 0)
  | .sftp_write file buf, _ => Function.update position file ((position file).map (· + buf.length))
  | .sftp_close file, _ => Function.update position file none
  | _, _ => position

/-- Remote files are opened one at a time, emptied, on the machines `addrs`; what is
    written there is the part of the file at the position, and only a whole copy is closed. -/
def Proceeds (addrs : List Bytes) (file : Bytes) (d : Desk) : Call → Prop
  | .sftp_open sftp path flags =>
    d.position = closed ∧ flags.O_TRUNC = true ∧ path = corosyncConf ∧ ∃ addr ∈ addrs, d.fleet.host (d.fleet.sftp sftp) = some addr
  | .sftp_write dest buf => ∃ pos, d.position dest = some pos ∧ buf <+: file.drop pos
  | .sftp_close dest => d.position dest = some file.length
  | _ => True

/-- Sound libraries for an operator that copies a file to the machines `addrs`. -/
@[simps] def copying (S : Supply) (addrs : List Bytes) (file : Bytes) : LibWorld Desk where
  permits d c := Operands.Allowed c ∧ Proceeds addrs file d c
  answers d c r d' := (sound S).answers d.fleet c r d'.fleet ∧ d'.position = moved d.position c r

section
variable {S : Supply} {machines : List Bytes} {conf : Bytes}

@[simp] theorem wp_copying_call {α : Type} (c : Call) (next : Reply c → Client α) (Q : α → Desk → Prop) (f : Fleet)
    (position : Handle → Option Nat) :
    wp (copying S machines conf) (.call c next) Q ⟨f, position⟩ ↔ (Operands.Allowed c ∧ Proceeds machines conf ⟨f, position⟩ c) ∧
      ∀ r f', (fleet (fun _ => True) ⟨S.templates, False, (· ≤ S.limit)⟩).answers f c r f' →
        wp (copying S machines conf) (next r) Q ⟨f', moved position c r⟩ := by
  rw [wp_call]
  refine and_congr_right fun _ => forall_congr' fun r => ?_
  constructor
  · intro every f' answered
    exact every ⟨f', moved position c r⟩ ⟨answered, rfl⟩
  · rintro every ⟨f', _⟩ ⟨answered, rfl⟩
    exact every f' answered

/-! ### A command on one machine -/

/-- No remote file is open, and the machines are in a state. -/
structure Settled (m : Machines) (d : Desk) : Prop where
  machines : d.fleet.machines = m
  position : d.position = closed

/-- The rounds that are left of a drain: one for each part of the output that is to come,
    and two to see that there is no more. -/
def drainRounds (channel : Handle) (nbytes : UInt32) (d : Desk) : Nat :=
  if nbytes > 0 then (d.fleet.output channel + 1023) / 1024 + 1 else 0

theorem drain_sound {fuel : Nat} (enough : S.limit / 1024 + 1 < fuel) {channel : Handle} {f : Fleet}
    (bound : f.output channel ≤ S.limit) :
    wp (copying S machines conf) (drain fuel channel) (fun _ => Settled f.machines) ⟨f, closed⟩ := by
  simp only [drain, perform_bind, wp_copying_call, fleet_answers, Operands.Allowed, Proceeds, moved, true_and]
  rintro first _ ⟨rfl, -⟩
  refine wp_loop_measured (fun _ => Settled f.machines) (drainRounds channel) ?_ ?_ ⟨rfl, rfl⟩
  · rintro nbytes ⟨g, _⟩ ⟨same, rfl⟩
    simp only [drain_round, wp_ite, perform_bind, Prog.pure_eq, wp_copying_call, wp_ret, fleet_answers, Operands.Allowed,
      Proceeds, moved, true_and]
    refine ⟨fun more => ?_, fun _ => ⟨same, rfl⟩⟩
    rintro r _ ⟨rfl, got⟩
    refine ⟨⟨same, rfl⟩, ?_⟩
    have count : r.toInt = min (g.output channel) 1024 := by simpa using got
    have before : drainRounds channel nbytes ⟨g, closed⟩ = (g.output channel + 1023) / 1024 + 1 := if_pos more
    rw [before]
    simp only [drainRounds, Function.update_self]
    by_cases ended : g.output channel = 0
    · have zero : r = 0 := Int32.toInt_inj.mp (by rw [count, ended]; rfl)
      rw [if_neg ((not_congr (RemoteOutput.unsigned_pos_iff r)).mpr (not_ne_iff.mpr zero))]
      omega
    · split
      · omega
      · omega
  · simp only [drainRounds, Function.update_self]
    split
    · omega
    · omega

theorem free_session_sound (session : Handle) {α : Type} {out : α} {f : Fleet} {position : Handle → Option Nat}
    {Q : α → Desk → Prop} (ends : Q out ⟨f, position⟩) :
    wp (copying S machines conf) (free_session session >>= fun _ => .ret out) Q ⟨f, position⟩ := by
  simp only [free_session, perform_bind, Prog.call_bind, Prog.ret_bind, wp_copying_call, wp_ret, fleet_answers,
    Operands.Allowed, Proceeds, moved, true_and]
  rintro _ _ rfl _ _ rfl
  exact ends

theorem run_in_channel_sound {fuel : Nat} (enough : S.limit / 1024 + 1 < fuel) (cmd : Bytes) {session : Handle} {addr : Bytes}
    {f : Fleet} (host : f.host session = some addr) :
    wp (copying S machines conf) (run_in_channel cmd fuel session)
      (fun err d => err = CS_OK ∧ Settled (ran f.machines addr cmd) d) ⟨f, closed⟩ := by
  simp only [run_in_channel, perform_bind, Prog.pure_eq, wp_copying_call, fleet_answers, Operands.Allowed, Proceeds, moved,
    true_and, false_and, or_false]
  rintro _ _ ⟨channel, rfl, rfl⟩
  simp only [wp_copying_call, wp_ite, fleet_answers, Operands.Allowed, Proceeds, moved, true_and, false_and, or_false]
  rintro rc _ ⟨rfl, opened⟩
  refine ⟨fun failed => absurd opened failed, fun _ => ?_⟩
  rintro rc g ⟨output, bound, rfl, started⟩
  refine ⟨fun failed => absurd started failed, fun _ => ?_⟩
  simp only [Fleet.exec, Function.update_self, host]
  refine wp_seq (drain_sound enough ?_) ?_
  · simpa using bound
  · rintro _ ⟨g, _⟩ ⟨same, rfl⟩
    simp only [free_channel, perform_bind, Prog.call_bind, Prog.ret_bind, wp_copying_call, fleet_answers,
      Operands.Allowed, Proceeds, moved, true_and]
    rintro _ _ rfl _ _ rfl _ _ rfl
    exact free_session_sound session ⟨rfl, same, rfl⟩

/-- A session that is connected has the host that was set. -/
theorem remote_command_sound {fuel : Nat} (enough : S.limit / 1024 + 1 < fuel) (cmd addr : Bytes) (f : Fleet) :
    wp (copying S machines conf) (remote_command cmd fuel addr)
      (fun err d => err = CS_OK ∧ Settled (ran f.machines addr cmd) d) ⟨f, closed⟩ := by
  simp only [remote_command, perform_bind, Prog.pure_eq, wp_copying_call, fleet_answers, Operands.Allowed, Proceeds, moved,
    true_and, false_and, or_false]
  rintro _ _ ⟨session, rfl, rfl⟩
  simp only [wp_copying_call, wp_ite, fleet_answers, Operands.Allowed, Proceeds, moved, true_and, false_and, or_false]
  rintro _ _ ⟨rfl, rfl⟩ _ _ rfl _ _ rfl
  rintro rc _ ⟨rfl, -, connected⟩
  refine ⟨fun failed => absurd (connected (by simp)) failed, fun _ => ?_⟩
  rintro rc _ ⟨rfl, accepted⟩
  refine ⟨fun failed => absurd accepted failed, fun _ => ?_⟩
  exact run_in_channel_sound enough cmd (by simp)

/-! ### The file on one machine -/

/-- The copy has come to a position in the source, and the destination holds the source up
    to there. -/
structure CopiedTo (file : Bytes) (m : Machines) (addr path : Bytes) (source dest : Handle) (pos : Nat) (d : Desk) : Prop where
  source : d.fleet.source source = (file, pos)
  target : d.fleet.target dest = some (addr, path)
  machines : d.fleet.machines = wrote m addr path (some (file.take pos))
  position : d.position = Function.update closed dest (some pos)

section
variable {m : Machines} {addr path : Bytes} {source dest : Handle} {pos : Nat} {d : Desk}

/-- A part of the file is read and written. -/
theorem copy_part_sound (copied : CopiedTo conf m addr path source dest pos d) {size : Nat} (inside : pos + size ≤ conf.length)
    (buffer : Bytes) {α : Type} {next : Bytes → Client α} {Q : α → Desk → Prop}
    (rest : ∀ got d, CopiedTo conf m addr path source dest (pos + size) d → wp (copying S machines conf) (next got) Q d) :
    wp (copying S machines conf) (.call (.fread source size) fun got =>
      .call (.sftp_write dest ((fill_buffer buffer got).take size)) fun _ => next got) Q d := by
  obtain ⟨f, position⟩ := d
  have here : position = _ := copied.position
  have target : f.target dest = _ := copied.target
  have from_pos : f.source source = _ := copied.source
  have before : f.machines = _ := copied.machines
  simp only [wp_copying_call, fleet_answers, Operands.Allowed, Proceeds, moved, true_and, or_false]
  rintro got _ ⟨rfl, read⟩
  simp only [from_pos] at read
  have full : got.length = size := by
    rw [read, List.length_take, List.length_drop]
    omega
  have taken : (fill_buffer buffer got).take size = got := full ▸ ConfCopy.take_fill_buffer buffer got
  have joined : conf.take pos ++ got = conf.take (pos + size) := by rw [read, ← List.take_add]
  rw [taken]
  refine ⟨⟨pos, by rw [here, Function.update_self], ?_⟩, ?_⟩
  · rw [read]
    exact List.take_prefix size _
  rintro rc _ ⟨n, -, rfl, -, whole⟩
  rw [whole, List.take_length]
  refine rest got _ ⟨?_, ?_, ?_, ?_⟩
  · simp [Fleet.append, Fleet.read, target, from_pos, full]
  · simp [Fleet.append, Fleet.read, target]
  · simp [Fleet.append, Fleet.read, target, before, wrote, joined]
  · simp [here, full]

theorem copy_loop_sound (m : Machines) (addr path : Bytes) {st : CopyState} {fuel : Nat} (copied : CopiedTo conf m addr path source dest 0 d)
    (size : st.conf_size.toNat = conf.length) (enough : conf.length / 256 < fuel) :
    wp (copying S machines conf) (loop (copy_round source dest) fuel st)
      (fun _ => CopiedTo conf m addr path source dest conf.length) d := by
  refine wp_loop_measured (fun b d => ∃ pos, CopiedTo conf m addr path source dest pos d ∧ pos + b.conf_size.toNat = conf.length)
    (fun b _ => b.conf_size.toNat / 256) ?_ (by omega) ⟨0, copied, by omega⟩
  rintro b d ⟨pos, copied, rest⟩
  simp only [copy_round, wp_ite, perform_bind, Prog.pure_eq]
  constructor
  · intro last
    refine copy_part_sound copied (by omega) b.buffer fun got d copied => ?_
    rw [rest] at copied
    exact copied
  · intro more
    have large := ConfCopy.le_conf_size more
    have left := ConfCopy.sub_conf_size large
    refine copy_part_sound copied (by omega) b.buffer fun got d copied => ?_
    refine ⟨⟨pos + 256, copied, ?_⟩, ?_⟩
    · rw [left]
      omega
    · simp only [left]
      omega

end

section
variable {file : ConfCopy.SourceFile} {fuel : Nat} (enough : file.bytes.length / 256 < fuel) {source_file addr : Bytes}
  (found : S.templates source_file = some file) (member : addr ∈ machines)
include enough found member

theorem sftp_conf_sound (st_size : UInt64) (buffer : Bytes) {session : Handle} {f : Fleet} (host : f.host session = some addr) :
    wp (copying S machines file.bytes) (sftp_conf fuel st_size buffer session source_file corosyncConf)
      (fun err d => err = CS_OK ∧ Settled (wrote f.machines addr corosyncConf (some file.bytes)) d) ⟨f, closed⟩ := by
  simp only [sftp_conf, perform_bind, Prog.pure_eq, wp_copying_call, fleet_answers, Operands.Allowed, Proceeds, moved,
    true_and, false_and, or_false, found]
  rintro _ f ⟨rfl, ⟨_, same, rfl⟩ | none⟩
  swap
  · cases none
  obtain rfl := Option.some.inj same
  rintro _ _ ⟨sftp, rfl, rfl⟩
  simp only [wp_ite, wp_copying_call, wp_ret, fleet_answers, Operands.Allowed, Proceeds, moved, true_and, false_and, or_false]
  rintro rc _ ⟨rfl, good⟩
  refine ⟨fun failed => absurd failed (Int.not_lt.mpr good), fun _ => ⟨⟨addr, member, by simpa using host⟩, ?_⟩⟩
  rintro _ _ ⟨dest, rfl, rfl⟩
  simp only [wp_copying_call, fleet_answers, Operands.Allowed, Proceeds, moved, true_and, false_and, or_false, found]
  rintro _ _ (⟨_, source, same, rfl, rfl⟩ | ⟨none, -⟩)
  swap
  · cases none
  obtain rfl := Option.some.inj same
  simp only [wp_copying_call, fleet_answers, Operands.Allowed, Proceeds, moved, true_and, false_and, or_false, found]
  rintro _ _ ⟨rfl, rfl⟩
  refine wp_seq (copy_loop_sound f.machines addr corosyncConf ⟨?_, ?_, ?_, ?_⟩ ?_ enough) ?_
  · simp
  · simp [Fleet.opened, host]
  · simp [Fleet.opened, host]
  · rfl
  · simp [file.size_toNat]
  · rintro _ ⟨g, _⟩ ⟨-, -, copied, rfl⟩
    simp only [wp_copying_call, wp_ret, fleet_answers, Operands.Allowed, Proceeds, moved, true_and, Function.update_self,
      Function.update_idem]
    rintro _ _ rfl _ _ rfl _ _ rfl
    refine ⟨?_, ?_⟩
    · rw [copied, List.take_length]
    · simp [closed]

/-- A copy gives the machine its file. -/
theorem copy_conf_sound (st_size : UInt64) (buffer : Bytes) (f : Fleet) :
    wp (copying S machines file.bytes) (copy_conf fuel st_size buffer addr source_file corosyncConf)
      (fun err d => err = CS_OK ∧ Settled (wrote f.machines addr corosyncConf (some file.bytes)) d) ⟨f, closed⟩ := by
  simp only [copy_conf, perform_bind, Prog.pure_eq, wp_copying_call, fleet_answers, Operands.Allowed, Proceeds, moved,
    true_and, false_and, or_false]
  rintro _ _ ⟨session, rfl, rfl⟩
  simp only [wp_copying_call, wp_ite, fleet_answers, Operands.Allowed, Proceeds, moved, true_and, false_and, or_false]
  rintro _ _ ⟨rfl, rfl⟩ _ _ rfl _ _ rfl
  rintro rc _ ⟨rfl, -, connected⟩
  refine ⟨fun failed => absurd (connected (by simp)) failed, fun _ => ?_⟩
  rintro rc _ ⟨rfl, accepted⟩
  refine ⟨fun failed => absurd accepted failed, fun _ => ?_⟩
  refine wp_seq (sftp_conf_sound enough found member st_size buffer (by simp)) ?_
  rintro _ ⟨g, _⟩ ⟨rfl, copied, rfl⟩
  rw [wp_ite]
  exact ⟨fun failed => absurd rfl failed, fun _ => free_session_sound session ⟨rfl, copied, rfl⟩⟩

end

/-! ### Commands -/

/-- The listed machines have been served: each has started the command, once for each time
    it is listed, and `reset_conf` has given it the file. -/
structure Deployed (cmd file : Bytes) (addrs : List Bytes) (m m' : Machines) : Prop where
  log : m'.log = m.log ++ addrs.flatMap fun addr => (remoteCommands cmd).map fun text => (addr, text)
  files : ∀ addr path, m'.files addr path =
    if cmd = ascii "reset_conf" ∧ addr ∈ addrs ∧ path = corosyncConf then some file else m.files addr path

section
variable {cmd file addr : Bytes} {addrs : List Bytes} {m k k' : Machines}

theorem deployed_start : Deployed cmd file [] m m where
  log := by simp
  files := by simp

/-- The next machine is served. -/
theorem deployed_next (deployed : Deployed cmd file addrs m k)
    (log : k'.log = k.log ++ (remoteCommands cmd).map fun text => (addr, text))
    (files : ∀ a path, k'.files a path =
      if cmd = ascii "reset_conf" ∧ a = addr ∧ path = corosyncConf then some file else k.files a path) :
    Deployed cmd file (addrs ++ [addr]) m k' where
  log := by simp [log, deployed.log]
  files a path := by
    rw [files, deployed.files]
    by_cases here : a = addr
    · by_cases reset : cmd = ascii "reset_conf" ∧ path = corosyncConf
      · simp [here, reset]
      · rw [if_neg fun all => reset ⟨all.1, all.2.2⟩, if_neg fun all => reset ⟨all.1, all.2.2⟩,
          if_neg fun all => reset ⟨all.1, all.2.2⟩]
    · simp [here]

theorem deployed_ran {text : Bytes} (deployed : Deployed cmd file addrs m k) (started : remoteCommands cmd = [text])
    (other : cmd ≠ ascii "reset_conf") : Deployed cmd file (addrs ++ [addr]) m (ran k addr text) := by
  refine deployed_next deployed ?_ ?_
  · simp [ran, started]
  · simp [ran, other]

theorem deployed_reset (deployed : Deployed cmd file addrs m k) (reset : cmd = ascii "reset_conf") :
    Deployed cmd file (addrs ++ [addr]) m (ran (wrote k addr corosyncConf (some file)) addr (ascii "corosync-cfgtool -H")) := by
  refine deployed_next deployed ?_ fun a path => ?_
  · have started : remoteCommands cmd = [ascii "corosync-cfgtool -H"] := by
      rw [reset]
      rfl
    simp [ran, wrote, started]
  · by_cases machine : a = addr
    · subst machine
      by_cases conf : path = corosyncConf
      · simp [ran, wrote, conf, reset]
      · simp [ran, wrote, conf]
    · simp [ran, wrote, machine]

/-- The word of a line that is not among the commands. -/
theorem deployed_unknown (deployed : Deployed cmd file addrs m k) (none : remoteCommands cmd = [])
    (other : cmd ≠ ascii "reset_conf") : Deployed cmd file (addrs ++ [addr]) m k := by
  refine deployed_next deployed ?_ ?_
  · simp [none]
  · simp [other]

end

/-- The file of the line is there, and its name fits the buffer. -/
structure Supplied (S : Supply) (fuel : Nat) (file : ConfCopy.SourceFile) (name : Bytes) : Prop where
  nul_free : 0 ∉ name
  short : name.length ≤ 109
  found : S.templates (ascii "../conf_templates/" ++ name) = some file
  rounds : file.bytes.length / 256 < fuel

/-- The listed machines have been served, and no remote file is left open. -/
structure Served (cmd file : Bytes) (addrs : List Bytes) (m : Machines) (d : Desk) : Prop where
  deployed : Deployed cmd file addrs m d.fleet.machines
  position : d.position = closed

section
variable {fuel : Nat} {file : ConfCopy.SourceFile}

/-- A call that changes no machine. -/
theorem printf_sound {α : Type} {text : Bytes} {rest : Client α} {Q : α → Desk → Prop} {f : Fleet} {position : Handle → Option Nat}
    (ends : wp (copying S machines conf) rest Q ⟨f, position⟩) :
    wp (copying S machines conf) (.call (.printf text) fun _ => rest) Q ⟨f, position⟩ := by
  rw [wp_copying_call]
  refine ⟨⟨trivial, trivial⟩, ?_⟩
  rintro _ _ rfl
  exact ends

theorem print_time_sound {α : Type} {rest : Client α} {Q : α → Desk → Prop} {f : Fleet} {position : Handle → Option Nat}
    (ends : wp (copying S machines conf) rest Q ⟨f, position⟩) :
    wp (copying S machines conf) (print_time >>= fun _ => rest) Q ⟨f, position⟩ := by
  simp only [print_time, perform_bind, Prog.call_bind, Prog.pure_eq, Prog.ret_bind]
  rw [wp_copying_call]
  refine ⟨⟨trivial, trivial⟩, ?_⟩
  rintro text _ rfl
  exact printf_sound ends

variable (enough : S.limit / 1024 + 1 < fuel)
include enough

/-- `reset_conf` writes the file and then stops corosync. -/
theorem reset_conf_sound (u : CommandUninit) {addr : Bytes} (member : addr ∈ machines) {name : Bytes}
    (supplied : Supplied S fuel file name) (f : Fleet) :
    wp (copying S machines file.bytes) (reset_conf fuel u addr (some name))
      (fun _ => Settled (ran (wrote f.machines addr corosyncConf (some file.bytes)) addr (ascii "corosync-cfgtool -H")))
      ⟨f, closed⟩ := by
  have length : (ascii "../conf_templates/").length = 18 := by decide
  have short := supplied.short
  have path : cstr (strcat (strcpy (memset u.src_file 128 0) (ascii "../conf_templates/")) name) =
      ascii "../conf_templates/" ++ name := by
    rw [cstr_strcat _ supplied.nul_free, cstr_strcpy _ (by decide)]
  simp only [reset_conf, access, read_word, perform_bind, Prog.call_bind, Prog.pure_eq, Prog.ret_bind, wp_copying_call,
    fleet_answers, Operands.Allowed, Proceeds, moved, length, path, true_and, and_true, Option.isSome_some]
  refine ⟨fun _ => by omega, ?_⟩
  rintro _ _ rfl _ _ rfl
  refine ⟨fun _ => by omega, ?_⟩
  rintro _ f rfl
  refine wp_seq (copy_conf_sound supplied.rounds supplied.found member u.st_size u.buffer f) ?_
  rintro _ ⟨g, _⟩ ⟨rfl, copied, rfl⟩
  rw [wp_ite]
  refine ⟨fun failed => absurd rfl failed, fun _ => ?_⟩
  refine wp_seq (remote_command_sound enough (ascii "corosync-cfgtool -H") addr g) ?_
  rintro _ ⟨h, _⟩ ⟨rfl, stopped, rfl⟩
  rw [wp_ite]
  refine ⟨fun failed => absurd rfl failed, fun _ => printf_sound ⟨?_, rfl⟩⟩
  rw [stopped, copied]

/-- A command serves the machine of its address. -/
theorem client_ssh_command_sound {cmd : Bytes} {named : Option Bytes}
    (supplied : cmd = ascii "reset_conf" → ∃ name, named = some name ∧ Supplied S fuel file name) (u : CommandUninit)
    {addr : Bytes} (member : cmd = ascii "reset_conf" → addr ∈ machines) {addrs : List Bytes} {m : Machines} {d : Desk}
    (served : Served cmd file.bytes addrs m d) :
    wp (copying S machines file.bytes) (client_ssh_command fuel u (some cmd) addr named)
      (fun _ => Served cmd file.bytes (addrs ++ [addr]) m) d := by
  obtain ⟨f, position⟩ := d
  obtain ⟨deployed, rfl⟩ := served
  simp only [client_ssh_command, read_word, access, perform_bind, Prog.call_bind, Prog.pure_eq, Prog.ret_bind, wp_copying_call,
    fleet_answers, Operands.Allowed, Proceeds, moved, true_and, Option.isSome_some]
  rintro _ f rfl
  -- a report of a failure is never due
  have reported : ∀ {text : Bytes} {d : Desk}, Served cmd file.bytes (addrs ++ [addr]) m d →
      wp (copying S machines file.bytes) (if CS_OK ≠ CS_OK then .call (.printf text) fun _ => .ret () else .ret ())
        (fun _ => Served cmd file.bytes (addrs ++ [addr]) m) d := by
    intro text d served
    rw [wp_ite]
    exact ⟨fun failed => absurd rfl failed, fun _ => served⟩
  by_cases start : cmd = ascii "start"
  · rw [if_pos start]
    refine wp_seq (remote_command_sound enough (ascii "corosync") addr f) ?_
    rintro _ ⟨g, _⟩ ⟨rfl, started, rfl⟩
    refine printf_sound (reported ⟨?_, rfl⟩)
    rw [started]
    exact deployed_ran deployed (by rw [start]; rfl) (by rw [start]; decide)
  by_cases stop : cmd = ascii "stop"
  · rw [if_neg start, if_pos stop]
    refine wp_seq (remote_command_sound enough (ascii "corosync-cfgtool -H") addr f) ?_
    rintro _ ⟨g, _⟩ ⟨rfl, stopped, rfl⟩
    refine printf_sound (reported ⟨?_, rfl⟩)
    rw [stopped]
    exact deployed_ran deployed (by rw [stop]; rfl) (by rw [stop]; decide)
  by_cases reset : cmd = ascii "reset_conf"
  · obtain ⟨name, rfl, supply⟩ := supplied reset
    rw [if_neg start, if_neg stop, if_pos reset]
    refine wp_mono (reset_conf_sound enough u (member reset) supply f) ?_
    rintro _ ⟨g, _⟩ ⟨copied, rfl⟩
    refine ⟨?_, rfl⟩
    rw [copied]
    exact deployed_reset deployed reset
  by_cases kill : cmd = ascii "kill_conn"
  · rw [if_neg start, if_neg stop, if_neg reset, if_pos kill]
    refine printf_sound (print_time_sound (wp_seq (remote_command_sound enough (ascii "ifdown eth1") addr f) ?_))
    rintro _ ⟨g, _⟩ ⟨-, killed, rfl⟩
    refine ⟨?_, rfl⟩
    rw [killed]
    exact deployed_ran deployed (by rw [kill]; rfl) reset
  by_cases conn : cmd = ascii "start_conn"
  · rw [if_neg start, if_neg stop, if_neg reset, if_neg kill, if_pos conn]
    refine printf_sound (print_time_sound (wp_seq (remote_command_sound enough (ascii "ifup eth1") addr f) ?_))
    rintro _ ⟨g, _⟩ ⟨-, started, rfl⟩
    refine ⟨?_, rfl⟩
    rw [started]
    exact deployed_ran deployed (by rw [conn]; rfl) reset
  · rw [if_neg start, if_neg stop, if_neg reset, if_neg kill, if_neg conn]
    refine printf_sound ⟨deployed_unknown deployed ?_ reset, rfl⟩
    simp [remoteCommands, start, stop, reset, kill, conn]

/-! ### Command lines -/

/-- The walk over the addresses serves one machine after the other. -/
theorem visit_sound {cmd : Bytes} (named : Option Bytes)
    (supplied : cmd = ascii "reset_conf" → ∃ name, named = some name ∧ Supplied S fuel file name) (u : Nat → CommandUninit) (n : Nat)
    (todo : List CString) (members : cmd = ascii "reset_conf" → ∀ addr ∈ todo, addr.chars ∈ machines) {addrs : List Bytes}
    {m : Machines} {d : Desk} (served : Served cmd file.bytes addrs m d) :
    wp (copying S machines file.bytes) (visit (fun n addr => client_ssh_command fuel (u n) (some cmd) addr named) n todo)
      (fun _ => Served cmd file.bytes (addrs ++ todo.map CString.chars) m) d := by
  induction todo generalizing n addrs d with
  | nil => simpa [visit] using served
  | cons addr todo ih =>
    have first : cmd = ascii "reset_conf" → addr.chars ∈ machines := fun reset => members reset addr (by simp)
    refine wp_seq (client_ssh_command_sound enough supplied (u n) first served) ?_
    rintro _ d served
    simpa using ih (n + 1) (fun reset a later => members reset a (by simp [later])) served

omit enough in
/-- The reads of words change nothing. -/
theorem unmarked_sound (p : Client Unit) (Q : Unit → Desk → Prop) (d : Desk) :
    wp (copying S machines conf) (Unmarked p) Q d ↔ wp (copying S machines conf) p Q d := by
  refine wp_without (fun d c r marked => ?_) p Q d
  cases c
  case access a =>
    cases a
    case word text =>
      cases text with
      | none => simp [wordRead] at marked
      | some text =>
        refine ⟨⟨rfl, trivial⟩, fun _ d' => ?_⟩
        simp only [copying_answers, sound_answers, fleet_answers, moved, true_and]
        constructor
        · rintro ⟨fleet, position⟩
          cases d'
          simp_all
        · rintro rfl
          exact ⟨rfl, rfl⟩
    all_goals simp [wordRead] at marked
  all_goals simp [wordRead] at marked

/-- `-c` serves the machines of its operands. -/
theorem ssh_option_sound {cmd : CString} {operands : List CString}
    (supplied : cmd.chars = ascii "reset_conf" → ∃ name, fileName (cmd :: operands) = some name ∧ Supplied S fuel file name)
    (rounds : (addresses (cmd :: operands)).length < fuel)
    (members : cmd.chars = ascii "reset_conf" → ∀ addr ∈ addresses (cmd :: operands), addr.chars ∈ machines)
    (u : Nat → CommandUninit) (f : Fleet) :
    wp (copying S machines file.bytes) (client_ssh_option fuel u (argzOf (cmd :: operands)))
      (fun _ => Served cmd.chars file.bytes ((addresses (cmd :: operands)).map CString.chars) f.machines) ⟨f, closed⟩ := by
  have start : Served cmd.chars file.bytes [] f.machines ⟨f, closed⟩ := ⟨deployed_start, rfl⟩
  rw [← unmarked_sound]
  by_cases reset : cmd.chars = ascii "reset_conf"
  · cases operands with
    | nil =>
      obtain ⟨name, none, -⟩ := supplied reset
      cases none
    | cons name addrs =>
      have here : addresses (cmd :: name :: addrs) = addrs := by simp [addresses, reset]
      have given : fileName (cmd :: name :: addrs) = some name.chars := if_pos reset
      rw [here] at rounds members ⊢
      rw [given] at supplied
      rw [ssh_option_reset reset name rounds u, unmarked_sound]
      simpa using visit_sound enough _ supplied u 0 addrs members start
  · have here : addresses (cmd :: operands) = operands := by simp [addresses, reset]
    rw [here] at rounds ⊢
    rw [ssh_option_other reset rounds u, unmarked_sound]
    simpa using
      visit_sound enough none (fun same => absurd same reset) u 0 operands (fun same => absurd same reset) start

end

end

/-- The machines whose configuration a line resets. -/
def resets (line : List (OptKey × CString)) : List Bytes :=
  if command line = ascii "reset_conf" then listed line else []

/-- A `-c` line that the client accepts, with enough rounds for its loops, and whose file is
    there if it is a `reset_conf`. -/
structure Ready (S : Supply) (fuel : Nat) (file : ConfCopy.SourceFile) (line : List (OptKey × CString)) : Prop where
  remote : lastTask line .print_option = .ssh_cmd
  accepted : 1 ≤ line.length ∧ line.length ≤ 8
  supplied : command line = ascii "reset_conf" → ∃ name, fileName (line.map Prod.snd) = some name ∧ Supplied S fuel file name
  rounds : (listed line).length < fuel
  enough : S.limit / 1024 + 1 < fuel

/-- The program serves the machines of the line. -/
theorem main_serves {S : Supply} {fuel : Nat} {file : ConfCopy.SourceFile} {line : List (OptKey × CString)}
    (ready : Ready S fuel file line) (u : ClientUninit) (name : Bytes) (f : Fleet) :
    wp (copying S (resets line) file.bytes) (main fuel u name line)
      (fun _ => Served (command line) file.bytes (listed line) f.machines) ⟨f, closed⟩ := by
  obtain ⟨remote, accepted, supplied, rounds, enough⟩ := ready
  have parsed := (argp_parse_ok line ⟨lastTask line .print_option, argzOf (line.map Prod.snd)⟩).mpr ⟨accepted, rfl⟩
  have here : listed line = (addresses (line.map Prod.snd)).map CString.chars := if_pos remote
  have members : command line = ascii "reset_conf" → ∀ addr ∈ addresses (line.map Prod.snd), addr.chars ∈ resets line := by
    intro reset addr member
    rw [resets, if_pos reset, here]
    exact List.mem_map_of_mem member
  have some : line.map Prod.snd ≠ [] := by
    intro none
    have empty := congrArg List.length none
    simp only [List.length_map, List.length_nil] at empty
    omega
  generalize resets line = machines at members ⊢
  rw [here, List.length_map] at rounds
  rw [here, command] at *
  simp only [main, printf, perform_bind, Prog.call_bind, Prog.pure_eq]
  refine printf_sound ?_
  rw [parsed]
  simp only [run_task, remote]
  generalize line.map Prod.snd = words at supplied rounds some members
  cases words with
  | nil => exact absurd rfl some
  | cons cmd operands =>
    refine wp_seq (ssh_option_sound enough supplied rounds members u.commands f) ?_
    rintro _ ⟨g, position⟩ served
    exact printf_sound served

/-- The positions are those of an operator alone. -/
theorem sound_copying (S : Supply) (addrs : List Bytes) (file : Bytes) :
    Simulates (fun _ => True) (fun f d => d.fleet = f) (sound S) (copying S addrs file) where
  permits _ _ _ _ _ permitted := permitted.1
  answers _ d c r f' _ same answered := ⟨⟨f', moved d.position c r⟩, ⟨same ▸ answered, rfl⟩, rfl⟩

/-- Where the libraries do all that they are asked to do, an accepted `-c` line runs to its
    end: it overruns no buffer and reads no missing word, and every listed machine has then
    started the command, once for each time it is listed, in the order of the list; every
    listed machine has the file of `reset_conf` as its configuration, and no other file has
    changed. -/
theorem main_deploys {S : Supply} {fuel : Nat} {file : ConfCopy.SourceFile} {line : List (OptKey × CString)}
    (remote : lastTask line .print_option = .ssh_cmd) (accepted : 1 ≤ line.length ∧ line.length ≤ 8)
    (supplied : command line = ascii "reset_conf" → ∃ name, fileName (line.map Prod.snd) = some name ∧ Supplied S fuel file name)
    (rounds : (listed line).length < fuel) (enough : S.limit / 1024 + 1 < fuel) (u : ClientUninit) (name : Bytes) (f : Fleet) :
    Returns (sound S) (main fuel u name line) f
      (fun _ g => Deployed (command line) file.bytes (listed line) f.machines g.machines) := by
  have serves := main_serves ⟨remote, accepted, supplied, rounds, enough⟩ u name f
  refine returns_of_wp (fun f c _ => sound_live S f c) ?_
  refine wp_mono (wp_simulates (sound_copying S (resets line) file.bytes) rfl serves) ?_
  rintro _ _ ⟨d, rfl, served⟩
  exact served.deployed

theorem reset_terminated : 0 ∉ ascii "reset_conf" := by decide
theorem vm_default_terminated : 0 ∉ ascii "vm_default.conf" := by decide

/-- Two machines get a configuration. -/
def resetBoth : List (OptKey × CString) :=
  [(.c, ⟨ascii "reset_conf", reset_terminated⟩), (.ARG, ⟨ascii "vm_default.conf", vm_default_terminated⟩),
    (.ARG, ⟨ascii "11.0.0.2", node2_terminated⟩), (.ARG, ⟨ascii "11.0.0.3", node3_terminated⟩)]

theorem short_conf : (ascii "totem { version: 2 }").length < 2 ^ 63 := by decide

def vm_default : ConfCopy.SourceFile := ⟨ascii "totem { version: 2 }", short_conf⟩

def oneTemplate : Supply where
  templates path := if path = ascii "../conf_templates/vm_default.conf" then some vm_default else none
  limit := 0

theorem main_deploys_resetBoth :
    Returns (sound oneTemplate) (main 3 Operands.cleared [] resetBoth) idle
      (fun _ g => Deployed (ascii "reset_conf") vm_default.bytes [ascii "11.0.0.2", ascii "11.0.0.3"] idle.machines g.machines) :=
  @main_deploys oneTemplate 3 vm_default resetBoth (by rfl) (by decide)
    (fun _ => ⟨ascii "vm_default.conf", by rfl, ⟨vm_default_terminated, by decide, by rfl, by decide⟩⟩) (by decide) (by decide)
    Operands.cleared [] idle

end CorosyncClient.Deployment
