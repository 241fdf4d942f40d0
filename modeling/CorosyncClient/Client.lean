import CorosyncClient.CLib.Argz
import CorosyncClient.Monitor
import CorosyncClient.SshManager

/-!
`client.c`: the words of the command line are collected in an argz vector, and the handler
of the last option walks through them. Where a result of `argz_next` is read, or handed
back to it, the model makes an access to the word.
-/
namespace CorosyncClient
open CLib Interaction

/-- `atoi` of glibc: the `long` that is read is cut to an `int`. -/
def atoi (text : Bytes) : Int32 := ((strtol text).map fun scanned => Int32.ofInt scanned.1).getD 0

/-! ### Words -/

/-- The string at a pointer. -/
def read_word (text : Option Bytes) : Client Bytes := do
  access (.word text)
  match text with
  | some text => return text
  | none => read_stray

/-- `argz_next` behind an entry that it has given. -/
def next_entry (argz : Bytes) (entry : Option Nat) : Client (Option Nat) := do
  access (.word (argz_string argz entry))
  return argz_next argz entry

/-! ### Commands for other machines -/

/-- What the locals of `client_ssh_command` and `sftp_conf` hold before they are written. -/
structure CommandUninit where
  src_file : Bytes
  st_size : UInt64
  buffer : Bytes

/-- The branch of `reset_conf`. The fill of `src_file` has its length and its byte
    exchanged. -/
def reset_conf (fuel : Nat) (u : CommandUninit) (addr : Bytes) (src_file_name : Option Bytes) : Client Unit := do
  let src_file := memset u.src_file 128 0
  access (.fill 128 ((ascii "../conf_templates/").length + 1))
  let src_file := strcpy src_file (ascii "../conf_templates/")
  let name ← read_word src_file_name
  access (.fill 128 ((ascii "../conf_templates/").length + name.length + 1))
  let src_file := strcat src_file name
  let err ← copy_conf fuel u.st_size u.buffer addr (cstr src_file) (ascii "/etc/corosync/corosync.conf")
  if err ≠ CS_OK then
    let _ ← printf (ascii "Failed to reset corosync.conf to default at node " ++ addr ++ ascii " - error: " ++
      get_error err ++ ascii "\n")
  let err ← stop_corosync fuel addr
  if err ≠ CS_OK then
    let _ ← printf (ascii "May have reset corosync.conf to default at node " ++ addr ++
      ascii ", but something went wrong restarting corosync... - error: " ++ get_error err ++ ascii "\n")
  let _ ← printf (ascii "corosync.conf reset to " ++ name ++ ascii " at node " ++ addr ++ ascii "\n")

/-- The results of `kill_conn` and `start_conn` are dropped. -/
def client_ssh_command (fuel : Nat) (u : CommandUninit) (cmd : Option Bytes) (addr : Bytes)
    (src_file_name : Option Bytes) : Client Unit := do
  let cmd ← read_word cmd
  if cmd = ascii "start" then
    let err ← start_corosync fuel addr
    let _ ← printf (ascii "node started\n")
    if err ≠ CS_OK then
      let _ ← printf (ascii "Failed to start corosync at node " ++ addr ++ ascii "\n")
  else if cmd = ascii "stop" then
    let err ← stop_corosync fuel addr
    let _ ← printf (ascii "node stopped\n")
    if err ≠ CS_OK then
      let _ ← printf (ascii "Failed to stop corosync at node " ++ addr ++ ascii "\n")
  else if cmd = ascii "reset_conf" then
    reset_conf fuel u addr src_file_name
  else if cmd = ascii "kill_conn" then
    let _ ← printf (ascii "killing connection at " ++ addr ++ ascii "\nTime:")
    print_time
    let _ ← kill_conn fuel addr
  else if cmd = ascii "start_conn" then
    let _ ← printf (ascii "starting connection at " ++ addr ++ ascii "\nTime:")
    print_time
    let _ ← start_conn fuel addr
  else
    let _ ← printf (ascii "Command " ++ cmd ++ ascii " not recognized.\n")

/-- `while(addr = argz_next(.., prev))`, with the number of the round. -/
def ssh_round (fuel : Nat) (u : Nat → CommandUninit) (argz : Bytes) (cmd src_file_name : Option Nat)
    (s : Nat × Option Nat) : Client ((Nat × Option Nat) ⊕ Unit) := do
  match ← next_entry argz s.2 with
  | none => return .inr ()
  | some addr =>
    client_ssh_command fuel (u s.1) (argz_string argz cmd) (cstr (argz.drop addr)) (argz_string argz src_file_name)
    return .inl (s.1 + 1, some addr)

/-- The file name of `reset_conf`, and the entry behind which the addresses begin. -/
def first_entries (argz : Bytes) (cmd : Option Nat) : Client (Option Nat × Option Nat) := do
  if (← read_word (argz_string argz cmd)) = ascii "reset_conf" then
    let src_file_name ← next_entry argz cmd
    return (src_file_name, src_file_name)
  return (none, cmd)

def client_ssh_option (fuel : Nat) (u : Nat → CommandUninit) (argz : Bytes) : Client Unit := do
  let cmd := argz_next argz none
  let (src_file_name, prev) ← first_entries argz cmd
  loop (ssh_round fuel u argz cmd src_file_name) fuel (0, prev)

/-! ### Votes -/

/-- The line of success is printed in any case. -/
def client_change_votes (nodeid votes : UInt32) : Client Unit := do
  let err ← set_votes nodeid votes
  if err ≠ CS_OK then
    let _ ← printf (ascii "failed to update node " ++ decimal nodeid.toNat ++ ascii " votes: " ++ get_error err ++ ascii "\n")
  let _ ← printf (ascii "node " ++ decimal nodeid.toNat ++ ascii " had their quorum_votes changed to " ++
    decimal votes.toNat ++ ascii "\n")

/-- The last line of `client_change_votes`, with `shown` as the node. -/
def changedLine (shown : Bytes) (votes : UInt32) : Bytes :=
  ascii "node " ++ shown ++ ascii " had their quorum_votes changed to " ++ decimal votes.toNat ++ ascii "\n"

/-- `while(q_target = argz_next(.., prev))`. -/
def quorum_round (argz : Bytes) (q_option prev : Option Nat) : Client (Option Nat ⊕ Unit) := do
  match ← next_entry argz prev with
  | none => return .inr ()
  | some q_target =>
    if (← read_word (argz_string argz q_option)) = ascii "set_votes" then
      let nodeid := (atoi (← read_word (argz_string argz (some q_target)))).toUInt32
      let q_target ← next_entry argz (some q_target)
      let votes := atoi (← read_word (argz_string argz q_target))
      client_change_votes nodeid votes.toUInt32
      return .inr ()
    return .inl (some q_target)

def client_quorum_option (fuel : Nat) (argz : Bytes) : Client Unit := do
  let q_option := argz_next argz none
  loop (quorum_round argz q_option) fuel q_option

/-! ### Monitor and print -/

/-- Both targets are the same function. -/
def client_monitor_option (fuel : Nat) (u : Nat → Uninit) (g : Globals) (argz : Bytes) : Client Unit := do
  let m_target ← read_word (argz_string argz (argz_next argz none))
  if m_target = ascii "membership" ∨ m_target = ascii "quorum" then
    let (err, _) ← monitor_status fuel u g
    if err ≠ CS_OK then
      let _ ← printf (ascii "monitor recieved an error: " ++ get_error err ++ ascii "\n")

def client_print_option (fuel : Nat) (u : Uninit) (argz : Bytes) : Client Unit := do
  let print_target ← read_word (argz_string argz (argz_next argz none))
  if print_target = ascii "membership" then
    let err ← print_membership fuel u
    if err ≠ CS_OK then
      let _ ← printf (ascii "print manager recieved an error: " ++ get_error err ++ ascii "\n")
  else if print_target = ascii "quorum" then
    let err ← print_quorum
    if err ≠ CS_OK then
      let _ ← printf (ascii "print manager recieved an error: " ++ get_error err ++ ascii "\n")

/-! ### The command line -/

/-- `enum client_task`. -/
inductive ClientTask where
  | print_option | quorum_option | monitor_option | ssh_cmd
  deriving DecidableEq

/-- What a word of the command line is to argp: the argument of an option, or one that
    belongs to none. -/
inductive OptKey where
  | c | m | p | q | ARG
  deriving DecidableEq

/-- The keys that argp hands to `parse_opt`, with their arguments; `other` is every key
    without a case. -/
inductive ArgpKey where
  | word (key : OptKey) (arg : CString)
  | INIT | END | other

/-- The global `task`, and the vector in `state->input`. -/
structure Parsed where
  task : ClientTask
  argz : Bytes

/-- The task that an option sets. -/
def OptKey.task : OptKey → Option ClientTask
  | .c => some .ssh_cmd
  | .m => some .monitor_option
  | .p => some .print_option
  | .q => some .quorum_option
  | .ARG => none

/-- An error is the message of `argp_failure`, which ends the process. -/
def parse_opt (s : Parsed) : ArgpKey → Except Bytes Parsed
  | .word key arg => .ok { task := key.task.getD s.task, argz := argz_add s.argz arg }
  | .INIT => .ok { s with argz := [] }
  | .END =>
    if argz_count s.argz > 8 then .error (ascii "too many arguments")
    else if argz_count s.argz < 1 then .error (ascii "too few arguments")
    else .ok s
  | .other => .ok s

/-- The keys for a line of words, in the order in which argp comes to them. -/
def argp_keys (line : List (OptKey × CString)) : List ArgpKey :=
  [.INIT] ++ line.map (fun w => .word w.1 w.2) ++ [.END]

/-- The global `task` starts at 0. -/
def argp_parse (line : List (OptKey × CString)) : Except Bytes Parsed :=
  (argp_keys line).foldlM parse_opt { task := .print_option, argz := [] }

/-- The task of the last option of a line. -/
def lastTask (line : List (OptKey × CString)) (task : ClientTask) : ClientTask :=
  line.foldl (fun task w => w.1.task.getD task) task

/-- The words of a line are appended in order. -/
theorem parse_words (line : List (OptKey × CString)) (s : Parsed) :
    (line.map fun w => ArgpKey.word w.1 w.2).foldlM parse_opt s =
      .ok { task := lastTask line s.task, argz := (line.map Prod.snd).foldl argz_add s.argz } := by
  induction line generalizing s with
  | nil => rfl
  | cons w line ih =>
    simp only [List.map_cons, List.foldlM_cons]
    exact ih _

/-- A line is accepted if it has at least one word and at most eight. -/
theorem argp_parse_ok (line : List (OptKey × CString)) (arguments : Parsed) :
    argp_parse line = .ok arguments ↔ (1 ≤ line.length ∧ line.length ≤ 8) ∧
      arguments = { task := lastTask line .print_option, argz := argzOf (line.map Prod.snd) } := by
  have vector : (line.map Prod.snd).foldl argz_add [] = argzOf (line.map Prod.snd) := foldl_argz_add [] _
  have parsed : argp_parse line =
      parse_opt { task := lastTask line .print_option, argz := argzOf (line.map Prod.snd) } .END := by
    rw [argp_parse, argp_keys, List.foldlM_append, List.foldlM_append, ← vector]
    simp only [List.foldlM_cons, List.foldlM_nil, bind_pure]
    change (List.foldlM parse_opt { task := .print_option, argz := [] } _ >>= _) = _
    rw [parse_words]
    rfl
  rw [parsed, parse_opt, argz_count_argzOf, List.length_map]
  by_cases many : line.length > 8
  · rw [if_pos many]
    simp
    omega
  · rw [if_neg many]
    by_cases few : line.length < 1
    · rw [if_pos few]
      simp
      omega
    · rw [if_neg few]
      have accepted : 1 ≤ line.length ∧ line.length ≤ 8 := by omega
      simp [accepted, eq_comm]

/-- The memory that the handlers find before they write to it. -/
structure ClientUninit where
  commands : Nat → CommandUninit
  prints : Nat → Uninit
  globals : Globals

/-- The `switch` of `main`. -/
def run_task (fuel : Nat) (u : ClientUninit) (arguments : Parsed) : Client Unit :=
  match arguments.task with
  | .ssh_cmd => client_ssh_option fuel u.commands arguments.argz
  | .monitor_option => client_monitor_option fuel u.prints u.globals arguments.argz
  | .print_option => client_print_option fuel (u.prints 0) arguments.argz
  | .quorum_option => client_quorum_option fuel arguments.argz

/-- `name` is what argp puts before a message. -/
def main (fuel : Nat) (u : ClientUninit) (name : Bytes) (line : List (OptKey × CString)) : Client Unit := do
  let _ ← printf (ascii "\n")
  match argp_parse line with
  | .error message =>
    let _ ← eprintf (name ++ ascii ": " ++ message ++ ascii "\n")
  | .ok arguments =>
    run_task fuel u arguments
    let _ ← printf (ascii "\n")

end CorosyncClient
