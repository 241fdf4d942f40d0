import CorosyncClient.Interaction.Expansion
import CorosyncClient.Failures
import CorosyncClient.SshOption

/-!
What the client tells of its work on other machines and on votes. A command is read as a
program whose calls are the functions that do the work, and what it prints is held against
their results.
-/
namespace CorosyncClient.Reports
open CLib Interaction Failures SshOption
set_option linter.unusedSimpArgs false

/-! ### Commands over the functions that they call -/

/-- The functions by which a target is worked on, with their arguments. -/
inductive Work where
  | start_corosync (addr : Bytes)
  | stop_corosync (addr : Bytes)
  | copy_conf (addr source_file dest_directory : Bytes)
  | kill_conn (addr : Bytes)
  | start_conn (addr : Bytes)
  | set_votes (nodeid votes : UInt32)

/-- A call of such a function, or of a library. -/
inductive Step where
  | work (w : Work)
  | lib (c : Call)

@[reducible] def StepReply : Step → Type
  | .work _ => Err
  | .lib c => Reply c

abbrev StepEvent := Event Step StepReply
abbrev Steps := Prog Step StepReply

/-- The program that a step stands for. -/
def carryOut (fuel : Nat) (u : CommandUninit) : (o : Step) → Client (StepReply o)
  | .work (.start_corosync addr) => start_corosync fuel addr
  | .work (.stop_corosync addr) => stop_corosync fuel addr
  | .work (.copy_conf addr source_file dest_directory) => copy_conf fuel u.st_size u.buffer addr source_file dest_directory
  | .work (.kill_conn addr) => kill_conn fuel addr
  | .work (.start_conn addr) => start_conn fuel addr
  | .work (.set_votes nodeid votes) => set_votes nodeid votes
  | .lib c => perform c

def work (w : Work) : Steps Err := perform (Step.work w)

/-- What is not the work of another function. -/
def lib {α : Type} (p : Client α) : Steps α := p.expand fun c => perform (.lib c)

/-- `reset_conf` over its steps. -/
def reset_conf_steps (u : CommandUninit) (addr : Bytes) (src_file_name : Option Bytes) : Steps Unit := do
  let src_file := memset u.src_file 128 0
  lib (access (.fill 128 ((ascii "../conf_templates/").length + 1)))
  let src_file := strcpy src_file (ascii "../conf_templates/")
  let name ← lib (read_word src_file_name)
  lib (access (.fill 128 ((ascii "../conf_templates/").length + name.length + 1)))
  let src_file := strcat src_file name
  let err ← work (.copy_conf addr (cstr src_file) (ascii "/etc/corosync/corosync.conf"))
  if err ≠ CS_OK then
    let _ ← lib (printf (ascii "Failed to reset corosync.conf to default at node " ++ addr ++ ascii " - error: " ++
      get_error err ++ ascii "\n"))
  let err ← work (.stop_corosync addr)
  if err ≠ CS_OK then
    let _ ← lib (printf (ascii "May have reset corosync.conf to default at node " ++ addr ++
      ascii ", but something went wrong restarting corosync... - error: " ++ get_error err ++ ascii "\n"))
  let _ ← lib (printf (ascii "corosync.conf reset to " ++ name ++ ascii " at node " ++ addr ++ ascii "\n"))

/-- `client_ssh_command` over its steps. -/
def command_steps (u : CommandUninit) (cmd : Option Bytes) (addr : Bytes) (src_file_name : Option Bytes) : Steps Unit := do
  let cmd ← lib (read_word cmd)
  if cmd = ascii "start" then
    let err ← work (.start_corosync addr)
    let _ ← lib (printf (ascii "node started\n"))
    if err ≠ CS_OK then
      let _ ← lib (printf (ascii "Failed to start corosync at node " ++ addr ++ ascii "\n"))
  else if cmd = ascii "stop" then
    let err ← work (.stop_corosync addr)
    let _ ← lib (printf (ascii "node stopped\n"))
    if err ≠ CS_OK then
      let _ ← lib (printf (ascii "Failed to stop corosync at node " ++ addr ++ ascii "\n"))
  else if cmd = ascii "reset_conf" then
    reset_conf_steps u addr src_file_name
  else if cmd = ascii "kill_conn" then
    let _ ← lib (printf (ascii "killing connection at " ++ addr ++ ascii "\nTime:"))
    lib print_time
    let _ ← work (.kill_conn addr)
  else if cmd = ascii "start_conn" then
    let _ ← lib (printf (ascii "starting connection at " ++ addr ++ ascii "\nTime:"))
    lib print_time
    let _ ← work (.start_conn addr)
  else
    let _ ← lib (printf (ascii "Command " ++ cmd ++ ascii " not recognized.\n"))

/-- `client_change_votes` over its steps. -/
def change_votes_steps (nodeid votes : UInt32) : Steps Unit := do
  let err ← work (.set_votes nodeid votes)
  if err ≠ CS_OK then
    let _ ← lib (printf (ascii "failed to update node " ++ decimal nodeid.toNat ++ ascii " votes: " ++ get_error err ++ ascii "\n"))
  let _ ← lib (printf (ascii "node " ++ decimal nodeid.toNat ++ ascii " had their quorum_votes changed to " ++
    decimal votes.toNat ++ ascii "\n"))

section
variable (fuel : Nat) (u : CommandUninit)

@[simp] theorem lib_expand {α : Type} (p : Client α) : (lib p).expand (carryOut fuel u) = p :=
  expand_lifted _ _ (fun _ => rfl) p

@[simp] theorem work_expand (w : Work) : (work w).expand (carryOut fuel u) = carryOut fuel u (.work w) :=
  expand_perform _ _

theorem reset_conf_expand (addr : Bytes) (src_file_name : Option Bytes) :
    (reset_conf_steps u addr src_file_name).expand (carryOut fuel u) = reset_conf fuel u addr src_file_name := by
  simp only [reset_conf_steps, expand_bind, expand_ite, lib_expand, work_expand, carryOut, Prog.pure_eq, expand_ret, reset_conf]

theorem client_ssh_command_expand (cmd : Option Bytes) (addr : Bytes) (src_file_name : Option Bytes) :
    (command_steps u cmd addr src_file_name).expand (carryOut fuel u) = client_ssh_command fuel u cmd addr src_file_name := by
  simp only [command_steps, expand_bind, expand_ite, lib_expand, work_expand, carryOut, Prog.pure_eq, expand_ret,
    reset_conf_expand, client_ssh_command]

theorem client_change_votes_expand (nodeid votes : UInt32) :
    (change_votes_steps nodeid votes).expand (carryOut fuel u) = client_change_votes nodeid votes := by
  simp only [change_votes_steps, expand_bind, expand_ite, lib_expand, work_expand, carryOut, Prog.pure_eq, expand_ret,
    client_change_votes]

end

/-! ### What a target is told -/

/-- A function that does the work has failed. -/
def failed : StepEvent → Bool
  | ⟨.work _, err⟩ => err ≠ CS_OK
  | ⟨.lib _, _⟩ => false

/-- The text is printed. -/
def prints (text : Bytes) : StepEvent → Bool
  | ⟨.lib (.printf line), _⟩ => line = text
  | _ => false

/-- corosync is stopped. -/
def stops : StepEvent → Bool
  | ⟨.work (.stop_corosync _), _⟩ => true
  | _ => false

/-- A configuration has arrived. -/
def copied : StepEvent → Bool
  | ⟨.work (.copy_conf _ _ _), err⟩ => err = CS_OK
  | _ => false

/-- The line that tells of success is printed only if no function failed, and behind each
    that failed another line is printed. -/
structure Truthful (told : Option Bytes) (steps : List StepEvent) : Prop where
  success : ∀ line, told = some line → Occurs (prints line) steps → ¬ Occurs failed steps
  failure : ∀ before e after, steps = before ++ e :: after → failed e = true →
    ∃ line, told ≠ some line ∧ Occurs (prints line) after

/-- corosync is stopped only behind a copy that succeeded. -/
def CopiedFirst (steps : List StepEvent) : Prop :=
  ∀ before e after, steps = before ++ e :: after → stops e = true → Occurs copied before

/-- The line by which a command tells of success. -/
def successLine (cmd addr : Bytes) (src_file_name : Option Bytes) : Option Bytes :=
  if cmd = ascii "start" then some (ascii "node started\n")
  else if cmd = ascii "stop" then some (ascii "node stopped\n")
  else if cmd = ascii "reset_conf" then
    src_file_name.map fun name => ascii "corosync.conf reset to " ++ name ++ ascii " at node " ++ addr ++ ascii "\n"
  else none

/-- What a command owes to a target. -/
def Lawful (cmd addr : Bytes) (src_file_name : Option Bytes) (steps : List StepEvent) : Prop :=
  Truthful (successLine cmd addr src_file_name) steps ∧ (cmd = ascii "reset_conf" → CopiedFirst steps)

theorem truthful_of_succeeded {told : Option Bytes} {steps : List StepEvent} (succeeded : ¬ Occurs failed steps) :
    Truthful told steps where
  success _ _ _ := succeeded
  failure := by
    rintro before e after rfl fails
    refine absurd ?_ succeeded
    rw [occurs_append, occurs_cons]
    exact .inr (.inl fails)

/-- A line of success that is printed in any case tells the truth when nothing failed. -/
theorem truthful_printed_iff {line : Bytes} {steps : List StepEvent} (printed : Occurs (prints line) steps) :
    Truthful (some line) steps ↔ ¬ Occurs failed steps :=
  ⟨fun truthful => truthful.success line rfl printed, truthful_of_succeeded⟩

/-- So does a command that prints nothing behind its last step. -/
theorem truthful_silent_iff {told : Option Bytes} {before : List StepEvent} {e : StepEvent} (fine : ¬ Occurs failed before) :
    Truthful told (before ++ [e]) ↔ ¬ Occurs failed (before ++ [e]) := by
  refine ⟨fun truthful fails => ?_, truthful_of_succeeded⟩
  rw [occurs_append, occurs_cons] at fails
  have fails : failed e = true := by simpa [fine] using fails
  obtain ⟨line, -, printed⟩ := truthful.failure before e [] rfl fails
  exact absurd printed (occurs_nil _)

theorem copiedFirst_append {first rest : List StepEvent} (unstopped : ¬ Occurs stops first) (copies : Occurs copied first) :
    CopiedFirst (first ++ rest) := by
  intro before e after split stop
  rcases List.append_eq_append_iff.mp split with ⟨more, rfl, -⟩ | ⟨more, rfl, same⟩
  · exact (occurs_append _ _ _).mpr (.inl copies)
  · cases more with
    | nil => simpa using copies
    | cons e' more =>
      obtain ⟨rfl, -⟩ := List.cons.inj same
      refine absurd ?_ unstopped
      rw [occurs_append, occurs_cons]
      exact .inr (.inl stop)

/-! ### What the commands do -/

@[simp] theorem lib_printf {α : Type} (text : Bytes) (next : Int → Steps α) :
    (lib (printf text) >>= next) = .call (Step.lib (.printf text)) next := rfl

@[simp] theorem lib_access {α : Type} (a : Access) (next : Unit → Steps α) :
    (lib (access a) >>= next) = .call (Step.lib (.access a)) next := rfl

@[simp] theorem work_bind {α : Type} (w : Work) (next : Err → Steps α) : (work w >>= next) = .call (Step.work w) next := rfl

@[simp] theorem lib_read_word {α : Type} (text : Bytes) (next : Bytes → Steps α) :
    (lib (read_word (some text)) >>= next) = .call (Step.lib (.access (.word (some text)))) fun _ => next text := rfl

@[simp] theorem lib_print_time {α : Type} (next : Unit → Steps α) :
    (lib print_time >>= next) = .call (Step.lib .ctime) fun time => .call (Step.lib (.printf time)) fun _ => next () := rfl

section
variable (u : CommandUninit) (addr : Bytes) (src_file_name : Option Bytes)

/-- A spec of all complete runs over the steps. -/
abbrev Ends {α : Type} (p : Steps α) (Q : List StepEvent → Prop) : Prop := wlp World.free.traced p (fun _ t => Q t.2) ((), [])

theorem ends_read_word {word : Bytes} {next : Bytes → Steps Unit} {Q : List StepEvent → Prop}
    (holds : wlp World.free.traced (next word) (fun _ t => Q t.2) ((), [⟨.lib (.access (.word (some word))), ()⟩])) :
    Ends (lib (read_word (some word)) >>= next) Q := by
  rw [lib_read_word, Ends, wlp_traced_call]
  exact ⟨trivial, fun _ _ _ => holds⟩

/-- A line that is printed only where `err` is an error. -/
theorem wlp_warned {err : Err} {text : Bytes} {p : Steps Unit} {Q : Unit → Unit × List StepEvent → Prop} {tr : List StepEvent}
    (holds : ∀ more, wlp World.free.traced p Q ((), tr ++ more)) :
    wlp World.free.traced (if err ≠ CS_OK then lib (printf text) >>= fun _ => p else p) Q ((), tr) := by
  split
  · rw [lib_printf, wlp_traced_call]
    exact ⟨trivial, fun _ _ _ => holds _⟩
  · simpa using holds []

/-- The line that comes before the test of `err` is printed in any case. -/
theorem work_prints (w : Work) (line failure : Bytes) (tr : List StepEvent) :
    wlp World.free.traced (do
      let err ← work w
      let _ ← lib (printf line)
      if err ≠ CS_OK then
        let _ ← lib (printf failure)) (fun _ t => Occurs (prints line) t.2) ((), tr) := by
  rw [work_bind, wlp_traced_call]
  refine ⟨trivial, fun err _ _ => ?_⟩
  rw [lib_printf, wlp_traced_call]
  refine ⟨trivial, fun _ _ _ => wlp_warned fun more => ?_⟩
  rw [Prog.pure_eq, wlp_ret]
  simp [prints]

theorem start_prints :
    Ends (command_steps u (some (ascii "start")) addr src_file_name) (Occurs (prints (ascii "node started\n"))) := by
  apply ends_read_word
  rw [if_pos rfl]
  exact work_prints _ _ _ _

theorem stop_prints :
    Ends (command_steps u (some (ascii "stop")) addr src_file_name) (Occurs (prints (ascii "node stopped\n"))) := by
  have other : ascii "stop" ≠ ascii "start" := by decide
  apply ends_read_word
  rw [if_neg other, if_pos rfl]
  exact work_prints _ _ _ _

/-- The copy comes first, and the line in any case. -/
theorem reset_conf_prints (name : Bytes) :
    Ends (command_steps u (some (ascii "reset_conf")) addr (some name)) (fun steps =>
      Occurs (prints (ascii "corosync.conf reset to " ++ name ++ ascii " at node " ++ addr ++ ascii "\n")) steps ∧
        ∃ first rest, steps = first ++ rest ∧ ¬ Occurs stops first ∧ (¬ Occurs failed first → Occurs copied first)) := by
  have other : ascii "reset_conf" ≠ ascii "start" ∧ ascii "reset_conf" ≠ ascii "stop" := by decide
  apply ends_read_word
  rw [if_neg other.1, if_neg other.2, if_pos rfl]
  simp only [reset_conf_steps, lib_read_word, lib_access, work_bind, wlp_traced_call, World.free_permits, World.free_answers, true_and]
  intro _ _ _ _ _ _ _ _ _ err _ _
  refine wlp_warned fun more => ?_
  rw [wlp_traced_call]
  refine ⟨trivial, fun _ _ _ => wlp_warned fun more' => ?_⟩
  rw [lib_printf, wlp_traced_call, Prog.pure_eq]
  have split (first warned stop warned' line : List StepEvent) :
      first ++ warned ++ stop ++ warned' ++ line = first ++ (warned ++ stop ++ warned' ++ line) := by
    simp only [List.append_assoc]
  refine ⟨trivial, fun _ _ _ => ⟨by simp [prints], _, _, split _ _ _ _ _, ?_, ?_⟩⟩
  · simp [stops]
  · simp [failed, copied]

/-- The work is the last step. -/
def Silent (steps : List StepEvent) : Prop := ∃ before e, steps = before ++ [e] ∧ ¬ Occurs failed before

theorem timed_work_silent (line : Bytes) (w : Work) {tr : List StepEvent} (fine : ¬ Occurs failed tr) :
    wlp World.free.traced (do
      let _ ← lib (printf line)
      lib print_time
      let _ ← work w) (fun _ t => Silent t.2) ((), tr) := by
  simp only [lib_printf, lib_print_time, work_bind, Prog.pure_eq, wlp_traced_call, wlp_ret, World.free_permits,
    World.free_answers, true_and]
  intro _ _ _ _ _ _ _ _ _ err _ _
  exact ⟨_, _, rfl, by simp [failed, fine]⟩

theorem kill_conn_silent : Ends (command_steps u (some (ascii "kill_conn")) addr src_file_name) Silent := by
  have other : ascii "kill_conn" ≠ ascii "start" ∧ ascii "kill_conn" ≠ ascii "stop" ∧ ascii "kill_conn" ≠ ascii "reset_conf" := by
    decide
  apply ends_read_word
  rw [if_neg other.1, if_neg other.2.1, if_neg other.2.2, if_pos rfl]
  exact timed_work_silent _ _ (by simp [failed])

theorem start_conn_silent : Ends (command_steps u (some (ascii "start_conn")) addr src_file_name) Silent := by
  have other : ascii "start_conn" ≠ ascii "start" ∧ ascii "start_conn" ≠ ascii "stop" ∧ ascii "start_conn" ≠ ascii "reset_conf" ∧
      ascii "start_conn" ≠ ascii "kill_conn" := by decide
  apply ends_read_word
  rw [if_neg other.1, if_neg other.2.1, if_neg other.2.2.1, if_neg other.2.2.2, if_pos rfl]
  exact timed_work_silent _ _ (by simp [failed])

/-- Nothing is done for a word that is no command. -/
theorem other_idle {cmd : Bytes} (start : cmd ≠ ascii "start") (stop : cmd ≠ ascii "stop") (reset : cmd ≠ ascii "reset_conf")
    (kill : cmd ≠ ascii "kill_conn") (conn : cmd ≠ ascii "start_conn") :
    Ends (command_steps u (some cmd) addr src_file_name) (fun steps => ¬ Occurs failed steps) := by
  apply ends_read_word
  rw [if_neg start, if_neg stop, if_neg reset, if_neg kill, if_neg conn, lib_printf, wlp_traced_call]
  refine ⟨trivial, fun _ _ _ => ?_⟩
  rw [Prog.pure_eq, wlp_ret]
  simp [failed]

/-- A run of a command over its steps. -/
abbrev Stepped (p : Steps Unit) (steps : List StepEvent) : Prop := Run World.free p () steps (.ret ()) ()

theorem stepped_ends {p : Steps Unit} {Q : List StepEvent → Prop} {steps : List StepEvent} (holds : Ends p Q)
    (run : Stepped p steps) : Q steps := by
  have ends := run_ret_traced holds run
  exact ends

/-- A command keeps the law for a target exactly if nothing that it did for it failed. -/
theorem lawful_iff {cmd : Bytes} (named : cmd = ascii "reset_conf" → src_file_name.isSome = true) {steps : List StepEvent}
    (run : Stepped (command_steps u (some cmd) addr src_file_name) steps) :
    Lawful cmd addr src_file_name steps ↔ ¬ Occurs failed steps := by
  by_cases start : cmd = ascii "start"
  · subst start
    have other : ascii "start" ≠ ascii "reset_conf" := by decide
    rw [Lawful, successLine, if_pos rfl, truthful_printed_iff (stepped_ends (start_prints u addr src_file_name) run)]
    exact and_iff_left fun reset => absurd reset other
  by_cases stop : cmd = ascii "stop"
  · subst stop
    have other : ascii "stop" ≠ ascii "reset_conf" := by decide
    rw [Lawful, successLine, if_neg start, if_pos rfl, truthful_printed_iff (stepped_ends (stop_prints u addr src_file_name) run)]
    exact and_iff_left fun reset => absurd reset other
  by_cases reset : cmd = ascii "reset_conf"
  · subst reset
    obtain ⟨name, rfl⟩ := Option.isSome_iff_exists.mp (named rfl)
    obtain ⟨printed, first, rest, rfl, unstopped, copies⟩ := stepped_ends (reset_conf_prints u addr name) run
    rw [Lawful, successLine, if_neg start, if_neg stop, if_pos rfl, Option.map_some, truthful_printed_iff printed]
    refine and_iff_left_of_imp fun succeeded _ => copiedFirst_append unstopped (copies fun fails => succeeded ?_)
    exact (occurs_append _ _ _).mpr (.inl fails)
  have unlined : Lawful cmd addr src_file_name steps ↔ Truthful none steps := by
    rw [Lawful, successLine, if_neg start, if_neg stop, if_neg reset]
    exact and_iff_left fun same => absurd same reset
  rw [unlined]
  by_cases kill : cmd = ascii "kill_conn"
  · subst kill
    obtain ⟨before, e, rfl, fine⟩ := stepped_ends (kill_conn_silent u addr src_file_name) run
    exact truthful_silent_iff fine
  by_cases conn : cmd = ascii "start_conn"
  · subst conn
    obtain ⟨before, e, rfl, fine⟩ := stepped_ends (start_conn_silent u addr src_file_name) run
    exact truthful_silent_iff fine
  · have idle := stepped_ends (other_idle u addr src_file_name start stop reset kill conn) run
    exact iff_of_true (truthful_of_succeeded idle) idle

end

theorem change_votes_prints (nodeid votes : UInt32) :
    Ends (change_votes_steps nodeid votes) (Occurs (prints (changedLine (decimal nodeid.toNat) votes))) := by
  rw [change_votes_steps, work_bind, Ends, wlp_traced_call]
  refine ⟨trivial, fun err _ _ => wlp_warned fun more => ?_⟩
  rw [lib_printf, wlp_traced_call]
  refine ⟨trivial, fun _ _ _ => ?_⟩
  rw [Prog.pure_eq, wlp_ret]
  simp [prints, changedLine]

/-! ### Lists of targets -/

/-- An address, and the steps that were made for it. -/
structure Target where
  addr : Bytes
  steps : List StepEvent

/-- The addresses are served in order, each by a run of the command over its steps, and an
    entry is looked up before each and behind the last. -/
inductive Served (fuel : Nat) (u : Nat → CommandUninit) (cmd : Bytes) (src_file_name : Option Bytes) :
    Nat → List CString → List LibEvent → List Target → Prop
  | last {n : Nat} {word : Option Bytes} : Served fuel u cmd src_file_name n [] [⟨.access (.word word), ()⟩] []
  | next {n : Nat} {word : Option Bytes} {addr : CString} {addrs : List CString} {called more : List LibEvent}
      {steps : List StepEvent} {targets : List Target} :
      Stepped (command_steps (u n) (some cmd) addr.chars src_file_name) steps →
      Expands anything (carryOut fuel (u n)) steps () called () → Served fuel u cmd src_file_name (n + 1) addrs more targets →
      Served fuel u cmd src_file_name n (addr :: addrs) (⟨.access (.word word), ()⟩ :: (called ++ more)) (⟨addr.chars, steps⟩ :: targets)

theorem served_each {fuel : Nat} {u : Nat → CommandUninit} {cmd : Bytes} {src_file_name : Option Bytes} {n : Nat}
    {addrs : List CString} {tr : List LibEvent} {targets : List Target} (served : Served fuel u cmd src_file_name n addrs tr targets) :
    ∀ target ∈ targets, ∃ n, Stepped (command_steps (u n) (some cmd) target.addr src_file_name) target.steps := by
  induction served with
  | last => simp
  | @next n word addr addrs called more steps targets stepped _ _ ih =>
    intro target member
    rcases List.mem_cons.mp member with rfl | later
    · exact ⟨n, stepped⟩
    · exact ih target later

theorem next_entry_ran {argz : Bytes} {entry : Option Nat} {tr : List LibEvent} {next : Option Nat}
    (run : Ran (next_entry argz entry) tr next) :
    next = argz_next argz entry ∧ tr = [⟨.access (.word (argz_string argz entry)), ()⟩] := by
  cases run with
  | step _ rest =>
    cases rest
    exact ⟨rfl, rfl⟩

/-- A walk that comes to its end has served the words behind its entry. -/
theorem walk_served {fuel : Nat} {u : Nat → CommandUninit} {words before after : List CString} {w : CString}
    {cmd src_file_name : Option Nat} {word : Bytes} (command : argz_string (argzOf words) cmd = some word)
    (split : words = before ++ w :: after) {rounds n : Nat} {tr : List LibEvent}
    (run : Ran (loop (ssh_round fuel u (argzOf words) cmd src_file_name) rounds (n, some (position before))) tr ()) :
    ∃ targets, Served fuel u word (argz_string (argzOf words) src_file_name) n after tr targets := by
  induction after generalizing before w rounds n tr with
  | nil =>
    cases rounds with
    | zero => cases run
    | succ rounds =>
      have next := argz_next_position before w []
      rw [← split, if_pos rfl] at next
      obtain ⟨out, _, first, rest, rfl, round, later⟩ := run_bind_ret run
      obtain ⟨_, _, looked, called, rfl, entry, goesOn⟩ := run_bind_ret round
      obtain ⟨rfl, rfl⟩ := next_entry_ran entry
      simp only [next] at goesOn
      cases goesOn
      cases later
      exact ⟨[], .last⟩
  | cons addr after ih =>
    cases rounds with
    | zero => cases run
    | succ rounds =>
      have next := argz_next_position before w (addr :: after)
      have behind := drop_position (before ++ [w]) (addr :: after)
      rw [← split, if_neg (by simp)] at next
      rw [List.append_assoc, List.singleton_append, ← split] at behind
      obtain ⟨out, _, first, rest, rfl, round, later⟩ := run_bind_ret run
      obtain ⟨_, _, looked, called, rfl, entry, goesOn⟩ := run_bind_ret round
      obtain ⟨rfl, rfl⟩ := next_entry_ran entry
      simp only [next, behind, cstr_argzOf, command, ← client_ssh_command_expand] at goesOn
      obtain ⟨_, _, called, done, rfl, commanded, ends⟩ := run_bind_ret goesOn
      cases ends
      obtain ⟨steps, stepped, expands⟩ := run_expand commanded
      have split' : words = (before ++ [w]) ++ addr :: after := by rw [split, List.append_assoc, List.singleton_append]
      obtain ⟨targets, served⟩ := ih split' later
      refine ⟨⟨addr.chars, steps⟩ :: targets, ?_⟩
      simpa using Served.next stepped expands served

/-- The words of a command: `reset_conf` takes a file name before the addresses. -/
def commandLine (cmd file : CString) (addrs : List CString) : List CString :=
  if cmd.chars = ascii "reset_conf" then cmd :: file :: addrs else cmd :: addrs

def fileFor (cmd file : CString) : Option Bytes := if cmd.chars = ascii "reset_conf" then some file.chars else none

/-- Words are read, and then the addresses are served. -/
def Handled (fuel : Nat) (u : Nat → CommandUninit) (cmd file : CString) (addrs : List CString) (tr : List LibEvent)
    (targets : List Target) : Prop :=
  ∃ reads walk, tr = reads ++ walk ∧ (∀ e ∈ reads, ∃ word, e = ⟨.access (.word word), ()⟩) ∧
    Served fuel u cmd.chars (fileFor cmd file) 0 addrs walk targets

theorem first_entries_ran {argz : Bytes} {cmd : Option Nat} {word : Bytes} (command : argz_string argz cmd = some word)
    {tr : List LibEvent} {out : Option Nat × Option Nat} (run : Ran (first_entries argz cmd) tr out) :
    (∀ e ∈ tr, ∃ word, e = ⟨.access (.word word), ()⟩) ∧
      out = if word = ascii "reset_conf" then (argz_next argz cmd, argz_next argz cmd) else (none, cmd) := by
  simp only [first_entries, command, read_word, perform_bind, Prog.pure_eq, Prog.call_bind, Prog.ret_bind] at run
  cases run with
  | step _ rest =>
    by_cases reset : word = ascii "reset_conf"
    · rw [if_pos reset] at rest ⊢
      obtain ⟨_, _, looked, done, rfl, entry, ends⟩ := run_bind_ret rest
      obtain ⟨rfl, rfl⟩ := next_entry_ran entry
      cases ends
      simp
    · rw [if_neg reset] at rest ⊢
      cases rest
      simp

/-- A run of `client_ssh_option` serves all addresses of its line. -/
theorem option_handled {fuel : Nat} {u : Nat → CommandUninit} {cmd file : CString} {addrs : List CString} {tr : List LibEvent}
    (run : Ran (client_ssh_option fuel u (argzOf (commandLine cmd file addrs))) tr ()) :
    ∃ targets, Handled fuel u cmd file addrs tr targets := by
  by_cases reset : cmd.chars = ascii "reset_conf"
  · have first := argz_string_position [] cmd (file :: addrs)
    have second := argz_string_position [cmd] file addrs
    have next := argz_next_next [] cmd file addrs
    rw [List.nil_append] at first next
    rw [List.singleton_append] at second
    rw [commandLine, if_pos reset, client_ssh_option, argz_next_first] at run
    obtain ⟨_, _, reads, walk, rfl, entries, later⟩ := run_bind_ret run
    obtain ⟨onlyReads, rfl⟩ := first_entries_ran first entries
    rw [if_pos reset, next] at later
    obtain ⟨targets, served⟩ := walk_served first (List.singleton_append).symm later
    rw [List.nil_append, second] at served
    refine ⟨targets, reads, walk, rfl, onlyReads, ?_⟩
    rwa [fileFor, if_pos reset]
  · have first := argz_string_position [] cmd addrs
    rw [List.nil_append] at first
    rw [commandLine, if_neg reset, client_ssh_option, argz_next_first] at run
    obtain ⟨_, _, reads, walk, rfl, entries, later⟩ := run_bind_ret run
    obtain ⟨onlyReads, rfl⟩ := first_entries_ran first entries
    rw [if_neg reset] at later
    obtain ⟨targets, served⟩ := walk_served first (List.nil_append _).symm later
    rw [argz_string_none] at served
    refine ⟨targets, reads, walk, rfl, onlyReads, ?_⟩
    rwa [fileFor, if_neg reset]

theorem handled_lawful_iff {fuel : Nat} {u : Nat → CommandUninit} {cmd file : CString} {addrs : List CString}
    {tr : List LibEvent} {targets : List Target} (handled : Handled fuel u cmd file addrs tr targets) :
    ∀ target ∈ targets, Lawful cmd.chars target.addr (fileFor cmd file) target.steps ↔ ¬ Occurs failed target.steps := by
  obtain ⟨reads, walk, -, -, served⟩ := handled
  intro target member
  obtain ⟨n, stepped⟩ := served_each served target member
  refine lawful_iff (u n) target.addr (fileFor cmd file) (fun reset => ?_) stepped
  rw [fileFor, if_pos reset]
  rfl

/-! ### Votes -/

/-- A run of `client_change_votes` by its steps. -/
def Changed (fuel : Nat) (u : CommandUninit) (nodeid votes : UInt32) (tr : List LibEvent) (steps : List StepEvent) : Prop :=
  Stepped (change_votes_steps nodeid votes) steps ∧ Expands anything (carryOut fuel u) steps () tr ()

theorem change_votes_changed {nodeid votes : UInt32} {tr : List LibEvent} (run : Ran (client_change_votes nodeid votes) tr ())
    (fuel : Nat) (u : CommandUninit) : ∃ steps, Changed fuel u nodeid votes tr steps := by
  rw [← client_change_votes_expand fuel u] at run
  exact run_expand run

theorem changed_truthful_iff {fuel : Nat} {u : CommandUninit} {nodeid votes : UInt32} {tr : List LibEvent} {steps : List StepEvent}
    (changed : Changed fuel u nodeid votes tr steps) :
    Truthful (some (changedLine (decimal nodeid.toNat) votes)) steps ↔ ¬ Occurs failed steps :=
  truthful_printed_iff (stepped_ends (change_votes_prints nodeid votes) changed.1)

/-- Whatever the work on the targets comes to: for a target the lines tell the truth, and
    corosync is stopped behind a copy that succeeded, exactly if none of the functions that
    were called for the target failed; and so for the votes of a node. -/
theorem targets_lawful_iff (fuel : Nat) (u : Nat → CommandUninit) (tr : List LibEvent) :
    (∀ cmd file addrs, Ran (client_ssh_option fuel u (argzOf (commandLine cmd file addrs))) tr () →
      (∃ targets, Handled fuel u cmd file addrs tr targets) ∧
      ∀ targets, Handled fuel u cmd file addrs tr targets → ∀ target ∈ targets,
        (Lawful cmd.chars target.addr (fileFor cmd file) target.steps ↔ ¬ Occurs failed target.steps)) ∧
    (∀ nodeid votes, Ran (client_change_votes nodeid votes) tr () →
      (∃ steps, Changed fuel (u 0) nodeid votes tr steps) ∧
      ∀ steps, Changed fuel (u 0) nodeid votes tr steps →
        (Truthful (some (changedLine (decimal nodeid.toNat) votes)) steps ↔ ¬ Occurs failed steps)) := by
  refine ⟨fun cmd file addrs run => ⟨option_handled run, fun targets => handled_lawful_iff⟩, fun nodeid votes run => ⟨?_, fun steps => ?_⟩⟩
  · exact change_votes_changed run fuel (u 0)
  · exact changed_truthful_iff

/-! ### A node that is stopped without its configuration -/

/-- The configuration file does not exist; everything else succeeds. -/
def noTemplate : Handler Call Reply Unit
  | s, .fopen _ => (none, s)
  | s, c => (Reply.success c, s)

theorem node_nul_free : 0 ∉ ascii "n" := by decide

/-- `-c reset_conf f n` -/
def resetWord : CString := ⟨ascii "reset_conf", by decide⟩
def templateWord : CString := ⟨ascii "f", by decide⟩
def nodeWord : CString := ⟨ascii "n", node_nul_free⟩

def missingRun : List LibEvent :=
  transcript noTemplate (client_ssh_option 2 clearedCommands (argzOf (commandLine resetWord templateWord [nodeWord]))) ()

/-- What a program comes to against these replies is a run of it. -/
theorem noTemplate_ran {α : Type} {p : Client α} {a : α} (ends : exec noTemplate p () = some (a, ())) :
    Ran p (transcript noTemplate p ()) a :=
  exec_run (fun _ => True) (fun _ _ _ => ⟨trivial, trivial⟩) trivial ends

theorem missing_runs :
    Ran (client_ssh_option 2 clearedCommands (argzOf (commandLine resetWord templateWord [nodeWord]))) missingRun () := by
  have ends : exec noTemplate (client_ssh_option 2 clearedCommands (argzOf (commandLine resetWord templateWord [nodeWord]))) () =
      some ((), ()) := rfl
  exact noTemplate_ran ends

def failedText : Bytes :=
  ascii "Failed to reset corosync.conf to default at node " ++ ascii "n" ++ ascii " - error: " ++
    get_error ClientError.CL_SFTP_ERR.code ++ ascii "\n"

def resetText : Bytes := ascii "corosync.conf reset to " ++ ascii "f" ++ ascii " at node " ++ ascii "n" ++ ascii "\n"

def missingSteps : List StepEvent :=
  [⟨.lib (.access (.word (some (ascii "reset_conf")))), ()⟩, ⟨.lib (.access (.fill 128 19)), ()⟩,
    ⟨.lib (.access (.word (some (ascii "f")))), ()⟩, ⟨.lib (.access (.fill 128 20)), ()⟩,
    ⟨.work (.copy_conf (ascii "n") (ascii "../conf_templates/f") (ascii "/etc/corosync/corosync.conf")), ClientError.CL_SFTP_ERR.code⟩,
    ⟨.lib (.printf failedText), failedText.length⟩, ⟨.work (.stop_corosync (ascii "n")), CS_OK⟩,
    ⟨.lib (.printf resetText), resetText.length⟩]

theorem stepped_step {o : Step} {next : StepReply o → Steps Unit} {r : StepReply o} {steps : List StepEvent}
    (rest : Stepped (next r) steps) : Stepped (.call o next) (⟨o, r⟩ :: steps) := .step trivial rest

theorem missing_stepped : Stepped (command_steps (clearedCommands 0) (some (ascii "reset_conf")) (ascii "n") (some (ascii "f"))) missingSteps :=
  stepped_step <| stepped_step <| stepped_step <| stepped_step <| stepped_step <| stepped_step <| stepped_step <|
    stepped_step .done

theorem expands_lib {c : Call} {r : Reply c} {fuel : Nat} {u : CommandUninit} {steps : List StepEvent} {more : List LibEvent}
    (rest : Expands anything (carryOut fuel u) steps () more ()) :
    Expands anything (carryOut fuel u) (⟨.lib c, r⟩ :: steps) () ([⟨c, r⟩] ++ more) () :=
  .cons (ran_step .done) rest

/-- The calls that are made for the node. -/
def missingCalls : List LibEvent :=
  transcript noTemplate (client_ssh_command 2 (clearedCommands 0) (some (ascii "reset_conf")) (ascii "n") (some (ascii "f"))) ()

theorem missing_expands : Expands anything (carryOut 2 (clearedCommands 0)) missingSteps () missingCalls () := by
  have copy : exec noTemplate (copy_conf 2 0 [] (ascii "n") (ascii "../conf_templates/f") (ascii "/etc/corosync/corosync.conf")) () =
      some (ClientError.CL_SFTP_ERR.code, ()) := rfl
  have stop : exec noTemplate (stop_corosync 2 (ascii "n")) () = some (CS_OK, ()) := rfl
  have served : Expands anything (carryOut 2 (clearedCommands 0)) missingSteps () _ () :=
    expands_lib <| expands_lib <| expands_lib <| expands_lib <| .cons (noTemplate_ran copy) <| expands_lib <|
      .cons (noTemplate_ran stop) <| expands_lib .nil
  exact served

def missingTargets : List Target := [⟨ascii "n", missingSteps⟩]

theorem missing_handled : Handled 2 clearedCommands resetWord templateWord [nodeWord] missingRun missingTargets := by
  let read (word : Bytes) : LibEvent := ⟨.access (.word (some word)), ()⟩
  refine ⟨[read (ascii "reset_conf"), read (ascii "reset_conf")],
    read (ascii "f") :: (missingCalls ++ [read (ascii "n")]), rfl, by simp [read], ?_⟩
  exact .next missing_stepped missing_expands .last

/-- The configuration does not arrive, and the node is stopped and reported as reset. -/
theorem missing_template_stops : ¬ ∀ (tr : List LibEvent) (targets : List Target),
    Ran (client_ssh_option 2 clearedCommands (argzOf (commandLine resetWord templateWord [nodeWord]))) tr () →
      Handled 2 clearedCommands resetWord templateWord [nodeWord] tr targets →
      ∀ target ∈ targets, Lawful resetWord.chars target.addr (fileFor resetWord templateWord) target.steps := by
  intro lawful
  have fine := (handled_lawful_iff missing_handled ⟨ascii "n", missingSteps⟩ (by simp [missingTargets])).mp
    (lawful missingRun missingTargets missing_runs missing_handled _ (by simp [missingTargets]))
  exact fine (by decide)

def votesRun : List LibEvent := transcript noTemplate (client_change_votes 1 1) ()

theorem votes_runs : Ran (client_change_votes 1 1) votesRun () := by
  have ends : exec noTemplate (client_change_votes 1 1) () = some ((), ()) := rfl
  exact noTemplate_ran ends

theorem targets_lawful_iff_missing :
    ((∃ targets, Handled 2 clearedCommands resetWord templateWord [nodeWord] missingRun targets) ∧
      ∀ targets, Handled 2 clearedCommands resetWord templateWord [nodeWord] missingRun targets → ∀ target ∈ targets,
        (Lawful resetWord.chars target.addr (fileFor resetWord templateWord) target.steps ↔ ¬ Occurs failed target.steps)) ∧
    (∃ steps, Changed 2 (clearedCommands 0) 1 1 votesRun steps) ∧
      ∀ steps, Changed 2 (clearedCommands 0) 1 1 votesRun steps →
        (Truthful (some (changedLine (ascii "1") 1)) steps ↔ ¬ Occurs failed steps) :=
  ⟨(targets_lawful_iff 2 clearedCommands missingRun).1 resetWord templateWord [nodeWord] missing_runs,
    (targets_lawful_iff 2 clearedCommands votesRun).2 1 1 votes_runs⟩

end CorosyncClient.Reports
