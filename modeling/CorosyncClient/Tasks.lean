import CorosyncClient.Operands

/-!
For which services the task of a command line makes calls.
-/
namespace CorosyncClient.Tasks
open CLib Interaction Services

theorem read_word_within (text : Option Bytes) : Within [.words, .stray] (read_word text) := by
  cases text with
  | some text => exact within_last (by simp) text
  | none => exact ⟨by simp, fun _ => ⟨by simp, fun _ => makes_ret _⟩⟩

theorem fill_within (capacity size : Nat) : Within [.buffer capacity] (access (.fill capacity size)) :=
  ⟨by simp, fun _ => makes_ret _⟩

theorem next_entry_within (argz : Bytes) (entry : Option Nat) : Within [.words] (next_entry argz entry) := within_last (by simp) _

/-- The calls of a print. -/
abbrev printing : List Service := .words :: membership

theorem client_print_option_within (fuel : Nat) (u : Uninit) (argz : Bytes) : Within printing (client_print_option fuel u argz) := by
  have report : ∀ err : Err, Within printing (if err ≠ CS_OK then
      (printf (ascii "print manager recieved an error: " ++ get_error err ++ ascii "\n") >>= fun _ => pure ()) else (pure () : Client Unit)) :=
    fun err => makes_ite (within_last (by simp) _) (makes_ret _)
  refine makes_bind (within_mono (read_word_within _) (by simp)) fun target => makes_ite ?_ (makes_ite ?_ (makes_ret _))
  · exact makes_bind (within_mono (print_membership_within _ _) (by simp)) report
  · exact makes_bind (within_mono print_quorum_within (by simp)) report

/-- The calls of a change of votes. -/
abbrev voting : List Service := [.words, .stray, .votequorum, .output]

theorem client_quorum_option_within (fuel : Nat) (argz : Bytes) : Within voting (client_quorum_option fuel argz) := by
  have word : ∀ text, Within voting (read_word text) := fun text => within_mono (read_word_within text) (by simp)
  have entry : ∀ at', Within voting (next_entry argz at') := fun at' => within_mono (next_entry_within argz at') (by simp)
  refine makes_loop (fun prev => ?_) fuel _
  refine makes_bind (entry _) fun next => ?_
  cases next with
  | none => exact makes_ret _
  | some q_target =>
    refine makes_bind (word _) fun option => makes_ite ?_ (makes_ret _)
    refine makes_bind (word _) fun nodeid => makes_bind (entry _) fun next => makes_bind (word _) fun votes => ?_
    exact makes_bind (within_mono (Operands.client_change_votes_within _ _) (by simp)) fun _ => makes_ret _

theorem client_monitor_option_within (fuel : Nat) (u : Nat → Uninit) (g : Globals) (argz : Bytes) :
    Within (.words :: monitoring) (client_monitor_option fuel u g argz) := by
  refine makes_bind (within_mono (read_word_within _) (by simp)) fun target => makes_ite ?_ (makes_ret _)
  refine makes_bind (within_mono (monitor_status_within _ _ _) (by simp)) fun out => ?_
  exact makes_ite (within_last (by simp) _) (makes_ret _)

/-- The calls of a command for other machines. -/
abbrev commanding : List Service := [.words, .stray, .buffer 128, .ssh, .sftp, .files, .output]

section
variable (fuel : Nat)

theorem print_then_within {text : Bytes} {p : Client Unit} (rest : Within commanding p) :
    Within commanding (.call (.printf text) fun _ => p) := ⟨by simp, fun _ => rest⟩

theorem reset_conf_within (u : CommandUninit) (addr : Bytes) (file : Option Bytes) : Within commanding (reset_conf fuel u addr file) := by
  have fill : ∀ size, Within commanding (access (.fill 128 size)) := fun size => within_mono (fill_within 128 size) (by simp)
  have report : ∀ {text : Bytes} {p : Client Unit} {P : Prop} [Decidable P], Within commanding p →
      Within commanding (if P then .call (.printf text) fun _ => p else p) := fun rest => makes_ite (print_then_within rest) rest
  refine makes_bind (fill _) fun _ => makes_bind (within_mono (read_word_within file) (by simp)) fun name => makes_bind (fill _) fun _ => ?_
  refine makes_bind (within_mono (copy_conf_within _ _ _ _ _ _) (by simp)) fun err => report ?_
  refine makes_bind (within_mono (remote_command_within _ _ _) (by simp)) fun err => report ?_
  exact print_then_within (makes_ret _)

theorem client_ssh_command_within (u : CommandUninit) (cmd : Option Bytes) (addr : Bytes) (file : Option Bytes) :
    Within commanding (client_ssh_command fuel u cmd addr file) := by
  have remote : ∀ cmd, Within commanding (remote_command cmd fuel addr) := fun cmd =>
    within_mono (remote_command_within _ _ _) (by simp)
  have time : Within commanding print_time := within_mono print_time_within (by simp)
  have report : ∀ {text : Bytes} {P : Prop} [Decidable P], Within commanding (if P then .call (.printf text) fun _ => .ret () else .ret ()) :=
    makes_ite (print_then_within (makes_ret _)) (makes_ret _)
  refine makes_bind (within_mono (read_word_within cmd) (by simp)) fun cmd => makes_ite ?_ (makes_ite ?_ (makes_ite ?_ ?_))
  · exact makes_bind (remote _) fun _ => print_then_within report
  · exact makes_bind (remote _) fun _ => print_then_within report
  · exact reset_conf_within fuel u addr file
  · refine makes_ite ?_ (makes_ite ?_ (print_then_within (makes_ret _)))
    · exact print_then_within (makes_bind time fun _ => makes_bind (remote _) fun _ => makes_ret _)
    · exact print_then_within (makes_bind time fun _ => makes_bind (remote _) fun _ => makes_ret _)

theorem client_ssh_option_within (u : Nat → CommandUninit) (argz : Bytes) : Within commanding (client_ssh_option fuel u argz) := by
  have entry : ∀ at', Within commanding (next_entry argz at') := fun at' => within_mono (next_entry_within argz at') (by simp)
  refine makes_bind ?_ fun entries => makes_loop (fun s => ?_) fuel _
  · refine makes_bind (within_mono (read_word_within _) (by simp)) fun cmd => makes_ite ?_ (makes_ret _)
    exact makes_bind (entry _) fun file => makes_ret _
  · refine makes_bind (entry _) fun next => ?_
    cases next with
    | none => exact makes_ret _
    | some addr => exact makes_bind (client_ssh_command_within fuel _ _ _ _) fun _ => makes_ret _

end

/-- The services that a task uses. -/
def uses : ClientTask → List Service
  | .print_option => printing
  | .quorum_option => voting
  | .monitor_option => .words :: monitoring
  | .ssh_cmd => commanding

theorem run_task_within (fuel : Nat) (u : ClientUninit) (arguments : Parsed) :
    Within (uses arguments.task) (run_task fuel u arguments) := by
  unfold run_task
  cases arguments.task with
  | print_option => exact client_print_option_within _ _ _
  | quorum_option => exact client_quorum_option_within _ _
  | monitor_option => exact client_monitor_option_within _ _ _ _
  | ssh_cmd => exact client_ssh_option_within _ _ _

end CorosyncClient.Tasks
