import CorosyncClient.Services
import CorosyncClient.SshOption
import Mathlib.Tactic.Simps.Basic

/-!
How the handlers use the words of an accepted command line: when every result of
`argz_next` that they read or hand back is an entry, and `src_file` is large enough.
-/
namespace CorosyncClient.Operands
open CLib Interaction Services SshOption
set_option linter.unusedSimpArgs false

/-- A word that is read exists, and `src_file` is not overrun. -/
def Allowed : Call → Prop
  | .access (.word text) => text.isSome = true
  | .access (.fill capacity size) => capacity = 128 → size ≤ 128
  | _ => True

/-- Nothing but the use of the words is restricted. -/
@[simps] def wellUsed : LibWorld Unit where
  permits _ c := Allowed c
  answers _ _ _ _ := True

/-- The program uses the words well. -/
def Uses {α : Type} (p : Client α) : Prop := wlp wellUsed p (fun _ _ => True) ()

@[simp] theorem uses_call {α : Type} (c : Call) (next : Reply c → Client α) :
    Uses (.call c next) ↔ Allowed c ∧ ∀ r, Uses (next r) :=
  and_congr_right fun _ => forall_congr' fun _ => ⟨fun uses => uses () trivial, fun uses _ _ => uses⟩

@[simp] theorem uses_ret {α : Type} (a : α) : Uses (.ret a) := trivial

theorem uses_bind {α β : Type} {p : Client α} {f : α → Client β} (first : Uses p) (rest : ∀ a, Uses (f a)) : Uses (p >>= f) :=
  wlp_seq first fun a _ _ => rest a

theorem uses_first {α β : Type} {p : Client α} {f : α → Client β} (uses : Uses (p >>= f)) : Uses p :=
  wlp_mono ((wlp_bind _ p f _ _).mp uses) fun _ _ _ => trivial

theorem uses_within {α : Type} {l : List Service} {p : Client α} (within : Within l p) (other : .words ∉ l ∧ .buffer 128 ∉ l) :
    Uses p := by
  refine wlp_of_makes within (fun _ c member => ?_) ()
  cases c with
  | access a =>
    cases a with
    | entry i len => trivial
    | fill capacity size =>
      rintro rfl
      exact absurd member other.2
    | word text => exact absurd member other.1
  | _ => trivial

/-! ### Words -/

@[simp] theorem uses_read_word {α : Type} {text : Option Bytes} {next : Bytes → Client α} :
    Uses (read_word text >>= next) ↔ ∃ word, text = some word ∧ Uses (next word) := by
  cases text with
  | none => simp [read_word, Allowed]
  | some word => simp [read_word, Allowed]

@[simp] theorem uses_next_entry {α : Type} {argz : Bytes} {entry : Option Nat} {next : Option Nat → Client α} :
    Uses (next_entry argz entry >>= next) ↔ entry.isSome = true ∧ Uses (next (argz_next argz entry)) := by
  cases entry with
  | none => simp [next_entry, Allowed]
  | some entry => simp [next_entry, Allowed, argz_string]

/-- The word at an entry. -/
theorem word_of (text : Bytes) : wlp wellUsed (read_word (some text)) (fun word _ => word = text) () := ⟨rfl, fun _ _ _ => rfl⟩

/-- The entry behind another one. -/
theorem entry_of (argz : Bytes) (entry : Nat) :
    wlp wellUsed (next_entry argz (some entry)) (fun next _ => next = argz_next argz (some entry)) () :=
  ⟨rfl, fun _ _ _ => rfl⟩

/-! ### Commands -/

/-- What goes on behind a report of an error goes on without it. -/
theorem uses_report {α : Type} {P : Prop} [Decidable P] (text : Bytes) {rest : Client α} (uses : Uses rest) :
    Uses (if P then .call (.printf text) fun _ => rest else rest) := by
  split
  · exact (uses_call _ _).mpr ⟨trivial, fun _ => uses⟩
  · exact uses

theorem uses_printf {α : Type} (text : Bytes) {rest : Client α} (uses : Uses rest) :
    Uses (.call (.printf text) fun _ => rest) := (uses_call _ _).mpr ⟨trivial, fun _ => uses⟩

/-- `reset_conf` uses the file name only. -/
theorem uses_reset_conf (fuel : Nat) (u : CommandUninit) (addr : Bytes) (file : Option Bytes) :
    Uses (reset_conf fuel u addr file) ↔ ∃ name, file = some name ∧ name.length ≤ 109 := by
  have length : (ascii "../conf_templates/").length = 18 := by decide
  simp only [reset_conf, perform_bind, Prog.pure_eq, uses_call, uses_read_word, Allowed, length]
  constructor
  · rintro ⟨-, uses⟩
    obtain ⟨name, rfl, size, -⟩ := uses ()
    have size : 18 + name.length + 1 ≤ 128 := size trivial
    exact ⟨name, rfl, by omega⟩
  · rintro ⟨name, rfl, short⟩
    refine ⟨fun _ => by omega, fun _ => ⟨name, rfl, fun _ => by omega, fun _ => ?_⟩⟩
    refine uses_bind (uses_within (copy_conf_within _ _ _ _ _ _) (by simp)) fun _ => uses_report _ ?_
    refine uses_bind (uses_within (remote_command_within _ _ _) (by simp)) fun _ => uses_report _ ?_
    exact uses_printf _ trivial

theorem uses_client_ssh_command (fuel : Nat) (u : CommandUninit) (cmd addr : Bytes) (file : Option Bytes) :
    Uses (client_ssh_command fuel u (some cmd) addr file) ↔
      (cmd = ascii "reset_conf" → ∃ name, file = some name ∧ name.length ≤ 109) := by
  have remote : ∀ cmd, Uses (remote_command cmd fuel addr) := fun cmd => uses_within (remote_command_within _ _ _) (by simp)
  have time : Uses print_time := uses_within print_time_within (by simp)
  simp only [client_ssh_command, perform_bind, Prog.pure_eq, uses_read_word, Option.some.injEq, exists_eq_left']
  by_cases reset : cmd = ascii "reset_conf"
  · subst reset
    rw [if_neg (by decide), if_neg (by decide), if_pos rfl, uses_reset_conf]
    simp
  · refine iff_of_true ?_ fun same => absurd same reset
    rw [if_neg reset]
    split
    · exact uses_bind (remote _) fun _ => uses_printf _ (uses_report _ trivial)
    split
    · exact uses_bind (remote _) fun _ => uses_printf _ (uses_report _ trivial)
    split
    · exact uses_printf _ (uses_bind time fun _ => uses_bind (remote _) fun _ => trivial)
    split
    · exact uses_printf _ (uses_bind time fun _ => uses_bind (remote _) fun _ => trivial)
    · exact uses_printf _ trivial

/-! ### Walks -/

/-- From an entry of the vector on, a walk over the addresses uses the words well if each
    command does. -/
theorem uses_ssh_walk (fuel : Nat) (u : Nat → CommandUninit) {words : List CString} (cmd src_file_name : Option Nat)
    (rounds : Nat) {before : List CString} {w : CString} {after : List CString} (split : words = before ++ w :: after)
    (command : after ≠ [] → ∀ n addr, Uses (client_ssh_command fuel (u n) (argz_string (argzOf words) cmd) addr
      (argz_string (argzOf words) src_file_name))) (n : Nat) :
    Uses (loop (ssh_round fuel u (argzOf words) cmd src_file_name) rounds (n, some (position before))) := by
  refine wlp_loop (fun s _ => ∃ before w after, words = before ++ w :: after ∧ s.2 = some (position before) ∧
    (after ≠ [] → ∀ n addr, Uses (client_ssh_command fuel (u n) (argz_string (argzOf words) cmd) addr
      (argz_string (argzOf words) src_file_name)))) ?_ rounds _ ⟨before, w, after, split, rfl, command⟩
  rintro ⟨n, _⟩ ⟨⟩ ⟨before, w, after, split, rfl, command⟩
  have next := argz_next_position before w after
  rw [← split] at next
  refine wlp_seq (entry_of _ (position before)) ?_
  rintro _ ⟨⟩ rfl
  rw [next]
  cases after with
  | nil => trivial
  | cons a after =>
    have commands := command (by simp)
    rw [if_neg (by simp)]
    exact wlp_seq (commands _ _) fun _ _ _ => ⟨before ++ [w], a, after, by simp [split], rfl, fun _ => commands⟩

/-- The first round of a walk. -/
theorem uses_first_round {fuel : Nat} {u : Nat → CommandUninit} {argz : Bytes} {cmd src_file_name prev : Option Nat}
    (uses : Uses (loop (ssh_round fuel u argz cmd src_file_name) 1 (0, prev))) : prev.isSome = true ∧
      ∀ addr, argz_next argz prev = some addr → Uses (client_ssh_command fuel (u 0) (argz_string argz cmd)
        (cstr (argz.drop addr)) (argz_string argz src_file_name)) := by
  obtain ⟨entry, round⟩ := uses_next_entry.mp (uses_first uses)
  refine ⟨entry, fun addr next => ?_⟩
  rw [next] at round
  exact uses_first round

/-- What `-c` makes of the words. -/
theorem uses_client_ssh_option (cmd : CString) (operands : List CString) :
    (∀ fuel u, Uses (client_ssh_option fuel u (argzOf (cmd :: operands)))) ↔
      (cmd.chars = ascii "reset_conf" →
        ∃ file addrs, operands = file :: addrs ∧ (addrs = [] ∨ file.chars.length ≤ 109)) := by
  have first := argz_string_position [] cmd operands
  rw [List.nil_append] at first
  simp only [client_ssh_option, argz_next_first, first_entries, first, Prog.bind_assoc, Prog.pure_eq, uses_read_word,
    Option.some.injEq, exists_eq_left']
  by_cases reset : cmd.chars = ascii "reset_conf"
  · simp only [if_true, Prog.bind_assoc, uses_next_entry, Prog.ret_bind, reset, true_imp_iff, Option.isSome_some, true_and]
    cases operands with
    | nil =>
      rw [show argz_next (argzOf [cmd]) (some (position [])) = none from argz_next_last [] cmd]
      refine iff_of_false (fun uses => ?_) (by simp)
      exact absurd (uses_first_round (uses 1 clearedCommands)).1 (by simp)
    | cons file addrs =>
      have second := argz_string_position [cmd] file addrs
      have third := argz_next_position [cmd] file addrs
      rw [List.singleton_append] at second third
      rw [show argz_next (argzOf (cmd :: file :: addrs)) (some (position [])) = some (position [cmd]) from
        argz_next_next [] cmd file addrs]
      constructor
      · intro uses
        refine ⟨file, addrs, rfl, or_iff_not_imp_left.mpr fun some => ?_⟩
        rw [if_neg some] at third
        have command := (uses_first_round (uses 1 clearedCommands)).2 _ third
        rw [first, second, uses_client_ssh_command] at command
        obtain ⟨name, same, short⟩ := command reset
        exact Option.some.inj same ▸ short
      · rintro ⟨_, _, ⟨⟩, short⟩ fuel u
        refine uses_ssh_walk fuel u _ _ fuel (List.singleton_append).symm (fun some n addr => ?_) 0
        rw [first, second, uses_client_ssh_command]
        exact fun _ => ⟨file.chars, rfl, short.resolve_left some⟩
  · simp only [if_neg reset, Prog.ret_bind, reset, false_imp_iff, iff_true]
    intro fuel u
    refine uses_ssh_walk fuel u _ _ fuel (List.nil_append _).symm (fun _ n addr => ?_) 0
    rw [first, uses_client_ssh_command]
    exact fun same => absurd same reset

/-! ### Votes -/

theorem client_change_votes_within (nodeid votes : UInt32) : Within [.votequorum, .output] (client_change_votes nodeid votes) := by
  simp only [client_change_votes, perform_bind, Prog.pure_eq]
  refine makes_bind (within_mono (set_votes_within _ _) (by simp)) fun _ => makes_ite ?_ (within_last (by simp) _)
  exact ⟨by simp, fun _ => within_last (by simp) _⟩

/-- With a node but no votes `atoi` reads NULL. -/
theorem quorum_votes_missing {q_option : CString} (task : q_option.chars = ascii "set_votes") (nodeid : CString) :
    ¬ Uses (quorum_round (argzOf [q_option, nodeid]) (some (position [])) (some (position []))) := by
  have first := argz_string_position [] q_option [nodeid]
  have next := argz_next_next [] q_option nodeid []
  have second := argz_string_position [q_option] nodeid []
  have last := argz_next_last [q_option] nodeid
  rw [List.nil_append] at first next
  rw [List.singleton_append] at second last
  intro uses
  rw [quorum_round, uses_next_entry, next] at uses
  simp only [first, task, uses_read_word, Option.some.injEq, exists_eq_left', if_true, List.nil_append, second,
    uses_next_entry, last] at uses
  simp at uses

/-- Behind the last word there is nothing to do. -/
theorem quorum_round_last (q_option : CString) :
    wlp wellUsed (quorum_round (argzOf [q_option]) (some (position [])) (some (position []))) (fun again _ => again = .inr ()) () := by
  have last : argz_next (argzOf [q_option]) (some (position [])) = none := argz_next_last [] q_option
  refine wlp_seq (entry_of _ (position [])) ?_
  rintro _ ⟨⟩ rfl
  rw [last]
  rfl

/-- The words behind the votes are not read. -/
theorem quorum_votes_given {q_option : CString} (task : q_option.chars = ascii "set_votes") (nodeid votes : CString)
    (operands : List CString) :
    wlp wellUsed (quorum_round (argzOf (q_option :: nodeid :: votes :: operands)) (some (position [])) (some (position [])))
      (fun again _ => again = .inr ()) () := by
  have first := argz_string_position [] q_option (nodeid :: votes :: operands)
  have second := argz_string_position [q_option] nodeid (votes :: operands)
  have third := argz_string_position [q_option, nodeid] votes operands
  have next := argz_next_next [] q_option nodeid (votes :: operands)
  have next' := argz_next_next [q_option] nodeid votes operands
  rw [List.nil_append] at first next
  refine wlp_seq (entry_of _ (position [])) ?_
  rintro _ ⟨⟩ rfl
  rw [next]
  refine wlp_seq (first ▸ word_of q_option.chars) ?_
  rintro _ ⟨⟩ rfl
  rw [if_pos task]
  refine wlp_seq (second ▸ word_of nodeid.chars) ?_
  rintro _ ⟨⟩ rfl
  refine wlp_seq (entry_of _ (position [q_option])) ?_
  rintro _ ⟨⟩ rfl
  refine wlp_seq ((next'.symm ▸ third) ▸ word_of votes.chars) ?_
  rintro _ ⟨⟩ rfl
  exact wlp_seq (uses_within (client_change_votes_within _ _) (by simp)) fun _ _ _ => rfl

/-- Another option walks over its operands. -/
theorem quorum_round_other {q_option : CString} {operands : List CString} (task : q_option.chars ≠ ascii "set_votes")
    {before : List CString} {w : CString} {after : List CString} (split : q_option :: operands = before ++ w :: after) :
    wlp wellUsed (quorum_round (argzOf (q_option :: operands)) (some (position [])) (some (position before)))
      (fun again _ => again = if after = [] then .inr () else .inl (some (position (before ++ [w])))) () := by
  have first := argz_string_position [] q_option operands
  have next := argz_next_position before w after
  rw [List.nil_append] at first
  rw [← split] at next
  refine wlp_seq (entry_of _ (position before)) ?_
  rintro _ ⟨⟩ rfl
  rw [next]
  by_cases none : after = []
  · rw [if_pos none, if_pos none]
    rfl
  · rw [if_neg none, if_neg none]
    refine wlp_seq (first ▸ word_of q_option.chars) ?_
    rintro _ ⟨⟩ rfl
    rw [if_neg task]
    rfl

/-- What `-q` makes of the words. -/
theorem uses_client_quorum_option (q_option : CString) (operands : List CString) :
    (∀ fuel, Uses (client_quorum_option fuel (argzOf (q_option :: operands)))) ↔
      (q_option.chars = ascii "set_votes" → operands.length ≠ 1) := by
  simp only [client_quorum_option, argz_next_first]
  constructor
  · intro uses task single
    obtain ⟨nodeid, rfl⟩ := List.length_eq_one_iff.mp single
    exact quorum_votes_missing task nodeid (uses_first (uses 1))
  · intro enough fuel
    by_cases task : q_option.chars = ascii "set_votes"
    · cases fuel with
      | zero => trivial
      | succ fuel =>
        rcases operands with _ | ⟨nodeid, _ | ⟨votes, operands⟩⟩
        · refine wlp_seq (quorum_round_last q_option) ?_
          rintro _ ⟨⟩ rfl
          trivial
        · exact absurd rfl (enough task)
        · refine wlp_seq (quorum_votes_given task nodeid votes operands) ?_
          rintro _ ⟨⟩ rfl
          trivial
    · refine wlp_loop (fun prev _ => ∃ before w after, q_option :: operands = before ++ w :: after ∧ prev = some (position before))
        ?_ fuel _ ⟨[], q_option, operands, rfl, rfl⟩
      rintro _ ⟨⟩ ⟨before, w, after, split, rfl⟩
      refine wlp_mono (quorum_round_other task split) ?_
      rintro _ ⟨⟩ rfl
      cases after with
      | nil => trivial
      | cons a after => exact ⟨before ++ [w], a, after, by simp [split], rfl⟩

/-! ### Lines -/

theorem uses_client_monitor_option (m_target : CString) (operands : List CString) (fuel : Nat) (u : Nat → Uninit) (g : Globals) :
    Uses (client_monitor_option fuel u g (argzOf (m_target :: operands))) := by
  have first := argz_string_position [] m_target operands
  rw [List.nil_append] at first
  simp only [client_monitor_option, argz_next_first, first, uses_read_word, Option.some.injEq, exists_eq_left', perform_bind,
    Prog.pure_eq]
  split
  · exact uses_bind (uses_within (monitor_status_within _ _ _) (by decide)) fun _ => uses_report _ trivial
  · trivial

theorem uses_client_print_option (print_target : CString) (operands : List CString) (fuel : Nat) (u : Uninit) :
    Uses (client_print_option fuel u (argzOf (print_target :: operands))) := by
  have first := argz_string_position [] print_target operands
  rw [List.nil_append] at first
  simp only [client_print_option, argz_next_first, first, uses_read_word, Option.some.injEq, exists_eq_left', perform_bind,
    Prog.pure_eq]
  split
  · exact uses_bind (uses_within (print_membership_within _ _) (by decide)) fun _ => uses_report _ trivial
  split
  · exact uses_bind (uses_within print_quorum_within (by simp)) fun _ => uses_report _ trivial
  · trivial

/-- The words of a task that the handler can use: a file name for `reset_conf`, short
    enough where addresses follow it, and not a single operand of `set_votes`. -/
def OperandsFit : ClientTask → List CString → Prop
  | .ssh_cmd, cmd :: operands => cmd.chars = ascii "reset_conf" →
      ∃ file addrs, operands = file :: addrs ∧ (addrs = [] ∨ file.chars.length ≤ 109)
  | .quorum_option, q_option :: operands => q_option.chars = ascii "set_votes" → operands.length ≠ 1
  | _, _ => True

/-- Words without all operands that the command takes. -/
def Lacking : ClientTask → List CString → Prop
  | .ssh_cmd, words => addresses words = []
  | .quorum_option, q_option :: operands => q_option.chars = ascii "set_votes" ∧ operands.length < 2
  | _, _ => False

/-- Memory that is cleared. -/
def cleared : ClientUninit where
  commands := clearedCommands
  prints _ := ⟨0, 0, 0, [], fun _ => ⟨0, [], []⟩, 0, 0⟩
  globals := ⟨0, 0, 0, 0, 0, 0⟩

theorem uses_run_task {line : List (OptKey × CString)} {arguments : Parsed} (accepted : argp_parse line = .ok arguments) :
    (∀ fuel u, Uses (run_task fuel u arguments)) ↔ OperandsFit arguments.task (line.map Prod.snd) := by
  obtain ⟨⟨nonempty, -⟩, rfl⟩ := (argp_parse_ok line arguments).mp accepted
  obtain ⟨⟨key, w⟩, rest, rfl⟩ := List.exists_cons_of_length_pos nonempty
  cases task : lastTask ((key, w) :: rest) .print_option with
  | ssh_cmd =>
    simp only [run_task, List.map_cons, OperandsFit, ← uses_client_ssh_option]
    exact ⟨fun uses fuel u => uses fuel { cleared with commands := u }, fun uses fuel u => uses fuel u.commands⟩
  | quorum_option =>
    simp only [run_task, List.map_cons, OperandsFit, ← uses_client_quorum_option]
    exact ⟨fun uses fuel => uses fuel cleared, fun uses fuel _ => uses fuel⟩
  | monitor_option => exact iff_of_true (fun fuel u => uses_client_monitor_option w _ fuel u.prints u.globals) trivial
  | print_option => exact iff_of_true (fun fuel u => uses_client_print_option w _ fuel (u.prints 0)) trivial

/-- A walk that begins at the last word ends there. -/
theorem ssh_walk_last (fuel : Nat) (u : Nat → CommandUninit) (cmd src_file_name : Option Nat) (before : List CString)
    (w : CString) (rounds n : Nat) :
    Within [.words] (loop (ssh_round fuel u (argzOf (before ++ [w])) cmd src_file_name) rounds (n, some (position before))) := by
  cases rounds with
  | zero => trivial
  | succ rounds =>
    simp only [loop, ssh_round, next_entry, perform_bind, Prog.pure_eq, Prog.call_bind, Prog.ret_bind, argz_next_last]
    exact within_last (by simp) ()

/-- Without an address no command is run, and a file name alone is only read. -/
theorem ssh_option_lacking {cmd : CString} {operands : List CString}
    (fit : cmd.chars = ascii "reset_conf" → ∃ file addrs, operands = file :: addrs ∧ (addrs = [] ∨ file.chars.length ≤ 109))
    (lacking : addresses (cmd :: operands) = []) (fuel : Nat) (u : Nat → CommandUninit) :
    Within [.words] (client_ssh_option fuel u (argzOf (cmd :: operands))) := by
  have first := argz_string_position [] cmd operands
  rw [List.nil_append] at first
  simp only [client_ssh_option, argz_next_first, first_entries, first, read_word, perform_bind, Prog.pure_eq, Prog.call_bind,
    Prog.ret_bind]
  refine ⟨by simp, fun _ => ?_⟩
  by_cases reset : cmd.chars = ascii "reset_conf"
  · obtain ⟨file, addrs, rfl, -⟩ := fit reset
    obtain rfl : addrs = [] := by simpa [addresses, reset] using lacking
    have next : argz_next (argzOf [cmd, file]) (some (position [])) = some (position [cmd]) := argz_next_next [] cmd file []
    simp only [if_pos reset, next_entry, perform_bind, Prog.pure_eq, Prog.call_bind, Prog.ret_bind, next]
    exact ⟨by simp, fun _ => ssh_walk_last fuel u _ _ [cmd] file fuel 0⟩
  · obtain rfl : operands = [] := by simpa [addresses, reset] using lacking
    simp only [if_neg reset, Prog.ret_bind]
    exact ssh_walk_last fuel u _ _ [] cmd fuel 0

theorem quorum_option_lacking (q_option : CString) (fuel : Nat) : Within [.words] (client_quorum_option fuel (argzOf [q_option])) := by
  have last : argz_next (argzOf [q_option]) (some (position [])) = none := argz_next_last [] q_option
  simp only [client_quorum_option, argz_next_first]
  cases fuel with
  | zero => trivial
  | succ fuel =>
    simp only [loop, quorum_round, next_entry, perform_bind, Prog.pure_eq, Prog.call_bind, Prog.ret_bind, last]
    exact within_last (by simp) ()

/-- Words that can be used but lack an operand lead to no call. -/
theorem lacking_rejected {line : List (OptKey × CString)} {arguments : Parsed} (accepted : argp_parse line = .ok arguments)
    (fit : OperandsFit arguments.task (line.map Prod.snd)) (lacking : Lacking arguments.task (line.map Prod.snd))
    (fuel : Nat) (u : ClientUninit) : Within [.words] (run_task fuel u arguments) := by
  obtain ⟨⟨nonempty, -⟩, rfl⟩ := (argp_parse_ok line arguments).mp accepted
  obtain ⟨⟨key, cmd⟩, rest, rfl⟩ := List.exists_cons_of_length_pos nonempty
  rw [List.map_cons] at fit lacking ⊢
  generalize rest.map Prod.snd = operands at fit lacking ⊢
  cases task : lastTask ((key, cmd) :: rest) .print_option with
  | ssh_cmd =>
    rw [task] at fit lacking
    exact ssh_option_lacking fit lacking fuel u.commands
  | quorum_option =>
    rw [task] at fit lacking
    have single := fit lacking.1
    have few := lacking.2
    obtain rfl : operands = [] := List.eq_nil_of_length_eq_zero (by omega)
    exact quorum_option_lacking cmd fuel
  | monitor_option =>
    rw [task] at lacking
    exact lacking.elim
  | print_option =>
    rw [task] at lacking
    exact lacking.elim

/-- The handler of an accepted line uses the words well, and makes no call for a line that
    lacks operands, exactly if the words fit. -/
theorem operands_used_iff {line : List (OptKey × CString)} {arguments : Parsed} (accepted : argp_parse line = .ok arguments) :
    ((∀ fuel u, Safe wellUsed (run_task fuel u arguments) ()) ∧
      (Lacking arguments.task (line.map Prod.snd) → ∀ fuel u, Within [.words] (run_task fuel u arguments))) ↔
      OperandsFit arguments.task (line.map Prod.snd) := by
  have safe : (∀ fuel u, Safe wellUsed (run_task fuel u arguments) ()) ↔ OperandsFit arguments.task (line.map Prod.snd) := by
    rw [← uses_run_task accepted]
    exact forall_congr' fun fuel => forall_congr' fun u => safe_iff _ _
  constructor
  · rintro ⟨uses, -⟩
    exact safe.mp uses
  · intro fit
    exact ⟨safe.mpr fit, fun lacking => lacking_rejected accepted fit lacking⟩

/-- `-q set_votes 1`, without votes. -/
def votesMissing : List (OptKey × CString) := [(.q, ⟨ascii "set_votes", by decide⟩), (.ARG, ⟨ascii "1", by decide⟩)]

def votesMissingParsed : Parsed := ⟨.quorum_option, ascii "set_votes" ++ [0] ++ ascii "1" ++ [0]⟩

theorem votesMissing_accepted : argp_parse votesMissing = .ok votesMissingParsed := by rfl

/-- An accepted line makes `atoi` read NULL. -/
theorem set_votes_reads_null :
    ¬ ∀ arguments, argp_parse votesMissing = .ok arguments → ∀ fuel u, Safe wellUsed (run_task fuel u arguments) () := by
  intro safe
  have fit := (uses_run_task votesMissing_accepted).mp fun fuel u => (safe_iff _ _).mp (safe _ votesMissing_accepted fuel u)
  exact fit rfl rfl

theorem operands_used_iff_votesMissing :
    ((∀ fuel u, Safe wellUsed (run_task fuel u votesMissingParsed) ()) ∧
      (Lacking .quorum_option (votesMissing.map Prod.snd) → ∀ fuel u, Within [.words] (run_task fuel u votesMissingParsed))) ↔
      OperandsFit .quorum_option (votesMissing.map Prod.snd) :=
  operands_used_iff votesMissing_accepted

end CorosyncClient.Operands
