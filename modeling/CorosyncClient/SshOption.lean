import CorosyncClient.Client

/-!
The walk of `client_ssh_option` over the words of the command line: it comes to each
address once, in order, with the command and the file name that belong to it.
-/
namespace CorosyncClient.SshOption
open CLib Interaction

/-! ### The operands of a line -/

/-- The file name of the words: the second word of `reset_conf`. -/
def fileName : List CString → Option Bytes
  | cmd :: file :: _ => if cmd.chars = ascii "reset_conf" then some file.chars else none
  | _ => none

/-- The words behind the command, and behind the file name where there is one. -/
def addresses : List CString → List CString
  | [] => []
  | cmd :: rest => if cmd.chars = ascii "reset_conf" then rest.drop 1 else rest

/-- `client_ssh_command` for each address, in order. -/
def visit (command : Nat → Bytes → Client Unit) : Nat → List CString → Client Unit
  | _, [] => return ()
  | n, addr :: rest => do
    command n addr.chars
    visit command (n + 1) rest

/-- Only reads of words that exist are marks. -/
def wordRead : (c : Call) → Option (Reply c)
  | .access (.word (some _)) => some ()
  | _ => none

/-- The program without the reads of words. -/
abbrev Unmarked {α : Type} (p : Client α) : Client α := p.without wordRead

theorem unmarked_bind {α β : Type} (p : Client α) (f : α → Client β) :
    Unmarked (p >>= f) = Unmarked p >>= fun a => Unmarked (f a) := without_bind p f

@[simp] theorem unmarked_next_entry {α : Type} (before : List CString) (w : CString) (after : List CString)
    (next : Option Nat → Client α) :
    Unmarked (next_entry (argzOf (before ++ w :: after)) (some (position before)) >>= next) =
      Unmarked (next (if after = [] then none else some (position (before ++ [w])))) := by
  rw [← argz_next_position before w after, next_entry, argz_string_position]
  rfl

@[simp] theorem unmarked_read_word {α : Type} (text : Bytes) (next : Bytes → Client α) :
    Unmarked (read_word (some text) >>= next) = Unmarked (next text) := rfl

/-! ### The walk -/

/-- From the entry of `w` on, the words behind it are the addresses. -/
theorem ssh_walk (fuel : Nat) (u : Nat → CommandUninit) (cmd src_file_name : Option Nat) (before : List CString)
    (w : CString) (after : List CString) {rounds : Nat} (enough : after.length < rounds) (n : Nat) :
    Unmarked (loop (ssh_round fuel u (argzOf (before ++ w :: after)) cmd src_file_name) rounds (n, some (position before))) =
      Unmarked (visit (fun n addr => client_ssh_command fuel (u n) (argz_string (argzOf (before ++ w :: after)) cmd) addr
        (argz_string (argzOf (before ++ w :: after)) src_file_name)) n after) := by
  induction after generalizing before w rounds n with
  | nil =>
    cases rounds with
    | zero => omega
    | succ rounds =>
      rw [loop, unmarked_bind, ssh_round, unmarked_next_entry, if_pos rfl]
      rfl
  | cons a after ih =>
    cases rounds with
    | zero => omega
    | succ rounds =>
      have next : (argzOf (before ++ w :: a :: after)).drop (position (before ++ [w])) = argzOf (a :: after) := by
        simpa using drop_position (before ++ [w]) (a :: after)
      have rest := ih (before ++ [w]) a (show after.length < rounds by simpa using enough) (n + 1)
      rw [List.append_assoc, List.singleton_append] at rest
      rw [loop, unmarked_bind, ssh_round, unmarked_next_entry, if_neg (by simp)]
      simp only [next, cstr_argzOf]
      rw [visit, unmarked_bind, unmarked_bind, ← rest, Prog.bind_assoc]
      rfl

/-- The walk of `reset_conf` begins at the file name. -/
theorem ssh_option_reset {cmd : CString} (reset : cmd.chars = ascii "reset_conf") (file : CString) {addrs : List CString}
    {fuel : Nat} (enough : addrs.length < fuel) (u : Nat → CommandUninit) :
    Unmarked (client_ssh_option fuel u (argzOf (cmd :: file :: addrs))) =
      Unmarked (visit (fun n addr => client_ssh_command fuel (u n) (some cmd.chars) addr (some file.chars)) 0 addrs) := by
  have first := argz_string_position [] cmd (file :: addrs)
  have second := argz_string_position [cmd] file addrs
  have walk := ssh_walk fuel u (some (position [])) (some (position [cmd])) [cmd] file addrs enough 0
  rw [List.nil_append] at first
  rw [List.singleton_append] at second walk
  simp only [client_ssh_option, argz_next_first, first_entries, first]
  rw [Prog.bind_assoc, unmarked_read_word, if_pos reset, Prog.bind_assoc, ← List.nil_append (cmd :: file :: addrs),
    unmarked_next_entry, if_neg (by simp), List.nil_append, List.nil_append, Prog.pure_eq, Prog.ret_bind]
  simpa only [first, second] using walk

/-- Another command's walk begins at the command. -/
theorem ssh_option_other {cmd : CString} (other : cmd.chars ≠ ascii "reset_conf") {addrs : List CString} {fuel : Nat}
    (enough : addrs.length < fuel) (u : Nat → CommandUninit) :
    Unmarked (client_ssh_option fuel u (argzOf (cmd :: addrs))) =
      Unmarked (visit (fun n addr => client_ssh_command fuel (u n) (some cmd.chars) addr none) 0 addrs) := by
  have first := argz_string_position [] cmd addrs
  have walk := ssh_walk fuel u (some (position [])) none [] cmd addrs enough 0
  rw [List.nil_append] at first walk
  simp only [client_ssh_option, argz_next_first, first_entries, first]
  rw [Prog.bind_assoc, unmarked_read_word, if_neg other, Prog.pure_eq, Prog.ret_bind]
  simpa only [first, argz_string_none] using walk

/-! ### What the walk keeps -/

section
variable {σ : Type} {W : LibWorld σ} (P : List Bytes → σ → Prop)
  (reads : ∀ done s text, P done s → W.permits s (.access (.word (some text))) ∧
    ∀ r s', W.answers s (.access (.word (some text))) r s' → P done s')
  {fuel : Nat} {u : Nat → CommandUninit} {s : σ}
include reads

theorem read_word_rule {done : List Bytes} (holds : P done s) (text : Bytes) :
    wlp W (read_word (some text)) (fun word t => word = text ∧ P done t) s := by
  obtain ⟨permitted, kept⟩ := reads done s text holds
  exact ⟨permitted, fun r t answered => ⟨rfl, kept r t answered⟩⟩

theorem next_entry_rule {done : List Bytes} (holds : P done s) (before : List CString) (w : CString) (after : List CString) :
    wlp W (next_entry (argzOf (before ++ w :: after)) (some (position before)))
      (fun next t => next = (if after = [] then none else some (position (before ++ [w]))) ∧ P done t) s := by
  obtain ⟨permitted, kept⟩ := reads done s w.chars holds
  rw [next_entry, argz_string_position, ← argz_next_position]
  exact ⟨permitted, fun r t answered => ⟨rfl, kept r t answered⟩⟩

/-- From the entry of `w` on, `P` goes from one address to the next. -/
theorem ssh_walk_rule {words : List CString} {cmd src_file_name : Option Nat} {addrs : List Bytes}
    (step : ∀ n done a rest s, addrs = done ++ a :: rest → P done s →
      wlp W (client_ssh_command fuel (u n) (argz_string (argzOf words) cmd) a (argz_string (argzOf words) src_file_name))
        (fun _ => P (done ++ [a])) s)
    (rounds : Nat) {before : List CString} {w : CString} {after : List CString} (split : words = before ++ w :: after)
    (behind : addrs = after.map CString.chars) (start : P [] s) :
    wlp W (loop (ssh_round fuel u (argzOf words) cmd src_file_name) rounds (0, some (position before)))
      (fun _ => P addrs) s := by
  refine wlp_loop (fun b s => ∃ before w after done, words = before ++ w :: after ∧ b.2 = some (position before) ∧
    addrs = done ++ after.map CString.chars ∧ P done s) ?_ rounds _ ⟨before, w, after, [], split, rfl, behind, start⟩
  rintro ⟨n, _⟩ s ⟨before, w, after, done, split, rfl, behind, holds⟩
  have next := next_entry_rule P reads holds before w after
  rw [← split] at next
  refine wlp_seq next ?_
  rintro _ t ⟨rfl, holds⟩
  cases after with
  | nil =>
    rw [List.map_nil, List.append_nil] at behind
    rw [if_pos rfl, behind]
    exact holds
  | cons a after =>
    have addr : cstr ((argzOf words).drop (position (before ++ [w]))) = a.chars := by
      rw [split, ← cstr_argzOf a after, ← drop_position (before ++ [w]) (a :: after), List.append_assoc, List.singleton_append]
    rw [if_neg (by simp)]
    simp only [addr]
    refine wlp_seq (step n done a.chars (after.map CString.chars) t behind holds) ?_
    intro _ t holds
    exact ⟨before ++ [w], a, after, done ++ [a.chars], by simp [split], rfl, by simp [behind], holds⟩

/-- What each command for an address makes of `P`, all of them do. A `reset_conf` must
    have a file name. -/
theorem ssh_option_rule {cmd : CString} {operands : List CString} (named : cmd.chars = ascii "reset_conf" → operands ≠ [])
    (step : ∀ n done a rest s, (addresses (cmd :: operands)).map CString.chars = done ++ a :: rest → P done s →
      wlp W (client_ssh_command fuel (u n) (some cmd.chars) a (fileName (cmd :: operands))) (fun _ => P (done ++ [a])) s)
    (start : P [] s) :
    wlp W (client_ssh_option fuel u (argzOf (cmd :: operands)))
      (fun _ => P ((addresses (cmd :: operands)).map CString.chars)) s := by
  have first := argz_string_position [] cmd operands
  rw [List.nil_append] at first
  simp only [client_ssh_option, argz_next_first, first_entries, first, Prog.bind_assoc]
  refine wlp_seq (read_word_rule P reads start cmd.chars) ?_
  rintro _ t ⟨rfl, start⟩
  by_cases reset : cmd.chars = ascii "reset_conf"
  · cases operands with
    | nil => exact absurd rfl (named reset)
    | cons file addrs =>
      have second := argz_string_position [cmd] file addrs
      have next := next_entry_rule P reads start [] cmd (file :: addrs)
      have here : (addresses (cmd :: file :: addrs)).map CString.chars = addrs.map CString.chars := by simp [addresses, reset]
      have given : fileName (cmd :: file :: addrs) = some file.chars := if_pos reset
      rw [List.nil_append] at next
      rw [List.singleton_append] at second
      rw [here, given, ← first, ← second] at step
      rw [if_pos reset, here, Prog.bind_assoc]
      refine wlp_seq next ?_
      rintro _ t ⟨rfl, start⟩
      exact ssh_walk_rule P reads step fuel (by rfl : _ = [cmd] ++ file :: addrs) rfl start
  · have here : (addresses (cmd :: operands)).map CString.chars = operands.map CString.chars := by simp [addresses, reset]
    have given : fileName (cmd :: operands) = argz_string (argzOf (cmd :: operands)) none := by
      cases operands with
      | nil => rfl
      | cons file rest => exact if_neg reset
    rw [here, given, ← first] at step
    rw [if_neg reset, here]
    exact ssh_walk_rule P reads step fuel (by rfl : _ = [] ++ cmd :: operands) rfl start

end

/-- Memory that is cleared. -/
def clearedCommands : Nat → CommandUninit := fun _ => ⟨[], 0, []⟩

end CorosyncClient.SshOption
