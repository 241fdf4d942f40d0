import CorosyncClient.Failures
import CorosyncClient.SshOption

/-!
The operands of `set_votes`: what `client_quorum_option` makes of any two words, and how
that comes to `votequorum_setvotes`.
-/
namespace CorosyncClient.VoteOperands
open CLib Interaction Failures
set_option linter.unusedSimpArgs false

/-! ### Numbers -/

/-- The id or the votes that a word stands for. -/
def operand (text : Bytes) : UInt32 := (atoi text).toUInt32

/-- A decimal numeral of a `uint32_t`. -/
structure Numeral (text : Bytes) (n : UInt32) : Prop where
  nonempty : text ≠ []
  digits : ∀ b ∈ text, isdigit b = true
  value : digitsValue text = n.toNat

theorem toUInt32_ofInt (value : Int) : (Int32.ofInt value).toUInt32 = UInt32.ofInt value := by
  apply UInt32.toNat_inj.mp
  change (BitVec.ofInt 32 value).toNat = _
  rw [BitVec.toNat_ofInt, UInt32.ofInt, UInt32.toNat_ofNat']
  omega

theorem ofInt_toNat (n : UInt32) : UInt32.ofInt n.toNat = n := by
  apply UInt32.toNat_inj.mp
  have fits := n.toNat_lt
  rw [UInt32.ofInt, UInt32.toNat_ofNat']
  omega

/-- A number at the start of a word is clamped to a `long` and cut to 32 bits. -/
theorem operand_number {text rest : Bytes} {value : Int} (number : Number text value rest) :
    operand text = UInt32.ofInt (clampLong value) := by
  rw [operand, atoi, strtol_number number, Option.map_some, Option.getD_some, toUInt32_ofInt]

/-- A word that begins with no number is read as 0. -/
theorem operand_none {text : Bytes} (none : ∀ value rest, ¬ Number text value rest) : operand text = 0 := by
  cases scanned : strtol text with
  | none =>
    rw [operand, atoi, scanned]
    rfl
  | some scan =>
    obtain ⟨value, number, -⟩ := strtol_eq_some.mp scanned
    exact absurd number (none value scan.2)

theorem Numeral.number {text : Bytes} {n : UInt32} (numeral : Numeral text n) : Number text n.toNat [] := by
  have number : Number ([] ++ (Sign.none.text ++ (text ++ []))) (Sign.none.value (digitsValue text)) [] :=
    .mk .none (by simp) numeral.nonempty numeral.digits (by simp)
  rw [numeral.value] at number
  simpa [Sign.text, Sign.value] using number

theorem operand_numeral {text : Bytes} {n : UInt32} (numeral : Numeral text n) : operand text = n := by
  have fits := n.toNat_lt
  have value : clampLong n.toNat = n.toNat := by unfold clampLong; omega
  rw [operand_number numeral.number, value, ofInt_toNat]

/-! ### The call -/

/-- The arguments of a call that sets votes. -/
def votesSet : LibEvent → Option (UInt32 × UInt32)
  | ⟨.votequorum_setvotes _ nodeid votes, _⟩ => some (nodeid, votes)
  | _ => none

/-- The quorum service was opened. -/
def opened : LibEvent → Bool
  | ⟨ Call.votequorum_initialize, r⟩ => r.1 = .CS_OK
  | _ => false

/-- Nothing of either has happened yet. -/
def Quiet (tr : List LibEvent) : Prop := tr.filterMap votesSet = [] ∧ ¬ Occurs opened tr

/-- Votes are set once, with these arguments, if the quorum service was opened, and not at
    all otherwise. -/
def SetsVotes (nodeid votes : UInt32) (tr : List LibEvent) : Prop :=
  tr.filterMap votesSet = if Occurs opened tr then [(nodeid, votes)] else []

theorem quiet_nil : Quiet [] := ⟨rfl, occurs_nil _⟩

theorem quiet_append {tr more : List LibEvent} (quiet : Quiet tr) (quiet' : Quiet more) : Quiet (tr ++ more) :=
  ⟨by rw [List.filterMap_append, quiet.1, quiet'.1, List.nil_append], by
    rw [occurs_append, not_or]
    exact ⟨quiet.2, quiet'.2⟩⟩

theorem setsVotes_append {nodeid votes : UInt32} {tr more : List LibEvent} (sets : SetsVotes nodeid votes tr) (quiet : Quiet more) :
    SetsVotes nodeid votes (tr ++ more) := by
  have same : Occurs opened (tr ++ more) ↔ Occurs opened tr := by
    rw [occurs_append]
    exact or_iff_left quiet.2
  rw [SetsVotes, List.filterMap_append, quiet.1, List.append_nil, if_congr same rfl rfl]
  exact sets

theorem append_setsVotes {nodeid votes : UInt32} {tr calls : List LibEvent} (quiet : Quiet tr) (sets : SetsVotes nodeid votes calls) :
    SetsVotes nodeid votes (tr ++ calls) := by
  have same : Occurs opened (tr ++ calls) ↔ Occurs opened calls := by
    rw [occurs_append]
    exact or_iff_right quiet.2
  rw [SetsVotes, List.filterMap_append, quiet.1, List.nil_append, if_congr same rfl rfl]
  exact sets

theorem quiet_access (a : Access) : Quiet [⟨.access a, ()⟩] := ⟨rfl, by simp [opened]⟩

theorem quiet_printf (text : Bytes) (r : Int) : Quiet [⟨.printf text, r⟩] := ⟨rfl, by simp [opened]⟩

/-- The calls of `set_votes`. -/
inductive SetVotesCalls (nodeid votes : UInt32) : List LibEvent → Prop
  | refused {r : Reply Call.votequorum_initialize} : r.1 ≠ .CS_OK → SetVotesCalls nodeid votes [⟨ Call.votequorum_initialize, r⟩]
  | called {r : Reply Call.votequorum_initialize} {e f : CsError} : r.1 = .CS_OK → SetVotesCalls nodeid votes
      [⟨ Call.votequorum_initialize, r⟩, ⟨.votequorum_setvotes r.2 nodeid votes, e⟩, ⟨.votequorum_finalize r.2, f⟩]

theorem set_votes_calls (nodeid votes : UInt32) (tr : List LibEvent) :
    wp anything.traced (set_votes nodeid votes) (fun _ t => ∃ calls, t.2 = tr ++ calls ∧ SetVotesCalls nodeid votes calls) ((), tr) := by
  simp only [set_votes, perform_bind, Prog.pure_eq, wp_traced_call, wp_ite, wp_ret, anything_permits, anything_answers, true_and,
    List.append_assoc]
  intro r _ _
  refine ⟨fun failed => ⟨_, rfl, .refused failed⟩, fun ok _ _ _ => ?_⟩
  have ok : r.1 = .CS_OK := not_ne_iff.mp ok
  exact ⟨fun _ _ _ _ => ⟨_, rfl, .called ok⟩, fun _ _ _ _ => ⟨_, rfl, .called ok⟩⟩

theorem SetVotesCalls.sets {nodeid votes : UInt32} {calls : List LibEvent} (made : SetVotesCalls nodeid votes calls) :
    SetsVotes nodeid votes calls := by
  cases made with
  | refused failed => simp [SetsVotes, votesSet, opened, failed]
  | called ok => simp [SetsVotes, List.filterMap_cons, votesSet, opened, ok]

theorem set_votes_sets (nodeid votes : UInt32) {tr : List LibEvent} (quiet : Quiet tr) :
    wp anything.traced (set_votes nodeid votes) (fun _ t => SetsVotes nodeid votes t.2) ((), tr) := by
  refine wp_mono (set_votes_calls nodeid votes tr) ?_
  rintro _ ⟨_, _⟩ ⟨calls, rfl, made⟩
  exact append_setsVotes quiet made.sets

theorem client_change_votes_sets (nodeid votes : UInt32) {tr : List LibEvent} (quiet : Quiet tr) :
    wp anything.traced (client_change_votes nodeid votes) (fun _ t => SetsVotes nodeid votes t.2) ((), tr) := by
  refine wp_seq (set_votes_sets nodeid votes quiet) ?_
  rintro err ⟨_, tr⟩ sets
  simp only [perform_bind, Prog.pure_eq, wp_traced_call, wp_ite, wp_ret, anything_permits, anything_answers, true_and]
  refine ⟨fun _ r _ _ r' _ _ => ?_, fun _ r _ _ => ?_⟩
  · exact setsVotes_append (setsVotes_append sets (quiet_printf _ r)) (quiet_printf _ r')
  · exact setsVotes_append sets (quiet_printf _ r)

/-! ### The words -/

theorem read_word_quiet (text : Bytes) {tr : List LibEvent} (quiet : Quiet tr) :
    wp anything.traced (read_word (some text)) (fun word t => word = text ∧ Quiet t.2) ((), tr) := by
  simp only [read_word, perform_bind, Prog.pure_eq, wp_traced_call, wp_ret, anything_permits, anything_answers, true_and]
  exact fun _ _ _ => quiet_append quiet (quiet_access _)

theorem next_entry_quiet (argz : Bytes) (entry : Option Nat) {tr : List LibEvent} (quiet : Quiet tr) :
    wp anything.traced (next_entry argz entry) (fun next t => next = argz_next argz entry ∧ Quiet t.2) ((), tr) := by
  simp only [next_entry, perform_bind, Prog.pure_eq, wp_traced_call, wp_ret, anything_permits, anything_answers, true_and]
  exact fun _ _ _ => quiet_append quiet (quiet_access _)

theorem set_votes_nul_free : 0 ∉ ascii "set_votes" := by decide

/-- `set_votes`, as a word of the command line. -/
def setVotesWord : CString := ⟨ascii "set_votes", set_votes_nul_free⟩

/-- One round comes to the call, and is the last. -/
theorem quorum_round_sets (nodeid votes : CString) (operands : List CString) {tr : List LibEvent} (quiet : Quiet tr) :
    wp anything.traced (quorum_round (argzOf (setVotesWord :: nodeid :: votes :: operands)) (some (position [])) (some (position [])))
      (fun again t => again = .inr () ∧ SetsVotes (operand nodeid.chars) (operand votes.chars) t.2) ((), tr) := by
  have task : setVotesWord.chars = ascii "set_votes" := rfl
  have first := argz_string_position [] setVotesWord (nodeid :: votes :: operands)
  have second := argz_string_position [setVotesWord] nodeid (votes :: operands)
  have third := argz_string_position [setVotesWord, nodeid] votes operands
  have next := argz_next_next [] setVotesWord nodeid (votes :: operands)
  have next' := argz_next_next [setVotesWord] nodeid votes operands
  rw [List.nil_append] at first next
  refine wp_seq (next_entry_quiet _ (some (position [])) quiet) ?_
  rintro _ ⟨_, tr⟩ ⟨rfl, quiet⟩
  rw [next]
  refine wp_seq (first ▸ read_word_quiet setVotesWord.chars quiet) ?_
  rintro _ ⟨_, tr⟩ ⟨rfl, quiet⟩
  rw [if_pos task]
  refine wp_seq (second ▸ read_word_quiet nodeid.chars quiet) ?_
  rintro _ ⟨_, tr⟩ ⟨rfl, quiet⟩
  refine wp_seq (next_entry_quiet _ (some (position [setVotesWord])) quiet) ?_
  rintro _ ⟨_, tr⟩ ⟨rfl, quiet⟩
  refine wp_seq ((next'.symm ▸ third) ▸ read_word_quiet votes.chars quiet) ?_
  rintro _ ⟨_, tr⟩ ⟨rfl, quiet⟩
  refine wp_seq (client_change_votes_sets _ _ quiet) ?_
  rintro _ ⟨_, tr⟩ sets
  exact ⟨rfl, sets⟩

theorem client_quorum_option_sets (nodeid votes : CString) (operands : List CString) (fuel : Nat) :
    wp anything.traced (client_quorum_option (fuel + 1) (argzOf (setVotesWord :: nodeid :: votes :: operands)))
      (fun _ t => SetsVotes (operand nodeid.chars) (operand votes.chars) t.2) ((), []) := by
  rw [client_quorum_option, argz_next_first]
  refine wp_seq (quorum_round_sets nodeid votes operands quiet_nil) ?_
  rintro _ ⟨_, tr⟩ ⟨rfl, sets⟩
  exact sets

theorem anything_live (t : Unit × List LibEvent) (c : Call) : ∃ r t', anything.traced.answers t c r t' :=
  ⟨Reply.success c, ((), t.2 ++ [⟨c, Reply.success c⟩]), trivial, rfl⟩

/-- Any two operands come to the call, which is made once if the quorum service can be
    opened. Numerals stand for their numbers, other words for the number that they begin
    with, clamped and cut to 32 bits, or for 0. -/
theorem operands_set_votes (nodeid votes : CString) (operands : List CString) (fuel : Nat) :
    Returns anything.traced (client_quorum_option (fuel + 1) (argzOf (setVotesWord :: nodeid :: votes :: operands))) ((), [])
      (fun _ t => SetsVotes (operand nodeid.chars) (operand votes.chars) t.2) ∧
    (∀ text n, Numeral text n → operand text = n) ∧
    (∀ text value rest, Number text value rest → operand text = UInt32.ofInt (clampLong value)) ∧
    ∀ text, (∀ value rest, ¬ Number text value rest) → operand text = 0 := by
  refine ⟨?_, fun text n => operand_numeral, fun text value rest => operand_number, fun text => operand_none⟩
  refine returns_of_wp (fun t c _ => anything_live t c) ?_
  exact client_quorum_option_sets nodeid votes operands fuel

/-- Every call succeeds. -/
def succeeding : Handler Call Reply Unit := fun s c => (Reply.success c, s)

/-- `-q set_votes abc 1` -/
def mistyped : Bytes := ascii "set_votes" ++ [0] ++ ascii "abc" ++ [0] ++ ascii "1" ++ [0]

theorem mistyped_runs : Ran (client_quorum_option 1 mistyped) (transcript succeeding (client_quorum_option 1 mistyped) ()) () :=
  exec_run (fun _ => True) (fun _ _ _ => ⟨trivial, trivial⟩) trivial rfl

/-- A word that is no numeral sets the votes of node 0. -/
theorem mistyped_sets_votes : ¬ ∀ (nodeid votes : CString) (tr : List LibEvent),
    Ran (client_quorum_option 1 (argzOf [setVotesWord, nodeid, votes])) tr () →
      ∀ n v, (n, v) ∈ tr.filterMap votesSet → Numeral nodeid.chars n ∧ Numeral votes.chars v := by
  intro checked
  have called : (0, 1) ∈ (transcript succeeding (client_quorum_option 1 mistyped) ()).filterMap votesSet := by decide
  have numeral := (checked ⟨ascii "abc", by decide⟩ ⟨ascii "1", by decide⟩ _ mistyped_runs 0 1 called).1
  exact absurd (numeral.digits 97 (by decide)) (by decide)

end CorosyncClient.VoteOperands
