import CorosyncClient.Lists.Reader
import CorosyncClient.NodeIds
import CorosyncClient.Screens

/-!
The screens of the monitor read back. Where no string of the cmap has a tab in it, what a
session has printed tells for each of its events the state of the quorum, and of every
node its id, its strings, its votes and whether it is the local one.
-/
namespace CorosyncClient.ScreenReader
open CLib Interaction Lists Lists.Reader CorosyncClient.Membership NodeIds Screens Services VoteOperands
set_option linter.unusedSimpArgs false

/-! ### What there is to tell -/

/-- What a line tells of a node. -/
structure Row where
  nodeid : UInt32
  ip : Bytes
  status : Bytes
  votes : UInt32
  is_local : Bool
  deriving DecidableEq

/-- What a screen tells. -/
structure Summary where
  quorate : Bool
  quorum : UInt32
  total_votes : UInt32
  expected_votes : UInt32
  nodes : List Row
  deriving DecidableEq

def row (v : View) (n : UInt32) : Row where
  nodeid := n
  ip := v.members.text n (ascii "ip")
  status := v.members.text n (ascii "status")
  votes := (v.info n).node_votes
  is_local := n = v.local_nodeid

/-- The summary of what is true at an event. -/
def summary (v : View) : Summary where
  quorate := (v.info 1).flags &&& VOTEQUORUM_INFO_QUORATE = VOTEQUORUM_INFO_QUORATE
  quorum := (v.info 1).quorum
  total_votes := (v.info 1).total_votes
  expected_votes := (v.info 1).highest_expected
  nodes := v.members.order.map (row v)

/-- No string of a node has a tab in it. -/
def Plain (v : View) : Prop := ∀ n ∈ v.members.ids, 9 ∉ v.members.text n (ascii "ip") ∧ 9 ∉ v.members.text n (ascii "status")

instance (v : View) : Decidable (Plain v) := Finset.decidableDforallFinset

/-- `ctime` gives one line. -/
def OneLine (text : Bytes) : Prop := ∃ line, 10 ∉ line ∧ text = line ++ ascii "\n"

/-! ### The reader -/

def readRow : Reader Byte Row := do
  literal (ascii "Node ")
  let nodeid ← before 9
  literal (ascii "IP: ")
  let ip ← before 9
  literal (ascii "STATUS: ")
  let status ← before 9
  literal (ascii "VOTES: ")
  let votes ← before 9
  let is_local ← present (ascii "(local)")
  literal (ascii "\n")
  return ⟨operand nodeid, ip, status, operand votes, is_local⟩

/-- The line of the clock tells nothing. -/
def readScreen : Reader Byte Summary := do
  literal (ascii "\nQuorum information\n")
  literal (ascii "----------------------\n")
  literal (ascii "Quorate: ")
  let quorate ← before 10
  literal (ascii "Quorum: ")
  let quorum ← before 10
  literal (ascii "Total Votes: ")
  let total_votes ← before 10
  literal (ascii "Expected Votes: ")
  let expected_votes ← before 10
  let _ ← before 10
  literal (ascii "\nMembership information\n")
  literal (ascii "----------------------\n")
  let nodes ← many readRow
  return ⟨quorate = ascii "yes", operand quorum, operand total_votes, operand expected_votes, nodes⟩

/-- All that a session has printed; what is left is given as well. -/
def readSession : Reader Byte (List Summary) := do
  literal (ascii "\n")
  many readScreen

/-! ### Reading back -/

theorem tab_eq : ascii "\t" = [9] := by decide
theorem newline_eq : ascii "\n" = [10] := by decide

theorem operand_decimal (n : UInt32) : operand (decimal n.toNat) = n :=
  operand_numeral ⟨decimal_ne_nil _, fun _ => decimal_isdigit _, digitsValue_decimal _⟩

/-- The text ends, or a line feed comes. -/
def Follows (rest : Bytes) : Prop := ∀ b ∈ rest.head?, b = 10

theorem follows_newline (rest : Bytes) : Follows (ascii "\n" ++ rest) := by
  simp [Follows, newline_eq]

/-- A word that begins otherwise is not what follows. -/
theorem not_prefix_follows {word rest : Bytes} (other : word.head?.any (· ≠ 10) = true) (follows : Follows rest) : ¬ word <+: rest := by
  intro comes
  cases word with
  | nil => simp at other
  | cons a word =>
    obtain ⟨more, rfl⟩ := comes
    have same : a = 10 := follows a rfl
    simp [same] at other

theorem readRow_line {v : View} {n : UInt32} (plain : 9 ∉ v.members.text n (ascii "ip") ∧ 9 ∉ v.members.text n (ascii "status"))
    (rest : Bytes) :
    readRow (v.members.line (fun n => (v.info n).node_votes) v.local_nodeid n ++ rest) = some (row v n, rest) := by
  have nodeid : 9 ∉ decimalInt n.toInt32.toInt := decimalInt_solid (by decide) (by decide) _
  have votes : 9 ∉ decimal (v.info n).node_votes.toNat := not_digit_of (by decide) _
  simp only [Content.line, List.append_assoc, tab_eq]
  rw [readRow, literal_then, before_then nodeid, literal_then, before_then plain.1, literal_then, before_then plain.2, literal_then,
    before_then votes]
  by_cases here : n = v.local_nodeid
  · rw [if_pos here, present_then, literal_then, operand_signed, operand_decimal, pure_apply]
    simp [row, here]
  · have absent : ¬ ascii "(local)" <+: ascii "\n" ++ rest :=
      not_prefix_follows (by decide) (follows_newline rest)
    rw [if_neg here, List.nil_append, absent_then absent, literal_then, operand_signed, operand_decimal, pure_apply]
    simp [row, here]

theorem line_ne_nil (v : View) (n : UInt32) : v.members.line (fun n => (v.info n).node_votes) v.local_nodeid n ≠ [] := by
  simp [Content.line, newline_eq]

theorem readRow_stops {rest : Bytes} (follows : Follows rest) : readRow rest = none :=
  literal_stops (not_prefix_follows (by decide) follows) _

theorem readScreen_screen {v : View} (plain : Plain v) {time : Bytes} (clock : OneLine time) {rest : Bytes} (follows : Follows rest) :
    readScreen (v.screen time ++ rest) = some (summary v, rest) := by
  obtain ⟨line, oneLine, rfl⟩ := clock
  have number : ∀ n : UInt32, 10 ∉ decimalInt n.toInt32.toInt := fun n => decimalInt_solid (by decide) (by decide) _
  have quorate : 10 ∉ (if (v.info 1).flags &&& VOTEQUORUM_INFO_QUORATE = VOTEQUORUM_INFO_QUORATE then ascii "yes"
      else ascii "no (Activity Blocked)") := by
    split
    · decide
    · decide
  have rows : ∀ n ∈ v.members.order, ∀ rest, True →
      readRow (v.members.line (fun n => (v.info n).node_votes) v.local_nodeid n ++ rest) = some (row v n, rest) := by
    intro n comes rest _
    exact readRow_line (plain n (order_ids v.regular ▸ List.mem_toFinset.mpr comes)) rest
  simp only [View.screen, View.quorumText, View.membershipText, List.append_assoc, newline_eq]
  rw [readScreen, literal_then, literal_then, literal_then, before_then quorate, literal_then, before_then (number _), literal_then,
    before_then (number _), literal_then, before_then (number _), before_then oneLine, literal_then, literal_then,
    many_then rows (fun _ _ _ => trivial) (fun n _ => line_ne_nil v n) trivial (readRow_stops follows)]
  have blocked : ascii "no (Activity Blocked)" ≠ ascii "yes" := by decide
  simp only [operand_signed, pure_apply]
  by_cases active : (v.info 1).flags &&& VOTEQUORUM_INFO_QUORATE = VOTEQUORUM_INFO_QUORATE
  · simp [summary, active]
  · simp [summary, active, blocked]

/-! ### Sessions -/

/-- The screens of a session, each with what the clock gave. -/
theorem shown_screens {before out : Bytes} {events : List View} {Clock : Bytes → Prop} (shown : Shown Clock before events out) :
    ∃ screens : List (View × Bytes), screens.map Prod.fst = events ∧ (∀ e ∈ screens, Clock e.2) ∧
      out = before ++ screens.flatMap fun e => e.1.screen e.2 := by
  induction shown with
  | start => exact ⟨[], rfl, by simp, by simp⟩
  | @next events out v time clock _ ih =>
    obtain ⟨screens, rfl, clocks, rfl⟩ := ih
    refine ⟨screens ++ [(v, time)], by simp, ?_, by simp⟩
    intro e member
    rcases List.mem_append.mp member with earlier | last
    · exact clocks e earlier
    · obtain rfl := List.mem_singleton.mp last
      exact clock

theorem screen_begins (v : View) (time : Bytes) : ∃ rest, v.screen time = ascii "\n" ++ rest := by
  have header : ascii "\nQuorum information\n" = ascii "\n" ++ ascii "Quorum information\n" := by decide
  simp only [View.screen, View.quorumText, header, List.append_assoc]
  exact ⟨_, rfl⟩

/-- The text of a session, with no more than a line feed behind it, is read as the
    summaries of its events. -/
theorem readSession_shown {events : List View} {out rest : Bytes} (shown : Shown OneLine (ascii "\n") events out)
    (plain : ∀ v ∈ events, Plain v) (last : rest = [] ∨ rest = ascii "\n") :
    readSession (out ++ rest) = some (events.map summary, rest) := by
  obtain ⟨screens, rfl, clocks, rfl⟩ := shown_screens shown
  have screen : ∀ e ∈ screens, ∀ rest, Follows rest → readScreen (e.1.screen e.2 ++ rest) = some (summary e.1, rest) :=
    fun e member rest follows => readScreen_screen (plain e.1 (List.mem_map_of_mem member)) (clocks e member) follows
  have begins : ∀ e ∈ screens, ∀ rest, Follows (e.1.screen e.2 ++ rest) := by
    intro e _ rest
    obtain ⟨text, same⟩ := screen_begins e.1 e.2
    rw [same, List.append_assoc]
    exact follows_newline _
  have some : ∀ e ∈ screens, e.1.screen e.2 ≠ [] := by
    intro e _
    obtain ⟨text, same⟩ := screen_begins e.1 e.2
    simp [same, newline_eq]
  have ends : Follows rest := by
    rcases last with rfl | rfl
    · simp [Follows]
    · simp [Follows, newline_eq]
  have stops : readScreen rest = none := by
    refine literal_stops ?_ _
    intro comes
    have long := comes.length_le
    rcases last with rfl | rfl
    · exact absurd long (by decide)
    · exact absurd long (by decide)
  have read := many_then screen begins some ends stops (f := pure)
  rw [List.append_assoc, readSession, literal_then]
  rw [bind_pure] at read
  rw [read, List.map_map]
  rfl

/-- In any run of the program on any command line, where no string of the cmap has a tab
    in it whenever an event comes: while the program waits, its whole output is read as the
    summaries of the events so far; and so it is when the program has ended after some event,
    with a line feed left. -/
theorem main_reads_back {fuel : Nat} {u : ClientUninit} {name : Bytes} {line : List (OptKey × CString)} {s t : Watch}
    {tr : List LibEvent} {q : Client Unit} (none : s.events = []) (silent : s.out = []) (plain : ∀ v ∈ t.events, Plain v)
    (run : Run (watched OneLine fun _ => True) (main fuel u name line) s tr q t) :
    (∀ h next, q = .call (.votequorum_dispatch h) next → readSession t.out = some (t.events.map summary, [])) ∧
      (q = .ret () → t.events ≠ [] → readSession t.out = some (t.events.map summary, ascii "\n")) := by
  have shown := main_shown none run
  rw [silent, List.nil_append] at shown
  constructor
  · rintro h next rfl
    have read := readSession_shown shown.1 plain (.inl rfl)
    rwa [List.append_nil] at read
  · rintro rfl happened
    obtain ⟨out, shown, same⟩ := shown happened
    rw [same]
    exact readSession_shown shown plain (.inr rfl)

theorem pair_plain : ∀ v ∈ pairLast.events, Plain v := by decide +kernel

theorem main_reads_back_pair : readSession pairLast.out = some (pairLast.events.map summary, ascii "\n") :=
  (main_reads_back (by rfl) (by rfl) pair_plain (pair_run ⟨ascii "Thu Jan  1 00:00:00 1970", by decide, by decide⟩)).2 rfl pair_some

end CorosyncClient.ScreenReader
