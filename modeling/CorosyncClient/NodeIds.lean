import CorosyncClient.MemberTable
import CorosyncClient.MemberText
import CorosyncClient.VoteOperands

/-!
The ids of nodes as texts: how the id of a member key reaches the line of the node, what
`client_change_votes` prints for it, and what `-q set_votes` makes of the printed text.
-/
namespace CorosyncClient.NodeIds
open CLib Interaction Lists Failures CorosyncClient.Membership MemberText VoteOperands
set_option linter.unusedSimpArgs false

/-! ### From the keys to the entries -/

theorem readInto_kept (r : MemberText.Reading) (s : MembersState) :
    (readInto r s).prev = s.prev ∧ (readInto r s).i = s.i ∧ ∀ j, ((readInto r s).array j).nodeid = (s.array j).nodeid := by
  have update : ∀ (array : Int32 → ClusterMember) (i : Int32) (entry : ClusterMember), entry.nodeid = (array i).nodeid →
      ∀ j, (Function.update array i entry j).nodeid = (array j).nodeid := by
    intro array i entry same j
    by_cases here : j = i
    · rw [here, Function.update_self, same]
    · rw [Function.update_of_ne here]
  unfold readInto
  split
  · exact ⟨rfl, rfl, update _ _ _ rfl⟩
  split
  · exact ⟨rfl, rfl, update _ _ _ rfl⟩
  · exact ⟨rfl, rfl, fun _ => rfl⟩

/-- A key of the node that the scan is at begins no entry. -/
theorem visit_same {k : Key} {m : Member} (name : k.name = m.key) {s : MembersState} (last : s.prev = m.id.toInt32) :
    (visit s k).prev = m.id.toInt32 ∧ (visit s k).i = s.i ∧ ∀ j, ((visit s k).array j).nodeid = (s.array j).nodeid := by
  obtain ⟨prev, i, nodeid⟩ := readInto_kept k.reading (enter m.id.toInt32 { s with key_suffix := strcpy s.key_suffix m.suffix })
  simp only [visit, name, scan_member_key, Option.getD_some, Option.map_some]
  refine ⟨prev, i.trans ?_, fun j => (nodeid j).trans ?_⟩
  · simp [enter, last]
  · simp [enter, last]

/-- A key of another node begins an entry, with the id of the node. -/
theorem visit_new {k : Key} {m : Member} (name : k.name = m.key) {s : MembersState} (last : s.prev ≠ m.id.toInt32) :
    (visit s k).prev = m.id.toInt32 ∧ (visit s k).i = s.i + 1 ∧ ((visit s k).array (s.i + 1)).nodeid = m.id.toInt32 ∧
      ∀ j, j ≠ s.i + 1 → ((visit s k).array j).nodeid = (s.array j).nodeid := by
  obtain ⟨prev, i, nodeid⟩ := readInto_kept k.reading (enter m.id.toInt32 { s with key_suffix := strcpy s.key_suffix m.suffix })
  simp only [visit, name, scan_member_key, Option.getD_some, Option.map_some]
  refine ⟨prev, i.trans ?_, (nodeid _).trans ?_, fun j other => (nodeid j).trans ?_⟩
  · simp [enter, last.symm]
  · simp [enter, last.symm]
  · simp [enter, last.symm, other]

/-- Entries that no key begins keep their id. -/
theorem foldl_visit_other {ms : List Member} {keys : List Key} (names : keys.map Key.name = ms.map Member.key) {s : MembersState}
    {p : UInt32} (last : s.prev = p.toInt32) {j : Int32}
    (ahead : ∀ k < (changes p (ms.map Member.id)).length, j ≠ s.i + Int32.ofNat (k + 1)) :
    ((keys.foldl visit s).array j).nodeid = (s.array j).nodeid := by
  induction ms generalizing keys s p with
  | nil =>
    obtain rfl : keys = [] := by simpa using names
    rfl
  | cons m ms ih =>
    obtain ⟨k, keys, rfl⟩ : ∃ k rest, keys = k :: rest := List.exists_cons_of_ne_nil (by rintro rfl; simp at names)
    obtain ⟨name, names⟩ := List.cons.inj names
    rw [List.map_cons] at ahead
    rw [List.foldl_cons]
    by_cases same : m.id = p
    · rw [same, changes_cons_self] at ahead
      obtain ⟨prev, i, nodeid⟩ := visit_same name (s := s) (by rw [last, same])
      rw [ih names (prev.trans (by rw [same])) (by rwa [i]), nodeid]
    · rw [changes_cons_of_ne same, List.length_cons] at ahead
      have new : s.prev ≠ m.id.toInt32 := by
        rw [last, ne_eq, toInt32_inj]
        exact fun eq => same eq.symm
      obtain ⟨prev, i, -, nodeid⟩ := visit_new name new
      have here : j ≠ s.i + 1 := by simpa using ahead 0 (by omega)
      rw [ih names prev, nodeid j here]
      intro k inside
      rw [i, ofNat_succ]
      exact ahead (k + 1) (by omega)

/-- The entry that is begun for a node gets its id. -/
theorem foldl_visit_nodeid {ms : List Member} {keys : List Key} (names : keys.map Key.name = ms.map Member.key) {s : MembersState}
    {p : UInt32} (last : s.prev = p.toInt32) (few : (changes p (ms.map Member.id)).length ≤ 2 ^ 32) {k : Nat} {n : UInt32}
    (comes : (changes p (ms.map Member.id))[k]? = some n) :
    ((keys.foldl visit s).array (s.i + Int32.ofNat (k + 1))).nodeid = n.toInt32 := by
  induction ms generalizing keys s p k with
  | nil => simp [changes] at comes
  | cons m ms ih =>
    obtain ⟨key, keys, rfl⟩ : ∃ k rest, keys = k :: rest := List.exists_cons_of_ne_nil (by rintro rfl; simp at names)
    obtain ⟨name, names⟩ := List.cons.inj names
    rw [List.map_cons] at comes few
    rw [List.foldl_cons]
    by_cases same : m.id = p
    · rw [same, changes_cons_self] at comes few
      obtain ⟨prev, i, -⟩ := visit_same name (s := s) (by rw [last, same])
      rw [← i]
      exact ih names (prev.trans (by rw [same])) few comes
    · rw [changes_cons_of_ne same] at comes few
      rw [List.length_cons] at few
      have new : s.prev ≠ m.id.toInt32 := by
        rw [last, ne_eq, toInt32_inj]
        exact fun eq => same eq.symm
      obtain ⟨prev, i, nodeid, -⟩ := visit_new name new
      cases k with
      | zero =>
        obtain rfl : m.id = n := by simpa using comes
        have front : s.i + Int32.ofNat (0 + 1) = s.i + 1 := rfl
        rw [front, foldl_visit_other names prev, nodeid]
        intro k inside
        rw [i]
        exact index_ne (by omega)
      | succ k =>
        rw [← ofNat_succ, ← i]
        exact ih names prev (by omega) (by simpa using comes)

/-- The id in the line of a node. -/
theorem entries_nodeid {E : Outcomes} {c : Content} (scanned : E.scan.opened = .CS_OK ∧ E.scan.begun = .CS_OK)
    (names : E.scan.keys.map Key.name = c.entries.map Member.key) (u : Uninit) {k : Nat} {n : UInt32}
    (comes : c.order[k]? = some n) : (entries E u (Int32.ofNat k)).nodeid = n.toInt32 := by
  have last : (-1 : Int32) = UInt32.toInt32 4294967295 := by decide
  have few : c.order.length ≤ 2 ^ 32 := c.order_length.trans_le c.counted_le
  have begun := foldl_visit_nodeid (s := ⟨u.id, -1, -1, u.key_suffix, u.entries⟩) names last few comes
  have index : (-1 : Int32) + Int32.ofNat (k + 1) = Int32.ofNat k := by
    rw [← ofNat_succ]
    simp
  rw [entries, if_pos scanned, ← index]
  exact begun

/-! ### Texts -/

/-- The id that a key shows, up to the dot. -/
def keyId (key : Bytes) : Bytes := (key.drop generic_key_prefix.length).takeWhile (· ≠ 46)

/-- The id that a line of the table shows, between its first word and the first tab. -/
def shownId (line : Bytes) : Bytes := (line.drop 5).takeWhile (· ≠ 9)

theorem not_digit_of {b : Byte} (other : isdigit b = false) (n : Nat) : b ∉ decimal n := by
  intro member
  exact absurd (decimal_isdigit n member) (by simp [other])

theorem takeWhile_before {text rest : Bytes} {b : Byte} (without : b ∉ text) : (text ++ b :: rest).takeWhile (· ≠ b) = text := by
  have all : ∀ a ∈ text, decide (a ≠ b) = true := by
    intro a member
    rw [decide_eq_true_eq]
    rintro rfl
    exact without member
  rw [List.takeWhile_append_of_pos all, List.takeWhile_cons_of_neg (by simp), List.append_nil]

theorem keyId_key (m : Member) : keyId m.key = decimal m.id.toNat := by
  have same : m.key.drop generic_key_prefix.length = decimal m.id.toNat ++ 46 :: m.suffix := by
    rw [Member.key, nodePrefix, List.append_assoc, List.drop_left, List.append_assoc]
    rfl
  rw [keyId, same]
  exact takeWhile_before (not_digit_of (by decide) _)

theorem decimalInt_solid {b : Byte} (other : isdigit b = false) (minus : b ≠ 45) (z : Int) : b ∉ decimalInt z := by
  unfold decimalInt
  split
  · rw [List.mem_append, not_or]
    exact ⟨by simpa [ascii] using minus, not_digit_of other _⟩
  · exact not_digit_of other _

theorem shownId_line (m : ClusterMember) (local_nodeid : UInt32) (votes : Bytes) :
    shownId (lineText m local_nodeid votes) = decimalInt m.nodeid.toInt := by
  have same : ∃ rest, (lineText m local_nodeid votes).drop 5 = decimalInt m.nodeid.toInt ++ 9 :: rest := by
    have word : ascii "Node " = [78, 111, 100, 101, 32] := by decide
    have tab : ascii "\t" = [9] := by decide
    simp only [lineText, word, tab, List.append_assoc, List.cons_append, List.nil_append, List.drop_succ_cons, List.drop_zero]
    exact ⟨_, rfl⟩
  obtain ⟨rest, same⟩ := same
  rw [shownId, same]
  exact takeWhile_before (decimalInt_solid (by decide) (by decide) _)

theorem toInt32_toInt (n : UInt32) : n.toInt32.toInt = if n.toNat < 2 ^ 31 then (n.toNat : Int) else n.toNat - 2 ^ 32 := by
  change n.toBitVec.toInt = _
  rw [BitVec.toInt_eq_toNat_cond, UInt32.toNat_toBitVec]
  split <;> split <;> omega

/-- The signed text of an id is its unsigned text below 2^31 only. -/
theorem signed_text_iff (n : UInt32) : decimalInt n.toInt32.toInt = decimal n.toNat ↔ n.toNat < 2 ^ 31 := by
  by_cases low : n.toNat < 2 ^ 31
  · refine iff_of_true ?_ low
    rw [toInt32_toInt, if_pos low, decimalInt, if_neg (by omega), Int.natAbs_natCast]
  · refine iff_of_false ?_ low
    have fits := n.toNat_lt
    rw [toInt32_toInt, if_neg low, decimalInt, if_pos (by omega)]
    intro same
    have sign : (45 : Byte) ∈ decimal n.toNat := by
      rw [← same]
      simp [ascii]
    exact not_digit_of (by decide) _ sign

/-- The text that is shown for an id is read as that id, also where it is negative. -/
theorem operand_signed (n : UInt32) : operand (decimalInt n.toInt32.toInt) = n := by
  have fits := n.toNat_lt
  rw [operand_number (number_decimalInt _), toInt32_toInt]
  by_cases low : n.toNat < 2 ^ 31
  · have value : clampLong n.toNat = n.toNat := by unfold clampLong; omega
    rw [if_pos low, value, ofInt_toNat]
  · have value : clampLong ((n.toNat : Int) - 2 ^ 32) = n.toNat - 2 ^ 32 := by unfold clampLong; omega
    rw [if_neg low, value]
    apply UInt32.toNat_inj.mp
    rw [UInt32.ofInt, UInt32.toNat_ofNat']
    omega

/-! ### The three displays -/

/-- The texts that are printed, in order. -/
def printed (tr : List LibEvent) : List Bytes :=
  tr.filterMap fun e => match e with
    | ⟨.printf text, _⟩ => some text
    | _ => none

/-- The line that `client_change_votes` begins with where the change has failed. -/
def failedLine (shown : Bytes) (err : Err) : Bytes :=
  ascii "failed to update node " ++ shown ++ ascii " votes: " ++ get_error err ++ ascii "\n"

/-- The text that is shown for a node is the one in its keys and the one that
    `client_change_votes` prints, and as an operand it addresses the node. -/
structure Kept (c : Content) (shown : Bytes) (n : UInt32) : Prop where
  key : ∀ m ∈ c.entries, m.id = n → keyId m.key = shown
  change : ∀ votes tr, Ran (client_change_votes n votes) tr () →
    printed tr = [changedLine shown votes] ∨ ∃ err, printed tr = [failedLine shown err, changedLine shown votes]
  operand : ∀ (word votes : CString) fuel tr, word.chars = shown →
    Ran (client_quorum_option fuel (argzOf [setVotesWord, word, votes])) tr () → SetsVotes n (operand votes.chars) tr

theorem set_votes_silent (nodeid votes : UInt32) :
    wlp anything.traced (set_votes nodeid votes) (fun _ t => printed t.2 = []) ((), []) := by
  refine wlp_mono (wlp_of_wp (set_votes_calls nodeid votes [])) ?_
  rintro _ ⟨_, _⟩ ⟨calls, rfl, made⟩
  cases made <;> rfl

theorem client_change_votes_prints (nodeid votes : UInt32) :
    wlp anything.traced (client_change_votes nodeid votes) (fun _ t => printed t.2 = [changedLine (decimal nodeid.toNat) votes] ∨
      ∃ err, printed t.2 = [failedLine (decimal nodeid.toNat) err, changedLine (decimal nodeid.toNat) votes]) ((), []) := by
  refine wlp_seq (set_votes_silent nodeid votes) ?_
  rintro err ⟨_, tr⟩ silent
  have silent : printed tr = [] := silent
  simp only [perform_bind, Prog.pure_eq, wlp_traced_call, wlp_ite, wlp_ret, anything_permits, anything_answers, true_and]
  refine ⟨fun _ _ _ _ _ _ _ => .inr ⟨err, ?_⟩, fun _ _ _ _ => .inl ?_⟩
  · rw [printed, List.filterMap_append, List.filterMap_append, ← printed, silent]
    rfl
  · rw [printed, List.filterMap_append, ← printed, silent]
    rfl

/-- Only the unsigned text of an id is kept. -/
theorem kept_iff {c : Content} {n : UInt32} (member : ∃ m ∈ c.entries, m.id = n) (shown : Bytes) :
    Kept c shown n ↔ shown = decimal n.toNat := by
  constructor
  · intro kept
    obtain ⟨m, member, rfl⟩ := member
    rw [← kept.key m member rfl, keyId_key]
  · rintro rfl
    refine ⟨?_, ?_, ?_⟩
    · rintro m _ rfl
      exact keyId_key m
    · intro votes tr run
      exact run_ret_traced (client_change_votes_prints n votes) run
    · intro word votes fuel tr same run
      cases fuel with
      | zero => cases run
      | succ fuel =>
        have sets := run_ret_traced (wlp_of_wp (client_quorum_option_sets word votes [] fuel)) run
        have value : operand word.chars = n :=
          operand_numeral ⟨same ▸ decimal_ne_nil _, fun b member => decimal_isdigit _ (same ▸ member), same ▸ digitsValue_decimal _⟩
        rwa [value] at sets

/-- The line of a node keeps its id exactly below 2^31. -/
theorem line_kept_iff {E : Outcomes} {c : Content} (scanned : E.scan.opened = .CS_OK ∧ E.scan.begun = .CS_OK)
    (names : E.scan.keys.map Key.name = c.entries.map Member.key) (u : Uninit) {k : Nat} {n : UInt32}
    (comes : c.order[k]? = some n) : Kept c (shownId (line E u k)) n ↔ n.toNat < 2 ^ 31 := by
  have member : ∃ m ∈ c.entries, m.id = n := by
    have inside := ((mem_changes c.grouped).mp (List.mem_of_getElem? comes)).1
    simpa using inside
  rw [kept_iff member, line, shownId_line, entries_nodeid scanned names u comes, signed_text_iff]

/-- What `print_membership` prints of any members: the id in the line of a node addresses
    the node, and it is the id that its keys and `client_change_votes` show exactly below 2^31. -/
theorem ids_kept_iff {E : Outcomes} {c : Content} (scanned : E.scan.opened = .CS_OK ∧ E.scan.begun = .CS_OK)
    (names : E.scan.keys.map Key.name = c.entries.map Member.key) {fuel : Nat}
    (enough : E.count.keys.length < fuel ∧ E.scan.keys.length < fuel) (u : Uninit) :
    wp (outcomes E) (print_membership fuel u) (fun _ t => t.out = text E u) start ∧
      ∀ k n, c.order[k]? = some n → operand (shownId (line E u k)) = n ∧ (Kept c (shownId (line E u k)) n ↔ n.toNat < 2 ^ 31) := by
  refine ⟨print_membership_text E enough u, fun k n comes => ⟨?_, line_kept_iff scanned names u comes⟩⟩
  rw [line, shownId_line, entries_nodeid scanned names u comes, operand_signed]

/-! ### A large id -/

/-- Nodes 1 and 4000000000. -/
def largeNodes : Content where
  entries := [ipKey 1, statusKey 1, ipKey 4000000000, statusKey 4000000000]
  ascending := by decide
  textual := by decide

/-- The keys of some members, and reads that give their strings. -/
def keysOf (l : List Member) : List Key :=
  l.map fun m => ⟨m.key, .STRING, ⟨.CS_OK, (.CS_OK, 0, .STRING), (.CS_OK, some ⟨m.text, m.text_nul_free⟩), (.CS_OK, 0, .STRING, []), []⟩⟩

theorem no_sections_ne_ok : CsError.CS_ERR_NO_SECTIONS ≠ .CS_OK := by decide

/-- All calls succeed. Node 1 is the local one, and each node has one vote. -/
def largeOutcomes : Outcomes where
  count := ⟨.CS_OK, .CS_OK, keysOf largeNodes.entries, .CS_ERR_NO_SECTIONS, no_sections_ne_ok⟩
  scan := ⟨.CS_OK, .CS_OK, keysOf largeNodes.entries, .CS_ERR_NO_SECTIONS, no_sections_ne_ok⟩
  located _ := (.CS_OK, .CS_OK, 1)
  votes _ := (.CS_OK, .CS_OK, ⟨1, 1, 1, 2, 2, 2, 2, 2, 0, []⟩)

/-- Memory that is cleared. -/
def clearedPrint : Uninit := ⟨0, 0, 0, [], fun _ => ⟨0, [], []⟩, 0, 0⟩

theorem largeOutcomes_names : largeOutcomes.scan.keys.map Key.name = largeNodes.entries.map Member.key := rfl

/-- A node whose id is printed as a negative number. -/
theorem large_id_negative :
    wp (outcomes largeOutcomes) (print_membership 5 clearedPrint) (fun _ t => t.out = header ++
      ascii "Node 1\tIP: 11.0.0.1\tSTATUS: joined\tVOTES: 1\t(local)\n" ++
      ascii "Node -294967296\tIP: 11.0.0.1\tSTATUS: joined\tVOTES: 1\t\n") start ∧
    ¬ Kept largeNodes (ascii "-294967296") 4000000000 := by
  constructor
  · refine wp_mono (print_membership_text largeOutcomes (by decide) clearedPrint) ?_
    rintro _ t out
    rw [out]
    decide +kernel
  · have member : ∃ m ∈ largeNodes.entries, m.id = 4000000000 := ⟨ipKey 4000000000, by simp [largeNodes], rfl⟩
    rw [kept_iff member]
    decide

theorem ids_kept_iff_largeNodes :
    wp (outcomes largeOutcomes) (print_membership 5 clearedPrint) (fun _ t => t.out = text largeOutcomes clearedPrint) start ∧
      ∀ k n, largeNodes.order[k]? = some n → operand (shownId (line largeOutcomes clearedPrint k)) = n ∧
        (Kept largeNodes (shownId (line largeOutcomes clearedPrint k)) n ↔ n.toNat < 2 ^ 31) :=
  ids_kept_iff ⟨rfl, rfl⟩ largeOutcomes_names (by decide) clearedPrint

end CorosyncClient.NodeIds
