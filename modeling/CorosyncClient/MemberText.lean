import CorosyncClient.PrintManager

/-!
What `print_membership` prints, as a function of the outcomes of its calls and of the
memory that it finds. The outcomes stand at the places where they are used: the two
iterations with their keys, what a read of each key would give, and the lines. Here an
access beyond an array or a buffer goes to memory of its own, and what is read through a
pointer that was not set is an outcome; `MemberAccess` says when there are none of either.
-/
namespace CorosyncClient.MemberText
open CLib Interaction

/-! ### Outcomes -/

/-- What the calls of a read of a key give, if it is read. -/
structure Reading where
  opened : CsError
  probe : CsError × Nat × CmapType
  string : CsError × Option CString
  raw : CsError × Nat × CmapType × Bytes
  stray : Bytes

structure Key where
  name : Bytes
  type : CmapType
  reading : Reading

/-- The calls that begin an iteration, its keys, and what ends it. -/
structure Iteration where
  opened : CsError
  begun : CsError
  keys : List Key
  ending : CsError
  ends : ending ≠ .CS_OK

/-- `located` and `votes` are numbered: the first lookup of the local id is that of
    `print_membership`, the others belong to the lines. -/
structure Outcomes where
  count : Iteration
  scan : Iteration
  located : Nat → CsError × CsError × UInt32
  votes : Nat → CsError × CsError × VotequorumInfo

/-- How many iterations were begun, the keys that the last one still has to give, what a
    read gives now, the lines that were begun, and what was printed. -/
structure Served where
  begun : Nat
  keys : List Key
  reading : Reading
  lines : Nat
  out : Bytes

/-- Calls that are not named succeed; the client drops their results. -/
def serve (E : Outcomes) : Handler Call Reply Served
  | s, Call.cmap_initialize =>
    ((if s.begun = 0 then E.count.opened else if s.begun = 1 then E.scan.opened else s.reading.opened, 1), s)
  | s, .cmap_iter_init _ _ =>
    if s.begun = 0 then ((E.count.begun, 1), { s with begun := 1, keys := E.count.keys })
    else ((E.scan.begun, 1), { s with begun := 2, keys := E.scan.keys })
  | s, .cmap_iter_next _ _ =>
    match s.keys with
    | [] => ((if s.begun = 1 then E.count.ending else E.scan.ending, [], 0, .STRING), s)
    | k :: keys => ((.CS_OK, k.name, 0, k.type), { s with keys := keys, reading := k.reading })
  | s, .cmap_get _ _ none => ((s.reading.probe.1, s.reading.probe.2.1, s.reading.probe.2.2, []), s)
  | s, .cmap_get _ _ (some _) => (s.reading.raw, s)
  | s, .cmap_get_string _ _ => (s.reading.string, s)
  | s, .read_stray => (s.reading.stray, s)
  | s, Call.corosync_cfg_initialize => (((E.located s.lines).1, 1), s)
  | s, .corosync_cfg_local_get _ => ((E.located s.lines).2, s)
  | s, Call.votequorum_initialize => (((E.votes s.lines).1, 1), { s with lines := s.lines + 1 })
  | s, .votequorum_getinfo _ _ => ((E.votes (s.lines - 1)).2, s)
  | s, .printf text => (text.length, { s with out := s.out ++ text })
  | s, c => (Reply.success c, s)

/-- Before `print_membership` nothing is begun. -/
def start : Served := ⟨0, [], ⟨.CS_OK, (.CS_OK, 0, .STRING), (.CS_OK, none), (.CS_OK, 0, .STRING, []), []⟩, 0, []⟩

/-! ### The count -/

/-- What a key does to the locals of `get_member_count`. -/
def countKey (s : CountState) (k : Key) : CountState :=
  let id := (scan_id k.name).getD s.id
  if id ≠ s.prev then { id := id, prev := id, total := s.total + 1 } else { s with id := id }

/-- The count, where `id` held `c`. -/
def counted (keys : List Key) (c : Int32) : Int32 := (keys.foldl countKey ⟨c, -1, 0⟩).total

/-! ### The scan -/

/-- What a read of the key stores through the pointer, if the read succeeds. -/
def Reading.fetched (r : Reading) : Option Fetched :=
  if r.opened ≠ .CS_OK ∨ r.probe.1 ≠ .CS_OK then none
  else if r.probe.2.2 = .STRING then
    if r.string.1 = .CS_OK then some (.string r.string.2) else none
  else if r.raw.1 = .CS_OK then some (.raw r.raw.2.2.2) else none

/-- The string that is copied from there; `stray` is that at a pointer that no call has set. -/
def Reading.copied (r : Reading) : Fetched → Bytes
  | .string (some str) => str.chars
  | _ => r.stray

/-- The string that a read of the key stores, if the read succeeds. -/
def Reading.text (r : Reading) : Option Bytes := r.fetched.map r.copied

/-- The read fails, or stores a string of less than `capacity` characters. -/
def Reading.Fits (r : Reading) (capacity : Nat) : Prop :=
  ∀ f, r.fetched = some f → ∃ str : CString, f = .string (some str) ∧ str.chars.length < capacity

/-- The buffer once the key is read into it. -/
def stored (buffer : Bytes) (r : Reading) : Bytes := (r.text.map (strcpy buffer)).getD buffer

/-- The locals once an id is scanned: an entry is begun where it is a new one. -/
def enter (id : Int32) (s : MembersState) : MembersState :=
  { s with
    id := id, prev := id, i := if id ≠ s.prev then s.i + 1 else s.i,
    array := if id ≠ s.prev then Function.update s.array (s.i + 1) { s.array (s.i + 1) with nodeid := id } else s.array }

/-- The entry once its key is read, if it is one of the two that are read. -/
def readInto (r : Reading) (s : MembersState) : MembersState :=
  if cstr s.key_suffix = ascii "ip" then
    { s with array := Function.update s.array s.i { s.array s.i with ip := stored (s.array s.i).ip r } }
  else if cstr s.key_suffix = ascii "status" then
    { s with array := Function.update s.array s.i { s.array s.i with status := stored (s.array s.i).status r } }
  else s

/-- What a key does to the locals of `get_members` and to the entries. -/
def visit (s : MembersState) (k : Key) : MembersState :=
  let scanned := scan_member k.name
  let key_suffix := (scanned.2.map (strcpy s.key_suffix)).getD s.key_suffix
  readInto k.reading (enter (scanned.1.getD s.id) { s with key_suffix := key_suffix })

@[simp] theorem readInto_id (r : Reading) (s : MembersState) : (readInto r s).id = s.id := by
  unfold readInto
  split_ifs <;> rfl

@[simp] theorem readInto_prev (r : Reading) (s : MembersState) : (readInto r s).prev = s.prev := by
  unfold readInto
  split_ifs <;> rfl

@[simp] theorem readInto_i (r : Reading) (s : MembersState) : (readInto r s).i = s.i := by
  unfold readInto
  split_ifs <;> rfl

@[simp] theorem readInto_suffix (r : Reading) (s : MembersState) : (readInto r s).key_suffix = s.key_suffix := by
  unfold readInto
  split_ifs <;> rfl

/-! ### The text -/

def votesText (vote : CsError × CsError × VotequorumInfo) : Bytes :=
  if vote.1 = .CS_OK ∧ vote.2.1 = .CS_OK then
    ascii "VOTES: " ++ decimal vote.2.2.node_votes.toInt32.toUInt32.toNat ++ ascii "\t"
  else []

def localText (nodeid : Int32) (local_nodeid : UInt32) : Bytes :=
  if nodeid.toUInt32 = local_nodeid then ascii "(local)" else []

def lineText (m : ClusterMember) (local_nodeid : UInt32) (votes : Bytes) : Bytes :=
  ascii "Node " ++ decimalInt m.nodeid.toInt ++ ascii "\t" ++ (ascii "IP: " ++ cstr m.ip ++ ascii "\t") ++
    (ascii "STATUS: " ++ cstr m.status ++ ascii "\t") ++ votes ++ localText m.nodeid local_nodeid ++ ascii "\n"

def header : Bytes := ascii "\nMembership information\n" ++ ascii "----------------------\n"

/-- The locals at the start of the scan. -/
def first (u : Uninit) : MembersState := ⟨u.id, -1, -1, u.key_suffix, u.entries⟩

/-- The entries once the scan is over. -/
def entries (E : Outcomes) (u : Uninit) : Int32 → ClusterMember :=
  if E.scan.opened = .CS_OK ∧ E.scan.begun = .CS_OK then
    (E.scan.keys.foldl visit (first u)).array
  else u.entries

def localId (E : Outcomes) (u : Uninit) : UInt32 :=
  if (E.located 0).1 = .CS_OK ∧ (E.located 0).2.1 = .CS_OK then (E.located 0).2.2 else u.local_nodeid

def line (E : Outcomes) (u : Uninit) (k : Nat) : Bytes :=
  lineText (entries E u (Int32.ofNat k)) (localId E u) (votesText (E.votes k))

/-- The number of lines. -/
def lineCount (E : Outcomes) (u : Uninit) : Nat := (counted E.count.keys u.count_id).toInt.toNat

def text (E : Outcomes) (u : Uninit) : Bytes :=
  if E.count.opened = .CS_OK ∧ E.count.begun = .CS_OK then header ++ (List.range (lineCount E u)).flatMap (line E u) else []

/-! ### The two scans print their result -/

/-- The world in which the calls have the outcomes `E`. -/
abbrev outcomes (E : Outcomes) : LibWorld Served := World.of (serve E)

section
variable (E : Outcomes) (cmap_handle iter_handle : Handle)

theorem count_round_next (s : CountState) (k : Key) (keys : List Key) (r : Reading) (n : Nat) (out : Bytes) :
    wp (outcomes E) (count_round cmap_handle iter_handle s)
      (fun again t => again = .inl (countKey s k) ∧ t = ⟨1, keys, k.reading, n, out⟩) ⟨1, k :: keys, r, n, out⟩ := by
  simp only [count_round, perform_bind, wp_of_call, wp_ite, Prog.pure_eq, wp_ret]
  refine ⟨fun failed => absurd rfl failed, fun _ => ⟨fun new => ?_, fun old => ?_⟩⟩
  · exact ⟨congrArg Sum.inl (if_pos new).symm, rfl⟩
  · exact ⟨congrArg Sum.inl (if_neg old).symm, rfl⟩

theorem count_round_over (s : CountState) (r : Reading) (n : Nat) (out : Bytes) :
    wp (outcomes E) (count_round cmap_handle iter_handle s)
      (fun again t => again = .inr s.total ∧ t = ⟨1, [], r, n, out⟩) ⟨1, [], r, n, out⟩ := by
  simp only [count_round, perform_bind, wp_of_call, wp_ite, Prog.pure_eq, wp_ret]
  exact ⟨fun _ => ⟨trivial, rfl⟩, fun ok => absurd (not_ne_iff.mp ok) E.count.ends⟩

theorem count_loop_text {keys : List Key} {fuel : Nat} (enough : keys.length < fuel) (s : CountState) (r : Reading) (n : Nat)
    (out : Bytes) :
    wp (outcomes E) (loop (count_round cmap_handle iter_handle) fuel s)
      (fun total t => total = (keys.foldl countKey s).total ∧ ∃ r', t = ⟨1, [], r', n, out⟩) ⟨1, keys, r, n, out⟩ := by
  refine wp_loop_foldl (fun keys (t : Served) => ∃ r, t = ⟨1, keys, r, n, out⟩) ?_ ?_ enough ⟨r, rfl⟩
  · rintro s k keys _ ⟨r, rfl⟩
    exact wp_mono (count_round_next E _ _ s k keys r n out) fun _ _ holds => ⟨holds.1, _, holds.2⟩
  · rintro s _ ⟨r, rfl⟩
    exact wp_mono (count_round_over E _ _ s r n out) fun _ _ holds => ⟨holds.1, _, holds.2⟩

end

theorem get_member_count_text (E : Outcomes) {fuel : Nat} (enough : E.count.keys.length < fuel) (id count : Int32) :
    wp (outcomes E) (get_member_count fuel id count)
      (fun result t => (E.count.opened = .CS_OK ∧ E.count.begun = .CS_OK ∧ result = (CS_OK, counted E.count.keys id) ∧
          ∃ r, t = ⟨1, [], r, 0, []⟩) ∨
        (¬ (E.count.opened = .CS_OK ∧ E.count.begun = .CS_OK) ∧ result.1 ≠ CS_OK ∧ t.out = [])) start := by
  simp only [get_member_count, perform_bind, wp_of_call, wp_ite, Prog.pure_eq, wp_ret]
  refine ⟨fun failed => .inr ⟨fun ok => failed ok.1, by simpa using failed, rfl⟩, fun opened => ?_⟩
  refine ⟨fun failed => .inr ⟨fun ok => failed ok.2, by simpa using failed, rfl⟩, fun begun => ?_⟩
  refine wp_seq (count_loop_text E _ _ enough _ _ 0 []) ?_
  rintro total _ ⟨rfl, r, rfl⟩
  simp only [wp_of_call, wp_ret]
  exact .inl ⟨not_ne_iff.mp opened, not_ne_iff.mp begun, rfl, r, rfl⟩

/-! ### The scan of the members -/

section
variable (E : Outcomes)

theorem store_suffix_text (key_suffix : Bytes) (word : Option Bytes) (t : Served) :
    wp (outcomes E) (store_suffix key_suffix word)
      (fun suffix t' => suffix = (word.map (strcpy key_suffix)).getD key_suffix ∧ t' = t) t := by
  cases word with
  | none => exact ⟨rfl, rfl⟩
  | some word =>
    simp only [store_suffix, perform_bind, wp_of_call, Prog.pure_eq, wp_ret]
    exact ⟨rfl, rfl⟩

theorem deref_text (fetched : Fetched) (t : Served) :
    wp (outcomes E) (deref (some fetched)) (fun text t' => text = t.reading.copied fetched ∧ t' = t) t := by
  rcases fetched with (_ | str) | bytes
  · exact (wp_of_call _ _ _ _ _).mpr ⟨rfl, rfl⟩
  · exact ⟨rfl, rfl⟩
  · exact (wp_of_call _ _ _ _ _).mpr ⟨rfl, rfl⟩

/-- Behind a probe that succeeded the fetch stores what the key holds, or fails. -/
theorem fetch_value_fetched (handle : Handle) (key : Bytes) (len : Nat) {t : Served}
    (probed : ¬ (t.reading.opened ≠ .CS_OK ∨ t.reading.probe.1 ≠ .CS_OK)) :
    wp (outcomes E) (fetch_value handle key len t.reading.probe.2.2)
      (fun out t' => t' = t ∧ t.reading.fetched = if out.1 = .CS_OK then some out.2.2 else none) t := by
  rw [Reading.fetched, if_neg probed]
  simp only [fetch_value, perform_bind, Prog.pure_eq, wp_ite, wp_of_call, wp_ret]
  constructor
  · intro string
    rw [if_pos string]
    exact ⟨rfl, rfl⟩
  · intro other
    rw [if_neg other]
    exact ⟨rfl, rfl⟩

/-- A read stores what the key holds, or fails. -/
theorem get_cmap_value_fetched (key : Bytes) (type : CmapType) {t : Served} (scanning : t.begun = 2) :
    wp (outcomes E) (get_cmap_value key true type) (fun out t' => t' = t ∧
      ((out.1 ≠ CS_OK ∧ t.reading.fetched = none) ∨ (out.1 = CS_OK ∧ ∃ f, out.2.2 = some f ∧ t.reading.fetched = some f))) t := by
  obtain ⟨_, keys, r, n, out⟩ := t
  obtain rfl := scanning
  simp only [get_cmap_value, perform_bind, Prog.pure_eq, wp_of_call, wp_ite, wp_ret]
  refine ⟨fun failed => ⟨rfl, .inl ⟨by simpa using failed, if_pos (.inl failed)⟩⟩, fun opened => ?_⟩
  refine ⟨fun failed => ⟨rfl, .inl ⟨by simpa using failed, if_pos (.inr failed)⟩⟩, fun probed => ?_⟩
  refine ⟨fun no => absurd no (by simp), fun _ => ?_⟩
  refine wp_seq (fetch_value_fetched E _ key _ (not_or.mpr ⟨opened, probed⟩)) ?_
  rintro ⟨err, type, fetched⟩ _ ⟨rfl, read⟩
  simp only [wp_ite, wp_of_call, wp_ret]
  refine ⟨fun failed => ⟨rfl, .inl ⟨by simpa using failed, read.trans (if_neg failed)⟩⟩, fun ok => ?_⟩
  exact ⟨rfl, .inr ⟨trivial, fetched, rfl, read.trans (if_pos (not_ne_iff.mp ok))⟩⟩

theorem read_string_text (key : Bytes) (type : CmapType) (capacity : Nat) (buffer : Bytes) {t : Served} (scanning : t.begun = 2) :
    wp (outcomes E) (read_string key type capacity buffer) (fun b t' => b = stored buffer t.reading ∧ t' = t) t := by
  simp only [read_string, memset_zero, Prog.pure_eq]
  refine wp_seq (get_cmap_value_fetched E key type scanning) ?_
  rintro ⟨err, _, fetched⟩ _ ⟨rfl, ⟨failed, none⟩ | ⟨ok, f, rfl, some⟩⟩
  · rw [if_neg failed]
    exact ⟨by rw [stored, Reading.text, none]; rfl, rfl⟩
  · rw [if_pos ok]
    refine wp_seq (deref_text E f _) ?_
    rintro text _ ⟨rfl, rfl⟩
    simp only [perform_bind, wp_of_call, wp_ret, stored, Reading.text, some]
    exact ⟨rfl, rfl⟩

theorem begin_entry_text (array_len id : Int32) (s : MembersState) (t : Served) :
    wp (outcomes E) (begin_entry array_len id s) (fun s' t' => t' = t ∧ s' = enter id s) t := by
  simp only [begin_entry, perform_bind, wp_ite, wp_of_call, Prog.pure_eq, wp_ret]
  constructor
  · intro new
    exact ⟨rfl, by simp [enter, new]⟩
  · intro old
    have same : id = s.prev := not_ne_iff.mp old
    exact ⟨trivial, by simp [enter, same]⟩

theorem members_round_next (cmap_handle iter_handle : Handle) (array_len : Int32) (s : MembersState) (k : Key)
    (keys : List Key) (r : Reading) (n : Nat) (out : Bytes) :
    wp (outcomes E) (members_round cmap_handle iter_handle array_len s)
      (fun again t => again = .inl (visit s k) ∧ t = ⟨2, keys, k.reading, n, out⟩) ⟨2, k :: keys, r, n, out⟩ := by
  simp only [members_round, perform_bind, wp_of_call, wp_ite, Prog.pure_eq, wp_ret, memset_zero]
  refine ⟨fun failed => absurd rfl failed, fun _ => ?_⟩
  refine wp_seq (store_suffix_text E _ _ _) ?_
  rintro _ _ ⟨rfl, rfl⟩
  refine wp_seq (begin_entry_text E _ _ _ _) ?_
  rintro _ _ ⟨rfl, rfl⟩
  simp only [wp_ite, wp_of_call, wp_ret]
  refine ⟨fun ip => ?_, fun notIp => ⟨fun status => ?_, fun notStatus => ?_⟩⟩
  · refine wp_seq (read_string_text E _ _ _ _ rfl) ?_
    rintro _ _ ⟨rfl, rfl⟩
    exact ⟨congrArg Sum.inl (if_pos ip).symm, rfl⟩
  · refine wp_seq (read_string_text E _ _ _ _ rfl) ?_
    rintro _ _ ⟨rfl, rfl⟩
    exact ⟨congrArg Sum.inl ((if_neg notIp).trans (if_pos status)).symm, rfl⟩
  · exact ⟨congrArg Sum.inl ((if_neg notIp).trans (if_neg notStatus)).symm, rfl⟩

theorem members_round_over (cmap_handle iter_handle : Handle) (array_len : Int32) (s : MembersState) (r : Reading) (n : Nat)
    (out : Bytes) :
    wp (outcomes E) (members_round cmap_handle iter_handle array_len s)
      (fun again t => again = .inr s.array ∧ t = ⟨2, [], r, n, out⟩) ⟨2, [], r, n, out⟩ := by
  simp only [members_round, perform_bind, wp_of_call, wp_ite, Prog.pure_eq, wp_ret]
  exact ⟨fun _ => ⟨trivial, rfl⟩, fun ok => absurd (not_ne_iff.mp ok) E.scan.ends⟩

theorem members_loop_text (cmap_handle iter_handle : Handle) (array_len : Int32) {keys : List Key} {fuel : Nat}
    (enough : keys.length < fuel) (s : MembersState) (r : Reading) (n : Nat) (out : Bytes) :
    wp (outcomes E) (loop (members_round cmap_handle iter_handle array_len) fuel s)
      (fun array t => array = (keys.foldl visit s).array ∧ ∃ r', t = ⟨2, [], r', n, out⟩) ⟨2, keys, r, n, out⟩ := by
  refine wp_loop_foldl (fun keys (t : Served) => ∃ r, t = ⟨2, keys, r, n, out⟩) ?_ ?_ enough ⟨r, rfl⟩
  · rintro s k keys _ ⟨r, rfl⟩
    exact wp_mono (members_round_next E _ _ _ s k keys r n out) fun _ _ holds => ⟨holds.1, _, holds.2⟩
  · rintro s _ ⟨r, rfl⟩
    exact wp_mono (members_round_over E _ _ _ s r n out) fun _ _ holds => ⟨holds.1, _, holds.2⟩

/-- The scan behind the count. -/
theorem get_members_text {fuel : Nat} (enough : E.scan.keys.length < fuel) (u : Uninit) (array_len : Int32) (r : Reading)
    (n : Nat) (out : Bytes) :
    wp (outcomes E) (get_members fuel u.id u.key_suffix u.entries array_len)
      (fun result t => result.2 = entries E u ∧ t.lines = n ∧ t.out = out) ⟨1, [], r, n, out⟩ := by
  simp only [get_members, perform_bind, wp_of_call, wp_ite, Prog.pure_eq, wp_ret]
  refine ⟨fun failed => ⟨(if_neg fun ok => failed ok.1).symm, rfl, rfl⟩, fun opened => ?_⟩
  refine ⟨fun failed => ⟨(if_neg fun ok => failed ok.2).symm, rfl, rfl⟩, fun begun => ?_⟩
  refine wp_seq (members_loop_text E _ _ array_len enough _ _ n out) ?_
  rintro array _ ⟨rfl, r, rfl⟩
  simp only [wp_of_call, wp_ret]
  exact ⟨(if_pos ⟨not_ne_iff.mp opened, not_ne_iff.mp begun⟩).symm, rfl, rfl⟩

/-! ### The print -/

theorem get_local_nodeid_text (id : UInt32) (t : Served) :
    wp (outcomes E) (get_local_nodeid id) (fun result t' => t' = t ∧
      result.2 = if (E.located t.lines).1 = .CS_OK ∧ (E.located t.lines).2.1 = .CS_OK then (E.located t.lines).2.2 else id) t := by
  simp only [get_local_nodeid, perform_bind, wp_of_call, wp_ite, Prog.pure_eq, wp_ret]
  refine ⟨fun failed => ⟨rfl, (if_neg fun ok => failed ok.1).symm⟩, fun opened => ?_⟩
  refine ⟨fun failed => ⟨rfl, (if_neg fun ok => failed ok.2).symm⟩, fun known => ⟨rfl, ?_⟩⟩
  exact (if_pos ⟨not_ne_iff.mp opened, not_ne_iff.mp known⟩).symm

/-- The votes of a line, and the variable that keeps the last votes. -/
theorem get_votes_text (nodeid votes : UInt32) (t : Served) :
    wp (outcomes E) (get_votes nodeid votes) (fun result t' => t' = { t with lines := t.lines + 1 } ∧
      (if result.1 = CS_OK then ascii "VOTES: " ++ decimal result.2.toNat ++ ascii "\t" else []) =
        votesText (E.votes t.lines)) t := by
  simp only [get_votes, perform_bind, wp_of_call, wp_ite, Prog.pure_eq, wp_ret]
  constructor
  · intro failed
    have failed : (E.votes t.lines).1 ≠ .CS_OK := failed
    exact ⟨rfl, by rw [votesText, if_neg (by simpa [serve] using failed), if_neg fun ok => failed ok.1]⟩
  · intro opened
    have opened : (E.votes t.lines).1 = .CS_OK := not_ne_iff.mp opened
    refine wp_seq (get_local_nodeid_text E 0 _) ?_
    rintro _ _ ⟨rfl, -⟩
    simp only [wp_of_call, wp_ite, wp_ret]
    constructor
    · intro failed
      have failed : (E.votes t.lines).2.1 ≠ .CS_OK := failed
      exact ⟨rfl, (if_neg ((code_eq_ok _).not.mpr failed)).trans (if_neg fun ok => failed ok.2).symm⟩
    · intro given
      have given : (E.votes t.lines).2.1 = .CS_OK := not_ne_iff.mp given
      exact ⟨rfl, (if_pos trivial).trans (if_pos ⟨opened, given⟩).symm⟩

theorem print_member_text (arr : Int32 → ClusterMember) (arr_len : Int32) (local_nodeid : UInt32) (i : Int32) (votes : UInt32)
    (t : Served) :
    wp (outcomes E) (print_member arr arr_len local_nodeid i votes) (fun _ t' => t'.lines = t.lines + 1 ∧
      t'.out = t.out ++ lineText (arr i) local_nodeid (votesText (E.votes t.lines))) t := by
  simp only [print_member, perform_bind, wp_of_call, Prog.pure_eq]
  refine wp_seq (get_votes_text E _ _ _) ?_
  rintro result _ ⟨rfl, votes⟩
  have votes : (if result.1 = CS_OK then ascii "VOTES: " ++ decimal result.2.toNat ++ ascii "\t" else []) =
    votesText (E.votes t.lines) := votes
  rw [← votes]
  simp only [wp_of_call, wp_ite, wp_ret, lineText, localText]
  refine ⟨fun ok => ⟨fun same => ?_, fun other => ?_⟩, fun failed => ⟨fun same => ?_, fun other => ?_⟩⟩
  · rw [if_pos ok, if_pos same]
    exact ⟨rfl, by simp [serve]⟩
  · rw [if_pos ok, if_neg other]
    exact ⟨rfl, by simp [serve]⟩
  · rw [if_neg failed, if_pos same]
    exact ⟨rfl, by simp [serve]⟩
  · rw [if_neg failed, if_neg other]
    exact ⟨rfl, by simp [serve]⟩

end

/-- A run of `print_membership` prints the text. -/
theorem print_membership_text (E : Outcomes) {fuel : Nat} (enough : E.count.keys.length < fuel ∧ E.scan.keys.length < fuel)
    (u : Uninit) : wp (outcomes E) (print_membership fuel u) (fun _ t => t.out = text E u) start := by
  simp only [print_membership]
  refine wp_seq (get_member_count_text E enough.1 _ _) ?_
  rintro _ t (⟨opened, begun, rfl, r, rfl⟩ | ⟨failed, err, none⟩)
  · rw [if_neg (by simp)]
    refine wp_seq (forEntries_wp (fun _ _ t => t = ⟨1, [], r, 0, []⟩) ?_ rfl) ?_
    · rintro i _ _ _ rfl
      exact (wp_of_call _ _ _ _ _).mpr rfl
    rintro _ _ rfl
    refine wp_seq (get_local_nodeid_text E _ _) ?_
    rintro result _ ⟨rfl, known⟩
    refine wp_seq (get_members_text E enough.2 u _ r 0 []) ?_
    rintro ⟨err, arr⟩ ⟨_, _, _, _, _⟩ ⟨rfl, rfl, rfl⟩
    simp only [perform_bind, wp_of_call, Prog.pure_eq]
    refine wp_seq (forEntries_wp (fun k _ t => t.lines = k ∧ t.out = header ++ (List.range k).flatMap (line E u)) ?_ ⟨rfl, ?_⟩) ?_
    · rintro k inside votes t ⟨rfl, printed⟩
      refine wp_mono (print_member_text E _ _ _ _ _ _) ?_
      rintro _ t' ⟨lines, out⟩
      refine ⟨lines, ?_⟩
      rw [out, printed, known, List.range_succ, List.flatMap_append, List.flatMap_singleton, List.append_assoc]
      rfl
    · simp [serve, header]
    · rintro _ t ⟨-, printed⟩
      exact printed.trans (if_pos ⟨opened, begun⟩).symm
  · rw [if_pos err]
    exact none.trans (if_neg failed).symm

end CorosyncClient.MemberText
