import CorosyncClient.CmapStore
import CorosyncClient.PrintManager
import CorosyncClient.Lists.Grouped

/-!
The keys of the members and the two scans over them. The keys of one node stand together
in the byte order of the keys, so a scan that counts the ids that differ from the one
before counts the nodes.
-/
namespace CorosyncClient.Membership
open CLib Interaction Lists CmapStore
set_option linter.unusedSimpArgs false

/-! ### Keys -/

/-- What the keys of a node begin with. -/
def nodePrefix (id : UInt32) : Bytes := generic_key_prefix ++ (decimal id.toNat ++ ascii ".")

/-- A key of a node, with its value. -/
structure Member where
  id : UInt32
  suffix : Bytes
  value : CmapValue
  nonempty : suffix ≠ []
  solid : ∀ b ∈ suffix, isspace b = false
  nul_free : 0 ∉ suffix

namespace Member

def key (m : Member) : Bytes := nodePrefix m.id ++ m.suffix

/-- The value of the key is read by `get_members`. -/
def Reads (m : Member) : Prop := m.suffix = ascii "ip" ∨ m.suffix = ascii "status"

instance (m : Member) : Decidable m.Reads := inferInstanceAs (Decidable (_ ∨ _))

/-- The characters of a string value. -/
def text (m : Member) : Bytes :=
  match m.value with
  | .string s => s.chars
  | _ => []

end Member

/-- A printed id is read back up to the dot. -/
theorem scanInt_id (id : UInt32) (rest : Bytes) :
    scanInt (decimal id.toNat ++ (ascii "." ++ rest)) = some (id.toInt32, ascii "." ++ rest) := by
  have fits : id.toNat < 2 ^ 63 := lt_trans id.toNat_lt (by decide)
  have stop : ∀ b ∈ (ascii "." ++ rest).head?, isdigit b = false := by
    simp [ascii]
    decide
  rw [scanInt, strtol_decimal fits stop, Option.map_some, Int32.ofInt_eq_ofNat, ← UInt32.toInt32_ofNat', UInt32.ofNat_toNat]

theorem toInt32_inj {a b : UInt32} : a.toInt32 = b.toInt32 ↔ a = b := by
  constructor
  · intro same
    simpa using congrArg Int32.toUInt32 same
  · rintro rfl
    rfl

/-- The number of a key ends at the first dot behind the prefix. -/
theorem key_parts_inj {start : Bytes} {a b : UInt32} {s t : Bytes}
    (same : start ++ (decimal a.toNat ++ ascii ".") ++ s = start ++ (decimal b.toNat ++ ascii ".") ++ t) :
    a = b ∧ s = t := by
  simp only [List.append_assoc, List.append_cancel_left_eq] at same
  have ids := congrArg scanInt same
  simp only [scanInt_id, Option.some.injEq, Prod.mk.injEq, toInt32_inj] at ids
  obtain ⟨rfl, rest⟩ := ids
  exact ⟨rfl, List.append_cancel_left rest⟩

/-- The keys that begin with the prefix of a node are the keys of the node. -/
theorem nodePrefix_key_iff {id : UInt32} {m : Member} : nodePrefix id <+: m.key ↔ m.id = id := by
  constructor
  · rintro ⟨rest, same⟩
    exact (key_parts_inj same).1.symm
  · rintro rfl
    exact List.prefix_append _ _

theorem Member.key_inj {a b : Member} (same : a.key = b.key) : a.id = b.id ∧ a.suffix = b.suffix :=
  key_parts_inj same

theorem scan_id_key (m : Member) : scan_id m.key = some m.id.toInt32 := by
  simp only [scan_id, Member.key, nodePrefix, List.append_assoc, scanLiteral_append, Option.bind_some, scanInt_id,
    Option.map_some]

theorem scan_member_key (m : Member) : scan_member m.key = (some m.id.toInt32, some m.suffix) := by
  simp only [scan_member, Member.key, nodePrefix, List.append_assoc, scanLiteral_append, Option.bind_some, scanInt_id,
    scanWord_eq m.nonempty m.solid]

/-! ### Contents -/

/-- What the cmap holds under `members.`: the keys in the order in which they are iterated.
    The two keys that are read hold strings. -/
structure Content where
  entries : List Member
  ascending : entries.Pairwise (fun a b => a.key < b.key)
  textual : ∀ m ∈ entries, m.Reads → m.value.type = .STRING

/-- Any keys with their values, put in order. -/
def Content.ofKeys (l : List Member) (distinct : (l.map Member.key).Nodup)
    (textual : ∀ m ∈ l, m.Reads → m.value.type = .STRING) : Content where
  entries := l.mergeSort (fun a b => a.key ≤ b.key)
  ascending := by
    have perm := l.mergeSort_perm (fun a b => a.key ≤ b.key)
    have sorted : (l.mergeSort (fun a b => a.key ≤ b.key)).Pairwise (fun a b => decide (a.key ≤ b.key)) :=
      List.pairwise_mergeSort
        (fun a b c low high => by simpa using List.le_trans (of_decide_eq_true low) (of_decide_eq_true high))
        (fun a b => by simpa using List.le_total a.key b.key) l
    have apart := List.pairwise_map.mp ((perm.map Member.key).nodup_iff.mpr distinct)
    refine (sorted.and apart).imp fun both => ?_
    exact (List.le_iff_lt_or_eq.mp (of_decide_eq_true both.1)).resolve_right both.2
  textual m member := textual m (List.mem_mergeSort.mp member)

namespace Content
variable (c : Content)

def find (key : Bytes) : Option CmapValue := (c.entries.find? (fun m => m.key = key)).map Member.value

/-- The ids of the nodes. -/
def ids : Finset UInt32 := (c.entries.map Member.id).toFinset

/-- The ids that differ from the one before them, -1 before the first. -/
def order : List UInt32 := changes 4294967295 (c.entries.map Member.id)

/-- The nodes that the scans count: all but node 4294967295 where it comes first, whose id
    they read as the -1 that stands for no node. -/
def counted : Nat := c.ids.card - if (c.entries.map Member.id).head? = some 4294967295 then 1 else 0

variable {c}

theorem find_key {m : Member} (member : m ∈ c.entries) : c.find m.key = some m.value := by
  have ascending := c.ascending
  unfold find
  generalize c.entries = entries at member ascending ⊢
  induction entries with
  | nil => simp at member
  | cons a l ih =>
    obtain ⟨before, ascending⟩ := List.pairwise_cons.mp ascending
    rcases List.mem_cons.mp member with rfl | later
    · simp
    · have less : a.key ≠ m.key := fun same => List.lt_irrefl _ (same ▸ before m later)
      simpa [less] using ih later ascending

theorem grouped : Grouped (c.entries.map Member.id) := by
  refine grouped_map (R := fun a b => a.key < b.key) ?_ c.ascending
  intro a b d low high same
  have first : nodePrefix a.id <+: a.key := nodePrefix_key_iff.mpr rfl
  have last : nodePrefix a.id <+: d.key := nodePrefix_key_iff.mpr same.symm
  exact nodePrefix_key_iff.mp (prefix_convex first last low high)

theorem order_length : c.order.length = c.counted := changes_length grouped

theorem counted_le : c.counted ≤ 2 ^ 32 := by
  have all : c.ids.card ≤ (Finset.range (2 ^ 32)).card :=
    Finset.card_le_card_of_injOn UInt32.toNat (fun id _ => by simpa using id.toNat_lt)
      (fun _ _ _ _ same => UInt32.toNat_inj.mp same)
  rw [Finset.card_range] at all
  exact (Nat.sub_le _ _).trans all

end Content

/-! ### The cmap and the services -/

/-- The accesses that stay within an array or a buffer, and those of a string that exists. -/
def InBounds : Access → Prop
  | .entry i len => 0 ≤ i ∧ i < len
  | .fill capacity size => size ≤ capacity
  | .word text => text.isSome = true

/-- The content, what it becomes once an iteration is over, the keys that the iteration
    still has to give, and what was printed. -/
structure Scan where
  now : Content
  later : Content
  rest : List Member
  out : Bytes

/-- An iteration gives each key once, in order. Where `mayFail` holds the other calls may
    fail, and then change nothing. -/
@[simps] def members (mayFail : Prop) (votes : UInt32 → UInt32) (local_nodeid : UInt32) : LibWorld Scan where
  permits _ c :=
    match c with
    | .access a => InBounds a
    | .read_stray => False
    | _ => True
  answers s c r s' :=
    match c with
    | Call.cmap_initialize => s' = s ∧ (r.1 = .CS_OK ∨ mayFail)
    | .cmap_iter_init _ key_prefix =>
      (r.1 = .CS_OK ∧ s' = { s with rest := s.now.entries.filter (fun m => key_prefix <+: m.key) }) ∨
        (mayFail ∧ r.1 ≠ .CS_OK ∧ s' = s)
    | .cmap_iter_next _ _ =>
      match s.rest with
      | m :: rest => r = (.CS_OK, m.key, m.value.len, m.value.type) ∧ s' = { s with rest := rest }
      | [] => r.1 ≠ .CS_OK ∧ s' = s
    | .cmap_iter_finalize _ _ => s' = { s with now := s.later }
    | .cmap_get _ key value_len => s' = s ∧ GetReply mayFail (s.now.find key) value_len r
    | .cmap_get_string _ key => s' = s ∧ GetStringReply mayFail (s.now.find key) r
    | Call.votequorum_initialize => s' = s ∧ (r.1 = .CS_OK ∨ mayFail)
    | .votequorum_getinfo _ n => s' = s ∧ ((r.1 = .CS_OK ∧ r.2.node_votes = votes n) ∨ (mayFail ∧ r.1 ≠ .CS_OK))
    | Call.corosync_cfg_initialize => s' = s ∧ (r.1 = .CS_OK ∨ mayFail)
    | .corosync_cfg_local_get _ => s' = s ∧ ((r.1 = .CS_OK ∧ r.2 = local_nodeid) ∨ (mayFail ∧ r.1 ≠ .CS_OK))
    | .printf text => s' = { s with out := s.out ++ text }
    | _ => s' = s

theorem filter_generic (c : Content) : c.entries.filter (fun m => generic_key_prefix <+: m.key) = c.entries := by
  refine List.filter_eq_self.mpr fun m _ => ?_
  simp [Member.key, nodePrefix]

section
variable {mayFail : Prop} {votes : UInt32 → UInt32} {local_nodeid : UInt32}

/-! ### Specs of the functions that the scans and the print call -/

/-- The error that a call leaves, where it may not fail. -/
def Reliable (mayFail : Prop) (err : Err) : Prop := ¬ mayFail → err = CS_OK

theorem reliable_failed {err : CsError} (opened : err = .CS_OK ∨ mayFail) (failed : err ≠ .CS_OK) :
    Reliable mayFail err.code := fun sound => absurd (opened.resolve_right sound) failed

/-- Nothing has changed since `s`, and a success comes with a result that satisfies `P`. -/
def Gives {α : Type} (mayFail : Prop) (s : Scan) (P : α → Prop) (out : Err × α) (t : Scan) : Prop :=
  t = s ∧ Reliable mayFail out.1 ∧ (out.1 = CS_OK → P out.2)

theorem gives_failed {α : Type} {P : α → Prop} {a : α} {err : CsError} {s : Scan} (opened : err = .CS_OK ∨ mayFail)
    (failed : err ≠ .CS_OK) : Gives mayFail s P (err.code, a) s :=
  ⟨rfl, reliable_failed opened failed, fun ok => absurd ok (by simpa using failed)⟩

theorem gives_ok {α : Type} {P : α → Prop} {a : α} {s : Scan} (holds : P a) : Gives mayFail s P (CS_OK, a) s :=
  ⟨rfl, fun _ => rfl, fun _ => holds⟩

theorem get_local_nodeid_spec (id : UInt32) (s : Scan) :
    wp (members mayFail votes local_nodeid) (get_local_nodeid id) (Gives mayFail s (· = local_nodeid)) s := by
  simp only [get_local_nodeid, wp_ite, perform_bind, wp_call, wp_ret, Prog.pure_eq, members_permits, members_answers,
    true_and, forall_eq]
  rintro ⟨err, handle⟩ _ ⟨rfl, opened⟩
  refine ⟨gives_failed opened, fun _ => ?_⟩
  rintro ⟨err, found⟩ _ ⟨rfl, ⟨ok, got⟩ | ⟨faulty, failed⟩⟩
  · exact ⟨fun failed => absurd ok failed, fun _ _ => gives_ok got⟩
  · exact ⟨fun _ _ => gives_failed (.inr faulty) failed, fun ok => absurd failed ok⟩

theorem get_votes_spec (nodeid start : UInt32) (s : Scan) :
    wp (members mayFail votes local_nodeid) (get_votes nodeid start) (Gives mayFail s (· = votes nodeid)) s := by
  simp only [get_votes, wp_ite, perform_bind, wp_call, wp_ret, Prog.pure_eq, members_permits, members_answers,
    true_and, forall_eq]
  rintro ⟨err, handle⟩ _ ⟨rfl, opened⟩
  refine ⟨gives_failed opened, fun _ => wp_seq (get_local_nodeid_spec 0 _) ?_⟩
  rintro _ _ ⟨rfl, _, _⟩
  simp only [wp_ite, wp_call, wp_ret, members_permits, members_answers, true_and, forall_eq]
  rintro ⟨err, info⟩ _ ⟨rfl, ⟨ok, got⟩ | ⟨faulty, failed⟩⟩
  · exact ⟨fun failed => absurd ok failed, fun _ _ => gives_ok (by simpa using got)⟩
  · exact ⟨fun _ _ => gives_failed (.inr faulty) failed, fun ok => absurd failed ok⟩

/-- A key that holds a string is read as a pointer to the string. -/
theorem get_cmap_value_spec {s : Scan} {key : Bytes} {str : CString} (holds : s.now.find key = some (.string str))
    (type : CmapType) :
    wp (members mayFail votes local_nodeid) (get_cmap_value key true type)
      (Gives mayFail s (fun out => out.2 = some (.string (some str)))) s := by
  simp only [get_cmap_value, wp_ite, perform_bind, wp_call, wp_ret, Prog.pure_eq, members_permits, members_answers,
    true_and, forall_eq]
  rintro ⟨err, handle⟩ _ ⟨rfl, opened⟩
  refine ⟨gives_failed opened, fun _ => ?_⟩
  rintro ⟨err, len, found, bytes⟩ _ ⟨rfl, probe⟩
  rw [holds] at probe
  refine ⟨fun failed _ => gives_failed (.inr ?_) failed, fun ok => ⟨by simp, fun _ => ?_⟩⟩
  · rcases getReply_failed probe failed with faulty | ⟨none, _⟩
    · exact faulty
    · cases none
  obtain ⟨_, same, rfl, rfl, -⟩ := getReply_ok probe (not_ne_iff.mp ok)
  obtain rfl := Option.some.inj same
  simp only [fetch_value, CmapValue.type, if_true, perform_bind, Prog.call_bind, Prog.pure_eq, Prog.ret_bind, wp_call,
    wp_ite, wp_ret, members_permits, members_answers, true_and, forall_eq]
  rintro ⟨err, got⟩ _ ⟨rfl, reply | ⟨faulty, failed⟩⟩
  · rw [holds] at reply
    obtain ⟨rfl, rfl⟩ := Prod.mk.inj reply
    exact ⟨fun failed => absurd rfl failed, fun _ _ => gives_ok rfl⟩
  · exact ⟨fun _ _ => gives_failed (.inr faulty) failed, fun ok => absurd failed ok⟩

/-- A string that fits its buffer is copied into it. -/
theorem read_string_spec {s : Scan} {key : Bytes} {str : CString} (holds : s.now.find key = some (.string str))
    (type : CmapType) {capacity : Nat} (fits : str.chars.length < capacity) (buffer : Bytes) :
    wp (members mayFail votes local_nodeid) (read_string key type capacity buffer)
      (fun copy t => t = s ∧ (¬ mayFail → copy = strcpy buffer str.chars)) s := by
  simp only [read_string, memset_zero]
  refine wp_seq (get_cmap_value_spec holds type) ?_
  rintro ⟨err, type, fetched⟩ s ⟨rfl, reliable, read⟩
  rw [wp_ite]
  refine ⟨fun ok => ?_, fun failed => ⟨rfl, fun sound => absurd (reliable sound) failed⟩⟩
  obtain rfl := read ok
  simp only [deref, Prog.pure_eq, Prog.ret_bind, perform_bind, wp_call, wp_ret, members_permits, members_answers, forall_eq]
  exact ⟨fits, fun _ => ⟨trivial, fun _ => trivial⟩⟩

/-! ### The count -/

/-- The ids that the rest of an iteration adds to those that end in `p`. -/
def Scan.ahead (s : Scan) (p : UInt32) : List UInt32 := changes p (s.rest.map Member.id)

theorem Scan.ahead_cons {s : Scan} {m : Member} {rest : List Member} (comes : s.rest = m :: rest) (p : UInt32) :
    s.ahead p = if m.id ≠ p then m.id :: changes m.id (rest.map Member.id) else changes m.id (rest.map Member.id) := by
  simp only [ahead, comes, List.map_cons, changes]

theorem ofNat_succ (n : Nat) (i : Int32) : i + 1 + Int32.ofNat n = i + Int32.ofNat (n + 1) := by
  rw [Int32.ofNat_add, Int32.add_assoc, Int32.add_comm (Int32.ofNat n)]
  rfl

/-- A round of the count takes one key, and adds one where its id is new. -/
theorem count_round_spec (handle iter_handle : Handle) {b : CountState} {p : UInt32} (last : b.prev = p.toInt32) (s : Scan) :
    wp (members mayFail votes local_nodeid) (count_round handle iter_handle b)
      (fun out t => Sum.elim
        (fun again => t.rest.length < s.rest.length ∧ ∃ q, again.prev = UInt32.toInt32 q ∧
          again.total + Int32.ofNat (t.ahead q).length = b.total + Int32.ofNat (s.ahead p).length ∧
          t = { s with rest := t.rest })
        (fun total => total = b.total + Int32.ofNat (s.ahead p).length ∧ t = { s with rest := [] }) out) s := by
  simp only [count_round, perform_bind, Prog.pure_eq, wp_call, members_permits, true_and]
  rintro ⟨err, key_name, len, type⟩ t answered
  cases comes : s.rest with
  | nil =>
    simp only [members_answers, comes] at answered
    obtain ⟨failed, rfl⟩ := answered
    rw [wp_ite]
    exact ⟨fun _ => ⟨by simp [Scan.ahead, comes, changes], by rw [← comes]⟩, fun ok => absurd failed ok⟩
  | cons m rest =>
    simp only [members_answers, comes] at answered
    obtain ⟨read, rfl⟩ := answered
    obtain ⟨rfl, rfl, rfl, rfl⟩ := Prod.mk.inj read |>.imp id (fun rest => Prod.mk.inj rest |>.imp id Prod.mk.inj)
    simp only [scan_id_key, Option.getD_some, wp_ite, wp_ret, last, ne_eq, toInt32_inj]
    refine ⟨fun failed => absurd trivial failed, fun _ => ⟨fun new => ?_, fun same => ?_⟩⟩
    · refine ⟨by simp, m.id, rfl, ?_, trivial⟩
      rw [Scan.ahead_cons comes, if_pos new, List.length_cons, ← ofNat_succ]
      rfl
    · refine ⟨by simp, m.id, by simp [last, not_not.mp same], ?_, trivial⟩
      rw [Scan.ahead_cons comes, if_neg same]
      rfl

theorem count_loop_spec (handle iter_handle : Handle) {fuel : Nat} {b : CountState} {p : UInt32}
    (last : b.prev = p.toInt32) {s : Scan} (enough : s.rest.length < fuel) :
    wp (members mayFail votes local_nodeid) (loop (count_round handle iter_handle) fuel b)
      (fun total t => total = b.total + Int32.ofNat (s.ahead p).length ∧ t = { s with rest := [] }) s := by
  refine wp_loop (fun b' t => ∃ q, b'.prev = UInt32.toInt32 q ∧
    b'.total + Int32.ofNat (t.ahead q).length = b.total + Int32.ofNat (s.ahead p).length ∧
    t = { s with rest := t.rest }) (fun t => t.rest.length) ?_ enough ⟨p, last, rfl, rfl⟩
  rintro b' t ⟨q, last', total, same⟩
  refine wp_mono (count_round_spec handle iter_handle last' t) ?_
  rintro (again | result) t'
  · rintro ⟨fewer, q', last'', total', same'⟩
    exact ⟨⟨q', last'', total'.trans total, same'.trans (by rw [same])⟩, fewer⟩
  · rintro ⟨rfl, rfl⟩
    exact ⟨total, by rw [same]⟩

/-! ### Iterations -/

/-- The frame of the two scans: an iteration over the members, with its handles. -/
def iterating {γ : Type} (fallback : γ) (scan : Handle → Handle → Client γ) : Client (Err × γ) := do
  let (err, cmap_handle) ← cmap_initialize
  if err ≠ .CS_OK then
    return (err.code, fallback)
  let (err, iter_handle) ← cmap_iter_init cmap_handle generic_key_prefix
  if err ≠ .CS_OK then
    let _ ← cmap_finalize cmap_handle
    return (err.code, fallback)
  let result ← scan cmap_handle iter_handle
  let _ ← cmap_iter_finalize cmap_handle iter_handle
  let _ ← cmap_finalize cmap_handle
  return (CS_OK, result)

theorem get_member_count_eq (fuel : Nat) (id count : Int32) :
    get_member_count fuel id count =
      iterating count (fun h i => loop (count_round h i) fuel { id := id, prev := -1, total := 0 }) := rfl

theorem get_members_eq (fuel : Nat) (id : Int32) (key_suffix : Bytes) (array : Int32 → ClusterMember) (array_len : Int32) :
    get_members fuel id key_suffix array array_len = iterating array (fun h i => loop (members_round h i array_len) fuel
      { id := id, prev := -1, i := -1, key_suffix := key_suffix, array := array }) := rfl

/-- How an iteration from `s` ends, where its scan ends with `P`. -/
def IterationEnd {γ : Type} (mayFail : Prop) (P : γ → Scan → Prop) (out : Err × γ) (t : Scan) : Prop :=
  Reliable mayFail out.1 ∧ (out.1 = CS_OK → ∃ u, P out.2 u ∧ t = { u with now := u.later })

theorem iterating_wp {γ : Type} {fallback : γ} {scan : Handle → Handle → Client γ} {P : γ → Scan → Prop} {s : Scan}
    (scans : ∀ h i, wp (members mayFail votes local_nodeid) (scan h i) P { s with rest := s.now.entries }) :
    wp (members mayFail votes local_nodeid) (iterating fallback scan) (IterationEnd mayFail P) s := by
  simp only [iterating, wp_ite, perform_bind, wp_call, wp_ret, Prog.pure_eq, members_permits, members_answers,
    true_and, forall_eq, filter_generic]
  rintro ⟨err, handle⟩ _ ⟨rfl, opened⟩
  refine ⟨fun failed => ⟨reliable_failed opened failed, fun ok => absurd ok (by simpa using failed)⟩, fun _ => ?_⟩
  rintro ⟨err, iter_handle⟩ _ (⟨ok, rfl⟩ | ⟨faulty, failed, rfl⟩)
  · refine ⟨fun failed => absurd ok failed, fun _ => wp_seq (scans handle iter_handle) fun result t ends => ?_⟩
    simp only [wp_call, wp_ret, members_permits, members_answers, true_and, forall_eq]
    exact fun _ _ => ⟨fun _ => rfl, fun _ => ⟨t, ends, rfl⟩⟩
  · refine ⟨fun _ _ => ⟨fun sound => absurd faulty sound, fun ok => ?_⟩, fun ok => absurd failed ok⟩
    exact absurd ok (by simpa using failed)

theorem iterating_wlp {γ : Type} {fallback : γ} {scan : Handle → Handle → Client γ} {P : γ → Scan → Prop} {s : Scan}
    (scans : ∀ h i, wlp (members mayFail votes local_nodeid) (scan h i) P { s with rest := s.now.entries }) :
    wlp (members mayFail votes local_nodeid) (iterating fallback scan) (IterationEnd mayFail P) s := by
  simp only [iterating, wlp_ite, perform_bind, wlp_call, wlp_ret, Prog.pure_eq, members_permits, members_answers,
    true_and, forall_eq, filter_generic]
  rintro ⟨err, handle⟩ _ ⟨rfl, opened⟩
  refine ⟨fun failed => ⟨reliable_failed opened failed, fun ok => absurd ok (by simpa using failed)⟩, fun _ => ?_⟩
  rintro ⟨err, iter_handle⟩ _ (⟨ok, rfl⟩ | ⟨faulty, failed, rfl⟩)
  · refine ⟨fun failed => absurd ok failed, fun _ => wlp_seq (scans handle iter_handle) fun result t ends => ?_⟩
    simp only [wlp_call, wlp_ret, members_permits, members_answers, true_and, forall_eq]
    exact fun _ _ => ⟨fun _ => rfl, fun _ => ⟨t, ends, rfl⟩⟩
  · refine ⟨fun _ _ => ⟨fun sound => absurd faulty sound, fun ok => ?_⟩, fun ok => absurd failed ok⟩
    exact absurd ok (by simpa using failed)

/-- What a successful count from `s` leaves. -/
def Counted (s : Scan) (count : Int32) (t : Scan) : Prop :=
  count = Int32.ofNat s.now.order.length ∧ t = { s with rest := [] }

theorem count_scan_spec (handle iter_handle : Handle) (id : Int32) {fuel : Nat} {s : Scan}
    (enough : s.now.entries.length < fuel) :
    wp (members mayFail votes local_nodeid) (loop (count_round handle iter_handle) fuel { id := id, prev := -1, total := 0 })
      (Counted s) { s with rest := s.now.entries } := by
  have last : (-1 : Int32) = UInt32.toInt32 4294967295 := by decide
  refine wp_mono (count_loop_spec handle iter_handle last enough) ?_
  rintro count t ⟨total, same⟩
  exact ⟨by simpa [Scan.ahead, Content.order] using total, same⟩

theorem get_member_count_wp (id count : Int32) {fuel : Nat} {s : Scan} (enough : s.now.entries.length < fuel) :
    wp (members mayFail votes local_nodeid) (get_member_count fuel id count) (IterationEnd mayFail (Counted s)) s := by
  rw [get_member_count_eq]
  exact iterating_wp fun h i => count_scan_spec h i id enough

theorem get_member_count_wlp (id count : Int32) (fuel : Nat) (s : Scan) :
    wlp (members mayFail votes local_nodeid) (get_member_count fuel id count) (IterationEnd mayFail (Counted s)) s := by
  rw [get_member_count_eq]
  exact iterating_wlp fun h i => wlp_loop_of_wp (count_scan_spec h i id (Nat.lt_succ_self _)) fuel

end

end CorosyncClient.Membership
