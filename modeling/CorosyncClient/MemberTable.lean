import CorosyncClient.MemberBounds

/-!
The membership table of an unchanging cmap: `print_membership` prints one line for each
node, with the strings under the keys of that node.
-/
namespace CorosyncClient.Membership
open CLib Interaction Lists
set_option linter.unusedSimpArgs false

/-! ### The strings of a node -/

/-- The string under a key of a node. -/
def Content.text (c : Content) (id : UInt32) (suffix : Bytes) : Bytes :=
  match c.find (nodePrefix id ++ suffix) with
  | some (.string s) => s.chars
  | _ => []

theorem Content.text_member {c : Content} {m : Member} (member : m ∈ c.entries) : c.text m.id m.suffix = m.text := by
  have found : c.find (nodePrefix m.id ++ m.suffix) = some m.value := find_key member
  unfold Content.text Member.text
  rw [found]
  cases m.value <;> rfl

/-- What a buffer holds once the strings under a suffix are copied into it. -/
def lastText (suffix : Bytes) (buffer : Bytes) (l : List Member) : Bytes :=
  l.foldl (fun buffer m => if m.suffix = suffix then strcpy buffer m.text else buffer) buffer

theorem Member.text_nul_free (m : Member) : 0 ∉ m.text := by
  unfold Member.text
  split
  · rename_i s _
    exact s.nul_free
  · simp

theorem lastText_eq {suffix buffer text : Bytes} {l : List Member} (all : ∀ m ∈ l, m.suffix = suffix → m.text = text)
    (one : cstr buffer = text ∨ ∃ m ∈ l, m.suffix = suffix) : cstr (lastText suffix buffer l) = text := by
  induction l generalizing buffer with
  | nil => simpa [lastText] using one
  | cons m l ih =>
    refine ih (fun m' later => all m' (by simp [later])) ?_
    by_cases here : m.suffix = suffix
    · refine .inl ?_
      simp only [here, if_true, ← all m (by simp) here]
      exact cstr_strcpy _ m.text_nul_free
    · simpa [here] using one

/-! ### The entries -/

/-- The entry of a node once all its keys `l` are stored. -/
def ClusterMember.filled (entry : ClusterMember) (l : List Member) : ClusterMember :=
  { entry with ip := lastText (ascii "ip") entry.ip l, status := lastText (ascii "status") entry.status l }

theorem filled_store (entry : ClusterMember) (m : Member) (l : List Member) :
    ClusterMember.filled (ClusterMember.store entry m false) l = ClusterMember.filled entry (m :: l) := by
  simp [ClusterMember.filled, ClusterMember.store, lastText]

theorem filled_store_new (entry : ClusterMember) (m : Member) (l : List Member) :
    ClusterMember.filled (ClusterMember.store entry m true) l =
      ClusterMember.filled { entry with nodeid := m.id.toInt32 } (m :: l) := by
  simp [ClusterMember.filled, ClusterMember.store, lastText]

theorem ofNat_inj {a b : Nat} (low : a < 2 ^ 32) (low' : b < 2 ^ 32) : UInt32.ofNat a = UInt32.ofNat b ↔ a = b := by
  rw [← UInt32.toNat_inj, UInt32.toNat_ofNat_of_lt' low, UInt32.toNat_ofNat_of_lt' low']

theorem index_inj {i : Int32} {a b : Nat} (low : a < 2 ^ 32) (low' : b < 2 ^ 32) :
    i + Int32.ofNat a = i + Int32.ofNat b ↔ a = b := by
  rw [Int32.add_right_inj]
  constructor
  · exact fun same => (ofNat_inj low low').mp (congrArg Int32.toUInt32 same)
  · rintro rfl
    rfl

theorem index_ne {i : Int32} {k : Nat} (low : k + 1 < 2 ^ 32) : i ≠ i + Int32.ofNat (k + 1) := by
  have apart : i + Int32.ofNat 0 ≠ i + Int32.ofNat (k + 1) := (index_inj (by decide) low).not.mpr (by omega)
  simpa using apart

/-- No other entries are written. -/
theorem placeAll_other {p : UInt32} {i j : Int32} {array : Int32 → ClusterMember} {l : List Member} (here : j ≠ i)
    (ahead : ∀ k < (changes p (l.map Member.id)).length, j ≠ i + Int32.ofNat (k + 1)) : placeAll p i array l j = array j := by
  induction l generalizing p i array with
  | nil => rfl
  | cons m l ih =>
    rw [List.map_cons] at ahead
    by_cases same : m.id = p
    · have next : slot p i m = i := by simp [slot, same]
      rw [same, changes_cons_self] at ahead
      rw [placeAll, next, same, ih here ahead, place, next, Function.update_of_ne here]
    · have next : slot p i m = i + 1 := by simp [slot, same]
      rw [changes_cons_of_ne same, List.length_cons] at ahead
      have here' : j ≠ i + 1 := by simpa using ahead 0 (by omega)
      have ahead' : ∀ k < (changes m.id (l.map Member.id)).length, j ≠ i + 1 + Int32.ofNat (k + 1) := fun k inside => by
        rw [ofNat_succ]
        exact ahead (k + 1) (by omega)
      rw [placeAll, next, ih here' ahead', place, next, Function.update_of_ne here']

/-- The entry that a scan begins with receives the keys at the front. -/
theorem placeAll_here {p : UInt32} {i : Int32} {array : Int32 → ClusterMember} {l : List Member}
    (few : (changes p (l.map Member.id)).length < 2 ^ 32) :
    placeAll p i array l i = ClusterMember.filled (array i) (l.takeWhile (fun m => m.id = p)) := by
  induction l generalizing array with
  | nil => rfl
  | cons m l ih =>
    rw [List.map_cons] at few
    by_cases same : m.id = p
    · have next : slot p i m = i := by simp [slot, same]
      rw [same, changes_cons_self] at few
      rw [placeAll, next, same, ih few, place, next, Function.update_self, List.takeWhile_cons_of_pos (by simpa using same),
        ← filled_store]
      simp [same]
    · have next : slot p i m = i + 1 := by simp [slot, same]
      rw [changes_cons_of_ne same, List.length_cons] at few
      have before : i ≠ i + 1 := by simp
      have ahead : ∀ k < (changes m.id (l.map Member.id)).length, i ≠ i + 1 + Int32.ofNat (k + 1) := fun k inside => by
        rw [ofNat_succ]
        exact index_ne (by omega)
      rw [placeAll, next, placeAll_other before ahead, place, next, Function.update_of_ne before,
        List.takeWhile_cons_of_neg (by simpa using same)]
      rfl

/-- The entries after it receive the keys of the ids that are new, one entry each. -/
theorem placeAll_ahead {p : UInt32} {i : Int32} {array : Int32 → ClusterMember} {l : List Member}
    (grouped : Grouped (l.map Member.id)) (few : (changes p (l.map Member.id)).length < 2 ^ 32) {k : Nat} {n : UInt32}
    (comes : (changes p (l.map Member.id))[k]? = some n) :
    placeAll p i array l (i + Int32.ofNat (k + 1)) =
      ClusterMember.filled { array (i + Int32.ofNat (k + 1)) with nodeid := n.toInt32 } (l.filter (fun m => m.id = n)) := by
  induction l generalizing p i array k with
  | nil => simp [changes] at comes
  | cons m l ih =>
    rw [List.map_cons] at few comes
    have inside := (List.getElem?_eq_some_iff.mp comes).1
    by_cases same : m.id = p
    · have next : slot p i m = i := by simp [slot, same]
      rw [same, changes_cons_self] at few comes inside
      have other : m.id ≠ n := by
        rintro rfl
        have member := List.mem_of_getElem? comes
        rw [← same] at member
        exact not_mem_changes grouped member
      have apart : i + Int32.ofNat (k + 1) ≠ i := (index_ne (by omega)).symm
      rw [placeAll, next, same, ih grouped.2 few comes, place, next, Function.update_of_ne apart,
        List.filter_cons_of_neg (by simpa using other)]
    · have next : slot p i m = i + 1 := by simp [slot, same]
      rw [changes_cons_of_ne same] at few comes inside
      rw [List.length_cons] at few inside
      cases k with
      | zero =>
        obtain rfl : m.id = n := by simpa using comes
        have front : i + Int32.ofNat (0 + 1) = i + 1 := rfl
        rw [placeAll, next, front, placeAll_here (by omega), place, next, Function.update_self,
          List.filter_cons_of_pos (by simp), ← takeWhile_grouped grouped.2 grouped.1, ← filled_store_new]
        simp [same]
      | succ k =>
        have comes' : (changes m.id (l.map Member.id))[k]? = some n := by simpa using comes
        have other : m.id ≠ n := by
          rintro rfl
          exact not_mem_changes grouped (List.mem_of_getElem? comes')
        have apart : i + 1 + Int32.ofNat (k + 1) ≠ i + 1 := (index_ne (by omega)).symm
        rw [← ofNat_succ, placeAll, next, ih grouped.2 (by omega) comes', place, next, Function.update_of_ne apart,
          List.filter_cons_of_neg (by simpa using other)]

/-! ### The table -/

/-- A content in which each node has its two strings, and every string fits. -/
structure Content.Regular (c : Content) : Prop where
  no_sentinel : 4294967295 ∉ c.ids
  fits : ∀ m ∈ c.entries, m.Fits
  ip : ∀ n ∈ c.ids, ∃ m ∈ c.entries, m.id = n ∧ m.suffix = ascii "ip"
  status : ∀ n ∈ c.ids, ∃ m ∈ c.entries, m.id = n ∧ m.suffix = ascii "status"

/-- The first entries of the array are those of the nodes, and no others are written. -/
structure Table (c : Content) (nodes : List UInt32) (before after : Int32 → ClusterMember) : Prop where
  nodeid : ∀ k n, nodes[k]? = some n → (after (Int32.ofNat k)).nodeid.toUInt32 = n
  ip : ∀ k n, nodes[k]? = some n → cstr (after (Int32.ofNat k)).ip = c.text n (ascii "ip")
  status : ∀ k n, nodes[k]? = some n → cstr (after (Int32.ofNat k)).status = c.text n (ascii "status")
  others : ∀ j, (∀ k < nodes.length, j ≠ Int32.ofNat k) → after j = before j

/-- The line of a node. -/
def Content.line (c : Content) (votes : UInt32 → UInt32) (local_nodeid n : UInt32) : Bytes :=
  ascii "Node " ++ decimalInt n.toInt32.toInt ++ ascii "\t" ++ (ascii "IP: " ++ c.text n (ascii "ip") ++ ascii "\t") ++
    (ascii "STATUS: " ++ c.text n (ascii "status") ++ ascii "\t") ++
    (ascii "VOTES: " ++ decimal (votes n).toNat ++ ascii "\t") ++
    (if n = local_nodeid then ascii "(local)" else []) ++ ascii "\n"

theorem filled_text {c : Content} {n : UInt32} {suffix : Bytes} (one : ∃ m ∈ c.entries, m.id = n ∧ m.suffix = suffix) (buffer : Bytes) :
    cstr (lastText suffix buffer (c.entries.filter (fun m => m.id = n))) = c.text n suffix := by
  refine lastText_eq ?_ (.inr ?_)
  · intro m inside isSuffix
    obtain ⟨member, isNode⟩ := List.mem_filter.mp inside
    rw [← c.text_member member, of_decide_eq_true isNode, isSuffix]
  · obtain ⟨m, member, isNode, isSuffix⟩ := one
    exact ⟨m, List.mem_filter.mpr ⟨member, by simpa using isNode⟩, isSuffix⟩

section
variable {c : Content} (regular : c.Regular)
include regular

theorem not_first : (c.entries.map Member.id).head? ≠ some 4294967295 := by
  intro first
  exact regular.no_sentinel (List.mem_toFinset.mpr (List.mem_of_mem_head? first))

theorem counted_eq : c.counted = c.ids.card := by
  rw [Content.counted, if_neg (not_first regular), Nat.sub_zero]

theorem order_ids : c.order.toFinset = c.ids := by
  ext n
  rw [List.mem_toFinset, Content.order, mem_changes c.grouped, Content.ids, List.mem_toFinset]
  simp only [not_first regular, and_false, not_false_eq_true, and_true]

theorem bounded_of_regular (few : c.ids.card < 2 ^ 31) : Bounded c c where
  fits := regular.fits
  sentinel first := absurd first (not_first regular)
  room := by
    rw [counted_eq regular]
    exact .inr ⟨le_rfl, few⟩

theorem placeAll_table (few : c.ids.card < 2 ^ 31) (array : Int32 → ClusterMember) :
    Table c c.order array (placeAll 4294967295 (-1) array c.entries) := by
  have length : c.order.length < 2 ^ 32 := by
    rw [Content.order_length, counted_eq regular]
    omega
  have index : ∀ k, (-1 : Int32) + Int32.ofNat (k + 1) = Int32.ofNat k := fun k => by
    rw [← ofNat_succ]
    simp
  have entry : ∀ k n, c.order[k]? = some n → placeAll 4294967295 (-1) array c.entries (Int32.ofNat k) =
      ClusterMember.filled { array (Int32.ofNat k) with nodeid := n.toInt32 } (c.entries.filter (fun m => m.id = n)) :=
    fun k n comes => by
      rw [← index k]
      exact placeAll_ahead c.grouped length comes
  have isNode : ∀ k n, c.order[k]? = some n → n ∈ c.ids := fun k n comes => by
    rw [← order_ids regular]
    exact List.mem_toFinset.mpr (List.mem_of_getElem? comes)
  refine ⟨fun k n comes => ?_, fun k n comes => ?_, fun k n comes => ?_, fun j other => ?_⟩
  · simp [entry k n comes, ClusterMember.filled]
  · rw [entry k n comes]
    exact filled_text (regular.ip n (isNode k n comes)) _
  · rw [entry k n comes]
    exact filled_text (regular.status n (isNode k n comes)) _
  · by_cases front : j = -1
    · subst front
      have none : c.entries.takeWhile (fun m => m.id = 4294967295) = [] := by
        refine List.eq_nil_iff_forall_not_mem.mpr fun m inside => ?_
        exact not_first regular ((mem_takeWhile_grouped c.grouped).mp inside).1
      rw [placeAll_here length, none]
      rfl
    · refine placeAll_other front fun k inside => ?_
      rw [index]
      exact other k inside

end

theorem memberLine_eq {c : Content} {nodes : List UInt32} {before after : Int32 → ClusterMember}
    (table : Table c nodes before after) (votes : UInt32 → UInt32) (local_nodeid : UInt32) {k : Nat} {n : UInt32}
    (comes : nodes[k]? = some n) :
    memberLine votes local_nodeid (after (Int32.ofNat k)) = c.line votes local_nodeid n := by
  have same : (after (Int32.ofNat k)).nodeid = n.toInt32 := by
    simp [← table.nodeid k n comes]
  simp [memberLine, Content.line, table.ip k n comes, table.status k n comes, same]

theorem flatMap_range {α β : Type} {f : Nat → List β} {g : α → List β} {l : List α}
    (same : ∀ k a, l[k]? = some a → f k = g a) : (List.range l.length).flatMap f = l.flatMap g := by
  have maps : (List.range l.length).map f = l.map g := by
    refine List.ext_getElem (by simp) fun k low high => ?_
    rw [List.length_map] at high
    simpa using same k _ (List.getElem?_eq_getElem high)
  rw [List.flatMap_def, List.flatMap_def, maps]

/-! ### The programs -/

section
variable {c : Content} (regular : c.Regular) {fuel : Nat} (enough : c.entries.length < fuel) {votes : UInt32 → UInt32}
  {local_nodeid : UInt32} (rest : List Member) (out : Bytes)
include regular enough

theorem get_member_count_table (id count : Int32) :
    wp (members False votes local_nodeid) (get_member_count fuel id count)
      (fun r t => r = (CS_OK, Int32.ofNat c.ids.card) ∧ t = ⟨c, c, [], out⟩) ⟨c, c, rest, out⟩ := by
  refine wp_mono (get_member_count_wp id count enough) ?_
  rintro ⟨err, total⟩ t ⟨sound, ends⟩
  obtain rfl := sound not_false
  obtain ⟨_, ⟨rfl, rfl⟩, rfl⟩ := ends rfl
  rw [Content.order_length, counted_eq regular]
  exact ⟨rfl, rfl⟩

variable (few : c.ids.card < 2 ^ 31)
include few

theorem get_members_table (id : Int32) (key_suffix : Bytes) (array : Int32 → ClusterMember) :
    wp (members False votes local_nodeid) (get_members fuel id key_suffix array (Int32.ofNat c.ids.card))
      (fun r t => r.1 = CS_OK ∧ Table c c.order array r.2 ∧ t = ⟨c, c, [], out⟩) ⟨c, c, rest, out⟩ := by
  have safe := (scanSafe_iff_bounded c c).mpr (bounded_of_regular regular few)
  rw [counted_eq regular] at safe
  refine wp_mono (get_members_wp id key_suffix array safe enough) ?_
  rintro ⟨err, after⟩ t ⟨sound, ends⟩
  obtain rfl := sound not_false
  obtain ⟨_, ⟨rfl, placed⟩, rfl⟩ := ends rfl
  rw [placed not_false]
  exact ⟨rfl, placeAll_table regular few array, rfl⟩

theorem print_membership_table (u : Uninit) :
    wp (members False votes local_nodeid) (print_membership fuel u)
      (fun err t => err = CS_OK ∧ t.out = out ++ ascii "\nMembership information\n" ++ ascii "----------------------\n" ++
        c.order.flatMap (c.line votes local_nodeid)) ⟨c, c, rest, out⟩ := by
  have length : (Int32.ofNat c.ids.card).toInt.toNat = c.order.length := by
    rw [Int32.toInt_ofNat_of_lt few, Content.order_length, counted_eq regular, Int.toNat_natCast]
  unfold print_membership
  refine wp_seq (get_member_count_table regular enough rest out _ _) ?_
  rintro _ _ ⟨rfl, rfl⟩
  simp only [ne_eq, not_true, if_false]
  refine wp_seq (malloc_entries_spec _ _) ?_
  rintro _ _ rfl
  refine wp_seq (get_local_nodeid_spec _ _) ?_
  rintro ⟨err, here⟩ _ ⟨rfl, sound, found⟩
  obtain rfl : here = _ := found (sound not_false)
  refine wp_seq (get_members_table regular enough _ out few _ _ _) ?_
  rintro ⟨_, arr⟩ _ ⟨rfl, table, rfl⟩
  simp only [perform_bind, Prog.pure_eq, wp_call, members_permits, members_answers, true_and, forall_eq]
  refine fun _ _ => wp_seq (print_members_spec _ _ _ _ _) ?_
  rintro _ _ ⟨lines, rfl, printed⟩
  refine ⟨rfl, ?_⟩
  rw [printed not_false, length, flatMap_range fun k n comes => memberLine_eq table votes here comes]

end

/-- In a cmap that does not change, the count is the number of nodes, the array gets one
    entry for each node and the print one line for each, the local node marked. -/
theorem membership_table {c : Content} (regular : c.Regular) (few : c.ids.card < 2 ^ 31) {fuel : Nat}
    (enough : c.entries.length < fuel) (votes : UInt32 → UInt32) (local_nodeid : UInt32) (rest : List Member) (out : Bytes) :
    ∃ nodes : List UInt32, nodes.Nodup ∧ nodes.toFinset = c.ids ∧
      (∀ id count, Returns (members False votes local_nodeid) (get_member_count fuel id count) ⟨c, c, rest, out⟩
        (fun r _ => r.1 = CS_OK ∧ r.2.toInt = c.ids.card)) ∧
      (∀ id key_suffix array, Returns (members False votes local_nodeid)
        (get_members fuel id key_suffix array (Int32.ofNat c.ids.card)) ⟨c, c, rest, out⟩
        (fun r _ => r.1 = CS_OK ∧ Table c nodes array r.2)) ∧
      ∀ u, Returns (members False votes local_nodeid) (print_membership fuel u) ⟨c, c, rest, out⟩
        (fun err t => err = CS_OK ∧ t.out = out ++ ascii "\nMembership information\n" ++
          ascii "----------------------\n" ++ nodes.flatMap (c.line votes local_nodeid)) := by
  have live : ∀ s call, (members False votes local_nodeid).permits s call →
      ∃ r s', (members False votes local_nodeid).answers s call r s' := fun s call _ => members_live s call
  refine ⟨c.order, changes_nodup c.grouped, order_ids regular, fun id count => ?_, fun id key_suffix array => ?_, fun u => ?_⟩
  · refine returns_of_wp live (wp_mono (get_member_count_table regular enough rest out id count) ?_)
    rintro _ _ ⟨rfl, -⟩
    exact ⟨rfl, Int32.toInt_ofNat_of_lt few⟩
  · refine returns_of_wp live (wp_mono (get_members_table regular enough rest out few id key_suffix array) ?_)
    exact fun _ _ ⟨ok, table, _⟩ => ⟨ok, table⟩
  · exact returns_of_wp live (print_membership_table regular enough rest out few u)

theorem ipKey_fits (id : UInt32) : (ipKey id).Fits where
  suffix := show (ascii "ip").length < 64 by decide
  ip _ := show (ascii "11.0.0.1").length < INET6_ADDRSTRLEN by decide
  status _ := show (ascii "11.0.0.1").length < 32 by decide

theorem statusKey_fits (id : UInt32) : (statusKey id).Fits where
  suffix := show (ascii "status").length < 64 by decide
  ip _ := show (ascii "joined").length < INET6_ADDRSTRLEN by decide
  status _ := show (ascii "joined").length < 32 by decide

theorem twoNodes_ids {n : UInt32} : n ∈ twoNodes.ids ↔ n = 1 ∨ n = 2 := by
  simp [Content.ids, twoNodes, ipKey, statusKey]

theorem twoNodes_regular : twoNodes.Regular where
  no_sentinel := by decide
  fits := by
    intro m member
    simp only [twoNodes, List.mem_cons, List.not_mem_nil, or_false] at member
    rcases member with rfl | rfl | rfl | rfl
    · exact ipKey_fits 1
    · exact statusKey_fits 1
    · exact ipKey_fits 2
    · exact statusKey_fits 2
  ip := by
    intro n inside
    rcases twoNodes_ids.mp inside with rfl | rfl
    · exact ⟨ipKey 1, by simp [twoNodes], rfl, rfl⟩
    · exact ⟨ipKey 2, by simp [twoNodes], rfl, rfl⟩
  status := by
    intro n inside
    rcases twoNodes_ids.mp inside with rfl | rfl
    · exact ⟨statusKey 1, by simp [twoNodes], rfl, rfl⟩
    · exact ⟨statusKey 2, by simp [twoNodes], rfl, rfl⟩

theorem membership_table_twoNodes : ∃ nodes : List UInt32, nodes.Nodup ∧ nodes.toFinset = twoNodes.ids ∧
    (∀ id count, Returns (members False (fun _ => 1) 2) (get_member_count 5 id count) ⟨twoNodes, twoNodes, [], []⟩
      (fun r _ => r.1 = CS_OK ∧ r.2.toInt = twoNodes.ids.card)) ∧
    (∀ id key_suffix array, Returns (members False (fun _ => 1) 2)
      (get_members 5 id key_suffix array (Int32.ofNat twoNodes.ids.card)) ⟨twoNodes, twoNodes, [], []⟩
      (fun r _ => r.1 = CS_OK ∧ Table twoNodes nodes array r.2)) ∧
    ∀ u, Returns (members False (fun _ => 1) 2) (print_membership 5 u) ⟨twoNodes, twoNodes, [], []⟩
      (fun err t => err = CS_OK ∧ t.out = [] ++ ascii "\nMembership information\n" ++
        ascii "----------------------\n" ++ nodes.flatMap (twoNodes.line (fun _ => 1) 2)) :=
  membership_table twoNodes_regular (by decide) (by decide) (fun _ => 1) 2 [] []

/-! ### More nodes than an `int` can count -/

/-- The keys of the nodes from 0 up to `n`. -/
def crowdKeys (n : Nat) : List Member :=
  (List.range n).map (fun k => ipKey (UInt32.ofNat k)) ++ (List.range n).map (fun k => statusKey (UInt32.ofNat k))

theorem mem_crowdKeys {n : Nat} {m : Member} :
    m ∈ crowdKeys n ↔ ∃ k < n, m = ipKey (UInt32.ofNat k) ∨ m = statusKey (UInt32.ofNat k) := by
  simp only [crowdKeys, List.mem_append, List.mem_map, List.mem_range, ← exists_or, ← and_or_left, eq_comm]

theorem crowdKeys_distinct {n : Nat} (low : n ≤ 2 ^ 32) : ((crowdKeys n).map Member.key).Nodup := by
  have each : ∀ keyOf : UInt32 → Member, (∀ id, (keyOf id).id = id) →
      ((List.range n).map fun k => (keyOf (UInt32.ofNat k)).key).Nodup := by
    intro keyOf id
    refine List.Nodup.map_on (fun a inA b inB same => ?_) List.nodup_range
    have ids := (Member.key_inj same).1
    rw [id, id] at ids
    exact (ofNat_inj ((List.mem_range.mp inA).trans_le low) ((List.mem_range.mp inB).trans_le low)).mp ids
  rw [crowdKeys, List.map_append, List.map_map, List.map_map]
  refine List.Nodup.append (each ipKey fun _ => rfl) (each statusKey fun _ => rfl) ?_
  intro key first last
  obtain ⟨a, -, rfl⟩ := List.mem_map.mp first
  obtain ⟨b, -, same⟩ := List.mem_map.mp last
  have other : ascii "status" ≠ ascii "ip" := by decide
  exact other (Member.key_inj same).2

theorem crowdKeys_fit {n : Nat} {m : Member} (member : m ∈ crowdKeys n) : m.Fits ∧ m.value.type = .STRING := by
  obtain ⟨k, -, rfl | rfl⟩ := mem_crowdKeys.mp member
  · exact ⟨ipKey_fits _, rfl⟩
  · exact ⟨statusKey_fits _, rfl⟩

def crowd : Content :=
  Content.ofKeys (crowdKeys (2 ^ 31)) (crowdKeys_distinct (by decide)) (fun _ member _ => (crowdKeys_fit member).2)

theorem mem_crowd {m : Member} : m ∈ crowd.entries ↔ m ∈ crowdKeys (2 ^ 31) := List.mem_mergeSort

theorem mem_crowd_ids {id : UInt32} : id ∈ crowd.ids ↔ id.toNat < 2 ^ 31 := by
  simp only [Content.ids, List.mem_toFinset, List.mem_map, mem_crowd, mem_crowdKeys]
  constructor
  · rintro ⟨m, ⟨k, low, rfl | rfl⟩, rfl⟩
    all_goals
      change (UInt32.ofNat k).toNat < _
      rwa [UInt32.toNat_ofNat_of_lt' (low.trans (by decide))]
  · intro low
    exact ⟨ipKey id, ⟨id.toNat, low, .inl (by simp)⟩, rfl⟩

theorem crowd_card : crowd.ids.card = 2 ^ 31 := by
  have all : crowd.ids = (Finset.range (2 ^ 31)).image UInt32.ofNat := by
    ext id
    rw [mem_crowd_ids, Finset.mem_image]
    constructor
    · exact fun low => ⟨id.toNat, Finset.mem_range.mpr low, by simp⟩
    · rintro ⟨k, inside, rfl⟩
      have low := Finset.mem_range.mp inside
      rwa [UInt32.toNat_ofNat_of_lt' (low.trans (by decide))]
  rw [all, Finset.card_image_of_injOn, Finset.card_range]
  intro a inA b inB same
  have lowA := Finset.mem_range.mp (Finset.mem_coe.mp inA)
  have lowB := Finset.mem_range.mp (Finset.mem_coe.mp inB)
  exact (ofNat_inj (by omega) (by omega)).mp same

theorem crowd_regular : crowd.Regular where
  no_sentinel inside := absurd (mem_crowd_ids.mp inside) (by decide)
  fits m member := (crowdKeys_fit (mem_crowd.mp member)).1
  ip id inside := ⟨ipKey id, mem_crowd.mpr (mem_crowdKeys.mpr ⟨id.toNat, mem_crowd_ids.mp inside, .inl (by simp)⟩), rfl, rfl⟩
  status id inside :=
    ⟨statusKey id, mem_crowd.mpr (mem_crowdKeys.mpr ⟨id.toNat, mem_crowd_ids.mp inside, .inr (by simp)⟩), rfl, rfl⟩

theorem count_too_many {c : Content} (regular : c.Regular) (many : 2 ^ 31 ≤ c.ids.card) : ∃ tr count t,
    Run (members False (fun _ => 1) 1) (get_member_count (c.entries.length + 1) 0 0) ⟨c, c, [], []⟩ tr
      (.ret (CS_OK, count)) t ∧ count.toInt ≠ c.ids.card := by
  have spec : wp (members False (fun _ => 1) 1) (get_member_count (c.entries.length + 1) 0 0) _ ⟨c, c, [], []⟩ :=
    get_member_count_table regular (Nat.lt_succ_self _) [] [] 0 0
  obtain ⟨tr, _, t, run, rfl, -⟩ := wp_terminates (fun s call _ => members_live s call) spec
  refine ⟨tr, _, t, run, ?_⟩
  have upper := (Int32.ofNat c.ids.card).toInt_lt
  omega

/-- The count of 2^31 nodes is stored in an `int`, and is not 2^31. -/
theorem count_overflows : crowd.Regular ∧ ∃ tr count t,
    Run (members False (fun _ => 1) 1) (get_member_count (crowd.entries.length + 1) 0 0) ⟨crowd, crowd, [], []⟩ tr
      (.ret (CS_OK, count)) t ∧ count.toInt ≠ crowd.ids.card :=
  ⟨crowd_regular, count_too_many crowd_regular crowd_card.ge⟩

end CorosyncClient.Membership
