import CorosyncClient.Membership

/-!
The scan of `get_members`: what a round does to the array, and which accesses it makes.
-/
namespace CorosyncClient.Membership
open CLib Interaction Lists CmapStore
set_option linter.unusedSimpArgs false

/-- The strings that are copied for the key fit their buffers. -/
structure Member.Fits (m : Member) : Prop where
  suffix : m.suffix.length < 64
  ip : m.suffix = ascii "ip" → m.text.length < INET6_ADDRSTRLEN
  status : m.suffix = ascii "status" → m.text.length < 32

/-- The index after the key `m`, where the key before it is of node `p` at index `i`. -/
def slot (p : UInt32) (i : Int32) (m : Member) : Int32 := if m.id ≠ p then i + 1 else i

/-- The entry once the key `m` is stored; `new` says whether it is the first of its node. -/
def ClusterMember.store (entry : ClusterMember) (m : Member) (new : Bool) : ClusterMember :=
  { nodeid := if new then m.id.toInt32 else entry.nodeid
    ip := if m.suffix = ascii "ip" then strcpy entry.ip m.text else entry.ip
    status := if m.suffix = ascii "status" then strcpy entry.status m.text else entry.status }

/-- The array once the key `m` is stored. -/
def place (p : UInt32) (i : Int32) (array : Int32 → ClusterMember) (m : Member) : Int32 → ClusterMember :=
  Function.update array (slot p i m) (ClusterMember.store (array (slot p i m)) m (m.id ≠ p))

/-- The array once some keys are stored. -/
def placeAll (p : UInt32) (i : Int32) (array : Int32 → ClusterMember) : List Member → Int32 → ClusterMember
  | [] => array
  | m :: rest => placeAll m.id (slot p i m) (place p i array m) rest

/-- The accesses of the scan of some keys, the key before them being of node `p` at
    index `i`. -/
def ScanSafe (array_len : Int32) (p : UInt32) (i : Int32) : List Member → Prop
  | [] => True
  | m :: rest =>
    m.Fits ∧ (m.id ≠ p ∨ m.Reads → InBounds (.entry (slot p i m) array_len)) ∧
      ScanSafe array_len m.id (slot p i m) rest

theorem Content.find_string {c : Content} {m : Member} (member : m ∈ c.entries) (reads : m.Reads) :
    ∃ str, c.find m.key = some (.string str) ∧ m.text = str.chars := by
  obtain ⟨str, value⟩ := (type_eq_string_iff m.value).mp (c.textual m member reads)
  exact ⟨str, by rw [Content.find_key member, value], by simp [Member.text, value]⟩

section
variable {mayFail : Prop} {votes : UInt32 → UInt32} {local_nodeid : UInt32}

theorem store_suffix_spec {m : Member} (fits : m.Fits) (buffer : Bytes) (s : Scan) :
    wp (members mayFail votes local_nodeid) (store_suffix buffer (some m.suffix))
      (fun key_suffix t => t = s ∧ cstr key_suffix = m.suffix) s := by
  simp only [store_suffix, perform_bind, Prog.pure_eq, wp_call, wp_ret, members_permits, members_answers, forall_eq]
  exact ⟨fits.suffix, fun _ => ⟨trivial, cstr_strcpy _ m.nul_free⟩⟩

/-- What the first part of a round does with a key. -/
structure Begun (p : UInt32) (before : MembersState) (m : Member) (after : MembersState) : Prop where
  prev : after.prev = m.id.toInt32
  i : after.i = slot p before.i m
  array : after.array = Function.update before.array (slot p before.i m)
    { before.array (slot p before.i m) with
      nodeid := if m.id ≠ p then m.id.toInt32 else (before.array (slot p before.i m)).nodeid }

theorem begin_entry_spec (array_len : Int32) {b : MembersState} {p : UInt32} (last : b.prev = p.toInt32) {m : Member}
    (bounds : m.id ≠ p → InBounds (.entry (slot p b.i m) array_len)) (s : Scan) :
    wp (members mayFail votes local_nodeid) (begin_entry array_len m.id.toInt32 b)
      (fun after t => t = s ∧ Begun p b m after) s := by
  simp only [begin_entry, perform_bind, Prog.pure_eq, wp_ite, wp_call, wp_ret, members_permits, members_answers, forall_eq,
    last, ne_eq, toInt32_inj]
  constructor
  · intro new
    have next : slot p b.i m = b.i + 1 := by simp [slot, new]
    refine ⟨next ▸ bounds new, fun _ => ⟨trivial, rfl, next.symm, ?_⟩⟩
    simp [next, new]
  · intro same
    have next : slot p b.i m = b.i := by simp [slot, not_not.mp same]
    refine ⟨trivial, ?_, next.symm, ?_⟩
    · simp [not_not.mp same]
    · simp [next, not_not.mp same]

theorem place_ip {p : UInt32} {before after : MembersState} {m : Member} (begun : Begun p before m after)
    (isIp : m.suffix = ascii "ip") :
    Function.update after.array (slot p before.i m) { after.array (slot p before.i m) with
        ip := strcpy (after.array (slot p before.i m)).ip m.text } = place p before.i before.array m := by
  have other : ascii "ip" ≠ ascii "status" := by decide
  simp [begun.array, place, ClusterMember.store, isIp, other]

theorem place_status {p : UInt32} {before after : MembersState} {m : Member} (begun : Begun p before m after)
    (isStatus : m.suffix = ascii "status") :
    Function.update after.array (slot p before.i m) { after.array (slot p before.i m) with
        status := strcpy (after.array (slot p before.i m)).status m.text } = place p before.i before.array m := by
  have other : ascii "status" ≠ ascii "ip" := by decide
  simp [begun.array, place, ClusterMember.store, isStatus, other]

theorem place_other {p : UInt32} {before after : MembersState} {m : Member} (begun : Begun p before m after)
    (notIp : m.suffix ≠ ascii "ip") (notStatus : m.suffix ≠ ascii "status") :
    after.array = place p before.i before.array m := by
  simp [begun.array, place, ClusterMember.store, notIp, notStatus]

/-- The string of a key is copied into its buffer in the entry. -/
theorem read_entry_spec {α : Type} {s : Scan} {m : Member} (member : m ∈ s.now.entries) (reads : m.Reads) {i array_len : Int32}
    (bounds : InBounds (.entry i array_len)) (type : CmapType) {capacity : Nat} (fits : m.text.length < capacity)
    (buffer : Bytes) {f : Bytes → Client α} {Q : α → Scan → Prop}
    (rest : ∀ copy, (¬ mayFail → copy = strcpy buffer m.text) → wp (members mayFail votes local_nodeid) (f copy) Q s) :
    wp (members mayFail votes local_nodeid)
      (.call (.access (.entry i array_len)) fun _ => read_string m.key type capacity buffer >>= f) Q s := by
  obtain ⟨str, holds, text⟩ := Content.find_string member reads
  rw [text] at fits rest
  simp only [wp_call, members_permits, members_answers, forall_eq]
  refine ⟨bounds, fun _ => wp_seq (read_string_spec holds type fits buffer) ?_⟩
  rintro copy _ ⟨rfl, copied⟩
  exact rest copy copied

/-- A round stores one key. -/
theorem members_round_spec (handle iter_handle : Handle) (array_len : Int32) {b : MembersState} {p : UInt32}
    (last : b.prev = p.toInt32) {s : Scan} {m : Member} {rest : List Member} (comes : s.rest = m :: rest)
    (member : m ∈ s.now.entries) (fits : m.Fits)
    (bounds : m.id ≠ p ∨ m.Reads → InBounds (.entry (slot p b.i m) array_len)) :
    wp (members mayFail votes local_nodeid) (members_round handle iter_handle array_len b)
      (fun out t => t = { s with rest := rest } ∧ ∃ again : MembersState, out = .inl again ∧
        again.prev = m.id.toInt32 ∧ again.i = slot p b.i m ∧ (¬ mayFail → again.array = place p b.i b.array m)) s := by
  simp only [members_round, perform_bind, Prog.pure_eq, wp_call, members_permits, members_answers, comes, true_and]
  rintro ⟨err, key_name, len, type⟩ _ ⟨read, rfl⟩
  obtain ⟨rfl, rfl, rfl, rfl⟩ := Prod.mk.inj read |>.imp id (fun rest => Prod.mk.inj rest |>.imp id Prod.mk.inj)
  simp only [scan_member_key, Option.getD_some, wp_ite]
  refine ⟨fun failed => absurd rfl failed, fun _ => wp_seq (store_suffix_spec fits _ _) ?_⟩
  rintro key_suffix _ ⟨rfl, isSuffix⟩
  refine wp_seq (begin_entry_spec (b := { b with key_suffix := key_suffix }) array_len last
    (fun new => bounds (.inl new)) _) ?_
  rintro b' _ ⟨rfl, begun⟩
  have begun' : Begun p b m b' := ⟨begun.prev, begun.i, begun.array⟩
  simp only [isSuffix, wp_ite, begun'.i]
  refine ⟨fun isIp => ?_, fun notIp => ⟨fun isStatus => ?_, fun notStatus => ?_⟩⟩
  · have reads : m.Reads := .inl isIp
    refine read_entry_spec (s := { s with rest := rest }) member reads (begun'.i ▸ bounds (.inr reads)) _ (fits.ip isIp) _
      fun ip copied => ?_
    refine ⟨rfl, _, rfl, begun'.prev, rfl, fun sound => ?_⟩
    rw [copied sound]
    exact place_ip begun' isIp
  · have reads : m.Reads := .inr isStatus
    refine read_entry_spec (s := { s with rest := rest }) member reads (begun'.i ▸ bounds (.inr reads)) _
      (fits.status isStatus) _ fun status copied => ?_
    refine ⟨rfl, _, rfl, begun'.prev, rfl, fun sound => ?_⟩
    rw [copied sound]
    exact place_status begun' isStatus
  · exact ⟨rfl, _, rfl, begun'.prev, begun'.i, fun _ => place_other begun' notIp notStatus⟩

/-- The round after the last key ends the scan. -/
theorem members_round_last (handle iter_handle : Handle) (array_len : Int32) (b : MembersState) {s : Scan}
    (comes : s.rest = []) :
    wp (members mayFail votes local_nodeid) (members_round handle iter_handle array_len b)
      (fun out t => t = s ∧ out = .inr b.array) s := by
  simp only [members_round, perform_bind, Prog.pure_eq, wp_call, members_permits, members_answers, comes, true_and]
  rintro ⟨err, key_name, len, type⟩ _ ⟨failed, rfl⟩
  rw [wp_ite]
  exact ⟨fun _ => ⟨rfl, rfl⟩, fun ok => absurd failed ok⟩

theorem members_loop_spec (handle iter_handle : Handle) (array_len : Int32) {fuel : Nat} {b : MembersState} {p : UInt32}
    (last : b.prev = p.toInt32) {s : Scan} (inside : s.rest ⊆ s.now.entries) (safe : ScanSafe array_len p b.i s.rest)
    (enough : s.rest.length < fuel) :
    wp (members mayFail votes local_nodeid) (loop (members_round handle iter_handle array_len) fuel b)
      (fun array t => t = { s with rest := [] } ∧ (¬ mayFail → array = placeAll p b.i b.array s.rest)) s := by
  refine wp_loop (fun b' t => ∃ q, b'.prev = UInt32.toInt32 q ∧ t.rest ⊆ s.now.entries ∧ ScanSafe array_len q b'.i t.rest ∧
    t = { s with rest := t.rest } ∧ (¬ mayFail → placeAll q b'.i b'.array t.rest = placeAll p b.i b.array s.rest))
    (fun t => t.rest.length) ?_ enough ⟨p, last, inside, safe, rfl, fun _ => rfl⟩
  rintro b' t ⟨q, last, inside, safe, same, placed⟩
  cases comes : t.rest with
  | nil =>
    refine wp_mono (members_round_last handle iter_handle array_len b' comes) ?_
    rintro _ _ ⟨rfl, rfl⟩
    rw [comes] at same placed
    exact ⟨same, placed⟩
  | cons m rest =>
    rw [comes] at inside safe placed
    obtain ⟨fits, bounds, safe⟩ := safe
    have member : m ∈ t.now.entries := by
      rw [same]
      exact inside (by simp)
    refine wp_mono (members_round_spec handle iter_handle array_len last comes member fits bounds) ?_
    rintro _ _ ⟨rfl, again, rfl, prev, i, array⟩
    refine ⟨⟨m.id, prev, fun x more => inside (by simp [more]), i ▸ safe, ?_, fun sound => ?_⟩, by simp⟩
    · rw [same]
    · rw [i, array sound]
      exact placed sound

/-- What a scan of the members from `s` leaves. -/
def Scanned (mayFail : Prop) (s : Scan) (before after : Int32 → ClusterMember) (t : Scan) : Prop :=
  t = { s with rest := [] } ∧ (¬ mayFail → after = placeAll 4294967295 (-1) before s.now.entries)

section
variable (id : Int32) (key_suffix : Bytes) (array : Int32 → ClusterMember) {array_len : Int32} {s : Scan}
  (safe : ScanSafe array_len 4294967295 (-1) s.now.entries)
include safe

theorem members_scan_spec (handle iter_handle : Handle) {fuel : Nat} (enough : s.now.entries.length < fuel) :
    wp (members mayFail votes local_nodeid) (loop (members_round handle iter_handle array_len) fuel
      { id := id, prev := -1, i := -1, key_suffix := key_suffix, array := array }) (Scanned mayFail s array)
      { s with rest := s.now.entries } := by
  have last : (-1 : Int32) = UInt32.toInt32 4294967295 := by decide
  exact members_loop_spec (s := { s with rest := s.now.entries }) handle iter_handle array_len last
    (List.Subset.refl _) safe enough

theorem get_members_wp {fuel : Nat} (enough : s.now.entries.length < fuel) :
    wp (members mayFail votes local_nodeid) (get_members fuel id key_suffix array array_len)
      (IterationEnd mayFail (Scanned mayFail s array)) s := by
  rw [get_members_eq]
  exact iterating_wp fun h i => members_scan_spec id key_suffix array safe h i enough

theorem get_members_wlp (fuel : Nat) :
    wlp (members mayFail votes local_nodeid) (get_members fuel id key_suffix array array_len)
      (IterationEnd mayFail (Scanned mayFail s array)) s := by
  rw [get_members_eq]
  exact iterating_wlp fun h i => wlp_loop_of_wp (members_scan_spec id key_suffix array safe h i (Nat.lt_succ_self _)) fuel

end

/-! ### What a scan needs -/

/-- Every call is answered. -/
theorem members_live (s : Scan) (c : Call) : ∃ r s', (members mayFail votes local_nodeid).answers s c r s' := by
  cases c
  case cmap_initialize => exact ⟨(.CS_OK, 1), _, rfl, .inl rfl⟩
  case cmap_iter_init => exact ⟨(.CS_OK, 1), _, .inl ⟨rfl, rfl⟩⟩
  case cmap_iter_next =>
    simp only [members_answers]
    cases s.rest with
    | nil => exact ⟨(.CS_ERR_NO_SECTIONS, [], 0, .INT8), _, by simp, rfl⟩
    | cons m rest => exact ⟨_, _, rfl, rfl⟩
  case cmap_get handle key value_len =>
    simp only [members_answers, GetReply]
    cases s.now.find key with
    | none => exact ⟨(.CS_ERR_NOT_EXIST, 0, .INT8, []), _, rfl, .inl rfl⟩
    | some v =>
      cases value_len with
      | none => exact ⟨(.CS_OK, v.len, v.type, []), _, rfl, .inl ⟨rfl, rfl, rfl⟩⟩
      | some len =>
        by_cases fits : v.len ≤ len
        · exact ⟨(.CS_OK, v.len, v.type, v.bytes), _, rfl, .inl (by simp [fits])⟩
        · exact ⟨(.CS_ERR_INVALID_PARAM, 0, .INT8, []), _, rfl, .inl (by simp [fits])⟩
  case cmap_get_string handle key =>
    simp only [members_answers, GetStringReply]
    split
    · exact ⟨_, _, rfl, .inl rfl⟩
    · exact ⟨(.CS_ERR_INVALID_PARAM, none), _, rfl, .inl rfl⟩
    · exact ⟨(.CS_ERR_NOT_EXIST, none), _, rfl, .inl rfl⟩
  case votequorum_initialize => exact ⟨(.CS_OK, 1), _, rfl, .inl rfl⟩
  case votequorum_getinfo handle n => exact ⟨(.CS_OK, ⟨n, 1, votes n, 1, 1, 1, 1, 0, 0, []⟩), _, rfl, .inl ⟨rfl, rfl⟩⟩
  case corosync_cfg_initialize => exact ⟨(.CS_OK, 1), _, rfl, .inl rfl⟩
  case corosync_cfg_local_get => exact ⟨(.CS_OK, local_nodeid), _, rfl, .inl ⟨rfl, rfl⟩⟩
  all_goals exact ⟨Reply.success _, _, rfl⟩

variable (mayFail votes local_nodeid) in
/-- A program that ends with a spec where no call fails has such a run where calls may. -/
theorem run_of_reliable {α : Type} {p : Client α} {Q : α → Scan → Prop} {s : Scan}
    (holds : wp (members False votes local_nodeid) p Q s) :
    ∃ tr a t, Run (members mayFail votes local_nodeid) p s tr (.ret a) t ∧ Q a t := by
  obtain ⟨tr, a, t, run, ends⟩ := wp_terminates (fun s c _ => members_live s c) holds
  refine ⟨tr, a, t, run_mono ?_ run, ends⟩
  intro s c r s' answered
  cases c
  case cmap_initialize => exact ⟨answered.1, .inl (by simpa using answered.2)⟩
  case cmap_iter_init =>
    rcases answered with ok | ⟨faulty, _⟩
    · exact .inl ok
    · exact faulty.elim
  case cmap_get | cmap_get_string | votequorum_getinfo | corosync_cfg_local_get =>
    obtain ⟨same, ok | ⟨faulty, _⟩⟩ := answered
    · exact ⟨same, .inl ok⟩
    · exact faulty.elim
  case votequorum_initialize | corosync_cfg_initialize => exact ⟨answered.1, .inl (by simpa using answered.2)⟩
  all_goals exact answered

theorem store_suffix_needs {α : Type} {buffer word : Bytes} {f : Bytes → Client α} {Q : α → Scan → Prop} {s : Scan}
    (holds : wlp (members mayFail votes local_nodeid) (store_suffix buffer (some word) >>= f) Q s) :
    word.length < 64 ∧ wlp (members mayFail votes local_nodeid) (f (strcpy buffer word)) Q s := by
  simp only [store_suffix, perform_bind, Prog.call_bind, Prog.pure_eq, Prog.ret_bind, wlp_call, members_permits,
    members_answers] at holds
  exact ⟨holds.1, holds.2 () s rfl⟩

theorem begin_entry_needs {α : Type} {array_len : Int32} {b : MembersState} {p : UInt32} (last : b.prev = p.toInt32)
    {m : Member} {f : MembersState → Client α} {Q : α → Scan → Prop} {s : Scan}
    (holds : wlp (members mayFail votes local_nodeid) (begin_entry array_len m.id.toInt32 b >>= f) Q s) :
    (m.id ≠ p → InBounds (.entry (slot p b.i m) array_len)) ∧
      ∃ after, Begun p b m after ∧ wlp (members mayFail votes local_nodeid) (f after) Q s := by
  by_cases new : m.id = p
  · have spec : wp (members False votes local_nodeid) (begin_entry array_len m.id.toInt32 b) _ s :=
      begin_entry_spec array_len last (fun other => absurd new other) s
    obtain ⟨tr, after, t, run, rfl, begun⟩ := run_of_reliable mayFail votes local_nodeid spec
    exact ⟨fun other => absurd new other, after, begun, wlp_after_run holds run⟩
  · have next : slot p b.i m = b.i + 1 := by simp [slot, new]
    simp only [begin_entry, last, ne_eq, toInt32_inj, new, not_false_eq_true, if_true, perform_bind, Prog.call_bind,
      Prog.pure_eq, Prog.ret_bind, wlp_call, members_permits, members_answers] at holds
    refine ⟨fun _ => next ▸ holds.1, _, ⟨rfl, next.symm, ?_⟩, holds.2 () s rfl⟩
    simp [next, new]

theorem read_string_needs {α : Type} {key : Bytes} {type : CmapType} {capacity : Nat} {buffer : Bytes} {s : Scan}
    {str : CString} (is : s.now.find key = some (.string str)) {f : Bytes → Client α} {Q : α → Scan → Prop}
    (holds : wlp (members mayFail votes local_nodeid) (read_string key type capacity buffer >>= f) Q s) :
    str.chars.length < capacity ∧ ∃ copy, wlp (members mayFail votes local_nodeid) (f copy) Q s := by
  obtain ⟨tr, ⟨err, type', fetched⟩, t, run, rfl, reliable, read⟩ :=
    run_of_reliable mayFail votes local_nodeid (get_cmap_value_spec is type)
  obtain rfl := reliable not_false
  obtain rfl := read rfl
  rw [read_string, Prog.bind_assoc] at holds
  have rest := wlp_after_run holds run
  simp only [if_true, deref, perform_bind, Prog.call_bind, Prog.pure_eq, Prog.ret_bind, wlp_call, members_permits,
    members_answers] at rest
  exact ⟨rest.1, _, rest.2 () _ rfl⟩

theorem read_entry_needs {α β : Type} {s : Scan} {m : Member} (member : m ∈ s.now.entries) (reads : m.Reads)
    {i array_len : Int32} {type : CmapType} {capacity : Nat} {buffer : Bytes} {g : Bytes → Client β} {f : β → Client α}
    {Q : α → Scan → Prop}
    (holds : wlp (members mayFail votes local_nodeid)
      (.call (.access (.entry i array_len)) fun _ => (read_string m.key type capacity buffer >>= g) >>= f) Q s) :
    InBounds (.entry i array_len) ∧ m.text.length < capacity ∧
      ∃ copy, wlp (members mayFail votes local_nodeid) (g copy >>= f) Q s := by
  obtain ⟨str, is, text⟩ := Content.find_string member reads
  have copies := holds.2 () s rfl
  rw [Prog.bind_assoc] at copies
  obtain ⟨fits, goesOn⟩ := read_string_needs is copies
  exact ⟨holds.1, text ▸ fits, goesOn⟩

/-- A round is safe only if its key fits and its entry is in bounds. -/
theorem members_round_needs {α : Type} {handle iter_handle : Handle} {array_len : Int32} {b : MembersState} {p : UInt32}
    (last : b.prev = p.toInt32) {s : Scan} {m : Member} {rest : List Member} (comes : s.rest = m :: rest)
    (member : m ∈ s.now.entries) {f : MembersState ⊕ (Int32 → ClusterMember) → Client α} {Q : α → Scan → Prop}
    (holds : wlp (members mayFail votes local_nodeid) (members_round handle iter_handle array_len b >>= f) Q s) :
    m.Fits ∧ (m.id ≠ p ∨ m.Reads → InBounds (.entry (slot p b.i m) array_len)) ∧
      ∃ again : MembersState, again.prev = m.id.toInt32 ∧ again.i = slot p b.i m ∧
        wlp (members mayFail votes local_nodeid) (f (.inl again)) Q { s with rest := rest } := by
  have other : ascii "ip" ≠ ascii "status" := by decide
  simp only [members_round, perform_bind, Prog.call_bind, Prog.pure_eq, wlp_call, members_permits, members_answers, comes,
    true_and] at holds
  have read := holds (.CS_OK, m.key, m.value.len, m.value.type) _ ⟨rfl, rfl⟩
  simp only [ne_eq, not_true, if_false, scan_member_key, Option.getD_some] at read
  rw [Prog.bind_assoc] at read
  obtain ⟨suffix, begins⟩ := store_suffix_needs read
  rw [Prog.bind_assoc] at begins
  obtain ⟨new, after, begun, reads⟩ := begin_entry_needs
    (b := { b with key_suffix := strcpy (memset b.key_suffix 64 0) m.suffix }) last begins
  simp only [cstr_strcpy _ m.nul_free, begun.i] at reads
  by_cases isIp : m.suffix = ascii "ip"
  · rw [if_pos isIp, Prog.call_bind] at reads
    obtain ⟨bounds, fits, ip, goesOn⟩ := read_entry_needs (s := { s with rest := rest }) member (.inl isIp) reads
    refine ⟨⟨suffix, fun _ => fits, fun isStatus => absurd (isIp.symm.trans isStatus) other⟩,
      fun _ => begun.i ▸ bounds, ?_⟩
    refine ⟨_, ?_, ?_, goesOn⟩
    · exact begun.prev
    · rfl
  by_cases isStatus : m.suffix = ascii "status"
  · rw [if_neg isIp, if_pos isStatus, Prog.call_bind] at reads
    obtain ⟨bounds, fits, status, goesOn⟩ := read_entry_needs (s := { s with rest := rest }) member (.inr isStatus) reads
    refine ⟨⟨suffix, fun isIp' => absurd isIp' isIp, fun _ => fits⟩, fun _ => begun.i ▸ bounds, ?_⟩
    refine ⟨_, ?_, ?_, goesOn⟩
    · exact begun.prev
    · rfl
  · rw [if_neg isIp, if_neg isStatus] at reads
    refine ⟨⟨suffix, fun isIp' => absurd isIp' isIp, fun isStatus' => absurd isStatus' isStatus⟩, ?_, ?_⟩
    · rintro (isNew | isIp' | isStatus')
      · exact new isNew
      · exact absurd isIp' isIp
      · exact absurd isStatus' isStatus
    · exact ⟨after, begun.prev, begun.i, reads⟩

theorem members_loop_needs {handle iter_handle : Handle} {array_len : Int32} {fuel : Nat} {b : MembersState} {p : UInt32}
    (last : b.prev = p.toInt32) {s : Scan} (inside : s.rest ⊆ s.now.entries) (enough : s.rest.length < fuel)
    {Q : (Int32 → ClusterMember) → Scan → Prop}
    (holds : wlp (members mayFail votes local_nodeid) (loop (members_round handle iter_handle array_len) fuel b) Q s) :
    ScanSafe array_len p b.i s.rest := by
  generalize comes : s.rest = rest at inside enough ⊢
  induction rest generalizing fuel b p s with
  | nil => trivial
  | cons m rest ih =>
    cases fuel with
    | zero => simp at enough
    | succ fuel =>
      obtain ⟨fits, bounds, again, prev, i, goesOn⟩ := members_round_needs last comes (inside (by simp)) holds
      refine ⟨fits, bounds, ?_⟩
      rw [← i]
      exact ih prev goesOn rfl (fun x more => inside (by simp [more])) (by simpa using enough)

end

end CorosyncClient.Membership
