import CorosyncClient.MemberBounds
import CorosyncClient.MemberText
import CorosyncClient.Services

/-!
The accesses of `print_membership` under given outcomes of its calls. They are all defined
exactly where the scan finds room for every key: for its suffix in the buffer, for the
entry that it begins or fills in the array of the count, and for its string in the field.
-/
namespace CorosyncClient.MemberAccess
open CLib Interaction CorosyncClient.Membership MemberText Services

/-- An access is defined within its array or buffer, and a read through a pointer that no
    call has set is not. -/
def Defined : Call → Prop
  | .access a => InBounds a
  | .read_stray => False
  | _ => True

/-- The calls have the outcomes `E`, and those that are not defined are not permitted. -/
abbrev guarded (E : Outcomes) : LibWorld Served := (outcomes E).guarded Defined

/-- The services whose calls are no accesses to memory. -/
abbrev outside : List Service := [.cmap, .iteration, .votequorum, .cfg, .output]

theorem defined_outside {c : Call} (member : service c ∈ outside) : Defined c := by
  cases c with
  | access a => cases a <;> simp at member
  | read_stray => simp at member
  | _ => trivial

theorem outside_safe {α : Type} {E : Outcomes} {l : List Service} {p : Client α} (within : Within l p) (sub : l ⊆ outside)
    (t : Served) : Safe (guarded E) p t :=
  safe_of_makes (makes_mono within fun _ member => defined_outside (sub member)) t

/-! ### Room -/

/-- Room for a key where the scan has come to `s`, in an array of `array_len` entries. -/
@[mk_iff] structure KeyRoom (array_len : Int32) (s : MembersState) (k : Key) : Prop where
  suffix : ∀ w, (scan_member k.name).2 = some w → w.length < 64
  begun : (scan_member k.name).1.getD s.id ≠ s.prev → InBounds (.entry (visit s k).i array_len)
  ip : cstr (visit s k).key_suffix = ascii "ip" → InBounds (.entry (visit s k).i array_len) ∧ k.reading.Fits INET6_ADDRSTRLEN
  status : cstr (visit s k).key_suffix = ascii "status" → InBounds (.entry (visit s k).i array_len) ∧ k.reading.Fits 32

/-- Room for all keys. -/
def ScanRoom (array_len : Int32) : MembersState → List Key → Prop
  | _, [] => True
  | s, k :: keys => KeyRoom array_len s k ∧ ScanRoom array_len (visit s k) keys

/-! ### One key -/

section
variable (E : Outcomes)

theorem store_suffix_safe (key_suffix : Bytes) (word : Option Bytes) (t : Served) :
    Safe (guarded E) (store_suffix key_suffix word) t ↔ ∀ w, word = some w → w.length < 64 := by
  cases word with
  | none => simp [store_suffix]
  | some word =>
    simp only [store_suffix, perform_bind, safe_guarded_call, Prog.pure_eq, safe_ret, and_true, Option.some.injEq, forall_eq']
    exact Nat.succ_le_iff

theorem begin_entry_safe (array_len id : Int32) (s : MembersState) (t : Served) :
    Safe (guarded E) (begin_entry array_len id s) t ↔ (id ≠ s.prev → InBounds (.entry (s.i + 1) array_len)) := by
  unfold begin_entry
  split_ifs with new
  · simp only [perform_bind, safe_guarded_call, Prog.pure_eq, safe_ret, and_true, new, not_false_eq_true, forall_const, ne_eq]
    exact Iff.rfl
  · simp [new]

/-- The pointer must be one that a call has set. -/
theorem deref_safe (fetched : Fetched) (t : Served) :
    Safe (guarded E) (deref (some fetched)) t ↔ ∃ str : CString, fetched = .string (some str) := by
  have stray : ¬ Safe (guarded E) read_stray t := fun safe => ((safe_guarded_call _ _ _).mp safe).1
  rcases fetched with (_ | str) | bytes
  · simpa [deref] using stray
  · simp [deref]
  · simpa [deref] using stray

theorem read_string_safe (key : Bytes) (type : CmapType) (capacity : Nat) (buffer : Bytes) {t : Served} (scanning : t.begun = 2) :
    Safe (guarded E) (read_string key type capacity buffer) t ↔ t.reading.Fits capacity := by
  have reads : Safe (guarded E) (get_cmap_value key true type) t := outside_safe (get_cmap_value_within key true type) (by simp) t
  simp only [read_string, memset_zero, Prog.pure_eq]
  refine (safe_seq_iff (get_cmap_value_fetched E key type scanning) ?_).trans (and_iff_right reads)
  rintro ⟨err, _, fetched⟩ t' ⟨rfl, ⟨failed, none⟩ | ⟨ok, f, rfl, some⟩⟩
  · rw [if_neg failed]
    simp [Reading.Fits, none]
  · rw [if_pos ok]
    refine (safe_seq_iff (D := (t'.reading.copied f).length < capacity) (deref_text E f t') ?_).trans ?_
    · rintro text _ ⟨rfl, rfl⟩
      simp only [perform_bind, safe_guarded_call, safe_ret, and_true]
      exact Nat.succ_le_iff
    · rw [deref_safe]
      simp only [Reading.Fits, some, Option.some.injEq, forall_eq']
      constructor
      · rintro ⟨⟨str, rfl⟩, short⟩
        exact ⟨str, rfl, short⟩
      · rintro ⟨str, rfl, short⟩
        exact ⟨⟨str, rfl⟩, short⟩

/-- The part of a round that fills a field of the entry. -/
theorem fill_field_safe (i array_len : Int32) (key : Bytes) (type : CmapType) (capacity : Nat) (buffer : Bytes)
    (fill : Bytes → MembersState ⊕ (Int32 → ClusterMember)) {t : Served} (scanning : t.begun = 2) :
    Safe (guarded E) (access (.entry i array_len) >>= fun _ => read_string key type capacity buffer >>= fun field =>
      pure (fill field)) t ↔ InBounds (.entry i array_len) ∧ t.reading.Fits capacity := by
  simp only [perform_bind, safe_guarded_call, Prog.pure_eq]
  refine and_congr_right fun _ => ?_
  refine (safe_seq_iff (D := True) (read_string_text E key type capacity buffer scanning) ?_).trans ?_
  · exact fun _ _ _ => iff_of_true (safe_ret _ _) trivial
  · rw [and_true]
    exact read_string_safe E key type capacity buffer scanning

/-- A round is safe if and only if there is room for its key. -/
theorem members_round_safe (cmap_handle iter_handle : Handle) (array_len : Int32) (s : MembersState) (k : Key)
    (keys : List Key) (r : Reading) (n : Nat) (out : Bytes) :
    Safe (guarded E) (members_round cmap_handle iter_handle array_len s) ⟨2, k :: keys, r, n, out⟩ ↔ KeyRoom array_len s k := by
  have apart : ascii "ip" ≠ ascii "status" := by decide
  have next : serve E ⟨2, k :: keys, r, n, out⟩ (.cmap_iter_next cmap_handle iter_handle) =
    ((.CS_OK, k.name, 0, k.type), ⟨2, keys, k.reading, n, out⟩) := rfl
  simp only [members_round, perform_bind, memset_zero, safe_guarded_call, next]
  refine (and_iff_right trivial).trans ?_
  rw [if_neg (fun failed => absurd rfl failed), keyRoom_iff]
  simp only [visit, readInto_suffix, readInto_i]
  refine (safe_seq_iff (store_suffix_text E _ _ _) ?_).trans (and_congr_left' (store_suffix_safe E _ _ _))
  rintro _ _ ⟨rfl, rfl⟩
  refine (safe_seq_iff (begin_entry_text E _ _ _ _) ?_).trans (and_congr_left' ((begin_entry_safe E _ _ _ _).trans ?_))
  · rintro _ _ ⟨rfl, rfl⟩
    generalize (Option.map (strcpy s.key_suffix) (scan_member k.name).2).getD s.key_suffix = key_suffix
    split_ifs with ip status
    · refine (fill_field_safe E _ _ _ _ _ _ _ rfl).trans ?_
      simp [enter, ip, apart]
    · refine (fill_field_safe E _ _ _ _ _ _ _ rfl).trans ?_
      simp [enter, status, apart.symm]
    · simp [enter, ip, status]
  · refine imp_congr_right fun new => ?_
    simp only [enter, if_pos new]

/-! ### All keys -/

theorem members_loop_safe (cmap_handle iter_handle : Handle) (array_len : Int32) {keys : List Key} {fuel : Nat}
    (enough : keys.length < fuel) (s : MembersState) (r : Reading) (n : Nat) (out : Bytes) :
    Safe (guarded E) (loop (members_round cmap_handle iter_handle array_len) fuel s) ⟨2, keys, r, n, out⟩ ↔
      ScanRoom array_len s keys := by
  obtain ⟨fuel, rfl⟩ : ∃ m, fuel = m + 1 := ⟨fuel - 1, by omega⟩
  induction keys generalizing fuel s r with
  | nil =>
    have last : Safe (guarded E) (members_round cmap_handle iter_handle array_len s) ⟨2, [], r, n, out⟩ := by
      simp only [members_round, perform_bind, safe_guarded_call]
      refine ⟨trivial, ?_⟩
      rw [if_pos (show (serve E ⟨2, [], r, n, out⟩ (.cmap_iter_next cmap_handle iter_handle)).1.1 ≠ .CS_OK from E.scan.ends)]
      exact safe_ret _ _
    refine (safe_seq_iff (D := True) (members_round_over E _ _ _ s r n out) ?_).trans ?_
    · rintro _ _ ⟨rfl, -⟩
      exact iff_of_true (safe_ret _ _) trivial
    · exact iff_of_true ⟨last, trivial⟩ trivial
  | cons k keys ih =>
    rw [List.length_cons] at enough
    refine (safe_seq_iff (members_round_next E _ _ _ s k keys r n out) ?_).trans
      (and_congr_left' (members_round_safe E _ _ _ s k keys r n out))
    rintro _ _ ⟨rfl, rfl⟩
    obtain ⟨m, rfl⟩ : ∃ m, fuel = m + 1 := ⟨fuel - 1, by omega⟩
    exact ih (visit s k) k.reading m (by omega)

theorem get_members_safe {fuel : Nat} (enough : E.scan.keys.length < fuel) (u : Uninit) (array_len : Int32) (r : Reading)
    (n : Nat) (out : Bytes) :
    Safe (guarded E) (get_members fuel u.id u.key_suffix u.entries array_len) ⟨1, [], r, n, out⟩ ↔
      (E.scan.opened = .CS_OK ∧ E.scan.begun = .CS_OK → ScanRoom array_len (first u) E.scan.keys) := by
  have opening : serve E ⟨1, [], r, n, out⟩ Call.cmap_initialize = ((E.scan.opened, 1), ⟨1, [], r, n, out⟩) := rfl
  have beginning : ∀ h, serve E ⟨1, [], r, n, out⟩ (.cmap_iter_init h generic_key_prefix) =
    ((E.scan.begun, 1), ⟨2, E.scan.keys, r, n, out⟩) := fun _ => rfl
  simp only [get_members, perform_bind, Prog.pure_eq, safe_guarded_call, opening]
  refine (and_iff_right trivial).trans ?_
  by_cases opened : E.scan.opened = .CS_OK
  · rw [if_neg (not_ne_iff.mpr opened), safe_guarded_call, beginning]
    refine (and_iff_right trivial).trans ?_
    by_cases begun : E.scan.begun = .CS_OK
    · rw [if_neg (not_ne_iff.mpr begun)]
      refine (safe_seq_iff (D := True) (members_loop_text E _ _ array_len enough _ _ n out) ?_).trans ?_
      · rintro _ _ ⟨rfl, r, rfl⟩
        simp only [safe_guarded_call, safe_ret]
        exact iff_of_true (And.intro trivial (And.intro trivial trivial)) trivial
      · rw [and_true, members_loop_safe E _ _ array_len enough]
        exact ⟨fun room _ => room, fun room => room ⟨opened, begun⟩⟩
    · rw [if_pos begun, safe_guarded_call]
      exact iff_of_true ⟨trivial, safe_ret _ _⟩ fun ok => absurd ok.2 begun
  · rw [if_pos opened]
    exact iff_of_true (safe_ret _ _) fun ok => absurd ok.1 opened

end

/-- The lines access the entries that were counted. -/
theorem print_lines_defined (arr : Int32 → ClusterMember) (arr_len : Int32) (local_nodeid votes : UInt32) :
    Prog.Makes Defined (do
      let _ ← printf (ascii "\nMembership information\n")
      let _ ← printf (ascii "----------------------\n")
      let _ ← forEntries arr_len (print_member arr arr_len local_nodeid) votes
      return CS_OK) := by
  simp only [perform_bind, Prog.pure_eq]
  refine ⟨trivial, fun _ => ⟨trivial, fun _ => makes_bind (makes_forEntries (fun i inside votes => ?_) votes) fun _ => makes_ret _⟩⟩
  refine makes_mono (print_member_makes arr arr_len local_nodeid _ votes) ?_
  rintro c (rfl | other)
  · exact entry_inBounds inside
  · exact defined_outside (by simp_all)

/-- `print_membership` is defined if and only if the scan has room in the array of the
    count, as far as the two begin. -/
theorem print_membership_room_iff (E : Outcomes) {fuel : Nat} (enough : E.count.keys.length < fuel ∧ E.scan.keys.length < fuel)
    (u : Uninit) : Safe (guarded E) (print_membership fuel u) start ↔
      (E.count.opened = .CS_OK ∧ E.count.begun = .CS_OK → E.scan.opened = .CS_OK ∧ E.scan.begun = .CS_OK →
        ScanRoom (counted E.count.keys u.count_id) (first u) E.scan.keys) := by
  have counting : Safe (guarded E) (get_member_count fuel u.count_id u.arr_len) start :=
    outside_safe (get_member_count_within _ _ _) (by simp) _
  have allocating : ∀ len t, Safe (guarded E) (forEntries len (fun i _ => access (.entry i len)) ()) t := by
    intro len
    refine safe_of_makes (makes_forEntries (fun i inside _ => ?_) ())
    exact ⟨entry_inBounds inside, fun _ => makes_ret _⟩
  have locating : ∀ t, Safe (guarded E) (get_local_nodeid u.local_nodeid) t := outside_safe (get_local_nodeid_within _) (by simp)
  simp only [print_membership]
  refine (safe_seq_iff (get_member_count_text E enough.1 _ _) ?_).trans (and_iff_right counting)
  rintro _ t (⟨opened, begun, rfl, r, rfl⟩ | ⟨failed, err, -⟩)
  · rw [if_neg (by simp), forall_prop_of_true (And.intro opened begun)]
    refine (safe_seq_iff (forEntries_wp (fun _ _ t => t = ⟨1, [], r, 0, []⟩) ?_ rfl) ?_).trans (and_iff_right (allocating _ _))
    · rintro i _ _ _ rfl
      exact (wp_of_call _ _ _ _ _).mpr rfl
    rintro _ _ rfl
    refine (safe_seq_iff (get_local_nodeid_text E _ _) ?_).trans (and_iff_right (locating _))
    rintro result _ ⟨rfl, -⟩
    refine (safe_seq_iff (D := True) (get_members_text E enough.2 u _ r 0 []) ?_).trans ?_
    · rintro ⟨err, arr⟩ t -
      exact iff_of_true (safe_of_makes (print_lines_defined _ _ _ _) t) trivial
    · rw [and_true]
      exact get_members_safe E enough.2 u _ r 0 []
  · rw [if_pos err]
    exact iff_of_true (safe_ret _ _) fun ok => absurd ok failed

end CorosyncClient.MemberAccess
