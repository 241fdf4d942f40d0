import CorosyncClient.MemberScan

/-!
The accesses that `print_membership` makes when nodes join between its count and its
scan. They are all in bounds exactly when the strings fit, the count was large enough,
and node 4294967295, where it is the first, has no key that is read.
-/
namespace CorosyncClient.Membership
open CLib Interaction Lists
set_option linter.unusedSimpArgs false

/-! ### The accesses of a scan -/

theorem scanSafe_iff (array_len : Int32) (p : UInt32) (i : Int32) (l : List Member) :
    ScanSafe array_len p i l ↔ (∀ m ∈ l, m.Fits) ∧
      (∀ m ∈ l.takeWhile (fun m => m.id = p), m.Reads → InBounds (.entry i array_len)) ∧
      ∀ j < (changes p (l.map Member.id)).length, InBounds (.entry (i + 1 + Int32.ofNat j) array_len) := by
  induction l generalizing p i with
  | nil => simp [ScanSafe, changes]
  | cons m l ih =>
    by_cases same : m.id = p
    · subst same
      have next : slot m.id i m = i := by simp [slot]
      simp only [ScanSafe, next, ih, List.map_cons, changes_cons_self, List.mem_cons, forall_eq_or_imp,
        List.takeWhile_cons_of_pos, decide_true, ne_eq, not_true, false_or]
      tauto
    · have next : slot p i m = i + 1 := by simp [slot, same]
      have first : i + 1 + Int32.ofNat 0 = i + 1 := by simp
      simp only [ScanSafe, next, ih, List.map_cons, changes_cons_of_ne same, List.mem_cons, forall_eq_or_imp,
        List.takeWhile_cons_of_neg, same, decide_false, Bool.false_eq_true, not_false_eq_true, ne_eq, true_or,
        forall_const, List.not_mem_nil, false_imp_iff, implies_true, true_and, List.length_cons]
      constructor
      · rintro ⟨fits, entry, all, _, rest⟩
        refine ⟨⟨fits, all⟩, fun j inside => ?_⟩
        cases j with
        | zero => rwa [first]
        | succ j => exact ofNat_succ j (i + 1) ▸ rest j (by omega)
      · rintro ⟨⟨fits, all⟩, rest⟩
        have entry := rest 0 (by omega)
        rw [first] at entry
        refine ⟨fits, entry, all, fun _ _ _ => entry, fun j inside => ?_⟩
        exact (ofNat_succ j (i + 1)).symm ▸ rest (j + 1) (by omega)

/-- The entries that are begun are in an array of `n` entries. -/
theorem room_iff {k n : Nat} (small : n ≤ 2 ^ 32) :
    (∀ j < k, InBounds (.entry (Int32.ofNat j) (Int32.ofNat n))) ↔ k = 0 ∨ (k ≤ n ∧ n < 2 ^ 31) := by
  have value : ∀ j < 2 ^ 31, (Int32.ofNat j).toInt = j := fun j low => Int32.toInt_ofNat_of_lt low
  have zero : (0 : Int32).toInt = 0 := rfl
  simp only [InBounds, Int32.le_iff_toInt_le, Int32.lt_iff_toInt_lt, zero]
  constructor
  · intro all
    rcases Nat.eq_zero_or_pos k with none | some
    · exact .inl none
    have low : n < 2 ^ 31 := by
      by_contra high
      have first := all 0 some
      have size : Int32.size = 2 ^ 32 := rfl
      rw [value 0 (by decide), Int32.toInt_ofNat', Int.bmod_def, size] at first
      omega
    refine .inr ⟨?_, low⟩
    by_contra more
    have last := all n (by omega)
    omega
  · rintro (rfl | ⟨enough, low⟩) j inside
    · omega
    · rw [value j (by omega), value n low]
      omega

/-- The scan of `later` stays within its buffers, and within an array for the nodes that
    are counted in `now`. -/
structure Bounded (now later : Content) : Prop where
  fits : ∀ m ∈ later.entries, m.Fits
  sentinel : (later.entries.map Member.id).head? = some 4294967295 → ∀ m ∈ later.entries, m.id = 4294967295 → ¬ m.Reads
  room : later.counted = 0 ∨ (later.counted ≤ now.counted ∧ now.counted < 2 ^ 31)

theorem scanSafe_iff_bounded (now later : Content) :
    ScanSafe (Int32.ofNat now.counted) 4294967295 (-1) later.entries ↔ Bounded now later := by
  have first : ∀ n, (-1 : Int32) + 1 + Int32.ofNat n = Int32.ofNat n := fun n => by simp
  have before : ¬ InBounds (.entry (-1) (Int32.ofNat now.counted)) := fun inside => absurd inside.1 (by decide)
  rw [scanSafe_iff]
  change _ ∧ _ ∧ (∀ j < later.order.length, _) ↔ _
  simp only [first, before, Content.order_length, room_iff now.counted_le]
  constructor
  · rintro ⟨fits, sentinel, room⟩
    refine ⟨fits, fun front m member same => ?_, room⟩
    exact sentinel m ((mem_takeWhile_grouped later.grouped).mpr ⟨front, member, same⟩)
  · rintro ⟨fits, sentinel, room⟩
    refine ⟨fits, fun m member => ?_, room⟩
    obtain ⟨front, member, same⟩ := (mem_takeWhile_grouped later.grouped).mp member
    exact sentinel front m member same

/-! ### The print -/

theorem entry_inBounds {i : Nat} {len : Int32} (inside : i < len.toInt.toNat) : InBounds (.entry (Int32.ofNat i) len) := by
  have zero : (0 : Int32).toInt = 0 := rfl
  have upper := len.toInt_lt
  simp only [InBounds, Int32.le_iff_toInt_le, Int32.lt_iff_toInt_lt, zero]
  rw [Int32.toInt_ofNat_of_lt (by omega)]
  omega

/-- The line of an entry, all of whose calls succeed. -/
def memberLine (votes : UInt32 → UInt32) (local_nodeid : UInt32) (m : ClusterMember) : Bytes :=
  ascii "Node " ++ decimalInt m.nodeid.toInt ++ ascii "\t" ++ (ascii "IP: " ++ cstr m.ip ++ ascii "\t") ++
    (ascii "STATUS: " ++ cstr m.status ++ ascii "\t") ++
    (ascii "VOTES: " ++ decimal (votes m.nodeid.toUInt32).toNat ++ ascii "\t") ++
    (if m.nodeid.toUInt32 = local_nodeid then ascii "(local)" else []) ++ ascii "\n"

section
variable {mayFail : Prop} {votes : UInt32 → UInt32} {local_nodeid : UInt32}

theorem malloc_entries_spec (len : Int32) (s : Scan) :
    wp (members mayFail votes local_nodeid) (forEntries len (fun i _ => access (.entry i len)) ()) (fun _ t => t = s) s := by
  refine forEntries_wp (fun _ _ t => t = s) ?_ rfl
  rintro i inside _ t rfl
  exact ⟨entry_inBounds inside, fun _ _ same => same⟩

theorem print_member_spec (arr : Int32 → ClusterMember) {arr_len i : Int32} (bounds : InBounds (.entry i arr_len))
    (here : UInt32) (left : UInt32) (s : Scan) :
    wp (members mayFail votes local_nodeid) (print_member arr arr_len here i left)
      (fun _ t => ∃ line, t = { s with out := s.out ++ line } ∧ (¬ mayFail → line = memberLine votes here (arr i))) s := by
  simp only [print_member, perform_bind, Prog.pure_eq, wp_call, members_permits, members_answers, forall_eq]
  refine ⟨bounds, fun _ => wp_seq (get_votes_spec _ _ _) ?_⟩
  rintro ⟨err, got⟩ _ ⟨rfl, reliable, read⟩
  simp only [wp_ite, wp_call, wp_ret, members_permits, members_answers, true_and, forall_eq, forall_const,
    List.append_assoc]
  refine ⟨fun ok => ⟨fun isLocal => ?_, fun other => ?_⟩, fun failed => ⟨fun _ => ?_, fun _ => ?_⟩⟩
  · obtain rfl : got = _ := read ok
    exact ⟨_, rfl, fun _ => by simp [memberLine, isLocal]⟩
  · obtain rfl : got = _ := read ok
    exact ⟨_, rfl, fun _ => by simp [memberLine, other]⟩
  · exact ⟨_, rfl, fun sound => absurd (reliable sound) failed⟩
  · exact ⟨_, rfl, fun sound => absurd (reliable sound) failed⟩

theorem print_members_spec (arr : Int32 → ClusterMember) (arr_len : Int32) (here left : UInt32) (s : Scan) :
    wp (members mayFail votes local_nodeid) (forEntries arr_len (print_member arr arr_len here) left)
      (fun _ t => ∃ lines, t = { s with out := s.out ++ lines } ∧ (¬ mayFail → lines =
        (List.range arr_len.toInt.toNat).flatMap (fun i => memberLine votes here (arr (Int32.ofNat i))))) s := by
  refine forEntries_wp (fun n _ t => ∃ lines, t = { s with out := s.out ++ lines } ∧ (¬ mayFail → lines =
    (List.range n).flatMap (fun i => memberLine votes here (arr (Int32.ofNat i))))) ?_ ⟨[], by rw [List.append_nil], fun _ => rfl⟩
  rintro i inside votes' _ ⟨lines, rfl, printed⟩
  refine wp_mono (print_member_spec arr (entry_inBounds inside) here votes' _) ?_
  rintro _ _ ⟨line, rfl, printed'⟩
  refine ⟨lines ++ line, by simp, fun sound => ?_⟩
  simp [printed sound, printed' sound, List.range_succ]

theorem print_membership_safe {s : Scan} (bounded : Bounded s.now s.later) (fuel : Nat) (u : Uninit) :
    Safe (members mayFail votes local_nodeid) (print_membership fuel u) s := by
  refine wlp_safe (Q := fun _ _ => True) ?_
  unfold print_membership
  refine wlp_seq (get_member_count_wlp _ _ _ _) ?_
  rintro ⟨err, arr_len⟩ t ⟨-, ends⟩
  rw [wlp_ite]
  refine ⟨fun _ => trivial, fun ok => ?_⟩
  obtain ⟨_, ⟨rfl, rfl⟩, rfl⟩ := ends (not_ne_iff.mp ok)
  rw [Content.order_length]
  refine wlp_seq (wlp_of_wp (malloc_entries_spec _ _)) ?_
  rintro _ _ rfl
  refine wlp_seq (wlp_of_wp (get_local_nodeid_spec _ _)) ?_
  rintro ⟨_, here⟩ _ ⟨rfl, _, _⟩
  refine wlp_seq (get_members_wlp _ _ _ ((scanSafe_iff_bounded _ _).mpr bounded) _) ?_
  rintro ⟨_, arr⟩ t _
  simp only [perform_bind, Prog.pure_eq, wlp_call, members_permits, true_and]
  refine fun _ _ _ _ _ _ => wlp_seq (wlp_of_wp (print_members_spec _ _ _ _ _)) ?_
  exact fun _ _ _ => trivial

/-- The scan of an iteration is safe where the iteration is. -/
theorem iterating_needs {α γ : Type} {fallback : γ} {scan : Handle → Handle → Client γ} {f : Err × γ → Client α}
    {Q : α → Scan → Prop} {s : Scan}
    (holds : wlp (members mayFail votes local_nodeid) (iterating fallback scan >>= f) Q s) :
    ∃ h i R, wlp (members mayFail votes local_nodeid) (scan h i) R { s with rest := s.now.entries } := by
  simp only [iterating, perform_bind, Prog.call_bind, wlp_call, members_permits, members_answers, true_and,
    filter_generic] at holds
  have opened := holds (.CS_OK, 1) s ⟨rfl, .inl rfl⟩
  simp only [ne_eq, not_true, if_false, Prog.call_bind, wlp_call, members_permits, members_answers, true_and,
    filter_generic] at opened
  have begun := opened (.CS_OK, 1) _ (.inl ⟨rfl, rfl⟩)
  simp only [ne_eq, not_true, if_false, Prog.bind_assoc] at begun
  exact ⟨1, 1, _, (wlp_bind _ _ _ _ _).mp begun⟩

theorem print_membership_needs {s : Scan} {fuel : Nat} {u : Uninit} (count : s.now.entries.length < fuel)
    (scan : s.later.entries.length < fuel)
    (safe : Safe (members mayFail votes local_nodeid) (print_membership fuel u) s) : Bounded s.now s.later := by
  have last : (-1 : Int32) = UInt32.toInt32 4294967295 := by decide
  have holds := (safe_iff _ _).mp safe
  unfold print_membership at holds
  obtain ⟨_, ⟨err, arr_len⟩, t, run, sound, ends⟩ :=
    run_of_reliable mayFail votes local_nodeid (get_member_count_wp u.count_id u.arr_len count)
  obtain rfl := sound not_false
  obtain ⟨_, ⟨rfl, rfl⟩, rfl⟩ := ends rfl
  have counted := wlp_after_run holds run
  simp only [ne_eq, not_true, if_false] at counted
  obtain ⟨_, _, _, run, rfl⟩ := run_of_reliable mayFail votes local_nodeid (malloc_entries_spec _ _)
  have allocated := wlp_after_run counted run
  obtain ⟨_, ⟨_, here⟩, _, run, rfl, _, _⟩ := run_of_reliable mayFail votes local_nodeid (get_local_nodeid_spec u.local_nodeid _)
  have located := wlp_after_run allocated run
  rw [get_members_eq] at located
  obtain ⟨h, i, R, scans⟩ := iterating_needs located
  have bounds := members_loop_needs (s := { s with now := s.later, rest := s.later.entries }) last
    (List.Subset.refl _) scan scans
  rw [Content.order_length] at bounds
  exact (scanSafe_iff_bounded _ _).mp bounds

/-- Every access of `print_membership` is in bounds exactly when the strings fit, the count
    leaves room for the nodes of the scan, and the array is not entered before its start. -/
theorem print_membership_safe_iff (mayFail : Prop) (votes : UInt32 → UInt32) (local_nodeid : UInt32) (s : Scan) :
    (∀ fuel u, Safe (members mayFail votes local_nodeid) (print_membership fuel u) s) ↔ Bounded s.now s.later := by
  constructor
  · intro safe
    have u : Uninit := ⟨0, 0, 0, [], fun _ => ⟨0, [], []⟩, 0, 0⟩
    exact print_membership_needs (Nat.lt_succ_of_le (Nat.le_max_left _ _)) (Nat.lt_succ_of_le (Nat.le_max_right _ _))
      (safe (max s.now.entries.length s.later.entries.length + 1) u)
  · exact print_membership_safe

end

def ipKey (id : UInt32) : Member where
  id := id
  suffix := ascii "ip"
  value := .string ⟨ascii "11.0.0.1", by decide⟩
  nonempty := by decide
  solid := by simpa using (by decide : (ascii "ip").any isspace = false)
  nul_free := by decide

def statusKey (id : UInt32) : Member where
  id := id
  suffix := ascii "status"
  value := .string ⟨ascii "joined", by decide⟩
  nonempty := by decide
  solid := by simpa using (by decide : (ascii "status").any isspace = false)
  nul_free := by decide

def oneNode : Content where
  entries := [ipKey 1, statusKey 1]
  ascending := by decide
  textual := by decide

def twoNodes : Content where
  entries := [ipKey 1, statusKey 1, ipKey 2, statusKey 2]
  ascending := by decide
  textual := by decide

/-- A node joins between the count and the scan, and is stored past the end. -/
theorem joined_node_past_end : ¬ Safe (members False (fun _ => 1) 1)
    (print_membership 5 ⟨0, 0, 0, [], fun _ => ⟨0, [], []⟩, 0, 0⟩) ⟨oneNode, twoNodes, [], []⟩ := by
  intro safe
  have bounded := print_membership_needs (by decide) (by decide) safe
  exact absurd bounded.room (by decide)

end CorosyncClient.Membership
