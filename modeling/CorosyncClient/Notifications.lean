import CorosyncClient.CLib.Heap
import CorosyncClient.Calls

/-!
The callbacks of `monitor.c`, which keep the last notification of each service in globals,
and the list of the view in one block of the heap.
-/
namespace CorosyncClient.Notifications
open CLib CLib.Heap Interaction
set_option linter.unusedSimpArgs false

/-! ### The callbacks -/

structure VotequorumRingId where
  nodeid : UInt32
  seq : UInt64

structure ViewListEntry where
  vq_info : Option VotequorumInfo
  name : Option Bytes
  node_id : Int32

/-- The globals that the callbacks write. -/
structure Notified where
  g_view_list : Option Pointer
  g_quorate : UInt32
  g_ring_id : UInt64
  g_ring_id_rep_node : UInt32
  g_view_list_entries : UInt32
  g_called : UInt32
  g_vq_called : UInt32

abbrev Callback := Prog (HeapCall ViewListEntry) HeapReply

/-- The nodes of the notification are not read. -/
def votequorum_notification_fn (g : Notified) (ring_id : VotequorumRingId) : Notified :=
  { g with g_ring_id_rep_node := ring_id.nodeid, g_vq_called := 1 }

/-- What is stored for a node. -/
def entry (id : UInt32) : ViewListEntry where
  node_id := id.toInt32
  name := none
  vq_info := none

/-- `for (i=0; i< view_list_entries; i++)`: the comparison is one of unsigned numbers. -/
def view_round (g_view_list : Pointer) (view_list_entries : UInt32) (view_list : List UInt32) (i : Int32) : Callback (Int32 ⊕ Unit) := do
  if i.toUInt32 < view_list_entries then
    store g_view_list i.toInt (entry (view_list.getD i.toInt.toNat 0))
    return .inl (i + 1)
  return .inr ()

/-- `view_list` is an array of `view_list_entries` ids. The size in bytes of as many entries
    does not overflow a `size_t`. -/
def quorum_notification_fn (fuel : Nat) (g : Notified) (quorate : UInt32) (ring_id : UInt64) (view_list_entries : UInt32)
    (view_list : List UInt32) : Callback Notified := do
  let g := { g with g_called := 1, g_quorate := quorate, g_ring_id := ring_id, g_view_list_entries := view_list_entries }
  match g.g_view_list with
  | some block => free block
  | none => pure ()
  let g_view_list ← malloc view_list_entries.toNat
  match g_view_list with
  | some block => loop (view_round block view_list_entries view_list) fuel 0
  | none => pure ()
  return { g with g_view_list := g_view_list }

/-! ### Notifications -/

/-- What a service tells. -/
inductive Notification where
  | quorum (quorate : UInt32) (ring_id : UInt64) (view_list : List UInt32)
  | votequorum (ring_id : VotequorumRingId) (node_list : List UInt32)

def deliver (fuel : Nat) (g : Notified) : Notification → Callback Notified
  | .quorum quorate ring_id view_list => quorum_notification_fn fuel g quorate ring_id (UInt32.ofNat view_list.length) view_list
  | .votequorum ring_id _ => return votequorum_notification_fn g ring_id

def deliverAll (fuel : Nat) (g : Notified) : List Notification → Callback Notified
  | [] => return g
  | n :: ns => do
    let g ← deliver fuel g n
    deliverAll fuel g ns

/-- The globals but for the block, once a notification is told. -/
def tell (g : Notified) : Notification → Notified
  | .quorum quorate ring_id view_list =>
    { g with g_called := 1, g_quorate := quorate, g_ring_id := ring_id, g_view_list_entries := UInt32.ofNat view_list.length }
  | .votequorum ring_id _ => votequorum_notification_fn g ring_id

/-- The view that is known. -/
def view (known : List UInt32) : Notification → List UInt32
  | .quorum _ _ view_list => view_list
  | .votequorum _ _ => known

/-! ### What they keep -/

section
variable {mayFail : Prop} {base h : Blocks ViewListEntry} {l : List UInt32}

/-- The cells once the first `k` entries are stored. -/
def written (l : List UInt32) (k : Nat) : List (Option ViewListEntry) :=
  (l.take k).map (fun id => some (entry id)) ++ List.replicate (l.length - k) none

theorem written_length {k : Nat} (inside : k ≤ l.length) : (written l k).length = l.length := by
  simp [written, inside]

theorem written_succ {k : Nat} (inside : k < l.length) :
    (written l k).set k (some (entry (l.getD k 0))) = written l (k + 1) := by
  obtain ⟨left, unwritten⟩ : ∃ left, l.length - k = left + 1 := ⟨l.length - k - 1, by omega⟩
  have rest : l.length - (k + 1) = left := by omega
  have front : ((l.take k).map fun id => some (entry id)).length = k := by simp [Nat.le_of_lt inside]
  rw [written, List.set_append_right _ _ (by omega), front, Nat.sub_self, unwritten, List.replicate_succ, List.set_cons_zero, written, rest,
    List.take_succ_eq_append_getElem inside, List.map_append, List.append_assoc]
  simp [List.getD_eq_getElem?_getD, inside]

theorem toInt_ofNat {k : Nat} (low : k < 2 ^ 31) : (Int32.ofNat k).toInt = k := Int32.toInt_ofNat_of_lt low

theorem toUInt32_ofNat {k : Nat} (low : k < 2 ^ 32) : (Int32.ofNat k).toUInt32.toNat = k := by
  have same : (Int32.ofNat k).toUInt32 = UInt32.ofNat k := rfl
  rw [same]
  exact UInt32.toNat_ofNat_of_lt' low

/-- The loop stores the entries of the list. -/
theorem view_loop_spec {p : Pointer} {fuel : Nat} (fresh : base p = none) (few : l.length < 2 ^ 31) (enough : l.length < fuel) :
    wp (heap mayFail) (loop (view_round p (UInt32.ofNat l.length) l) fuel 0) (fun _ t => Owns base t (some p) (l.map entry))
      (Function.update base p (some (List.replicate l.length none))) := by
  refine wp_loop_measured (fun i t => ∃ k ≤ l.length, i = Int32.ofNat k ∧ t = Function.update base p (some (written l k)))
    (fun i _ => l.length - i.toInt.toNat) ?_ ?_ ⟨0, Nat.zero_le _, rfl, by simp [written]⟩
  · rintro _ _ ⟨k, inside, rfl, rfl⟩
    have count : (UInt32.ofNat l.length).toNat = l.length := UInt32.toNat_ofNat_of_lt' (Nat.lt_trans few (by decide))
    have index : (Int32.ofNat k).toInt = k := toInt_ofNat (by omega)
    unfold view_round
    by_cases more : k < l.length
    · have less : (Int32.ofNat k).toUInt32 < UInt32.ofNat l.length := by
        rw [UInt32.lt_iff_toNat_lt, toUInt32_ofNat (by omega), count]
        exact more
      rw [if_pos less, index, Int.toNat_natCast]
      have live : Function.update base p (some (written l k)) p = some (written l k) := Function.update_self ..
      refine wp_store live (by omega) (by rw [written_length inside]; omega) ?_
      rw [Int.toNat_natCast, written_succ more, Function.update_idem]
      have next : Int32.ofNat k + 1 = Int32.ofNat (k + 1) := by simp [Int32.ofNat_add]
      have index' : (Int32.ofNat k + 1).toInt = (k + 1 : Nat) := by rw [next, toInt_ofNat (by omega)]
      refine ⟨⟨k + 1, more, next, rfl⟩, ?_⟩
      rw [index']
      omega
    · have done : ¬ (Int32.ofNat k).toUInt32 < UInt32.ofNat l.length := by
        rw [UInt32.lt_iff_toNat_lt, toUInt32_ofNat (by omega), count]
        exact more
      obtain rfl : k = l.length := by omega
      rw [if_neg done]
      refine ⟨fresh, ?_⟩
      simp [written, Function.comp_def]
  · simpa using enough

/-- A notification frees the old list before it takes a new one, or none where there is no
    memory. -/
theorem quorum_notification_spec {known : List UInt32} {g : Notified} {fuel : Nat} (quorate : UInt32) (ring_id : UInt64)
    (owns : Owns base h g.g_view_list (known.map entry)) (few : l.length < 2 ^ 31) (enough : l.length < fuel) :
    wp (heap mayFail) (quorum_notification_fn fuel g quorate ring_id (UInt32.ofNat l.length) l)
      (fun g' t => g' = { tell g (.quorum quorate ring_id l) with g_view_list := g'.g_view_list } ∧
        Owns base t g'.g_view_list (l.map entry) ∧ (¬ mayFail → g'.g_view_list ≠ none)) h := by
  have count : (UInt32.ofNat l.length).toNat = l.length := UInt32.toNat_ofNat_of_lt' (Nat.lt_trans few (by decide))
  have take : wp (heap mayFail) (malloc (UInt32.ofNat l.length).toNat >>= fun g_view_list => do
      match g_view_list with
      | some block => loop (view_round block (UInt32.ofNat l.length) l) fuel 0
      | none => pure ()
      return { tell g (.quorum quorate ring_id l) with g_view_list := g_view_list })
      (fun g' t => g' = { tell g (.quorum quorate ring_id l) with g_view_list := g'.g_view_list } ∧
        Owns base t g'.g_view_list (l.map entry) ∧ (¬ mayFail → g'.g_view_list ≠ none)) base := by
    rw [count, perform_bind]
    refine wp_malloc (fun may => ⟨rfl, rfl, fun sound => absurd may sound⟩) fun p fresh => ?_
    refine wp_seq (view_loop_spec fresh few enough) ?_
    rintro _ t owns
    exact ⟨rfl, owns, fun _ => by simp⟩
  unfold quorum_notification_fn
  cases list : g.g_view_list with
  | none =>
    rw [list] at owns
    obtain rfl : h = base := owns
    exact take
  | some p =>
    rw [list] at owns
    exact wp_free owns take

/-- Whether a notification tells a view. -/
def Notification.tellsView : Notification → Bool
  | .quorum _ _ _ => true
  | .votequorum _ _ => false

def Notification.nodes : Notification → List UInt32
  | .quorum _ _ view_list => view_list
  | .votequorum _ node_list => node_list

theorem deliver_spec {known : List UInt32} {g : Notified} {fuel : Nat} (n : Notification)
    (owns : Owns base h g.g_view_list (known.map entry)) (few : n.nodes.length < 2 ^ 31) (enough : n.nodes.length < fuel) :
    wp (heap mayFail) (deliver fuel g n)
      (fun g' t => g' = { tell g n with g_view_list := g'.g_view_list } ∧ Owns base t g'.g_view_list ((view known n).map entry) ∧
        (¬ mayFail → n.tellsView = true ∨ g.g_view_list ≠ none → g'.g_view_list ≠ none)) h := by
  cases n with
  | quorum quorate ring_id view_list =>
    refine wp_mono (quorum_notification_spec quorate ring_id owns few enough) ?_
    rintro g' t ⟨told, owns, given⟩
    exact ⟨told, owns, fun sound _ => given sound⟩
  | votequorum ring_id node_list =>
    refine ⟨rfl, owns, ?_⟩
    rintro _ (told | listed)
    · cases told
    · exact listed

theorem foldl_tell_list (ns : List Notification) (g : Notified) (p q : Option Pointer) :
    { ns.foldl tell { g with g_view_list := p } with g_view_list := q } = { ns.foldl tell g with g_view_list := q } := by
  induction ns generalizing g with
  | nil => rfl
  | cons n ns ih =>
    have first : tell { g with g_view_list := p } n = { tell g n with g_view_list := p } := by cases n <;> rfl
    rw [List.foldl_cons, List.foldl_cons, first, ih]

/-- Any number of notifications. -/
theorem deliverAll_spec (ns : List Notification) {known : List UInt32} {g : Notified} {fuel : Nat}
    (owns : Owns base h g.g_view_list (known.map entry)) (few : ∀ n ∈ ns, n.nodes.length < 2 ^ 31)
    (enough : ∀ n ∈ ns, n.nodes.length < fuel) :
    wp (heap mayFail) (deliverAll fuel g ns)
      (fun g' t => g' = { ns.foldl tell g with g_view_list := g'.g_view_list } ∧
        Owns base t g'.g_view_list ((ns.foldl view known).map entry) ∧
        (¬ mayFail → ns.any Notification.tellsView = true ∨ g.g_view_list ≠ none → g'.g_view_list ≠ none)) h := by
  induction ns generalizing known g h with
  | nil =>
    refine ⟨rfl, owns, ?_⟩
    rintro _ (told | listed)
    · cases told
    · exact listed
  | cons n ns ih =>
    refine wp_seq (deliver_spec n owns (few n (by simp)) (enough n (by simp))) ?_
    rintro g₁ t ⟨told, owns, given⟩
    refine wp_mono (ih owns (fun n later => few n (by simp [later])) fun n later => enough n (by simp [later])) ?_
    rintro g' t' ⟨told', owns', given'⟩
    refine ⟨?_, owns', ?_⟩
    · rw [told, foldl_tell_list] at told'
      exact told'
    · intro sound views
      refine given' sound ?_
      rcases views with views | listed
      · simp only [List.any_cons, Bool.or_eq_true] at views
        exact views.symm.imp_right fun now => given sound (.inl now)
      · exact .inr (given sound (.inr listed))

/-- The number of entries is that of the view that is known. -/
theorem foldl_view_length (ns : List Notification) (few : ∀ n ∈ ns, n.nodes.length < 2 ^ 31) {known : List UInt32} {g : Notified}
    (same : known.length = g.g_view_list_entries.toNat) :
    (ns.foldl view known).length = (ns.foldl tell g).g_view_list_entries.toNat := by
  induction ns generalizing known g with
  | nil => exact same
  | cons n ns ih =>
    refine ih (fun n later => few n (by simp [later])) ?_
    cases n with
    | quorum quorate ring_id view_list =>
      have low := few _ List.mem_cons_self
      exact (UInt32.toNat_ofNat_of_lt' (Nat.lt_trans low (by decide))).symm
    | votequorum ring_id node_list => exact same

/-- The globals before the first notification. -/
def zeros : Notified := ⟨none, 0, 0, 0, 0, 0, 0⟩

/-- After any notifications, wherever there was memory or not, the globals tell the last
    ones; there is one block more than at first, with the entries of the last view and as
    many as the globals say, or none; and it is there where every `malloc` gives one. No
    block is freed twice, and nothing is written outside of one. -/
theorem notifications_kept (ns : List Notification) {fuel : Nat} (few : ∀ n ∈ ns, n.nodes.length < 2 ^ 31)
    (enough : ∀ n ∈ ns, n.nodes.length < fuel) :
    wp (heap mayFail) (deliverAll fuel zeros ns)
      (fun g t => g = { ns.foldl tell zeros with g_view_list := g.g_view_list } ∧
        (∀ p, g.g_view_list ≠ some p → t p = base p) ∧
        (∀ p, g.g_view_list = some p → base p = none ∧ t p = some ((ns.foldl view []).map fun id => some (entry id)) ∧
          (ns.foldl view []).length = g.g_view_list_entries.toNat) ∧
        (¬ mayFail → ns.any Notification.tellsView = true → g.g_view_list ≠ none)) base := by
  have start : Owns base base zeros.g_view_list (([] : List UInt32).map entry) := rfl
  refine wp_mono (deliverAll_spec ns start few enough) ?_
  rintro g t ⟨told, owns, given⟩
  have entries : (ns.foldl view []).length = g.g_view_list_entries.toNat := by
    rw [told]
    exact foldl_view_length ns few rfl
  refine ⟨told, ?_, ?_, fun sound views => given sound (.inl views)⟩
  · intro p other
    cases list : g.g_view_list with
    | none =>
      rw [list] at owns
      rw [show t = base from owns]
    | some q =>
      rw [list] at owns
      rw [owns.2, Function.update_of_ne]
      rintro rfl
      exact other list
  · intro p list
    rw [list] at owns
    obtain ⟨fresh, rfl⟩ := owns
    exact ⟨fresh, by simp [Function.comp_def], entries⟩

end

/-- A second node joins, and the first one leaves. -/
def joinAndLeave : List Notification := [.quorum 1 8 [1, 2], .votequorum ⟨1, 8⟩ [1, 2], .quorum 0 12 [2]]

/-- Block 1 is given whenever it is not allocated. -/
def oneBlock : Handler (HeapCall ViewListEntry) HeapReply (Blocks ViewListEntry) := fun h c =>
  match c with
  | .malloc n => if (h 1).isNone then (some 1, Function.update h 1 (some (List.replicate n none))) else (none, h)
  | .free p => ((), Function.update h p none)
  | .store p i a => ((), Function.update h p ((h p).map fun cells => cells.set i.toNat (some a)))

theorem oneBlock_answers (h : Blocks ViewListEntry) (c : HeapCall ViewListEntry) :
    (heap True).answers h c (oneBlock h c).1 (oneBlock h c).2 := by
  cases c with
  | malloc n =>
    by_cases free : (h 1).isNone = true
    · exact .inr ⟨1, Option.isNone_iff_eq_none.mp free, by simp [oneBlock, free], by simp [oneBlock, free]⟩
    · exact .inl ⟨trivial, by simp [oneBlock, free], by simp [oneBlock, free]⟩
  | free p => rfl
  | store p i a => rfl

theorem joinAndLeave_ends : (exec oneBlock (deliverAll 3 zeros joinAndLeave) fun _ => none).isSome = true := by decide +kernel

theorem notifications_kept_joinAndLeave : ∃ tr g t, Run (heap True) (deliverAll 3 zeros joinAndLeave) (fun _ => none) tr (.ret g) t ∧
    g.g_quorate = 0 ∧ g.g_ring_id_rep_node = 1 ∧ ∀ p, g.g_view_list = some p → t p = some [some (entry 2)] := by
  obtain ⟨⟨g, t⟩, ends⟩ := Option.isSome_iff_exists.mp joinAndLeave_ends
  have run := exec_run (W := heap True) (fun _ => True) (fun h c _ => ⟨oneBlock_answers h c, trivial⟩) trivial ends
  have kept := run_wp run (notifications_kept joinAndLeave (by decide) (by decide))
  obtain ⟨told, -, list, -⟩ := kept
  refine ⟨_, g, t, run, ?_, ?_, fun p listed => (list p listed).2.1⟩
  · rw [told]
    rfl
  · rw [told]
    rfl

end CorosyncClient.Notifications
