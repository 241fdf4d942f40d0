import CorosyncClient.MemberAccess
import Mathlib.Data.List.Range

/-!
When the text of `print_membership` depends on the outcomes of its calls alone. A field of
a printed entry is set by the scan or it is what the memory held before; and an id or a
suffix that is not scanned is the last one, or what the local held before. A run that
leaves an array or a buffer, or reads through a pointer that was not set, has no text.
-/
namespace CorosyncClient.Uninitialised
open CLib Interaction CorosyncClient.Membership MemberText MemberAccess

/-! ### Fields -/

inductive Field where
  | nodeid | ip | status
  deriving DecidableEq

/-- What a line shows of a field. -/
def Field.value (m : ClusterMember) : Field → Int32 ⊕ Bytes
  | nodeid => .inl m.nodeid
  | ip => .inr (cstr m.ip)
  | status => .inr (cstr m.status)

/-- What the scan makes of a key: the id that holds, the index, whether an entry is begun
    there, and the last suffix that was scanned. -/
structure Visit where
  id : Int32
  i : Int32
  begun : Bool
  word : Option Bytes
  reading : Reading

/-- The visits of a scan that has come to `id` and `i`. -/
def visits : Option Bytes → Int32 → Int32 → List Key → List Visit
  | _, _, _, [] => []
  | word, id, i, k :: keys =>
    let scanned := scan_member k.name
    let new := scanned.1.getD id
    let v : Visit :=
      { id := new, i := if new ≠ id then i + 1 else i, begun := new ≠ id, word := scanned.2.or word, reading := k.reading }
    v :: visits v.word v.id v.i keys

/-- The string that a key of the suffix `name` leaves in entry `k`. -/
def Visit.string (v : Visit) (k : Int32) (name : Bytes) : Option (Int32 ⊕ Bytes) :=
  if v.i = k ∧ v.word.map cstr = some name then v.reading.text.map fun text => .inr (cstr text) else none

/-- What a visit sets a field of entry `k` to. -/
def Visit.sets (v : Visit) (k : Int32) : Field → Option (Int32 ⊕ Bytes)
  | .nodeid => if v.begun = true ∧ v.i = k then some (.inl v.id) else none
  | .ip => v.string k (ascii "ip")
  | .status => v.string k (ascii "status")

/-- What the last visit that sets a field has set it to. -/
def lastSet (k : Int32) (f : Field) : List Visit → Option (Int32 ⊕ Bytes)
  | [] => none
  | v :: vs => (lastSet k f vs).or (v.sets k f)

theorem lastSet_isSome (k : Int32) (f : Field) (vs : List Visit) :
    (lastSet k f vs).isSome = true ↔ ∃ v ∈ vs, (v.sets k f).isSome = true := by
  induction vs with
  | nil => simp [lastSet]
  | cons v vs ih => simp [lastSet, ih, or_comm]

/-! ### A scan in terms of its visits -/

/-- The locals of a scan that has come to `id` and `i`; the suffix is known where one was
    scanned, and the id where one was, or will be. -/
structure Ready (word : Option Bytes) (id i : Int32) (s : MembersState) (keys : List Key) : Prop where
  prev : s.prev = id
  i : s.i = i
  suffix : ∀ w, word = some w → cstr s.key_suffix = cstr w
  id : ∀ k ∈ keys.head?, (scan_member k.name).1.getD s.id = (scan_member k.name).1.getD id

/-- The suffix is not one of those that are read. -/
def Plain (s : MembersState) : Prop := cstr s.key_suffix ≠ ascii "ip" ∧ cstr s.key_suffix ≠ ascii "status"

/-- The first of the visits of a scan. -/
def firstVisit (word : Option Bytes) (id i : Int32) (k : Key) : Visit where
  id := (scan_member k.name).1.getD id
  i := if (scan_member k.name).1.getD id ≠ id then i + 1 else i
  begun := (scan_member k.name).1.getD id ≠ id
  word := (scan_member k.name).2.or word
  reading := k.reading

theorem visits_cons (word : Option Bytes) (id i : Int32) (k : Key) (keys : List Key) :
    visits word id i (k :: keys) = firstVisit word id i k ::
      visits (firstVisit word id i k).word (firstVisit word id i k).id (firstVisit word id i k).i keys := rfl

/-! ### One key -/

section
variable (s : MembersState) (k : Key) (j : Int32)

theorem readInto_nodeid (r : Reading) : ((readInto r s).array j).nodeid = (s.array j).nodeid := by
  unfold readInto
  by_cases here : j = s.i
  · subst here
    split_ifs <;> simp
  · split_ifs <;> simp [Function.update_of_ne here]

theorem readInto_ip (r : Reading) : ((readInto r s).array j).ip =
    if s.i = j ∧ cstr s.key_suffix = ascii "ip" then stored (s.array j).ip r else (s.array j).ip := by
  unfold readInto
  by_cases here : j = s.i
  · subst here
    split_ifs <;> simp_all
  · split_ifs <;> simp_all [Ne.symm here]

theorem readInto_status (r : Reading) : ((readInto r s).array j).status =
    if s.i = j ∧ cstr s.key_suffix = ascii "status" then stored (s.array j).status r else (s.array j).status := by
  have apart : ascii "ip" ≠ ascii "status" := by decide
  unfold readInto
  by_cases here : j = s.i
  · subst here
    split_ifs <;> simp_all
  · split_ifs <;> simp_all [Ne.symm here]

theorem enter_array (id : Int32) : (enter id s).array j =
    if id ≠ s.prev ∧ s.i + 1 = j then { s.array j with nodeid := id } else s.array j := by
  unfold enter
  by_cases new : id ≠ s.prev
  · by_cases here : j = s.i + 1
    · subst here
      simp [new]
    · simp [new, Function.update_of_ne here, Ne.symm here]
  · simp [new]

theorem enter_ip (id : Int32) : ((enter id s).array j).ip = (s.array j).ip := by
  rw [enter_array]
  split_ifs <;> rfl

theorem enter_status (id : Int32) : ((enter id s).array j).status = (s.array j).status := by
  rw [enter_array]
  split_ifs <;> rfl

theorem visit_ip : ((visit s k).array j).ip =
    if (visit s k).i = j ∧ cstr (visit s k).key_suffix = ascii "ip" then stored (s.array j).ip k.reading
    else (s.array j).ip := by
  simp only [visit, readInto_ip, readInto_i, readInto_suffix, enter_ip]

theorem visit_status : ((visit s k).array j).status =
    if (visit s k).i = j ∧ cstr (visit s k).key_suffix = ascii "status" then stored (s.array j).status k.reading
    else (s.array j).status := by
  simp only [visit, readInto_status, readInto_i, readInto_suffix, enter_status]

end

section
variable {word : Option Bytes} {id i : Int32} {s : MembersState} {k : Key} {keys : List Key}

theorem visit_ready (ready : Ready word id i s (k :: keys)) :
    Ready (firstVisit word id i k).word (firstVisit word id i k).id (firstVisit word id i k).i (visit s k) keys := by
  have known : (scan_member k.name).1.getD s.id = (scan_member k.name).1.getD id := ready.id k rfl
  constructor
  · simp [visit, enter, known, firstVisit]
  · simp [visit, enter, known, firstVisit, ready.prev, ready.i]
  · intro w scanned
    cases new : (scan_member k.name).2 with
    | none =>
      simp only [firstVisit, new, Option.none_or] at scanned
      simpa [visit, enter, new] using ready.suffix w scanned
    | some w' =>
      simp only [firstVisit, new, Option.some_or, Option.some.injEq] at scanned
      simp [visit, enter, new, scanned, cstr_strcpy_eq]
  · intro next _
    simp [visit, enter, known, firstVisit]

/-- A suffix that is read is one that was scanned. -/
theorem suffix_iff (ready : Ready word id i s (k :: keys)) {name : Bytes} (other : Plain s → cstr s.key_suffix ≠ name)
    (clean : (firstVisit word id i k).word ≠ none ∨ Plain s) :
    cstr (visit s k).key_suffix = name ↔ (firstVisit word id i k).word.map cstr = some name := by
  cases scanned : (firstVisit word id i k).word with
  | some w =>
    rw [(visit_ready ready).suffix w scanned]
    simp
  | none =>
    have plain : Plain s := clean.resolve_left fun some => some scanned
    have new : (scan_member k.name).2 = none := by
      cases new : (scan_member k.name).2 with
      | none => rfl
      | some w => simp [firstVisit, new] at scanned
    simpa [visit, enter, new] using other plain

theorem stored_value (buffer : Bytes) (r : Reading) :
    (Sum.inr (cstr (stored buffer r)) : Int32 ⊕ Bytes) =
      (r.text.map fun text => Sum.inr (cstr text)).getD (.inr (cstr buffer)) := by
  cases text : r.text with
  | none => simp [stored, text]
  | some text' => simp [stored, text, cstr_strcpy_eq]

/-- What a key does to a field, if the suffix is not one that no key has. -/
theorem visit_value (ready : Ready word id i s (k :: keys)) (f : Field)
    (clean : f = .nodeid ∨ (firstVisit word id i k).word ≠ none ∨ Plain s) (j : Int32) :
    f.value ((visit s k).array j) = ((firstVisit word id i k).sets j f).getD (f.value (s.array j)) := by
  have known : (scan_member k.name).1.getD s.id = (scan_member k.name).1.getD id := ready.id k rfl
  have index := (visit_ready ready).i
  cases f with
  | nodeid =>
    simp only [Field.value, visit, readInto_nodeid, enter_array, Visit.sets, firstVisit, known, ready.prev, ready.i]
    by_cases new : (scan_member k.name).1.getD id ≠ id
    · by_cases here : i + 1 = j
      · simp [new, here]
      · simp [new, here]
    · simp [new]
  | ip =>
    have suffix := suffix_iff ready And.left (clean.resolve_left (by simp))
    simp only [Field.value, visit_ip, index, suffix, Visit.sets, Visit.string]
    split_ifs
    · exact stored_value _ _
    · rfl
  | status =>
    have suffix := suffix_iff ready And.right (clean.resolve_left (by simp))
    simp only [Field.value, visit_status, index, suffix, Visit.sets, Visit.string]
    split_ifs
    · exact stored_value _ _
    · rfl

/-! ### All keys -/

theorem firstVisit_word (some : word ≠ none) : (firstVisit word id i k).word ≠ none := by
  cases new : (scan_member k.name).2 <;> simp [firstVisit, new, some]

/-- The suffix stays as it is until one is scanned. -/
theorem visit_clean {f : Field} (clean : f = .nodeid ∨ word ≠ none ∨ Plain s) :
    f = .nodeid ∨ (firstVisit word id i k).word ≠ none ∨ Plain (visit s k) := by
  rcases clean with nodeid | some | plain
  · exact .inl nodeid
  · exact .inr (.inl (firstVisit_word some))
  · cases new : (scan_member k.name).2 with
    | none => exact .inr (.inr (by simpa [Plain, visit, enter, new] using plain))
    | some w => exact .inr (.inl (by simp [firstVisit, new]))

/-- With a clean suffix a field holds what the last visit sets it to, or what it held. -/
theorem scan_value (ready : Ready word id i s keys) (f : Field) (clean : f = .nodeid ∨ word ≠ none ∨ Plain s) (j : Int32) :
    f.value ((keys.foldl visit s).array j) = (lastSet j f (visits word id i keys)).getD (f.value (s.array j)) := by
  induction keys generalizing word id i s with
  | nil => rfl
  | cons k keys ih =>
    have here := visit_value ready f (clean.imp_right (Or.imp_left firstVisit_word)) j
    rw [List.foldl_cons, ih (visit_ready ready) (visit_clean clean), here, visits_cons, lastSet]
    cases lastSet j f _ <;> rfl

/-- With any suffix a field holds what the last visit sets it to, if there is one. -/
theorem scan_value_set (ready : Ready word id i s keys) (f : Field) (j : Int32) {value : Int32 ⊕ Bytes}
    (set : lastSet j f (visits word id i keys) = some value) : f.value ((keys.foldl visit s).array j) = value := by
  induction keys generalizing word id i s with
  | nil => cases set
  | cons k keys ih =>
    rw [visits_cons, lastSet] at set
    rw [List.foldl_cons]
    cases later : lastSet j f (visits (firstVisit word id i k).word (firstVisit word id i k).id (firstVisit word id i k).i keys) with
    | some value' =>
      rw [later] at set
      exact ih (visit_ready ready) (later.trans set)
    | none =>
      rw [later, Option.none_or] at set
      -- the last visit that sets the field is this one, so its suffix was scanned
      by_cases clean : f = .nodeid ∨ (firstVisit word id i k).word ≠ none
      · have here := visit_value ready f (clean.imp_right .inl) j
        rw [scan_value (visit_ready ready) f (clean.imp_right .inl) j, later, here, set]
        rfl
      · obtain ⟨other, unscanned⟩ := not_or.mp clean
        have unscanned := not_ne_iff.mp unscanned
        cases f with
        | nodeid => exact absurd rfl other
        | ip => simp [Visit.sets, Visit.string, unscanned] at set
        | status => simp [Visit.sets, Visit.string, unscanned] at set

end

/-! ### Texts that differ -/

/-- Lines that differ in one byte make texts that differ. -/
theorem flatMap_differ {g g' : Nat → Bytes} {n k : Nat} (inside : k < n) (before : ∀ j < k, g j = g' j) {front rest rest' : Bytes}
    {a b : Byte} (here : g k = front ++ a :: rest) (here' : g' k = front ++ b :: rest') (other : a ≠ b) :
    (List.range n).flatMap g ≠ (List.range n).flatMap g' := by
  obtain ⟨m, rfl⟩ : ∃ m, n = k + (m + 1) := ⟨n - k - 1, by omega⟩
  have first : (List.range k).flatMap g = (List.range k).flatMap g' := by
    rw [List.flatMap_def, List.flatMap_def]
    exact congrArg List.flatten (List.map_congr_left fun j member => before j (List.mem_range.mp member))
  intro same
  rw [List.range_add, List.flatMap_append, List.flatMap_append, first, List.append_cancel_left_eq, List.range_succ_eq_map,
    List.map_cons, List.flatMap_cons, List.flatMap_cons, Nat.add_zero, here, here', List.append_assoc, List.append_assoc,
    List.append_cancel_left_eq, List.cons_append, List.cons_append] at same
  exact other (List.cons.inj same).1

/-- Texts with a different number of lines differ. -/
theorem flatMap_range_inj {g : Nat → Bytes} (full : ∀ k, g k ≠ []) {m n : Nat}
    (same : (List.range m).flatMap g = (List.range n).flatMap g) : m = n := by
  have more : ∀ m n, m < n → (List.range m).flatMap g ≠ (List.range n).flatMap g := by
    intro m n less same
    obtain ⟨k, rfl⟩ : ∃ k, n = m + (k + 1) := ⟨n - m - 1, by omega⟩
    rw [List.range_add, List.flatMap_append, List.range_succ_eq_map, List.map_cons, List.flatMap_cons, List.self_eq_append_right] at same
    exact full _ (List.append_eq_nil_iff.mp same).1
  rcases Nat.lt_trichotomy m n with less | equal | greater
  · exact absurd same (more m n less)
  · exact equal
  · exact absurd same.symm (more n m greater)

theorem lineText_congr {m m' : ClusterMember} (same : ∀ f, Field.value m f = Field.value m' f) (id : UInt32) (votes : Bytes) :
    lineText m id votes = lineText m' id votes := by
  have nodeid : m.nodeid = m'.nodeid := Sum.inl.inj (same .nodeid)
  have ip : cstr m.ip = cstr m'.ip := Sum.inr.inj (same .ip)
  have status : cstr m.status = cstr m'.status := Sum.inr.inj (same .status)
  simp only [lineText, nodeid, ip, status]

/-! ### The count -/

/-- The first key begins with an id. -/
def Begins (keys : List Key) : Prop := ∃ k ∈ keys.head?, (scan_id k.name).isSome = true

theorem scan_member_id (name : Bytes) : (scan_member name).1 = scan_id name := by
  unfold scan_member scan_id
  cases (scanLiteral generic_key_prefix name).bind scanInt <;> rfl

theorem counted_begins {keys : List Key} (begins : Begins keys) (c c' : Int32) : counted keys c = counted keys c' := by
  obtain ⟨k, first, id⟩ := begins
  obtain ⟨rest, rfl⟩ := List.head?_eq_some_iff.mp first
  obtain ⟨id, scanned⟩ := Option.isSome_iff_exists.mp id
  simp only [counted, List.foldl_cons, countKey, scanned, Option.getD_some]

theorem foldl_total (keys : List Key) (id prev total : Int32) :
    (keys.foldl countKey ⟨id, prev, total⟩).total = total + (keys.foldl countKey ⟨id, prev, 0⟩).total := by
  induction keys generalizing id prev total with
  | nil => simp
  | cons k keys ih =>
    simp only [List.foldl_cons, countKey]
    split_ifs
    · rw [ih, ih _ _ (0 + 1), Int32.zero_add, Int32.add_assoc]
    · exact ih _ _ _

/-- Of a count that has come to the id `p` only the first id that is scanned meets `p`. -/
theorem foldl_split (keys : List Key) : (∀ p, (keys.foldl countKey ⟨p, p, 0⟩).total = 0) ∨
    ∃ q rest, ∀ p, (keys.foldl countKey ⟨p, p, 0⟩).total = (if q ≠ p then 1 else 0) + rest := by
  induction keys with
  | nil => exact .inl fun _ => rfl
  | cons k keys ih =>
    cases scanned : scan_id k.name with
    | none => simpa [countKey, scanned] using ih
    | some q =>
      refine .inr ⟨q, (keys.foldl countKey ⟨q, q, 0⟩).total, fun p => ?_⟩
      by_cases new : q ≠ p
      · simp only [List.foldl_cons, countKey, scanned, Option.getD_some, if_pos new]
        exact foldl_total _ _ _ _
      · obtain rfl := not_ne_iff.mp new
        simp [countKey, scanned]

/-- Without an id in the first key what `id` held is counted. -/
theorem counted_unscanned {k : Key} (unscanned : scan_id k.name = none) (keys : List Key) (c : Int32) :
    counted (k :: keys) c = (if c ≠ -1 then 1 else 0) + (keys.foldl countKey ⟨c, c, 0⟩).total := by
  by_cases new : c ≠ -1
  · simp only [counted, List.foldl_cons, countKey, unscanned, Option.getD_none, if_pos new]
    exact foldl_total _ _ _ _
  · obtain rfl := not_ne_iff.mp new
    simp [counted, countKey, unscanned]

/-- Then the count depends on it. -/
theorem counted_varies {k : Key} {keys : List Key} (unscanned : scan_id k.name = none) (c : Int32) :
    ∃ c', counted (k :: keys) c' ≠ counted (k :: keys) c := by
  have value := counted_unscanned unscanned keys
  rcases foldl_split keys with none | ⟨q, rest, split⟩
  · by_cases same : c = -1
    · refine ⟨0, ?_⟩
      rw [value, value, none, none, same]
      decide
    · refine ⟨-1, ?_⟩
      rw [value, value, none, none, if_pos same]
      decide
  · obtain ⟨far, apart, other⟩ : ∃ far : Int32, far ≠ -1 ∧ q ≠ far := by
      by_cases zero : q = 0
      · exact ⟨1, by decide, by rw [zero]; decide⟩
      · exact ⟨0, by decide, zero⟩
    have most : ∀ c, c ≠ -1 → q ≠ c → counted (k :: keys) c = 2 + rest := by
      intro c apart other
      rw [value, split, if_pos apart, if_pos other, ← Int32.add_assoc]
      rfl
    have less : counted (k :: keys) (-1) ≠ 2 + rest := by
      rw [value, split, if_neg (by decide), Int32.zero_add]
      by_cases last : q ≠ -1
      · rw [if_pos last]
        simp
      · rw [if_neg last]
        simp
    by_cases new : c ≠ -1 ∧ q ≠ c
    · exact ⟨-1, by rwa [most c new.1 new.2]⟩
    · refine ⟨far, ?_⟩
      rw [most far apart other]
      by_cases start : c = -1
      · rw [start]
        exact less.symm
      · have met : ¬ q ≠ c := fun other => new ⟨start, other⟩
        rw [value, split, if_pos start, if_neg met, Int32.zero_add]
        simp

/-! ### Room for the visits -/

/-- The suffix at a visit may be `name`: it is the last one that was scanned, or anything
    where none was. -/
def Visit.MayBe (v : Visit) (name : Bytes) : Prop := ∀ w, v.word = some w → cstr w = name

/-- Room for a visit in an array of `n` entries. -/
structure Visit.Fits (v : Visit) (n : Int32) : Prop where
  suffix : ∀ w, v.word = some w → w.length < 64
  begun : v.begun = true → InBounds (.entry v.i n)
  ip : v.MayBe (ascii "ip") → InBounds (.entry v.i n) ∧ v.reading.Fits INET6_ADDRSTRLEN
  status : v.MayBe (ascii "status") → InBounds (.entry v.i n) ∧ v.reading.Fits 32

/-- As `Visit.Fits`, with `held` as the suffix where none was scanned. -/
@[mk_iff] structure Visit.FitsAs (v : Visit) (n : Int32) (held : Bytes) : Prop where
  suffix : ∀ w, v.word = some w → w.length < 64
  begun : v.begun = true → InBounds (.entry v.i n)
  ip : (v.word.map cstr).getD held = ascii "ip" → InBounds (.entry v.i n) ∧ v.reading.Fits INET6_ADDRSTRLEN
  status : (v.word.map cstr).getD held = ascii "status" → InBounds (.entry v.i n) ∧ v.reading.Fits 32

theorem Visit.mayBe_iff (v : Visit) {name : Bytes} (plain : cstr name = name) :
    v.MayBe name ↔ ∃ b, (v.word.map cstr).getD (cstr b) = name := by
  cases word : v.word with
  | none => simpa [MayBe, word] using ⟨name, plain⟩
  | some w => simp [MayBe, word]

theorem Visit.fits_iff (v : Visit) (n : Int32) : v.Fits n ↔ ∀ b, v.FitsAs n (cstr b) := by
  have ip := v.mayBe_iff (show cstr (ascii "ip") = ascii "ip" by decide)
  have status := v.mayBe_iff (show cstr (ascii "status") = ascii "status" by decide)
  constructor
  · intro fits b
    exact ⟨fits.suffix, fits.begun, fun here => fits.ip (ip.mpr ⟨b, here⟩), fun here => fits.status (status.mpr ⟨b, here⟩)⟩
  · intro fits
    refine ⟨(fits []).suffix, (fits []).begun, fun may => ?_, fun may => ?_⟩
    · obtain ⟨b, here⟩ := ip.mp may
      exact (fits b).ip here
    · obtain ⟨b, here⟩ := status.mp may
      exact (fits b).status here

/-- Room for every visit of a scan. -/
def InRoom (n : Int32) (keys : List Key) : Prop := ∀ v ∈ visits none (-1) (-1) keys, v.Fits n

section
variable {word : Option Bytes} {id i : Int32} {s : MembersState} {k : Key} {keys : List Key} {held : Bytes}

/-- A suffix that is not scanned is the one that is held. -/
theorem visit_suffix (ready : Ready word id i s (k :: keys)) (unscanned : word = none → cstr s.key_suffix = held) :
    cstr (visit s k).key_suffix = ((firstVisit word id i k).word.map cstr).getD held := by
  cases scanned : (firstVisit word id i k).word with
  | some w => exact (visit_ready ready).suffix w scanned
  | none =>
    obtain ⟨new, none⟩ := Option.or_eq_none_iff.mp scanned
    simpa [visit, enter, new] using unscanned none

theorem keyRoom_iff_fitsAs (ready : Ready word id i s (k :: keys)) (short : ∀ w, word = some w → w.length < 64)
    (unscanned : word = none → cstr s.key_suffix = held) (n : Int32) :
    KeyRoom n s k ↔ (firstVisit word id i k).FitsAs n held := by
  have known : (scan_member k.name).1.getD s.id = (scan_member k.name).1.getD id := ready.id k rfl
  have begun : (scan_member k.name).1.getD s.id ≠ s.prev ↔ (firstVisit word id i k).begun = true := by
    simp [firstVisit, known, ready.prev]
  have scanned : (∀ w, (scan_member k.name).2 = some w → w.length < 64) ↔ ∀ w, (firstVisit word id i k).word = some w → w.length < 64 := by
    cases new : (scan_member k.name).2 with
    | none => simpa [firstVisit, new] using short
    | some w => simp [firstVisit, new]
  have reading : (firstVisit word id i k).reading = k.reading := rfl
  rw [keyRoom_iff, Visit.fitsAs_iff, (visit_ready ready).i, visit_suffix ready unscanned, begun, scanned, reading]

theorem scanRoom_iff (ready : Ready word id i s keys) (short : ∀ w, word = some w → w.length < 64)
    (unscanned : word = none → cstr s.key_suffix = held) (n : Int32) :
    ScanRoom n s keys ↔ ∀ v ∈ visits word id i keys, v.FitsAs n held := by
  induction keys generalizing word id i s with
  | nil => simp [ScanRoom, visits]
  | cons k keys ih =>
    rw [visits_cons, List.forall_mem_cons, ScanRoom, keyRoom_iff_fitsAs ready short unscanned]
    refine and_congr_right fun fits => ih (visit_ready ready) fits.suffix fun none => ?_
    rw [visit_suffix ready unscanned, none]
    rfl

end

/-- The locals of the scan are ready where the first key begins with an id. -/
theorem start_ready {keys : List Key} (begins : Begins keys) (word : Option Bytes) (u : Uninit)
    (suffix : ∀ w, word = some w → cstr u.key_suffix = cstr w) : Ready word (-1) (-1) (first u) keys := by
  refine ⟨rfl, rfl, suffix, ?_⟩
  obtain ⟨k, head, id⟩ := begins
  obtain ⟨id, scanned⟩ := Option.isSome_iff_exists.mp id
  intro k' head'
  obtain rfl : k = k' := Option.some.inj (head.symm.trans head')
  rw [scan_member_id, scanned]
  rfl

/-- Memory that is cleared. -/
def cleared : Uninit := ⟨0, 0, 0, [], fun _ => ⟨0, [], []⟩, 0, 0⟩

/-- Room whatever the memory held. -/
theorem inRoom_iff {keys : List Key} (begins : Begins keys) (n : Int32) : InRoom n keys ↔ ∀ u, ScanRoom n (first u) keys := by
  have room : ∀ u, ScanRoom n (first u) keys ↔ ∀ v ∈ visits none (-1) (-1) keys, v.FitsAs n (cstr u.key_suffix) :=
    fun u => scanRoom_iff (start_ready begins none u (by simp)) (by simp) (fun _ => rfl) n
  constructor
  · intro all u
    exact (room u).mpr fun v member => (v.fits_iff n).mp (all v member) u.key_suffix
  · intro all v member
    exact (v.fits_iff n).mpr fun b => (room { cleared with key_suffix := b }).mp (all _) v member

/-- Room in an array is room in one that has the same entries. -/
theorem scanRoom_mono {m n : Int32} (entries : ∀ i, InBounds (.entry i m) → InBounds (.entry i n)) {keys : List Key}
    {s : MembersState} (room : ScanRoom m s keys) : ScanRoom n s keys := by
  induction keys generalizing s with
  | nil => trivial
  | cons k keys ih =>
    obtain ⟨here, rest⟩ := room
    refine ⟨⟨here.suffix, fun new => entries _ (here.begun new), fun ip => ?_, fun status => ?_⟩, ih rest⟩
    · exact (here.ip ip).imp_left (entries _)
    · exact (here.status status).imp_left (entries _)

/-! ### Texts that do not depend on the memory -/

/-- The scan sets the field of entry `k`. -/
def IsSet (keys : List Key) (k : Int32) (f : Field) : Prop := ∃ v ∈ visits none (-1) (-1) keys, (v.sets k f).isSome = true

/-- The scan does not begin, gives no key, or begins with an id and has room for all of
    its visits in the array of the count. -/
def HasRoom (E : Outcomes) : Prop :=
  E.scan.opened = .CS_OK ∧ E.scan.begun = .CS_OK →
    E.scan.keys = [] ∨ (Begins E.scan.keys ∧ InRoom (counted E.count.keys 0) E.scan.keys)

/-- The scan, or what there is of one, has room. And nothing is counted, whatever `id` held;
    or the first keys of both iterations begin with an id, the local id is known, the scan
    begins, and it sets every field of every entry that was counted. -/
def Settled (E : Outcomes) : Prop :=
  ¬ (E.count.opened = .CS_OK ∧ E.count.begun = .CS_OK) ∨
  (HasRoom E ∧
    ((∀ c, (counted E.count.keys c).toInt ≤ 0) ∨
      (Begins E.count.keys ∧ ((E.located 0).1 = .CS_OK ∧ (E.located 0).2.1 = .CS_OK) ∧
        (E.scan.opened = .CS_OK ∧ E.scan.begun = .CS_OK) ∧ Begins E.scan.keys ∧
        ∀ k < (counted E.count.keys 0).toInt.toNat, ∀ f, IsSet E.scan.keys (Int32.ofNat k) f)))

/-- The fuel is that of every key. -/
abbrev Enough (E : Outcomes) (fuel : Nat) : Prop := E.count.keys.length < fuel ∧ E.scan.keys.length < fuel

/-- Two runs with the same outcomes print the same text, whatever the memory held. -/
def PrintsSame (E : Outcomes) : Prop :=
  ∀ fuel, Enough E fuel → ∀ u u' tr tr' result result' t t',
    Run (outcomes E) (print_membership fuel u) start tr (.ret result) t →
      Run (outcomes E) (print_membership fuel u') start tr' (.ret result') t' → t.out = t'.out

/-- They do, and every run is defined: no text depends on memory beyond an array or a
    buffer, or on a pointer that was not set, either. -/
def Independent (E : Outcomes) : Prop :=
  (∀ fuel, Enough E fuel → ∀ u, Safe (guarded E) (print_membership fuel u) start) ∧ PrintsSame E

/-- The scan has room, where the count and the scan begin. -/
def Roomy (E : Outcomes) : Prop :=
  E.count.opened = .CS_OK ∧ E.count.begun = .CS_OK → E.scan.opened = .CS_OK ∧ E.scan.begun = .CS_OK →
    ∀ u : Uninit, ScanRoom (counted E.count.keys u.count_id) (first u) E.scan.keys

theorem enough_fuel (E : Outcomes) : Enough E (E.count.keys.length + E.scan.keys.length + 1) := ⟨by omega, by omega⟩

theorem defined_iff (E : Outcomes) :
    (∀ fuel, Enough E fuel → ∀ u, Safe (guarded E) (print_membership fuel u) start) ↔ Roomy E := by
  constructor
  · intro safe counts scans u
    exact (print_membership_room_iff E (enough_fuel E) u).mp (safe _ (enough_fuel E) u) counts scans
  · intro room fuel enough u
    exact (print_membership_room_iff E enough u).mpr fun counts scans => room counts scans u

theorem printsSame_iff (E : Outcomes) : PrintsSame E ↔ ∀ u u', text E u = text E u' := by
  constructor
  · intro same u u'
    obtain ⟨tr, result, t, run, out⟩ := run_of_wp (print_membership_text E (enough_fuel E) u)
    obtain ⟨tr', result', t', run', out'⟩ := run_of_wp (print_membership_text E (enough_fuel E) u')
    rw [← out, ← out']
    exact same _ (enough_fuel E) u u' _ _ _ _ _ _ run run'
  · intro same fuel enough u u' tr tr' result result' t t' run run'
    have out := run_wp run (print_membership_text E enough u)
    have out' := run_wp run' (print_membership_text E enough u')
    exact out.trans ((same u u').trans out'.symm)

theorem settled_roomy {E : Outcomes} (settled : Settled E) : Roomy E := by
  intro counts scans u
  rcases settled with closed | ⟨room, counted⟩
  · exact absurd counts closed
  rcases room scans with none | ⟨begins, room⟩
  · rw [none]
    trivial
  have room := (inRoom_iff begins _).mp room u
  rcases counted with nothing | ⟨counts, -⟩
  · refine scanRoom_mono (fun i inside => ?_) room
    have upper := nothing 0
    have zero : (0 : Int32).toInt = 0 := rfl
    simp only [InBounds, Int32.le_iff_toInt_le, Int32.lt_iff_toInt_lt, zero] at inside
    omega
  · rwa [counted_begins counts u.count_id 0]

theorem settled_same {E : Outcomes} (settled : Settled E) (u u' : Uninit) : text E u = text E u' := by
  rcases settled with closed | ⟨-, nothing | ⟨counts, located, scans, begins, set⟩⟩
  · rw [text, if_neg closed, text, if_neg closed]
  · have empty : ∀ u, lineCount E u = 0 := fun u => Int.toNat_of_nonpos (nothing u.count_id)
    simp only [text, empty, List.range_zero, List.flatMap_nil]
  · have lines : ∀ u, lineCount E u = (counted E.count.keys 0).toInt.toNat := by
      intro u
      rw [lineCount, counted_begins counts u.count_id 0]
    have same : ∀ k < (counted E.count.keys 0).toInt.toNat, line E u k = line E u' k := by
      intro k inside
      have ids : localId E u = localId E u' := by rw [localId, if_pos located, localId, if_pos located]
      rw [line, line, ids]
      refine lineText_congr (fun f => ?_) _ _
      obtain ⟨value, last⟩ := Option.isSome_iff_exists.mp ((lastSet_isSome _ f _).mpr (set k inside f))
      rw [entries, if_pos scans, entries, if_pos scans, scan_value_set (start_ready begins none u (by simp)) f _ last,
        scan_value_set (start_ready begins none u' (by simp)) f _ last]
    have all : (List.range (lineCount E u)).flatMap (line E u) = (List.range (lineCount E u')).flatMap (line E u') := by
      rw [lines, lines, List.flatMap_def, List.flatMap_def]
      exact congrArg List.flatten (List.map_congr_left fun k member => same k (List.mem_range.mp member))
    simp only [text, all]

/-! ### Memory that shows -/

/-- What a line shows before the ip, and behind the status. -/
def beforeIp (m : ClusterMember) : Bytes := ascii "Node " ++ (decimalInt m.nodeid.toInt ++ (ascii "\t" ++ ascii "IP: "))
def behindStatus (m : ClusterMember) (id : UInt32) (votes : Bytes) : Bytes :=
  votes ++ (localText m.nodeid id ++ ascii "\n")

theorem lineText_eq (m : ClusterMember) (id : UInt32) (votes : Bytes) :
    lineText m id votes = beforeIp m ++ (cstr m.ip ++ (9 :: (ascii "STATUS: " ++ (cstr m.status ++
      (9 :: behindStatus m id votes))))) := by
  simp only [lineText, beforeIp, behindStatus, List.append_assoc]
  rfl

/-- A line from its number on. -/
theorem lineText_nodeid {m : ClusterMember} {d : Byte} (digit : decimalInt m.nodeid.toInt = [d]) (id : UInt32) (votes : Bytes) :
    ∃ rest, lineText m id votes = ascii "Node " ++ d :: rest := by
  rw [lineText_eq, beforeIp, digit, List.append_assoc]
  exact ⟨_, rfl⟩

/-- Two values of a field that a line shows differently. -/
def mark : Field → Bool → ClusterMember
  | .nodeid, b => ⟨if b then 1 else 2, [], []⟩
  | .ip, b => ⟨0, if b then [65] else [], []⟩
  | .status, b => ⟨0, [], if b then [65] else []⟩

theorem lineText_marked {f : Field} {m m' : ClusterMember} (others : ∀ g, g ≠ f → Field.value m g = Field.value m' g)
    (here : Field.value m f = Field.value (mark f true) f) (here' : Field.value m' f = Field.value (mark f false) f)
    (id : UInt32) (votes : Bytes) : ∃ front a b rest rest', a ≠ b ∧ lineText m id votes = front ++ a :: rest ∧
      lineText m' id votes = front ++ b :: rest' := by
  cases f with
  | nodeid =>
    have nodeid : m.nodeid = 1 := Sum.inl.inj here
    have nodeid' : m'.nodeid = 2 := Sum.inl.inj here'
    obtain ⟨rest, line⟩ := lineText_nodeid (show decimalInt m.nodeid.toInt = [49] by rw [nodeid]; decide) id votes
    obtain ⟨rest', line'⟩ := lineText_nodeid (show decimalInt m'.nodeid.toInt = [50] by rw [nodeid']; decide) id votes
    exact ⟨_, 49, 50, rest, rest', by decide, line, line'⟩
  | ip =>
    have ip : cstr m.ip = [65] := Sum.inr.inj here
    have ip' : cstr m'.ip = [] := Sum.inr.inj here'
    have nodeid : m.nodeid = m'.nodeid := Sum.inl.inj (others .nodeid (by simp))
    have before : beforeIp m = beforeIp m' := by rw [beforeIp, beforeIp, nodeid]
    rw [lineText_eq, lineText_eq, ip, ip', before]
    exact ⟨_, 65, 9, _, _, by decide, rfl, rfl⟩
  | status =>
    have status : cstr m.status = [65] := Sum.inr.inj here
    have status' : cstr m'.status = [] := Sum.inr.inj here'
    have nodeid : m.nodeid = m'.nodeid := Sum.inl.inj (others .nodeid (by simp))
    have ip : cstr m.ip = cstr m'.ip := Sum.inr.inj (others .ip (by simp))
    have before : beforeIp m = beforeIp m' := by rw [beforeIp, beforeIp, nodeid]
    rw [lineText_eq, lineText_eq, status, status', ip, before]
    refine ⟨beforeIp m' ++ (cstr m'.ip ++ 9 :: ascii "STATUS: "), 65, 9, 9 :: behindStatus m id votes, behindStatus m' id votes,
      by decide, ?_, ?_⟩
    · simp only [List.append_assoc, List.cons_append, List.nil_append]
    · simp only [List.append_assoc, List.cons_append, List.nil_append]

/-- An entry that is begun by the first key keeps its id as long as there is room, for then
    the index does not come round. -/
theorem foldl_first_nodeid {n : Int32} {keys : List Key} {s : MembersState} (room : ScanRoom n s keys) (begun : 0 ≤ s.i) :
    ((keys.foldl visit s).array 0).nodeid = (s.array 0).nodeid := by
  induction keys generalizing s with
  | nil => rfl
  | cons k keys ih =>
    obtain ⟨here, rest⟩ := room
    have index : (visit s k).i = if (scan_member k.name).1.getD s.id ≠ s.prev then s.i + 1 else s.i := by
      simp only [visit, readInto_i, enter]
    have nodeid := readInto_nodeid (enter ((scan_member k.name).1.getD s.id)
      { s with key_suffix := ((scan_member k.name).2.map (strcpy s.key_suffix)).getD s.key_suffix }) 0 k.reading
    rw [List.foldl_cons]
    by_cases new : (scan_member k.name).1.getD s.id ≠ s.prev
    · have inside := here.begun new
      rw [if_pos new] at index
      rw [index] at inside
      have apart : s.i + 1 ≠ 0 := by
        intro zero
        have last : s.i = -1 := by rw [← Int32.add_sub_cancel s.i 1, zero]; rfl
        exact absurd (last ▸ begun) (by decide)
      rw [ih rest (index ▸ inside.1), visit, nodeid, enter_array, if_neg fun new => apart new.2]
    · rw [if_neg new] at index
      rw [ih rest (index ▸ begun), visit, nodeid, enter_array, if_neg fun other => new other.1]

/-- No line comes to a byte that depends on the memory. -/
def Steady (E : Outcomes) : Prop :=
  ∀ u u' k, k < lineCount E cleared → (∀ j < k, line E u j = line E u' j) →
    ∀ front a b rest rest', a ≠ b → line E u k = front ++ a :: rest → line E u' k ≠ front ++ b :: rest'

section
variable {E : Outcomes}

theorem steady_located (steady : Steady E) (first : 0 < lineCount E cleared) :
    (E.located 0).1 = .CS_OK ∧ (E.located 0).2.1 = .CS_OK := by
  by_contra failed
  have shown : ∀ id, line E { cleared with local_nodeid := id } 0 =
      lineText (entries E cleared 0) id (votesText (E.votes 0)) := by
    intro id
    rw [line, localId, if_neg failed]
    rfl
  have marked := steady { cleared with local_nodeid := (entries E cleared 0).nodeid.toUInt32 }
    { cleared with local_nodeid := (entries E cleared 0).nodeid.toUInt32 + 1 } 0 first (by simp)
  rw [shown, shown] at marked
  generalize entries E cleared 0 = m at marked
  have here : localText m.nodeid m.nodeid.toUInt32 = ascii "(local)" := if_pos rfl
  have here' : localText m.nodeid (m.nodeid.toUInt32 + 1) = [] := if_neg (by simp)
  refine marked (beforeIp m ++ (cstr m.ip ++ (9 :: (ascii "STATUS: " ++ (cstr m.status ++ (9 :: votesText (E.votes 0)))))))
    40 10 (ascii "local)" ++ ascii "\n") [] (by decide) ?_ ?_
  · simp only [lineText_eq, behindStatus, here, List.append_assoc, List.cons_append]
    rfl
  · simp only [lineText_eq, behindStatus, here', List.append_assoc, List.cons_append, List.nil_append]
    rfl

/-- The number of the first entry is not what the memory held. -/
theorem steady_nodeid (steady : Steady E) (first : 0 < lineCount E cleared) (u u' : Uninit)
    (one : (entries E u 0).nodeid = 1) : (entries E u' 0).nodeid ≠ 2 := by
  intro two
  obtain ⟨rest, here⟩ := lineText_nodeid (show decimalInt (entries E u 0).nodeid.toInt = [49] by rw [one]; decide)
    (localId E u) (votesText (E.votes 0))
  obtain ⟨rest', here'⟩ := lineText_nodeid (show decimalInt (entries E u' 0).nodeid.toInt = [50] by rw [two]; decide)
    (localId E u') (votesText (E.votes 0))
  exact steady u u' 0 first (by simp) _ 49 50 rest rest' (by decide) here here'

theorem steady_scans (steady : Steady E) (first : 0 < lineCount E cleared) :
    E.scan.opened = .CS_OK ∧ E.scan.begun = .CS_OK := by
  by_contra failed
  have held : ∀ u, entries E u = u.entries := fun u => if_neg failed
  exact steady_nodeid steady first { cleared with entries := fun _ => ⟨1, [], []⟩ }
    { cleared with entries := fun _ => ⟨2, [], []⟩ } (by rw [held]) (by rw [held])

/-- Without an id in its first key a scan takes what `id` held for the number of the first entry. -/
theorem foldl_unscanned_nodeid {k : Key} {keys : List Key} (unscanned : scan_id k.name = none) {s : MembersState} {n : Int32}
    (room : ScanRoom n s (k :: keys)) (start : s.prev = -1 ∧ s.i = -1) (held : s.id ≠ -1) :
    (((k :: keys).foldl visit s).array 0).nodeid = s.id := by
  have unscanned : (scan_member k.name).1 = none := by rw [scan_member_id, unscanned]
  have index : (visit s k).i = 0 := by simp [visit, enter, unscanned, start, held]
  have nodeid : ((visit s k).array 0).nodeid = s.id := by
    rw [visit, readInto_nodeid, enter_array, if_pos (by simp [unscanned, start, held]), unscanned]
    rfl
  rw [List.foldl_cons]
  exact (foldl_first_nodeid room.2 (by rw [index]; decide)).trans nodeid

theorem steady_begins (steady : Steady E) (some : 0 < lineCount E cleared)
    (room : ∀ u : Uninit, ScanRoom (counted E.count.keys u.count_id) (first u) E.scan.keys) : Begins E.scan.keys := by
  have scans := steady_scans steady some
  have held : ∀ u, entries E u = (E.scan.keys.foldl visit (first u)).array := fun u => if_pos scans
  cases keys : E.scan.keys with
  | nil =>
    rw [keys] at held
    exact absurd (by rw [held]; rfl) (steady_nodeid steady some { cleared with entries := fun _ => ⟨1, [], []⟩ }
      { cleared with entries := fun _ => ⟨2, [], []⟩ } (by rw [held]; rfl))
  | cons k rest =>
    refine ⟨k, rfl, ?_⟩
    by_contra unscanned
    have begun : ∀ c, c ≠ -1 → (entries E { cleared with id := c } 0).nodeid = c := by
      intro c new
      rw [held, keys]
      exact foldl_unscanned_nodeid (by simpa using unscanned) (keys ▸ room { cleared with id := c }) ⟨rfl, rfl⟩ new
    exact steady_nodeid steady some { cleared with id := 1 } { cleared with id := 2 } (begun 1 (by decide)) (begun 2 (by decide))

/-- Memory whose entry `k` shows one of two values of a field. -/
def showing (k : Nat) (f : Field) (b : Bool) : Uninit :=
  { cleared with entries := Function.update (fun _ => ⟨0, [], []⟩) (Int32.ofNat k) (mark f b) }

theorem showing_others {k : Nat} {f g : Field} {j : Int32} (other : j ≠ Int32.ofNat k ∨ g ≠ f) :
    Field.value ((showing k f true).entries j) g = Field.value ((showing k f false).entries j) g := by
  by_cases here : j = Int32.ofNat k
  · have differs : g ≠ f := other.resolve_left fun apart => apart here
    rw [here]
    simp only [showing, Function.update_self]
    cases f <;> cases g <;> first | rfl | exact absurd rfl differs
  · simp only [showing, Function.update_of_ne here]

theorem entries_showing (scans : E.scan.opened = .CS_OK ∧ E.scan.begun = .CS_OK) (begins : Begins E.scan.keys) (k : Nat) (f : Field)
    (b : Bool) (j : Int32) (g : Field) : Field.value (entries E (showing k f b) j) g =
      (lastSet j g (visits none (-1) (-1) E.scan.keys)).getD (Field.value ((showing k f b).entries j) g) := by
  have plain : cstr [] ≠ ascii "ip" ∧ cstr [] ≠ ascii "status" := by decide
  rw [entries, if_pos scans]
  exact scan_value (start_ready begins none (showing k f b) (by simp)) g (.inr (.inr plain)) j

/-- The lines belong to entries that differ. -/
theorem line_index_ne {j k : Nat} (before : j < k) {u : Uninit} (inside : k < lineCount E u) : Int32.ofNat j ≠ Int32.ofNat k := by
  have bound := Int32.toInt_lt (counted E.count.keys u.count_id)
  rw [lineCount] at inside
  intro same
  have value := congrArg Int32.toInt same
  rw [Int32.toInt_ofNat_of_lt (by omega), Int32.toInt_ofNat_of_lt (by omega)] at value
  omega

theorem steady_set (steady : Steady E) (scans : E.scan.opened = .CS_OK ∧ E.scan.begun = .CS_OK) (begins : Begins E.scan.keys)
    {k : Nat} (inside : k < lineCount E cleared) (f : Field) : IsSet E.scan.keys (Int32.ofNat k) f := by
  by_contra unset
  have last : lastSet (Int32.ofNat k) f (visits none (-1) (-1) E.scan.keys) = none := by
    simpa using (lastSet_isSome _ f _).not.mpr unset
  have held := entries_showing scans begins k f
  have others : ∀ j g, j ≠ Int32.ofNat k ∨ g ≠ f →
      Field.value (entries E (showing k f true) j) g = Field.value (entries E (showing k f false) j) g := by
    intro j g other
    rw [held, held, showing_others other]
  have marked : ∀ b, Field.value (entries E (showing k f b) (Int32.ofNat k)) f = Field.value (mark f b) f := by
    intro b
    rw [held, last]
    simp only [showing, Function.update_self, Option.getD_none]
  obtain ⟨front, a, b, rest, rest', other, here, here'⟩ := lineText_marked (fun g other => others _ g (.inr other))
    (marked true) (marked false) (localId E cleared) (votesText (E.votes k))
  refine steady (showing k f true) (showing k f false) k inside (fun j before => ?_) front a b rest rest' other here here'
  exact lineText_congr (fun g => others _ g (.inl (line_index_ne before inside))) _ _

end

/-- Where the texts are the same and something is counted, the first key has an id. -/
theorem same_begins {E : Outcomes} {c : Int32} (some : 0 < (counted E.count.keys c).toInt)
    (printed : ∀ u u', (List.range (lineCount E u)).flatMap (line E u) = (List.range (lineCount E u')).flatMap (line E u')) :
    Begins E.count.keys := by
  cases keys : E.count.keys with
  | nil =>
    rw [keys] at some
    exact absurd some (by simp [counted])
  | cons k rest =>
    refine ⟨k, rfl, ?_⟩
    by_contra unscanned
    obtain ⟨c', varies⟩ := counted_varies (by simpa using unscanned) c
    rw [← keys] at varies
    have number : (counted E.count.keys c').toInt.toNat = (counted E.count.keys c).toInt.toNat :=
      flatMap_range_inj (by simp [line, lineText_eq, beforeIp]) (printed { cleared with count_id := c' } { cleared with count_id := c })
    exact varies (Int32.toInt_inj.mp (by omega))

/-- A scan that has room where nothing is counted begins with an id, which is none that
    begins an entry. -/
theorem roomy_begins {keys : List Key} {n : Int32} (none : n.toInt ≤ 0) (room : ∀ u, ScanRoom n (first u) keys) :
    keys = [] ∨ Begins keys := by
  cases keys with
  | nil => exact .inl rfl
  | cons k rest =>
    refine .inr ⟨k, rfl, ?_⟩
    by_contra unscanned
    have unscanned : (scan_member k.name).1 = .none := by rw [scan_member_id, ← Option.not_isSome_iff_eq_none]; exact unscanned
    have inside := (room cleared).1.begun (by rw [unscanned]; decide)
    have zero : (0 : Int32).toInt = 0 := rfl
    simp only [InBounds, Int32.le_iff_toInt_le, Int32.lt_iff_toInt_lt, zero] at inside
    omega

theorem same_settled {E : Outcomes} (room : Roomy E) (same : ∀ u u', text E u = text E u') : Settled E := by
  by_cases opened : E.count.opened = .CS_OK ∧ E.count.begun = .CS_OK
  swap
  · exact .inl opened
  -- the count that `count_id` is cleared for has room for the scan of any other memory
  have enough : ∀ scans, ∀ u : Uninit, ScanRoom (counted E.count.keys 0) (first u) E.scan.keys :=
    fun scans u => room opened scans { u with count_id := 0 }
  have inRoom : E.scan.opened = .CS_OK ∧ E.scan.begun = .CS_OK → Begins E.scan.keys →
      InRoom (counted E.count.keys 0) E.scan.keys := fun scans begins => (inRoom_iff begins _).mpr (enough scans)
  by_cases nothing : ∀ c, (counted E.count.keys c).toInt ≤ 0
  · refine .inr ⟨fun scans => ?_, .inl nothing⟩
    exact (roomy_begins (nothing 0) (enough scans)).imp_right fun begins => ⟨begins, inRoom scans begins⟩
  obtain ⟨c, some⟩ := not_forall.mp nothing
  have printed : ∀ u u', (List.range (lineCount E u)).flatMap (line E u) = (List.range (lineCount E u')).flatMap (line E u') := by
    intro u u'
    have texts := same u u'
    rw [text, if_pos opened, text, if_pos opened] at texts
    exact List.append_cancel_left texts
  have counts := same_begins (Int.not_le.mp some) printed
  have lines : ∀ u, lineCount E u = lineCount E cleared := by
    intro u
    rw [lineCount, lineCount, counted_begins counts u.count_id]
  have first : 0 < lineCount E cleared := by
    rw [lineCount, counted_begins counts _ c]
    omega
  have steady : Steady E := by
    intro u u' k inside before front a b rest rest' other here here'
    have texts := printed u u'
    rw [lines u, lines u'] at texts
    exact flatMap_differ inside before here here' other texts
  have scans := steady_scans steady first
  have begins := steady_begins steady first (room opened scans)
  refine .inr ⟨fun _ => .inr ⟨begins, inRoom scans begins⟩, .inr ⟨counts, steady_located steady first, scans, begins, ?_⟩⟩
  intro k inside f
  exact steady_set steady scans begins (by rwa [lineCount, counted_begins counts _ 0]) f

/-- Every run is defined and the output does not depend on the memory, if and only if the
    outcomes settle it. -/
theorem output_settled_iff (E : Outcomes) : Independent E ↔ Settled E := by
  constructor
  · rintro ⟨safe, same⟩
    exact same_settled ((defined_iff E).mp safe) ((printsSame_iff E).mp same)
  · intro settled
    exact ⟨(defined_iff E).mpr (settled_roomy settled), (printsSame_iff E).mpr (settled_same settled)⟩

/-! ### A node without a status -/

def memberKey (name : String) (value : CString) : Key where
  name := generic_key_prefix ++ ascii name
  type := .STRING
  reading := ⟨.CS_OK, (.CS_OK, value.chars.length + 1, .STRING), (.CS_OK, some value), (.CS_OK, 0, .STRING, []), []⟩

/-- Both iterations give `keys`, and every call succeeds. -/
def allSucceed (keys : List Key) : Outcomes where
  count := ⟨.CS_OK, .CS_OK, keys, .CS_ERR_NO_SECTIONS, by decide⟩
  scan := ⟨.CS_OK, .CS_OK, keys, .CS_ERR_NO_SECTIONS, by decide⟩
  located := fun _ => (.CS_OK, .CS_OK, 1)
  votes := fun _ => (.CS_OK, .CS_OK, ⟨1, 1, 1, 1, 1, 1, 1, 0, 0, []⟩)

def nodeIp : Key := memberKey "1.ip" ⟨ascii "r(0) ip(10.0.0.1)", by decide⟩
def nodeStatus : Key := memberKey "1.status" ⟨ascii "left", by decide⟩

/-- A node with both keys. -/
example : Settled (allSucceed [nodeIp, nodeStatus]) := by
  have begins : Begins [nodeIp, nodeStatus] := ⟨nodeIp, rfl, by decide⟩
  refine .inr ⟨fun _ => .inr ⟨begins, fun v member => ?_⟩, .inr ⟨begins, ⟨rfl, rfl⟩, ⟨rfl, rfl⟩, begins, fun k inside f => ?_⟩⟩
  · have both : visits none (-1) (-1) [nodeIp, nodeStatus] =
      [⟨1, 0, true, some (ascii "ip"), nodeIp.reading⟩, ⟨1, 0, false, some (ascii "status"), nodeStatus.reading⟩] := by rfl
    have member : v ∈ visits none (-1) (-1) [nodeIp, nodeStatus] := member
    rw [both] at member
    have inside : InBounds (.entry 0 (counted [nodeIp, nodeStatus] 0)) := ⟨by decide, by decide⟩
    have ip : nodeIp.reading.Fits INET6_ADDRSTRLEN := by
      rintro _ ⟨⟩
      exact ⟨_, rfl, by decide⟩
    have status : nodeStatus.reading.Fits 32 := by
      rintro _ ⟨⟩
      exact ⟨_, rfl, by decide⟩
    simp only [List.mem_cons, List.not_mem_nil, or_false] at member
    rcases member with rfl | rfl
    · refine ⟨by rintro _ ⟨⟩; decide, fun _ => inside, fun _ => ⟨inside, ip⟩, fun may => ?_⟩
      exact absurd (may _ rfl) (by decide)
    · refine ⟨by rintro _ ⟨⟩; decide, fun _ => inside, fun may => ?_, fun _ => ⟨inside, status⟩⟩
      exact absurd (may _ rfl) (by decide)
  · have one : (counted [nodeIp, nodeStatus] 0).toInt.toNat = 1 := by decide
    obtain rfl : k = 0 := by
      have inside : k < (counted [nodeIp, nodeStatus] 0).toInt.toNat := inside
      omega
    cases f with
    | nodeid => exact ⟨_, .head _, by decide⟩
    | ip => exact ⟨_, .head _, by decide⟩
    | status => exact ⟨_, .tail _ (.head _), by decide⟩

/-- A status key that is deleted before it is read. -/
def goneStatus : Key where
  name := nodeStatus.name
  type := .STRING
  reading := ⟨.CS_OK, (.CS_ERR_NOT_EXIST, 0, .STRING), (.CS_ERR_NOT_EXIST, none), (.CS_OK, 0, .STRING, []), []⟩

/-- The status of a node without a status key, and one that is not read, is what the
    allocated entry held. -/
theorem status_shows_memory : ¬ PrintsSame (allSucceed [nodeIp]) ∧ ¬ PrintsSame (allSucceed [nodeIp, goneStatus]) := by
  have shows : ∀ E, text E cleared ≠ text E { cleared with entries := fun _ => ⟨0, [], [65]⟩ } → ¬ PrintsSame E :=
    fun E differ same => differ ((printsSame_iff E).mp same _ _)
  exact ⟨shows _ (by decide), shows _ (by decide)⟩

/-- A node that joins between the count and the scan has no entry. -/
example : ¬ Independent { allSucceed [nodeIp] with scan := (allSucceed [nodeIp, memberKey "2.ip" ⟨[], by decide⟩]).scan } := by
  intro independent
  have room := (defined_iff _).mp independent.1 ⟨rfl, rfl⟩ ⟨rfl, rfl⟩ cleared
  exact absurd (room.2.1.begun (by decide)).2 (by decide)

end CorosyncClient.Uninitialised
