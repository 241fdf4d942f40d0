import CorosyncClient.Monitor
import CorosyncClient.Interaction.Composition
import Mathlib.Data.Finset.Basic

/-!
The handles of the services. Every function of the client returns with the handles that
were open when it was called: what it opens it finalises once, an iterator before the
cmap handle that it belongs to. The monitor keeps its handles from one event to the next.
-/
namespace CorosyncClient.Handles
open CLib Interaction
set_option linter.unusedSimpArgs false

/-- An open handle. -/
inductive Resource where
  | cmap (handle : Handle)
  | iter (handle iter_handle : Handle)
  | votequorum (handle : Handle)
  | quorum (handle : Handle)
  | cfg (handle : Handle)
  deriving DecidableEq

namespace Resource

/-- The number that the library has given. -/
def number : Resource → Handle
  | cmap handle => handle
  | iter _ iter_handle => iter_handle
  | votequorum handle => handle
  | quorum handle => handle
  | cfg handle => handle

/-- An iterator is within its cmap handle. -/
def Within : Resource → Resource → Prop
  | iter handle _, cmap outer => handle = outer
  | _, _ => False

end Resource

/-- The handle that a call opens, where it succeeds. -/
def opens : (c : Call) → Reply c → Option Resource
  | Call.cmap_initialize, r => if r.1 = .CS_OK then some (.cmap r.2) else none
  | .cmap_iter_init handle _, r => if r.1 = .CS_OK then some (.iter handle r.2) else none
  | Call.votequorum_initialize, r => if r.1 = .CS_OK then some (.votequorum r.2) else none
  | Call.quorum_initialize, r => if r.1 = .CS_OK then some (.quorum r.2.1) else none
  | Call.corosync_cfg_initialize, r => if r.1 = .CS_OK then some (.cfg r.2) else none
  | _, _ => none

/-- The handle that a call finalises, whatever it replies. -/
def closes : Call → Option Resource
  | .cmap_finalize handle => some (.cmap handle)
  | .cmap_iter_finalize handle iter_handle => some (.iter handle iter_handle)
  | .votequorum_finalize handle => some (.votequorum handle)
  | .quorum_finalize handle => some (.quorum handle)
  | .corosync_cfg_finalize handle => some (.cfg handle)
  | _ => none

/-- The calls by which the monitor waits for events; the last is at the head of its loop. -/
def tracks : Call → Bool
  | .quorum_trackstart _ _ => true
  | .votequorum_trackstart _ _ => true
  | .votequorum_dispatch _ => true
  | _ => false

/-- A new handle is not zero, not open already, and nothing open is within it. -/
def Fresh (x : Resource) (s : Finset Resource) : Prop := x.number ≠ 0 ∧ x ∉ s ∧ ∀ y ∈ s, ¬ y.Within x

/-- What may be finalised: a handle that is open, once nothing open is within it. -/
def Closable (x : Resource) (s : Finset Resource) : Prop := x ∈ s ∧ ∀ y ∈ s, ¬ y.Within x

/-- The open handles. The monitor may wait for events where `head` holds. -/
def ledger (head : Call → Finset Resource → Prop) : LibWorld (Finset Resource) where
  permits s c := (∀ x ∈ closes c, Closable x s) ∧ (tracks c → head c s)
  answers s c r s' :=
    match closes c with
    | some x => s' = s.erase x
    | none =>
      match opens c r with
      | some x => Fresh x s ∧ s' = insert x s
      | none => s' = s

/-- `t` is `s` with some handles opened, the last one first. -/
def Opened (s : Finset Resource) : List Resource → Finset Resource → Prop
  | [], t => t = s
  | x :: xs, t => ∃ u, Opened s xs u ∧ Fresh x u ∧ t = insert x u

section
variable {α β : Type} {head : Call → Finset Resource → Prop} {xs : List Resource}

/-- Run where the handles `xs` have been opened, the program finalises them and all that
    it opens itself. -/
def Closes (head : Call → Finset Resource → Prop) (xs : List Resource) (p : Client α) : Prop :=
  ∀ s t, Opened s xs t → wlp (ledger head) p (fun _ u => u = s) t

/-! ### Rules -/

/-- A call that opens and finalises nothing. -/
theorem wlp_neutral {c : Call} {next : Reply c → Client α} {Q : α → Finset Resource → Prop} {s : Finset Resource}
    (none : closes c = none) (unopened : ∀ r, opens c r = .none) (inside : tracks c = true → head c s)
    (rest : ∀ r, wlp (ledger head) (next r) Q s) : wlp (ledger head) (.call c next) Q s := by
  refine ⟨⟨by simp [none], inside⟩, fun r t answered => ?_⟩
  simp only [ledger, none, unopened] at answered
  exact answered ▸ rest r

/-- A call that may open a handle, and the check of its result. -/
theorem wlp_open (c : Call) {fails next : Reply c → Client α} {Q : α → Finset Resource → Prop} {s : Finset Resource}
    (err : Reply c → CsError) (x : Reply c → Resource) (none : closes c = none)
    (opening : ∀ r, opens c r = if err r = .CS_OK then some (x r) else .none) (inside : tracks c = false)
    (failed : ∀ r, err r ≠ .CS_OK → wlp (ledger head) (fails r) Q s)
    (rest : ∀ r, Fresh (x r) s → wlp (ledger head) (next r) Q (insert (x r) s)) :
    wlp (ledger head) (.call c fun r => if err r ≠ .CS_OK then fails r else next r) Q s := by
  refine ⟨⟨by simp [none], by simp [inside]⟩, fun r t answered => ?_⟩
  simp only [ledger, none, opening] at answered
  beta_reduce
  by_cases ok : err r = .CS_OK
  · rw [if_neg (not_ne_iff.mpr ok)]
    simp only [ok, if_true] at answered
    exact answered.2 ▸ rest r answered.1
  · rw [if_pos ok]
    simp only [ok, if_false] at answered
    exact answered ▸ failed r ok

theorem closes_ret (a : α) : Closes head [] (.ret a) := fun _ _ opened => opened

theorem closes_bind {p : Client α} {f : α → Client β} (first : Closes head [] p) (rest : ∀ a, Closes head xs (f a)) :
    Closes head xs (p >>= f) := by
  intro s t opened
  refine wlp_seq (first t t rfl) ?_
  rintro a u rfl
  exact rest a s u opened

theorem closes_ite {P : Prop} [Decidable P] {p q : Client α} (yes : P → Closes head xs p) (no : ¬ P → Closes head xs q) :
    Closes head xs (if P then p else q) := by
  split
  · exact yes ‹_›
  · exact no ‹_›

theorem closes_call {c : Call} {next : Reply c → Client α} (none : closes c = none) (unopened : ∀ r, opens c r = .none)
    (inside : tracks c = false) (rest : ∀ r, Closes head xs (next r)) : Closes head xs (.call c next) :=
  fun s t opened => wlp_neutral none unopened (by simp [inside]) (fun r => rest r s t opened)

theorem closes_open (c : Call) {fails next : Reply c → Client α} (err : Reply c → CsError) (x : Reply c → Resource)
    (none : closes c = none) (opening : ∀ r, opens c r = if err r = .CS_OK then some (x r) else .none)
    (inside : tracks c = false) (failed : ∀ r, err r ≠ .CS_OK → Closes head xs (fails r))
    (rest : ∀ r, Closes head (x r :: xs) (next r)) :
    Closes head xs (.call c fun r => if err r ≠ .CS_OK then fails r else next r) :=
  fun s t opened => wlp_open c err x none opening inside (fun r notOk => failed r notOk s t opened)
    (fun r fresh => rest r s _ ⟨t, opened, fresh, rfl⟩)

theorem not_within_self (x : Resource) : ¬ x.Within x := by
  cases x <;> simp [Resource.Within]

theorem opened_mem {s t : Finset Resource} {x : Resource} (opened : Opened s xs t) (member : x ∈ xs) : x ∈ t := by
  induction xs generalizing t with
  | nil => simp at member
  | cons y xs ih =>
    obtain ⟨u, below, _, rfl⟩ := opened
    rcases List.mem_cons.mp member with rfl | member
    · exact Finset.mem_insert_self x u
    · exact Finset.mem_insert_of_mem (ih below member)

theorem opened_closable {s t : Finset Resource} {x : Resource} (opened : Opened s xs t) (member : x ∈ xs)
    (alone : ∀ y ∈ xs, ¬ y.Within x) : Closable x t := by
  refine ⟨opened_mem opened member, ?_⟩
  induction xs generalizing t with
  | nil => simp at member
  | cons z xs ih =>
    obtain ⟨u, below, fresh, rfl⟩ := opened
    intro y inside
    rcases Finset.mem_insert.mp inside with rfl | below'
    · exact alone y (by simp)
    · rcases List.mem_cons.mp member with rfl | member
      · exact fresh.2.2 y below'
      · exact ih below member (fun y more => alone y (by simp [more])) y below'

theorem opened_erase {s t : Finset Resource} {x : Resource} (opened : Opened s xs t) (member : x ∈ xs) :
    Opened s (xs.erase x) (t.erase x) := by
  induction xs generalizing t with
  | nil => simp at member
  | cons y xs ih =>
    obtain ⟨u, below, fresh, rfl⟩ := opened
    by_cases same : y = x
    · subst same
      rw [List.erase_cons_head, Finset.erase_insert fresh.2.1]
      exact below
    · have member' : x ∈ xs := by simpa [Ne.symm same] using member
      rw [List.erase_cons_tail (by simpa using same), Finset.erase_insert_of_ne same]
      refine ⟨u.erase x, ih below member', ⟨fresh.1, ?_, ?_⟩, rfl⟩
      · exact fun inside => fresh.2.1 (Finset.mem_of_mem_erase inside)
      · exact fun z inside => fresh.2.2 z (Finset.mem_of_mem_erase inside)

/-- One of the handles is finalised; none of the others is within it. -/
theorem closes_any {c : Call} {next : Reply c → Client α} {x : Resource} (closing : closes c = some x)
    (inside : tracks c = false) (member : x ∈ xs) (alone : ∀ y ∈ xs, ¬ y.Within x)
    (rest : ∀ r, Closes head (xs.erase x) (next r)) : Closes head xs (.call c next) := by
  intro s t opened
  refine ⟨⟨?_, by simp [inside]⟩, fun r t' answered => ?_⟩
  · rintro y isClosed
    obtain rfl : x = y := by simpa [closing] using isClosed
    exact opened_closable opened member alone
  · simp only [ledger, closing] at answered
    exact answered ▸ rest r s _ (opened_erase opened member)

/-- The handle that was opened last is finalised. -/
theorem closes_close {c : Call} {next : Reply c → Client α} {x : Resource} (closing : closes c = some x)
    (inside : tracks c = false) (rest : ∀ r, Closes head xs (next r)) : Closes head (x :: xs) (.call c next) := by
  rintro s _ ⟨u, opened, fresh, rfl⟩
  refine ⟨⟨?_, by simp [inside]⟩, fun r t' answered => ?_⟩
  · rintro y isClosed
    obtain rfl : x = y := by simpa [closing] using isClosed
    refine ⟨Finset.mem_insert_self x u, fun y member => ?_⟩
    rcases Finset.mem_insert.mp member with rfl | member
    · exact not_within_self y
    · exact fresh.2.2 y member
  · simp only [ledger, closing, Finset.erase_insert fresh.2.1] at answered
    exact answered ▸ rest r s u opened

theorem closes_loop {body : β → Client (β ⊕ α)} (round : ∀ b, Closes head [] (body b)) (fuel : Nat) (b : β) :
    Closes head [] (loop body fuel b) := by
  rintro s t rfl
  refine wlp_loop (fun _ u => u = t) ?_ fuel b rfl
  rintro b u rfl
  refine wlp_mono (round b u u rfl) ?_
  rintro (again | result) v same
  · exact same
  · exact same

theorem closes_forEntries {len : Int32} {body : Int32 → β → Client β} (each : ∀ i b, Closes head [] (body i b)) (b : β) :
    Closes head [] (forEntries len body b) := by
  unfold forEntries
  generalize len.toInt.toNat = n
  induction n generalizing b with
  | zero => exact closes_ret b
  | succ n ih => exact closes_bind (ih b) (each _)

/-! The rules for the calls of each service. -/

theorem closes_votequorum {fails next : CsError × Handle → Client α}
    (failed : ∀ r, r.1 ≠ .CS_OK → Closes head xs (fails r)) (rest : ∀ r, Closes head (.votequorum r.2 :: xs) (next r)) :
    Closes head xs (.call Call.votequorum_initialize fun r => if r.1 ≠ .CS_OK then fails r else next r) :=
  closes_open Call.votequorum_initialize Prod.fst (fun r => .votequorum r.2) rfl (fun _ => rfl) rfl failed rest

theorem closes_votequorum_finalize {handle : Handle} {next : CsError → Client α} (rest : ∀ r, Closes head xs (next r)) :
    Closes head (.votequorum handle :: xs) (.call (.votequorum_finalize handle) next) := closes_close rfl rfl rest

theorem closes_cfg {fails next : CsError × Handle → Client α}
    (failed : ∀ r, r.1 ≠ .CS_OK → Closes head xs (fails r)) (rest : ∀ r, Closes head (.cfg r.2 :: xs) (next r)) :
    Closes head xs (.call Call.corosync_cfg_initialize fun r => if r.1 ≠ .CS_OK then fails r else next r) :=
  closes_open Call.corosync_cfg_initialize Prod.fst (fun r => .cfg r.2) rfl (fun _ => rfl) rfl failed rest

theorem closes_cfg_finalize {handle : Handle} {next : CsError → Client α} (rest : ∀ r, Closes head xs (next r)) :
    Closes head (.cfg handle :: xs) (.call (.corosync_cfg_finalize handle) next) := closes_close rfl rfl rest

theorem closes_cmap {fails next : CsError × Handle → Client α}
    (failed : ∀ r, r.1 ≠ .CS_OK → Closes head xs (fails r)) (rest : ∀ r, Closes head (.cmap r.2 :: xs) (next r)) :
    Closes head xs (.call Call.cmap_initialize fun r => if r.1 ≠ .CS_OK then fails r else next r) :=
  closes_open Call.cmap_initialize Prod.fst (fun r => .cmap r.2) rfl (fun _ => rfl) rfl failed rest

theorem closes_cmap_finalize {handle : Handle} {next : CsError → Client α} (rest : ∀ r, Closes head xs (next r)) :
    Closes head (.cmap handle :: xs) (.call (.cmap_finalize handle) next) := closes_close rfl rfl rest

theorem closes_iter {handle : Handle} {key : Bytes} {fails next : CsError × Handle → Client α}
    (failed : ∀ r, r.1 ≠ .CS_OK → Closes head xs (fails r)) (rest : ∀ r, Closes head (.iter handle r.2 :: xs) (next r)) :
    Closes head xs (.call (.cmap_iter_init handle key) fun r => if r.1 ≠ .CS_OK then fails r else next r) :=
  closes_open (.cmap_iter_init handle key) Prod.fst (fun r => .iter handle r.2) rfl (fun _ => rfl) rfl failed rest

theorem closes_iter_finalize {handle iter_handle : Handle} {next : CsError → Client α}
    (rest : ∀ r, Closes head xs (next r)) :
    Closes head (.iter handle iter_handle :: xs) (.call (.cmap_iter_finalize handle iter_handle) next) :=
  closes_close rfl rfl rest

end

/-! ### The functions of the client -/

section
variable {head : Call → Finset Resource → Prop}

theorem get_local_nodeid_closes (id : UInt32) : Closes head [] (get_local_nodeid id) := by
  simp only [get_local_nodeid, perform_bind, Prog.pure_eq]
  refine closes_cfg (fun r _ => closes_ret _) fun r => closes_call rfl (fun _ => rfl) rfl fun got => ?_
  exact closes_ite (fun _ => closes_cfg_finalize fun _ => closes_ret _) (fun _ => closes_cfg_finalize fun _ => closes_ret _)

theorem get_votes_closes (nodeid votes : UInt32) : Closes head [] (get_votes nodeid votes) := by
  simp only [get_votes, perform_bind, Prog.pure_eq]
  refine closes_votequorum (fun r _ => closes_ret _) fun r => closes_bind (get_local_nodeid_closes 0) fun _ => ?_
  refine closes_call rfl (fun _ => rfl) rfl fun info => ?_
  exact closes_ite (fun _ => closes_votequorum_finalize fun _ => closes_ret _)
    (fun _ => closes_votequorum_finalize fun _ => closes_ret _)

theorem get_quorum_info_closes (qd : QuorumDetails) : Closes head [] (get_quorum_info qd) := by
  simp only [get_quorum_info, perform_bind, Prog.pure_eq]
  refine closes_votequorum (fun r _ => closes_ret _) fun r => closes_bind (get_local_nodeid_closes 0) fun _ => ?_
  refine closes_call rfl (fun _ => rfl) rfl fun info => ?_
  exact closes_ite (fun _ => closes_votequorum_finalize fun _ => closes_ret _)
    (fun _ => closes_votequorum_finalize fun _ => closes_ret _)

theorem get_votequorum_info_closes (vqi : VotequorumInfo) (id : UInt32) : Closes head [] (get_votequorum_info vqi id) := by
  simp only [get_votequorum_info, perform_bind, Prog.pure_eq]
  refine closes_votequorum (fun r _ => closes_ret _) fun r => closes_call rfl (fun _ => rfl) rfl fun info => ?_
  exact closes_ite (fun _ => closes_votequorum_finalize fun _ => closes_ret _)
    (fun _ => closes_votequorum_finalize fun _ => closes_ret _)

theorem get_expected_votes_closes (expected_votes : UInt32) : Closes head [] (get_expected_votes expected_votes) := by
  simp only [get_expected_votes, perform_bind, Prog.pure_eq]
  refine closes_bind (get_local_nodeid_closes 0) fun _ => closes_ite (fun _ => closes_ret _) fun _ => ?_
  refine closes_votequorum (fun r _ => closes_ret _) fun r => closes_call rfl (fun _ => rfl) rfl fun info => ?_
  exact closes_ite (fun _ => closes_votequorum_finalize fun _ => closes_ret _)
    (fun _ => closes_votequorum_finalize fun _ => closes_ret _)

theorem set_expected_votes_closes (expected_votes : UInt32) : Closes head [] (set_expected_votes expected_votes) := by
  simp only [set_expected_votes, perform_bind, Prog.pure_eq]
  refine closes_bind (get_local_nodeid_closes 0) fun _ => closes_ite (fun _ => closes_ret _) fun _ => ?_
  refine closes_votequorum (fun r _ => closes_ret _) fun r => closes_call rfl (fun _ => rfl) rfl fun err => ?_
  exact closes_ite (fun _ => closes_votequorum_finalize fun _ => closes_ret _)
    (fun _ => closes_votequorum_finalize fun _ => closes_ret _)

theorem set_votes_closes (nodeid votes : UInt32) : Closes head [] (set_votes nodeid votes) := by
  simp only [set_votes, perform_bind, Prog.pure_eq]
  refine closes_votequorum (fun r _ => closes_ret _) fun r => closes_call rfl (fun _ => rfl) rfl fun err => ?_
  exact closes_ite (fun _ => closes_votequorum_finalize fun _ => closes_ret _)
    (fun _ => closes_votequorum_finalize fun _ => closes_ret _)

theorem set_votes_and_adjust_closes (nodeid votes : UInt32) : Closes head [] (set_votes_and_adjust nodeid votes) := by
  simp only [set_votes_and_adjust, perform_bind, Prog.pure_eq]
  refine closes_votequorum (fun r _ => closes_ret _) fun r => closes_bind (get_votes_closes nodeid 0) fun _ => ?_
  refine closes_ite (fun _ => closes_votequorum_finalize fun _ => closes_ret _) fun _ => ?_
  refine closes_bind (get_expected_votes_closes 0) fun _ => ?_
  refine closes_ite (fun _ => closes_votequorum_finalize fun _ => closes_ret _) fun _ => ?_
  refine closes_call rfl (fun _ => rfl) rfl fun err => ?_
  refine closes_ite (fun _ => closes_votequorum_finalize fun _ => closes_ret _) fun _ => ?_
  refine closes_bind (set_expected_votes_closes _) fun _ => ?_
  exact closes_ite (fun _ => closes_votequorum_finalize fun _ => closes_ret _)
    (fun _ => closes_votequorum_finalize fun _ => closes_ret _)

theorem set_cmap_value_closes (key_name value : Bytes) (type : UInt32) :
    Closes head [] (set_cmap_value key_name value type) := by
  simp only [set_cmap_value, perform_bind, Prog.pure_eq]
  refine closes_ite (fun _ => closes_ret _) fun _ => closes_cmap (fun r _ => closes_ret _) fun r => ?_
  split
  · refine closes_call rfl (fun _ => rfl) rfl fun err => ?_
    exact closes_ite (fun _ => closes_cmap_finalize fun _ => closes_ret _) (fun _ => closes_cmap_finalize fun _ => closes_ret _)
  · exact closes_cmap_finalize fun _ => closes_ret _

theorem fetch_value_closes (handle : Handle) (key_name : Bytes) (len : Nat) (type : CmapType) :
    Closes head [] (fetch_value handle key_name len type) := by
  simp only [fetch_value, perform_bind, Prog.pure_eq]
  exact closes_ite (fun _ => closes_call rfl (fun _ => rfl) rfl fun _ => closes_ret _)
    (fun _ => closes_call rfl (fun _ => rfl) rfl fun _ => closes_ret _)

theorem get_cmap_value_closes (key_name : Bytes) (value : Bool) (type : CmapType) :
    Closes head [] (get_cmap_value key_name value type) := by
  simp only [get_cmap_value, perform_bind, Prog.pure_eq]
  refine closes_cmap (fun r _ => closes_ret _) fun r => closes_call rfl (fun _ => rfl) rfl fun probe => ?_
  refine closes_ite (fun _ => closes_cmap_finalize fun _ => closes_ret _) fun _ => ?_
  refine closes_ite (fun _ => closes_cmap_finalize fun _ => closes_ret _) fun _ => ?_
  refine closes_bind (fetch_value_closes _ _ _ _) fun _ => ?_
  exact closes_ite (fun _ => closes_cmap_finalize fun _ => closes_ret _) (fun _ => closes_cmap_finalize fun _ => closes_ret _)

theorem fetch_if_asked_closes (handle : Handle) (key_name : Bytes) (value : Bool) (err : CsError) (len : Nat)
    (type : CmapType) : Closes head [] (fetch_if_asked handle key_name value err len type) := by
  simp only [fetch_if_asked, Prog.pure_eq]
  exact closes_ite (fun _ => closes_bind (fetch_value_closes _ _ _ _) fun _ => closes_ret _) (fun _ => closes_ret _)

theorem delete_cmap_value_closes (key_name : Bytes) (value : Bool) (type : CmapType) :
    Closes head [] (delete_cmap_value key_name value type) := by
  simp only [delete_cmap_value, perform_bind, Prog.pure_eq]
  refine closes_cmap (fun r _ => closes_ret _) fun r => closes_call rfl (fun _ => rfl) rfl fun probe => ?_
  refine closes_ite (fun _ => closes_cmap_finalize fun _ => closes_ret _) fun _ => ?_
  refine closes_bind (fetch_if_asked_closes _ _ _ _ _ _) fun _ => ?_
  refine closes_ite (fun _ => closes_cmap_finalize fun _ => closes_ret _) fun _ => ?_
  refine closes_call rfl (fun _ => rfl) rfl fun err => ?_
  exact closes_ite (fun _ => closes_cmap_finalize fun _ => closes_ret _) (fun _ => closes_cmap_finalize fun _ => closes_ret _)

theorem count_round_closes (handle iter_handle : Handle) (b : CountState) :
    Closes head [] (count_round handle iter_handle b) := by
  simp only [count_round, perform_bind, Prog.pure_eq]
  refine closes_call rfl (fun _ => rfl) rfl fun next => closes_ite (fun _ => closes_ret _) fun _ => ?_
  exact closes_ite (fun _ => closes_ret _) (fun _ => closes_ret _)

theorem get_member_count_closes (fuel : Nat) (id count : Int32) : Closes head [] (get_member_count fuel id count) := by
  simp only [get_member_count, perform_bind, Prog.pure_eq]
  refine closes_cmap (fun r _ => closes_ret _) fun r => ?_
  refine closes_iter (fun r _ => closes_cmap_finalize fun _ => closes_ret _) fun iter => ?_
  refine closes_bind (closes_loop (count_round_closes _ _) fuel _) fun _ => ?_
  exact closes_iter_finalize fun _ => closes_cmap_finalize fun _ => closes_ret _

theorem read_string_closes (key_name : Bytes) (type : CmapType) (capacity : Nat) (buffer : Bytes) :
    Closes head [] (read_string key_name type capacity buffer) := by
  simp only [read_string, perform_bind, Prog.pure_eq]
  refine closes_bind (get_cmap_value_closes _ _ _) fun out => closes_ite (fun _ => ?_) fun _ => closes_ret _
  have text : Closes head [] (deref out.2.2) := by
    unfold deref
    split
    · exact closes_ret _
    · exact closes_call rfl (fun _ => rfl) rfl fun _ => closes_ret _
  exact closes_bind text fun _ => closes_call rfl (fun _ => rfl) rfl fun _ => closes_ret _

theorem members_round_closes (handle iter_handle : Handle) (array_len : Int32) (b : MembersState) :
    Closes head [] (members_round handle iter_handle array_len b) := by
  simp only [members_round, perform_bind, Prog.pure_eq]
  refine closes_call rfl (fun _ => rfl) rfl fun next => closes_ite (fun _ => closes_ret _) fun _ => ?_
  have suffix : ∀ buffer word, Closes head [] (store_suffix buffer word) := by
    rintro buffer (_ | word)
    · exact closes_ret _
    · exact closes_call rfl (fun _ => rfl) rfl fun _ => closes_ret _
  have entry : ∀ id s, Closes head [] (begin_entry array_len id s) := by
    intro id s
    exact closes_ite (fun _ => closes_call rfl (fun _ => rfl) rfl fun _ => closes_ret _) (fun _ => closes_ret _)
  refine closes_bind (suffix _ _) fun _ => closes_bind (entry _ _) fun _ => ?_
  refine closes_ite (fun _ => closes_call rfl (fun _ => rfl) rfl fun _ => ?_) fun _ => ?_
  · exact closes_bind (read_string_closes _ _ _ _) fun _ => closes_ret _
  refine closes_ite (fun _ => closes_call rfl (fun _ => rfl) rfl fun _ => ?_) fun _ => closes_ret _
  exact closes_bind (read_string_closes _ _ _ _) fun _ => closes_ret _

theorem get_members_closes (fuel : Nat) (id : Int32) (key_suffix : Bytes) (array : Int32 → ClusterMember)
    (array_len : Int32) : Closes head [] (get_members fuel id key_suffix array array_len) := by
  simp only [get_members, perform_bind, Prog.pure_eq]
  refine closes_cmap (fun r _ => closes_ret _) fun r => ?_
  refine closes_iter (fun r _ => closes_cmap_finalize fun _ => closes_ret _) fun iter => ?_
  refine closes_bind (closes_loop (members_round_closes _ _ _) fuel _) fun _ => ?_
  exact closes_iter_finalize fun _ => closes_cmap_finalize fun _ => closes_ret _

theorem print_member_closes (arr : Int32 → ClusterMember) (arr_len : Int32) (local_nodeid : UInt32) (i : Int32)
    (votes : UInt32) : Closes head [] (print_member arr arr_len local_nodeid i votes) := by
  simp only [print_member, perform_bind, Prog.pure_eq]
  refine closes_call rfl (fun _ => rfl) rfl fun _ => closes_bind (get_votes_closes _ _) fun out => ?_
  refine closes_call rfl (fun _ => rfl) rfl fun _ => closes_call rfl (fun _ => rfl) rfl fun _ => ?_
  have lastLine : Closes head [] (Prog.call (.printf (ascii "\n")) fun _ => .ret out.2) :=
    closes_call rfl (fun _ => rfl) rfl fun _ => closes_ret _
  have mark : Closes head [] (if (arr i).nodeid.toUInt32 = local_nodeid then
      .call (.printf (ascii "(local)")) fun _ => .call (.printf (ascii "\n")) fun _ => .ret out.2
      else .call (.printf (ascii "\n")) fun _ => .ret out.2) :=
    closes_ite (fun _ => closes_call rfl (fun _ => rfl) rfl fun _ => lastLine) (fun _ => lastLine)
  refine closes_call rfl (fun _ => rfl) rfl fun _ => closes_ite (fun _ => ?_) (fun _ => mark)
  exact closes_call rfl (fun _ => rfl) rfl fun _ => mark

theorem print_membership_closes (fuel : Nat) (u : Uninit) : Closes head [] (print_membership fuel u) := by
  simp only [print_membership, perform_bind, Prog.pure_eq]
  refine closes_bind (get_member_count_closes _ _ _) fun _ => closes_ite (fun _ => closes_ret _) fun _ => ?_
  refine closes_bind (closes_forEntries (fun _ _ => closes_call rfl (fun _ => rfl) rfl fun _ => closes_ret _) _) fun _ => ?_
  refine closes_bind (get_local_nodeid_closes _) fun _ => closes_bind (get_members_closes _ _ _ _ _) fun _ => ?_
  refine closes_call rfl (fun _ => rfl) rfl fun _ => closes_call rfl (fun _ => rfl) rfl fun _ => ?_
  exact closes_bind (closes_forEntries (fun _ _ => print_member_closes _ _ _ _ _) _) fun _ => closes_ret _

theorem print_quorum_closes : Closes head [] print_quorum := by
  simp only [print_quorum, print_time, perform_bind, Prog.pure_eq]
  refine closes_bind (get_quorum_info_closes _) fun _ => closes_ite (fun _ => closes_ret _) fun _ => ?_
  refine closes_call rfl (fun _ => rfl) rfl fun _ => closes_call rfl (fun _ => rfl) rfl fun _ => ?_
  refine closes_call rfl (fun _ => rfl) rfl fun _ => closes_call rfl (fun _ => rfl) rfl fun _ => ?_
  refine closes_call rfl (fun _ => rfl) rfl fun _ => closes_call rfl (fun _ => rfl) rfl fun _ => ?_
  refine closes_bind ?_ fun _ => closes_ret _
  exact closes_call rfl (fun _ => rfl) rfl fun _ => closes_call rfl (fun _ => rfl) rfl fun _ => closes_ret _

/-! ### The monitor -/

/-- The handles in the globals, the last one opened first. -/
def handles (g : Globals) : List Resource :=
  (if g.v_handle = 0 then [] else [.votequorum g.v_handle]) ++ (if g.c_handle = 0 then [] else [.cfg g.c_handle]) ++
    (if g.q_handle = 0 then [] else [.quorum g.q_handle]) ++ (if g.cmap_handle = 0 then [] else [.cmap g.cmap_handle])

theorem get_quorum_type_closes (g : Globals) (quorum_type : Bytes) (len : Nat) :
    Closes head [] (get_quorum_type g quorum_type len) := by
  simp only [get_quorum_type, perform_bind, Prog.pure_eq]
  refine closes_ite (fun _ => closes_ret _) fun _ => closes_call rfl (fun _ => rfl) rfl fun r => ?_
  refine closes_ite (fun _ => closes_ret _) fun _ => ?_
  split
  · exact closes_ret _
  · exact closes_ret _

theorem using_votequorum_closes (g : Globals) : Closes head [] (using_votequorum g) := by
  simp only [using_votequorum, Prog.pure_eq]
  refine closes_bind (get_quorum_type_closes _ _ _) fun _ => closes_ite (fun _ => closes_ret _) fun _ => ?_
  exact closes_ite (fun _ => closes_ret _) (fun _ => closes_ret _)

/-- What `init_all` leaves open is in the globals, also where it fails. -/
theorem init_all_spec (g : Globals) (s : Finset Resource) :
    wlp (ledger head) (init_all g) (fun out t => Opened s (handles out.2) t) s := by
  simp only [init_all, perform_bind, Prog.pure_eq]
  have message : ∀ (text : Bytes) (out : Int × Globals) (t : Finset Resource), Opened s (handles out.2) t →
      wlp (ledger head) (.call (.eprintf text) fun _ => .ret out) (fun out t => Opened s (handles out.2) t) t :=
    fun text out t opened => wlp_neutral rfl (fun _ => rfl) (by simp [tracks]) (fun _ => opened)
  refine wlp_open Call.cmap_initialize Prod.fst (fun r => .cmap r.2) rfl (fun _ => rfl) rfl ?_ ?_
  · exact fun r _ => message _ _ _ (by simp [handles, Opened])
  intro cmap freshCmap
  have openCmap : Opened s [.cmap cmap.2] (insert (.cmap cmap.2) s) := ⟨s, rfl, freshCmap, rfl⟩
  have cmapSet : cmap.2 ≠ 0 := freshCmap.1
  refine wlp_open Call.quorum_initialize Prod.fst (fun r => .quorum r.2.1) rfl (fun _ => rfl) rfl ?_ ?_
  · exact fun r _ => message _ _ _ (by simpa [handles, cmapSet] using openCmap)
  intro quorum freshQuorum
  have openQuorum := (show Opened s (.quorum quorum.2.1 :: [.cmap cmap.2]) _ from ⟨_, openCmap, freshQuorum, rfl⟩)
  have quorumSet : quorum.2.1 ≠ 0 := freshQuorum.1
  refine wlp_open Call.corosync_cfg_initialize Prod.fst (fun r => .cfg r.2) rfl (fun _ => rfl) rfl ?_ ?_
  · exact fun r _ => message _ _ _ (by simpa [handles, cmapSet, quorumSet] using openQuorum)
  intro cfg freshCfg
  have openCfg := (show Opened s (.cfg cfg.2 :: .quorum quorum.2.1 :: [.cmap cmap.2]) _ from ⟨_, openQuorum, freshCfg, rfl⟩)
  have cfgSet : cfg.2 ≠ 0 := freshCfg.1
  refine wlp_seq (using_votequorum_closes _ _ _ rfl) ?_
  rintro using_vq t rfl
  rw [wlp_ite]
  refine ⟨fun _ => by simpa [handles, cmapSet, quorumSet, cfgSet] using openCfg, fun _ => ?_⟩
  refine wlp_open Call.votequorum_initialize Prod.fst (fun r => .votequorum r.2) rfl (fun _ => rfl) rfl ?_ ?_
  · exact fun r _ => message _ _ _ (by simpa [handles, cmapSet, quorumSet, cfgSet] using openCfg)
  intro votequorum freshVotequorum
  have openVotequorum := (show Opened s (.votequorum votequorum.2 :: .cfg cfg.2 :: .quorum quorum.2.1 :: [.cmap cmap.2]) _
    from ⟨_, openCfg, freshVotequorum, rfl⟩)
  have votequorumSet : votequorum.2 ≠ 0 := freshVotequorum.1
  refine wlp_neutral rfl (fun _ => rfl) (by simp [tracks]) fun id => ?_
  rw [wlp_ite]
  refine ⟨fun _ => message _ _ _ ?_, fun _ => ?_⟩
  · simpa [handles, cmapSet, quorumSet, cfgSet, votequorumSet] using openVotequorum
  · simpa [handles, cmapSet, quorumSet, cfgSet, votequorumSet] using openVotequorum

/-- A handle is finalised if it is not zero. -/
theorem closes_nonzero {α : Type} {xs : List Resource} (handle : Handle) {c : Call} {x : Resource} {p : Client α}
    (closing : closes c = some x) (inside : tracks c = false) (member : handle ≠ 0 → x ∈ xs)
    (alone : ∀ y ∈ xs, ¬ y.Within x) (rest : Closes head (if handle = 0 then xs else xs.erase x) p) :
    Closes head xs (if handle ≠ 0 then .call c (fun _ => p) else p) := by
  by_cases zero : handle = 0
  · rw [if_neg (not_not_intro zero)]
    rwa [if_pos zero] at rest
  · rw [if_pos zero]
    rw [if_neg zero] at rest
    exact closes_any closing inside (member zero) alone (fun _ => rest)

/-! Each of the handles is taken out of the list in its turn. -/

theorem handles_cmap (g : Globals) :
    (if g.cmap_handle = 0 then handles g else (handles g).erase (.cmap g.cmap_handle)) =
      handles { g with cmap_handle := 0 } := by
  unfold handles
  split_ifs <;> simp_all

theorem handles_quorum (g : Globals) :
    (if g.q_handle = 0 then handles g else (handles g).erase (.quorum g.q_handle)) = handles { g with q_handle := 0 } := by
  unfold handles
  split_ifs <;> simp_all

theorem handles_cfg (g : Globals) :
    (if g.c_handle = 0 then handles g else (handles g).erase (.cfg g.c_handle)) = handles { g with c_handle := 0 } := by
  unfold handles
  split_ifs <;> simp_all

theorem handles_votequorum (g : Globals) :
    (if g.v_handle = 0 then handles g else (handles g).erase (.votequorum g.v_handle)) =
      handles { g with v_handle := 0 } := by
  unfold handles
  split_ifs <;> simp_all

theorem iter_not_mem_handles (g : Globals) (handle iter_handle : Handle) : .iter handle iter_handle ∉ handles g := by
  unfold handles
  split_ifs <;> simp

theorem handles_alone (g : Globals) (x : Resource) : ∀ y ∈ handles g, ¬ y.Within x := by
  intro y member
  cases y with
  | iter handle iter_handle => exact absurd member (iter_not_mem_handles g handle iter_handle)
  | _ => cases x <;> simp [Resource.Within]

theorem close_all_closes (g : Globals) : Closes head (handles g) (close_all g) := by
  simp only [close_all, perform_bind, Prog.pure_eq]
  refine closes_nonzero g.cmap_handle rfl rfl (by simp +contextual [handles]) (handles_alone _ _) ?_
  rw [handles_cmap g]
  refine closes_nonzero g.q_handle rfl rfl (by simp +contextual [handles]) (handles_alone _ _) ?_
  have quorum := handles_quorum { g with cmap_handle := 0 }
  simp only at quorum
  rw [quorum]
  refine closes_nonzero g.c_handle rfl rfl (by simp +contextual [handles]) (handles_alone _ _) ?_
  have cfg := handles_cfg { g with cmap_handle := 0, q_handle := 0 }
  simp only at cfg
  rw [cfg]
  refine closes_nonzero g.v_handle rfl rfl (by simp +contextual [handles]) (handles_alone _ _) ?_
  have votequorum := handles_votequorum { g with cmap_handle := 0, q_handle := 0, c_handle := 0 }
  simp only at votequorum
  rw [votequorum]
  exact closes_ret ()

/-- The calls by which `monitor_loop` waits, with the handles of the globals. -/
def waits (g : Globals) : List Call :=
  [.quorum_trackstart g.q_handle CS_TRACK_CHANGES, .votequorum_trackstart g.v_handle CS_TRACK_CHANGES,
    .votequorum_dispatch g.v_handle]

/-- The handles that are open when the loop begins are open whenever it waits. -/
theorem monitor_loop_spec (fuel : Nat) (u : Nat → Uninit) (g : Globals) (s : Finset Resource)
    (waiting : ∀ c ∈ waits g, head c s) : wlp (ledger head) (monitor_loop fuel u g) (fun _ t => t = s) s := by
  have message : ∀ (text : Bytes → Bytes) (err : CsError), wlp (ledger head)
      (.call (.cs_strerror err) fun r => .call (.eprintf (text r)) fun _ => .ret (-1)) (fun (_ : Int) t => t = s) s :=
    fun text err => wlp_neutral rfl (fun _ => rfl) (by simp [tracks]) fun _ =>
      wlp_neutral rfl (fun _ => rfl) (by simp [tracks]) fun _ => rfl
  have events : wlp (ledger head) (loop (monitor_round fuel u g) fuel 0) (fun _ t => t = s) s := by
    refine wlp_loop (fun _ t => t = s) ?_ fuel 0 rfl
    rintro n t rfl
    simp only [monitor_round, perform_bind, Prog.pure_eq]
    refine wlp_neutral rfl (fun _ => rfl) (fun _ => waiting _ (by simp [waits])) fun err => ?_
    rw [wlp_ite]
    refine ⟨fun _ => ?_, fun _ => ?_⟩
    · exact wlp_neutral rfl (fun _ => rfl) (by simp [tracks]) fun _ =>
        wlp_neutral rfl (fun _ => rfl) (by simp [tracks]) fun _ => rfl
    · refine wlp_seq (print_quorum_closes t t rfl) ?_
      rintro err t' rfl
      rw [wlp_ite]
      refine ⟨fun _ => rfl, fun _ => wlp_seq (print_membership_closes fuel (u n) t' t' rfl) ?_⟩
      rintro _ t' rfl
      exact rfl
  simp only [monitor_loop, perform_bind, Prog.pure_eq, wlp_ite]
  refine ⟨fun _ => wlp_neutral rfl (fun _ => rfl) (by simp [tracks]) fun _ => rfl, fun _ => ?_⟩
  refine wlp_neutral rfl (fun _ => rfl) (fun _ => waiting _ (by simp [waits])) fun err => ?_
  rw [wlp_ite]
  refine ⟨fun _ => message _ err, fun _ => ?_⟩
  refine wlp_seq (using_votequorum_closes g s s rfl) ?_
  rintro using_vq t rfl
  rw [wlp_ite]
  refine ⟨fun _ => wlp_neutral rfl (fun _ => rfl) (fun _ => waiting _ (by simp [waits])) fun err => ?_, fun _ => events⟩
  rw [wlp_ite]
  exact ⟨fun _ => message _ err, fun _ => events⟩

theorem monitor_status_closes (fuel : Nat) (u : Nat → Uninit) (g : Globals) :
    Closes (fun _ _ => True) [] (monitor_status fuel u g) := by
  rintro s t rfl
  refine wlp_seq (init_all_spec g t) ?_
  rintro ⟨failed, g'⟩ t' opened
  rw [wlp_ite]
  refine ⟨fun _ => wlp_seq (close_all_closes g' t t' opened) (fun _ _ same => same), fun _ => ?_⟩
  refine wlp_seq (monitor_loop_spec fuel u g' t' (fun _ _ => trivial)) ?_
  rintro _ t' rfl
  exact wlp_seq (close_all_closes g' t t' opened) (fun _ _ same => same)

end

/-! ### Sessions -/

/-- A call of a function of the client. -/
inductive Op where
  | set_cmap_value (key_name value : Bytes) (type : UInt32)
  | get_cmap_value (key_name : Bytes) (value : Bool) (type : CmapType)
  | delete_cmap_value (key_name : Bytes) (value : Bool) (type : CmapType)
  | get_member_count (fuel : Nat) (id count : Int32)
  | get_members (fuel : Nat) (id : Int32) (key_suffix : Bytes) (array : Int32 → ClusterMember) (array_len : Int32)
  | get_local_nodeid (local_nodeid : UInt32)
  | get_quorum_info (qd : QuorumDetails)
  | get_votequorum_info (vqi : VotequorumInfo) (id : UInt32)
  | get_expected_votes (expected_votes : UInt32)
  | set_expected_votes (expected_votes : UInt32)
  | get_votes (nodeid votes : UInt32)
  | set_votes_and_adjust (nodeid votes : UInt32)
  | set_votes (nodeid votes : UInt32)
  | print_membership (fuel : Nat) (u : Uninit)
  | print_quorum
  | monitor_status (fuel : Nat) (u : Nat → Uninit) (g : Globals)

def ignore {α : Type} (p : Client α) : Client Unit := do
  let _ ← p
  return ()

def program : Op → Client Unit
  | .set_cmap_value key_name value type => ignore (set_cmap_value key_name value type)
  | .get_cmap_value key_name value type => ignore (get_cmap_value key_name value type)
  | .delete_cmap_value key_name value type => ignore (delete_cmap_value key_name value type)
  | .get_member_count fuel id count => ignore (get_member_count fuel id count)
  | .get_members fuel id key_suffix array array_len => ignore (get_members fuel id key_suffix array array_len)
  | .get_local_nodeid local_nodeid => ignore (get_local_nodeid local_nodeid)
  | .get_quorum_info qd => ignore (get_quorum_info qd)
  | .get_votequorum_info vqi id => ignore (get_votequorum_info vqi id)
  | .get_expected_votes expected_votes => ignore (get_expected_votes expected_votes)
  | .set_expected_votes expected_votes => ignore (set_expected_votes expected_votes)
  | .get_votes nodeid votes => ignore (get_votes nodeid votes)
  | .set_votes_and_adjust nodeid votes => ignore (set_votes_and_adjust nodeid votes)
  | .set_votes nodeid votes => ignore (set_votes nodeid votes)
  | .print_membership fuel u => ignore (print_membership fuel u)
  | .print_quorum => ignore print_quorum
  | .monitor_status fuel u g => ignore (monitor_status fuel u g)

/-- The services without a condition on the monitor. -/
abbrev services : LibWorld (Finset Resource) := ledger (fun _ _ => True)

theorem program_closes (op : Op) : Closes (fun _ _ => True) [] (program op) := by
  have whole : ∀ {α : Type} {p : Client α}, Closes (fun _ _ => True) [] p → Closes (fun _ _ => True) [] (ignore p) :=
    fun closes => closes_bind closes fun _ => closes_ret ()
  cases op with
  | set_cmap_value => exact whole (set_cmap_value_closes _ _ _)
  | get_cmap_value => exact whole (get_cmap_value_closes _ _ _)
  | delete_cmap_value => exact whole (delete_cmap_value_closes _ _ _)
  | get_member_count => exact whole (get_member_count_closes _ _ _)
  | get_members => exact whole (get_members_closes _ _ _ _ _)
  | get_local_nodeid => exact whole (get_local_nodeid_closes _)
  | get_quorum_info => exact whole (get_quorum_info_closes _)
  | get_votequorum_info => exact whole (get_votequorum_info_closes _ _)
  | get_expected_votes => exact whole (get_expected_votes_closes _)
  | set_expected_votes => exact whole (set_expected_votes_closes _)
  | get_votes => exact whole (get_votes_closes _ _)
  | set_votes_and_adjust => exact whole (set_votes_and_adjust_closes _ _)
  | set_votes => exact whole (set_votes_closes _ _)
  | print_membership => exact whole (print_membership_closes _ _)
  | print_quorum => exact whole print_quorum_closes
  | monitor_status => exact whole (monitor_status_closes _ _ _)

/-- The replies do not depend on where the monitor may wait. -/
theorem run_ledger {α : Type} {p q : Client α} {s t : Finset Resource} {tr : List LibEvent}
    {H T : Call → Finset Resource → Prop} (run : Run (ledger H) p s tr q t) : Run (ledger T) p s tr q t :=
  run_mono (W := ledger H) (T := ledger T) (fun _ _ _ _ answered => answered) run

/-- A run of the monitor that comes to wait has left `init_all` with the handles that are
    open now. -/
theorem waits_after_init {fuel : Nat} {u : Nat → Uninit} {g : Globals} {s t : Finset Resource} {tr : List LibEvent}
    {c : Call} {next : Reply c → Client (Int × Globals)}
    (run : Run services (monitor_status fuel u g) s tr (.call c next) t) (waiting : tracks c = true) :
    ∃ tr₁ g', tr₁ <+: tr ∧ Run services (init_all g) s tr₁ (.ret (0, g')) t ∧ c ∈ waits g' := by
  rcases run_bind_call run with ⟨next', first⟩ | ⟨⟨failed, g'⟩, t₁, tr₁, tr₂, rfl, first, second⟩
  · have first' := run_ledger (T := fun _ _ => False) first
    exact ((wlp_safe (init_all_spec g s) _ _ _ _ first').2 waiting).elim
  · have opened := run_ret (init_all_spec g s) first
    have second' := run_ledger (T := fun c u => failed = 0 ∧ u = t₁ ∧ c ∈ waits g') second
    obtain ⟨⟨_, allowed⟩, _⟩ := run_wlp (Q := fun _ _ => True) second' (by
      simp only [wlp_ite]
      refine ⟨fun _ => wlp_seq (close_all_closes g' s t₁ opened) (fun _ _ _ => trivial), fun ok => ?_⟩
      refine wlp_seq (monitor_loop_spec fuel u g' t₁ fun c member => ⟨not_ne_iff.mp ok, rfl, member⟩) ?_
      rintro _ u rfl
      exact wlp_seq (close_all_closes g' s u opened) (fun _ _ _ => trivial))
    obtain ⟨rfl, rfl, member⟩ := allowed waiting
    exact ⟨tr₁, g', List.prefix_append _ _, first, member⟩

/-- A session leaves no handle open. Whatever is open when a function is called, the
    function finalises open handles only, an iterator before its cmap handle, and
    returns with the same handles open; and the monitor has at every head of its loop the
    handles open that `init_all` has left. -/
theorem handles_disciplined {done : List (Op × Unit)} {s : Finset Resource}
    (session : Session services program ∅ done s) :
    s = ∅ ∧
      (∀ (op : Op) (t : Finset Resource), Safe services (program op) t ∧
        ∀ (tr : List LibEvent) (u : Finset Resource), Run services (program op) t tr (.ret ()) u → u = t) ∧
      ∀ (fuel : Nat) (u : Nat → Uninit) (g : Globals) (tr : List LibEvent) (h : Handle)
        (next : CsError → Client (Int × Globals)) (t : Finset Resource),
        Run services (monitor_status fuel u g) s tr (.call (.votequorum_dispatch h) next) t →
        ∃ tr₁ g', tr₁ <+: tr ∧ Run services (init_all g) s tr₁ (.ret (0, g')) t := by
  have spec : ∀ (op : Op) (t : Finset Resource), wlp services (program op) (fun _ u => u = t) t :=
    fun op t => program_closes op t t rfl
  refine ⟨?_, fun op t => ⟨wlp_safe (spec op t), fun tr u run => ?_⟩, ?_⟩
  · refine session_invariant (fun _ => True) (fun t => t = ∅) ?_ session (fun _ _ => trivial) rfl
    rintro op t _ rfl
    exact spec op ∅
  · have same := run_ret (spec op t) run
    exact same
  · intro fuel u g tr h next t run
    obtain ⟨tr₁, g', isPrefix, first, _⟩ := waits_after_init run rfl
    exact ⟨tr₁, g', isPrefix, first⟩

theorem lookup_session :
    Session services program ∅ [(.get_local_nodeid 0, ())] ((insert (.cfg 1) ∅ : Finset Resource).erase (.cfg 1)) := by
  have run : Run services (program (.get_local_nodeid 0)) ∅
      [⟨ Call.corosync_cfg_initialize, (.CS_OK, 1)⟩, ⟨.corosync_cfg_local_get 1, (.CS_OK, 2)⟩,
        ⟨.corosync_cfg_finalize 1, .CS_OK⟩]
      (.ret ()) ((insert (.cfg 1) ∅ : Finset Resource).erase (.cfg 1)) :=
    .step ⟨⟨by decide, by simp, by simp⟩, rfl⟩ <| .step rfl <| .step rfl .done
  exact .snoc .nil run

theorem handles_disciplined_lookup :
    (insert (.cfg 1) ∅ : Finset Resource).erase (.cfg 1) = ∅ ∧
      (∀ (op : Op) (t : Finset Resource), Safe services (program op) t ∧
        ∀ (tr : List LibEvent) (u : Finset Resource), Run services (program op) t tr (.ret ()) u → u = t) ∧
      ∀ (fuel : Nat) (u : Nat → Uninit) (g : Globals) (tr : List LibEvent) (h : Handle)
        (next : CsError → Client (Int × Globals)) (t : Finset Resource),
        Run services (monitor_status fuel u g) ((insert (.cfg 1) ∅ : Finset Resource).erase (.cfg 1)) tr
          (.call (.votequorum_dispatch h) next) t →
        ∃ tr₁ g', tr₁ <+: tr ∧
          Run services (init_all g) ((insert (.cfg 1) ∅ : Finset Resource).erase (.cfg 1)) tr₁ (.ret (0, g')) t :=
  handles_disciplined lookup_session

end CorosyncClient.Handles
