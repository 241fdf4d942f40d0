import CorosyncClient.Cmapctl
import Mathlib.Tactic.Simps.Basic

/-!
Sessions of `set_cmap_value`, `get_cmap_value` and `delete_cmap_value` against a cmap
that no other client changes. Their results and the store agree with an abstract map
from keys to typed values (`Agrees`), whatever calls fail.
-/
namespace CorosyncClient.CmapStore
open CLib Interaction
set_option linter.unusedSimpArgs false

/-! ### What the calls of libcmap do with one key -/

section
variable (mayFail : Prop)

/-- The documented reply of `cmap_get` for a key that holds `cell`, or a failure. -/
def GetReply (cell : Option CmapValue) (value_len : Option Nat) (r : CsError × Nat × CmapType × Bytes) : Prop :=
  (match cell, value_len with
    | none, _ => r.1 = .CS_ERR_NOT_EXIST
    | some v, none => r.1 = .CS_OK ∧ r.2.1 = v.len ∧ r.2.2.1 = v.type
    | some v, some len => if v.len ≤ len then r = (.CS_OK, v.len, v.type, v.bytes) else r.1 = .CS_ERR_INVALID_PARAM) ∨
  (mayFail ∧ r.1 ≠ .CS_OK)

/-- The documented reply of `cmap_get_string`, or a failure. -/
def GetStringReply (cell : Option CmapValue) (r : CsError × Option CString) : Prop :=
  (match cell with
    | some (.string s) => r = (.CS_OK, some s)
    | some _ => r.1 = .CS_ERR_INVALID_PARAM
    | none => r.1 = .CS_ERR_NOT_EXIST) ∨
  (mayFail ∧ r.1 ≠ .CS_OK)

/-- `cmap_delete` of a key that holds `cell`, which holds `cell'` afterwards. -/
def DeleteReply (cell : Option CmapValue) (r : CsError) (cell' : Option CmapValue) : Prop :=
  (cell.isSome ∧ r = .CS_OK ∧ cell' = none) ∨ (cell = none ∧ r = .CS_ERR_NOT_EXIST ∧ cell' = none) ∨
  (mayFail ∧ r ≠ .CS_OK ∧ cell' = cell)

end

/-- How a value is handed out: a string behind a new pointer, any other value as its bytes. -/
def represent : CmapValue → Fetched
  | .string s => .string (some s)
  | v => .raw v.bytes

theorem type_eq_string_iff (v : CmapValue) : v.type = .STRING ↔ ∃ s, v = .string s := by
  cases v <;> simp [CmapValue.type]

theorem represent_of_type_ne {v : CmapValue} (other : v.type ≠ .STRING) : represent v = .raw v.bytes := by
  cases v
  case string s => exact absurd rfl other
  all_goals rfl

/-! ### The cmap of a single client -/

abbrev Store := Bytes → Option CmapValue

/-- Where `mayFail` holds any call may fail, and then changes nothing. -/
@[simps] def cmapStore (mayFail : Prop) : LibWorld Store where
  permits _ _ := True
  answers store c r store' :=
    match c with
    | Call.cmap_initialize => store' = store ∧ (r.1 = .CS_OK ∨ mayFail)
    | .cmap_set _ key v =>
      (r = .CS_OK ∧ store' = Function.update store key (some v)) ∨ (mayFail ∧ r ≠ .CS_OK ∧ store' = store)
    | .cmap_get _ key value_len => store' = store ∧ GetReply mayFail (store key) value_len r
    | .cmap_get_string _ key => store' = store ∧ GetStringReply mayFail (store key) r
    | .cmap_delete _ key => ∃ cell, DeleteReply mayFail (store key) r cell ∧ store' = Function.update store key cell
    | _ => store' = store

/-! ### The abstract map -/

/-- `v` is the value of type `type` at a pointer to the bytes `value`: the string there,
    or the number whose bytes lie there. -/
def PointsTo (type : UInt32) (value : Bytes) (v : CmapValue) : Prop :=
  v.type.code = type ∧
    if type = 11 then v.bytes = cstr value ++ [0] else v.len ≤ value.length → v.bytes = value.take v.len

/-- A call of the client. A `void *` argument is the memory behind it; for a read,
    whether it is NULL. `type` is what `*type` holds before the call. -/
inductive Op where
  | set (key value : Bytes) (type : UInt32)
  | get (key : Bytes) (value : Bool) (type : CmapType)
  | delete (key : Bytes) (value : Bool) (type : CmapType)

structure Result where
  err : Err
  type : CmapType
  fetched : Option Fetched

def Op.run : Op → Client Result
  | .set key value type => do
    let err ← set_cmap_value key value type
    return ⟨err, .INT8, none⟩
  | .get key value type => do
    let (err, type, fetched) ← get_cmap_value key value type
    return ⟨err, type, fetched⟩
  | .delete key value type => do
    let (err, type, fetched) ← delete_cmap_value key value type
    return ⟨err, type, fetched⟩

def session : List Op → Client (List Result)
  | [] => return []
  | op :: ops => do
    let result ← op.run
    let results ← session ops
    return result :: results

section
variable (mayFail : Prop)

/-- What a read of a key that holds `cell` hands back. -/
def Answer (cell : Option CmapValue) (value : Bool) (r : Result) : Prop :=
  match cell with
  | none => r.err ≠ CS_OK ∧ (¬ mayFail → r.err = CsError.CS_ERR_NOT_EXIST.code)
  | some v => (r.err = CS_OK → r.type = v.type ∧ r.fetched = if value then some (represent v) else none) ∧
      (¬ mayFail → r.err = CS_OK)

/-- One step of the abstract map. -/
def Spec (m : Store) : Op → Result → Store → Prop
  | .set key value type, r, m' =>
    if type < 1 ∨ type > 11 then r.err = ClientError.CL_WRONG_CMAP_TYPE.code ∧ m' = m
    else ∃ v, PointsTo type value v ∧ (m' = if r.err = CS_OK then Function.update m key (some v) else m) ∧ (¬ mayFail → r.err = CS_OK)
  | .get key value _, r, m' => m' = m ∧ Answer mayFail (m key) value r
  | .delete key value _, r, m' =>
    (m' = if r.err = CS_OK then Function.update m key none else m) ∧ Answer mayFail (m key) value r

/-- The calls of a session are steps of the abstract map, one after the other. -/
inductive Agrees : Store → List Op → List Result → Store → Prop
  | nil {m : Store} : Agrees m [] [] m
  | cons {m m₁ m₂ : Store} {op : Op} {ops : List Op} {r : Result} {rs : List Result} :
      Spec mayFail m op r m₁ → Agrees m₁ ops rs m₂ → Agrees m (op :: ops) (r :: rs) m₂

end

/-! ### Pointers to typed values -/

theorem pointee_eq_none_iff (type : UInt32) (value : Bytes) : pointee type value = none ↔ type < 1 ∨ type > 11 := by
  unfold pointee
  split
  case h_12 =>
    simp only [true_iff]
    by_contra inside
    simp only [gt_iff_lt, UInt32.lt_iff_toNat_lt, UInt32.reduceToNat, not_or] at inside
    rename_i n1 n2 n3 n4 n5 n6 n7 n8 n9 n10 n11
    simp only [imp_false, ← UInt32.toNat_inj, UInt32.reduceToNat] at n1 n2 n3 n4 n5 n6 n7 n8 n9 n10 n11
    omega
  all_goals simp

private theorem stored {n size : Nat} {value : Bytes} (whole : n ≤ value.length) (fits : 256 ^ n = size) :
    storeNat n (loadNat n value % size) = value.take n := by
  rw [← fits, Nat.mod_eq_of_lt (loadNat_lt n value), storeNat_loadNat whole]

theorem pointee_pointsTo {type : UInt32} {value : Bytes} {v : CmapValue} (points : pointee type value = some v) :
    PointsTo type value v := by
  unfold pointee at points
  split at points <;> cases points <;> refine ⟨rfl, ?_⟩
  case h_11 => simp [CmapValue.bytes]
  all_goals
    rw [if_neg (by decide)]
    intro whole
    simp only [CmapValue.len, CmapValue.bytes, storeNat_length] at whole ⊢
    exact stored whole rfl

/-! ### Specs of the source's functions -/

section
variable {mayFail : Prop}

theorem getReply_ok {cell : Option CmapValue} {value_len : Option Nat} {r : CsError × Nat × CmapType × Bytes}
    (reply : GetReply mayFail cell value_len r) (ok : r.1 = .CS_OK) :
    ∃ v, cell = some v ∧ r.2.1 = v.len ∧ r.2.2.1 = v.type ∧ (value_len ≠ none → r.2.2.2 = v.bytes) := by
  rcases reply with reply | ⟨_, failed⟩
  · cases cell with
    | none => simp [reply] at ok
    | some v =>
      cases value_len with
      | none => exact ⟨v, rfl, reply.2.1, reply.2.2, by simp⟩
      | some len =>
        simp only at reply
        split at reply
        · exact ⟨v, rfl, by simp [reply]⟩
        · simp [reply] at ok
  · exact absurd ok failed

/-- The fetch after a probe that found `v`, which the key still holds. -/
theorem fetch_value_spec {store : Store} {key : Bytes} {v : CmapValue} (holds : store key = some v) (handle : Handle) :
    wlp (cmapStore mayFail) (fetch_value handle key v.len v.type)
      (fun out t => t = store ∧ (out.1 = .CS_OK → out.2 = (v.type, represent v)) ∧ (¬ mayFail → out.1 = .CS_OK)) store := by
  simp only [fetch_value, wlp_ite, perform_bind, wlp_call, wlp_ret, Prog.pure_eq, cmapStore_permits, cmapStore_answers,
    true_and]
  constructor
  · intro isString
    obtain ⟨s, rfl⟩ := (type_eq_string_iff v).mp isString
    rintro ⟨err, str⟩ _ ⟨rfl, reply⟩
    rw [holds] at reply
    rcases reply with reply | ⟨faulty, failed⟩
    · cases reply
      simp [represent]
    · simp only at failed
      simp [failed, faulty]
  · intro other
    rintro ⟨err, n, found, bytes⟩ _ ⟨rfl, reply⟩
    rw [holds] at reply
    rcases reply with reply | ⟨faulty, failed⟩
    · simp only [le_refl, if_true, Prod.mk.injEq] at reply
      obtain ⟨rfl, rfl, rfl, rfl⟩ := reply
      simp [represent_of_type_ne other]
    · simp only at failed
      simp [failed, faulty]

/-- A probe fails because the key is not there, or without a reason. -/
theorem getReply_failed {cell : Option CmapValue} {r : CsError × Nat × CmapType × Bytes}
    (reply : GetReply mayFail cell none r) (failed : r.1 ≠ .CS_OK) :
    mayFail ∨ cell = none ∧ r.1 = .CS_ERR_NOT_EXIST := by
  rcases reply with reply | ⟨faulty, _⟩
  · cases cell with
    | none => exact .inr ⟨rfl, reply⟩
    | some v => exact absurd reply.1 failed
  · exact .inl faulty

theorem answer_failed {cell : Option CmapValue} {value : Bool} {err : CsError} {type : CmapType}
    {fetched : Option Fetched} (failed : err ≠ .CS_OK) (why : mayFail ∨ cell = none ∧ err = .CS_ERR_NOT_EXIST) :
    Answer mayFail cell value ⟨err.code, type, fetched⟩ := by
  have notOk : err.code ≠ CS_OK := by simpa using failed
  rcases why with faulty | ⟨rfl, rfl⟩
  · cases cell <;> simp [Answer, failed, faulty]
  · simp [Answer]

theorem answer_ok {v : CmapValue} {value : Bool} {type : CmapType} {fetched : Option Fetched} (same : type = v.type)
    (given : fetched = if value then some (represent v) else none) :
    Answer mayFail (some v) value ⟨CS_OK, type, fetched⟩ :=
  ⟨fun _ => ⟨same, given⟩, fun _ => rfl⟩

theorem get_cmap_value_spec (store : Store) (key : Bytes) (value : Bool) (type : CmapType) :
    wlp (cmapStore mayFail) (get_cmap_value key value type)
      (fun out t => t = store ∧ Answer mayFail (store key) value ⟨out.1, out.2.1, out.2.2⟩) store := by
  simp only [get_cmap_value, wlp_ite, perform_bind, wlp_call, wlp_ret, Prog.pure_eq, cmapStore_permits,
    cmapStore_answers, true_and, forall_eq]
  rintro ⟨err, handle⟩ _ ⟨rfl, opened⟩
  refine ⟨fun failed => ⟨rfl, answer_failed failed (.inl (opened.resolve_left failed))⟩, fun _ => ?_⟩
  rintro ⟨err, len, found, bytes⟩ _ ⟨rfl, probe⟩
  refine ⟨fun failed _ => ⟨rfl, answer_failed failed (getReply_failed probe failed)⟩, fun succeeded => ?_⟩
  have ok : err = .CS_OK := not_ne_iff.mp succeeded
  obtain ⟨v, holds, rfl, rfl, -⟩ := getReply_ok probe ok
  rw [holds]
  constructor
  · intro isNull _
    refine ⟨rfl, ?_⟩
    rw [ok]
    exact answer_ok rfl (by simp_all)
  · intro notNull
    refine wlp_seq (fetch_value_spec holds handle) ?_
    rintro ⟨err, type, fetched⟩ t ⟨rfl, fetchedIs, reliable⟩
    simp only [wlp_ite, wlp_call, wlp_ret, cmapStore_permits, cmapStore_answers, true_and, forall_eq]
    refine ⟨fun failed _ => answer_failed failed (.inl (by_contra fun sound => failed (reliable sound))), ?_⟩
    intro succeeded _
    obtain ⟨rfl, rfl⟩ := Prod.mk.inj (fetchedIs (not_ne_iff.mp succeeded))
    exact answer_ok rfl (by simp_all)

theorem update_self (store : Store) (key : Bytes) {cell : Option CmapValue} (same : cell = store key) :
    Function.update store key cell = store := by
  rw [same, Function.update_eq_self]

theorem fetch_if_asked_spec {store : Store} {key : Bytes} {v : CmapValue} (holds : store key = some v)
    (handle : Handle) (value : Bool) :
    wlp (cmapStore mayFail) (fetch_if_asked handle key value .CS_OK v.len v.type)
      (fun out t => t = store ∧ (out.1 = .CS_OK → out.2 = (v.type, if value then some (represent v) else none)) ∧
        (¬ mayFail → out.1 = .CS_OK)) store := by
  rw [fetch_if_asked, wlp_ite]
  constructor
  · intro asked
    refine wlp_seq (fetch_value_spec holds handle) ?_
    rintro ⟨err, type, fetched⟩ store ⟨rfl, fetchedIs, reliable⟩
    refine ⟨rfl, fun ok => ?_, reliable⟩
    obtain ⟨rfl, rfl⟩ := Prod.mk.inj (fetchedIs ok)
    simp [asked]
  · intro unasked
    exact ⟨rfl, by simp [unasked], fun _ => rfl⟩

theorem delete_cmap_value_spec (store : Store) (key : Bytes) (value : Bool) (type : CmapType) :
    wlp (cmapStore mayFail) (delete_cmap_value key value type)
      (fun out t => (t = if out.1 = CS_OK then Function.update store key none else store) ∧
        Answer mayFail (store key) value ⟨out.1, out.2.1, out.2.2⟩) store := by
  simp only [delete_cmap_value, wlp_ite, perform_bind, wlp_call, wlp_ret, Prog.pure_eq, cmapStore_permits,
    cmapStore_answers, true_and, forall_eq]
  rintro ⟨err, handle⟩ store ⟨rfl, opened⟩
  refine ⟨fun failed => ⟨by simp [failed], answer_failed failed (.inl (opened.resolve_left failed))⟩, fun _ => ?_⟩
  rintro ⟨err, len, found, bytes⟩ store ⟨rfl, probe⟩
  refine ⟨fun failed _ => ⟨by simp [failed], answer_failed failed (getReply_failed probe failed)⟩, fun succeeded => ?_⟩
  obtain rfl : err = .CS_OK := not_ne_iff.mp succeeded
  obtain ⟨v, holds, rfl, rfl, -⟩ := getReply_ok probe rfl
  rw [holds]
  refine wlp_seq (fetch_if_asked_spec holds handle value) ?_
  rintro ⟨err, type, fetched⟩ store ⟨rfl, fetchedIs, reliable⟩
  simp only [wlp_ite, wlp_call, wlp_ret, cmapStore_permits, cmapStore_answers, true_and, forall_eq]
  refine ⟨fun failed _ => ⟨by simp [failed], answer_failed failed (.inl (by_contra fun sound => failed (reliable sound)))⟩, ?_⟩
  intro succeeded
  obtain ⟨rfl, rfl⟩ := Prod.mk.inj (fetchedIs (not_ne_iff.mp succeeded))
  rintro err _ ⟨cell, deleted, rfl⟩
  rw [holds] at deleted
  constructor
  · intro failed _
    rcases deleted with ⟨_, rfl, _⟩ | ⟨gone, _⟩ | ⟨faulty, _, same⟩
    · exact absurd rfl failed
    · cases gone
    · exact ⟨by simp [failed, update_self _ _ (same.trans holds.symm)], answer_failed failed (.inl faulty)⟩
  · intro succeeded _
    rcases deleted with ⟨_, rfl, rfl⟩ | ⟨gone, _⟩ | ⟨_, failed, _⟩
    · exact ⟨by simp, answer_ok rfl rfl⟩
    · cases gone
    · exact absurd failed succeeded

theorem set_cmap_value_spec (store : Store) (key value : Bytes) (type : UInt32) :
    wlp (cmapStore mayFail) (set_cmap_value key value type)
      (fun err t => Spec mayFail store (.set key value type) ⟨err, .INT8, none⟩ t) store := by
  simp only [set_cmap_value, wlp_ite, perform_bind, wlp_call, wlp_ret, Prog.pure_eq, cmapStore_permits,
    cmapStore_answers, true_and, forall_eq]
  refine ⟨fun outside => by rw [Spec, if_pos outside]; exact ⟨rfl, rfl⟩, fun inside => ?_⟩
  obtain ⟨v, points⟩ : ∃ v, pointee type value = some v :=
    Option.ne_none_iff_exists'.mp (fun none => inside ((pointee_eq_none_iff type value).mp none))
  have spec : ∀ (err : Err) (t : Store), (t = if err = CS_OK then Function.update store key (some v) else store) →
      (¬ mayFail → err = CS_OK) → Spec mayFail store (.set key value type) ⟨err, .INT8, none⟩ t := by
    intro err t same reliable
    rw [Spec, if_neg inside]
    exact ⟨v, pointee_pointsTo points, same, reliable⟩
  rintro ⟨err, handle⟩ _ ⟨rfl, opened⟩
  refine ⟨fun failed => spec _ _ (by simp [failed]) (fun sound => absurd (opened.resolve_left failed) sound), fun _ => ?_⟩
  simp only [points, wlp_ite, wlp_call, wlp_ret, cmapStore_permits, cmapStore_answers, true_and, forall_eq]
  rintro err _ (⟨rfl, rfl⟩ | ⟨faulty, failed, rfl⟩)
  · exact ⟨fun failed => absurd rfl failed, fun _ _ => spec _ _ (by simp) (fun _ => rfl)⟩
  · exact ⟨fun _ _ => spec _ _ (by simp [failed]) (fun sound => absurd faulty sound), fun ok => absurd failed ok⟩

/-- Each call of the client is a step of the abstract map. -/
theorem op_spec (store : Store) (op : Op) :
    wlp (cmapStore mayFail) op.run (fun result t => Spec mayFail store op result t) store := by
  cases op with
  | set key value type =>
    exact wlp_seq (set_cmap_value_spec store key value type) (fun _ _ spec => spec)
  | get key value type =>
    exact wlp_seq (get_cmap_value_spec store key value type) (fun _ _ spec => spec)
  | delete key value type =>
    exact wlp_seq (delete_cmap_value_spec store key value type) (fun _ _ spec => spec)

theorem session_spec (store : Store) (ops : List Op) :
    wlp (cmapStore mayFail) (session ops) (fun results t => Agrees mayFail store ops results t) store := by
  induction ops generalizing store with
  | nil => exact .nil
  | cons op ops ih =>
    refine wlp_seq (op_spec store op) ?_
    intro result m₁ step
    refine wlp_seq (ih m₁) ?_
    intro results m₂ rest
    exact .cons step rest

/-- After a successful delete the next read of the key finds nothing. -/
theorem agrees_get_after_delete {m m' : Store} {ops : List Op} {results : List Result}
    (agrees : Agrees mayFail m ops results m') {i : Nat} {key : Bytes} {value value' : Bool} {type type' : CmapType}
    (deletes : ops[i]? = some (.delete key value type)) (gets : ops[i + 1]? = some (.get key value' type')) :
    ∃ r r', results[i]? = some r ∧ results[i + 1]? = some r' ∧ (r.err = CS_OK → r'.err ≠ CS_OK ∧
      (¬ mayFail → r'.err = CsError.CS_ERR_NOT_EXIST.code)) := by
  induction agrees generalizing i with
  | nil => simp at deletes
  | @cons m m₁ m₂ op ops r rs step rest ih =>
    cases i with
    | succ i => exact ih deletes gets
    | zero =>
      obtain rfl : op = .delete key value type := by simpa using deletes
      cases rest with
      | nil => simp at gets
      | @cons _ _ _ op' ops' r' rs' step' rest' =>
        obtain rfl : op' = .get key value' type' := by simpa using gets
        refine ⟨r, r', rfl, rfl, fun ok => ?_⟩
        have gone : m₁ key = none := by simp [step.1, ok]
        have answer := step'.2
        rw [gone] at answer
        exact answer

end

/-- A cmap that never fails. -/
def reliable : Handler Call Reply Store := fun store c =>
  match c with
  | .cmap_set _ key v => (.CS_OK, Function.update store key (some v))
  | .cmap_get _ key value_len =>
    (match store key, value_len with
      | none, _ => (.CS_ERR_NOT_EXIST, 0, .INT8, [])
      | some v, none => (.CS_OK, v.len, v.type, [])
      | some v, some len => if v.len ≤ len then (.CS_OK, v.len, v.type, v.bytes) else (.CS_ERR_INVALID_PARAM, 0, .INT8, []),
      store)
  | .cmap_get_string _ key =>
    (match store key with
      | some (.string s) => (.CS_OK, some s)
      | some _ => (.CS_ERR_INVALID_PARAM, none)
      | none => (.CS_ERR_NOT_EXIST, none),
      store)
  | .cmap_delete _ key =>
    (if (store key).isSome then .CS_OK else .CS_ERR_NOT_EXIST, Function.update store key none)
  | c => (Reply.success c, store)

theorem reliable_answers {mayFail : Prop} (store : Store) (c : Call) :
    (cmapStore mayFail).answers store c (reliable store c).1 (reliable store c).2 := by
  cases c
  case cmap_initialize => exact ⟨rfl, .inl rfl⟩
  case cmap_set => exact .inl ⟨rfl, rfl⟩
  case cmap_get handle key value_len =>
    refine ⟨rfl, .inl ?_⟩
    simp only [reliable]
    cases store key <;> cases value_len
    case some.some v len => by_cases fits : v.len ≤ len <;> simp [fits]
    all_goals simp
  case cmap_get_string handle key =>
    refine ⟨rfl, .inl ?_⟩
    simp only [reliable]
    cases store key with
    | none => rfl
    | some v => cases v <;> rfl
  case cmap_delete handle key =>
    refine ⟨none, ?_, rfl⟩
    cases same : store key <;> simp [reliable, DeleteReply, same]
  all_goals rfl

/-! ### The calls return -/

theorem set_cmap_value_uncut (key value : Bytes) (type : UInt32) : (set_cmap_value key value type).Uncut := by
  simp only [set_cmap_value, perform_bind, Prog.pure_eq]
  refine uncut_ite trivial fun _ => uncut_ite trivial ?_
  cases pointee type value with
  | none => exact fun _ => trivial
  | some v => exact fun _ => uncut_ite (fun _ => trivial) fun _ => trivial

theorem fetch_value_uncut (handle : Handle) (key : Bytes) (len : Nat) (type : CmapType) :
    (fetch_value handle key len type).Uncut := by
  simp only [fetch_value, perform_bind, Prog.pure_eq]
  exact uncut_ite (fun _ => trivial) fun _ => trivial

theorem get_cmap_value_uncut (key : Bytes) (value : Bool) (type : CmapType) : (get_cmap_value key value type).Uncut := by
  simp only [get_cmap_value, perform_bind, Prog.pure_eq]
  refine fun _ => uncut_ite trivial fun _ => uncut_ite (fun _ => trivial) (uncut_ite (fun _ => trivial) ?_)
  exact uncut_bind (fetch_value_uncut _ _ _ _) fun _ => uncut_ite (fun _ => trivial) fun _ => trivial

theorem fetch_if_asked_uncut (handle : Handle) (key : Bytes) (value : Bool) (err : CsError) (len : Nat) (type : CmapType) :
    (fetch_if_asked handle key value err len type).Uncut :=
  uncut_ite (uncut_bind (fetch_value_uncut _ _ _ _) fun _ => trivial) trivial

theorem delete_cmap_value_uncut (key : Bytes) (value : Bool) (type : CmapType) :
    (delete_cmap_value key value type).Uncut := by
  simp only [delete_cmap_value, perform_bind, Prog.pure_eq]
  refine fun _ => uncut_ite trivial fun _ => uncut_ite (fun _ => trivial) ?_
  refine uncut_bind (fetch_if_asked_uncut _ _ _ _ _ _) fun _ => uncut_ite (fun _ => trivial) fun _ => ?_
  exact uncut_ite (fun _ => trivial) fun _ => trivial

theorem op_uncut (op : Op) : op.run.Uncut := by
  cases op with
  | set key value type => exact uncut_bind (set_cmap_value_uncut key value type) fun _ => trivial
  | get key value type => exact uncut_bind (get_cmap_value_uncut key value type) fun _ => trivial
  | delete key value type => exact uncut_bind (delete_cmap_value_uncut key value type) fun _ => trivial

theorem session_uncut (ops : List Op) : (session ops).Uncut := by
  induction ops with
  | nil => trivial
  | cons op ops ih => exact uncut_bind (op_uncut op) fun _ => uncut_bind ih fun _ => trivial

/-- A session of reads, writes and deletes returns and agrees with an abstract map from
    keys to typed values, and a key that was deleted is not found. -/
theorem session_refines_map (mayFail : Prop) (ops : List Op) (store : Store) :
    Returns (cmapStore mayFail) (session ops) store fun results store' =>
      Agrees mayFail store ops results store' ∧
        ∀ (i : Nat) (key : Bytes) (value value' : Bool) (type type' : CmapType),
          ops[i]? = some (.delete key value type) → ops[i + 1]? = some (.get key value' type') →
          ∃ r r', results[i]? = some r ∧ results[i + 1]? = some r' ∧ (r.err = CS_OK → r'.err ≠ CS_OK ∧
            (¬ mayFail → r'.err = CsError.CS_ERR_NOT_EXIST.code)) := by
  refine returns_of_uncut (fun _ _ => trivial) (fun s c => ⟨_, _, reliable_answers s c⟩) (session_uncut ops) ?_
  intro tr results store' run
  have agrees := run_ret (session_spec store ops) run
  exact ⟨agrees, fun _ _ _ _ _ _ deletes gets => agrees_get_after_delete agrees deletes gets⟩

/-- A string is set, read, deleted and read again. -/
def sample : List Op :=
  [.set (ascii "totem.name") (ascii "vm" ++ [0]) 11, .get (ascii "totem.name") true .INT8,
    .delete (ascii "totem.name") false .INT8, .get (ascii "totem.name") true .INT8]

def sampleResults : List Result :=
  [⟨CS_OK, .INT8, none⟩, ⟨CS_OK, .STRING, some (.string (some ⟨ascii "vm", by decide⟩))⟩,
    ⟨CS_OK, .STRING, none⟩, ⟨CsError.CS_ERR_NOT_EXIST.code, .INT8, none⟩]

theorem session_refines_map_sample :
    ∃ store', Agrees False (fun _ => none) sample sampleResults store' ∧
      ∃ r r', sampleResults[2]? = some r ∧ sampleResults[3]? = some r' ∧
        (r.err = CS_OK → r'.err ≠ CS_OK ∧ (¬ False → r'.err = CsError.CS_ERR_NOT_EXIST.code)) := by
  have run := exec_run (W := cmapStore False) (fun _ => True) (fun s c _ => ⟨reliable_answers s c, trivial⟩)
    (p := session sample) (s := fun _ => none) (a := sampleResults) trivial rfl
  obtain ⟨agrees, deleted⟩ := (session_refines_map False sample fun _ => none).result _ _ _ run
  exact ⟨_, agrees, deleted 2 (ascii "totem.name") false true .INT8 .INT8 rfl rfl⟩

end CorosyncClient.CmapStore
