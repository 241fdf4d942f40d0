import CorosyncClient.CmapStore
import CorosyncClient.Interaction.Atomicity

/-!
Many clients of one cmap. Where every key keeps to one type, `set_cmap_value`,
`get_cmap_value` and a `delete_cmap_value` that hands out no value each take effect at one
of their calls, in whatever order the clients make them.
-/
namespace CorosyncClient.CmapClients
open CLib Interaction CmapStore
set_option linter.unusedSimpArgs false

/-! ### Keys that keep to one type -/

/-- The size of a value of the type, where the type has one. -/
def width : CmapType → Nat
  | .INT8 | .UINT8 => 1
  | .INT16 | .UINT16 => 2
  | .INT32 | .UINT32 | .FLOAT => 4
  | .INT64 | .UINT64 | .DOUBLE => 8
  | .STRING | .BINARY => 0

theorem len_eq_width {v : CmapValue} (noString : v.type ≠ .STRING) (noBinary : v.type ≠ .BINARY) : v.len = width v.type := by
  cases v
  case string => exact absurd rfl noString
  case binary => exact absurd rfl noBinary
  all_goals simp [CmapValue.len, CmapValue.bytes, CmapValue.type, width]

theorem code_inj {t t' : CmapType} (same : t.code = t'.code) : t = t' := by
  revert same
  cases t <;> cases t' <;> decide

/-- Every key holds values of its type only, and none holds a binary value. -/
def Typed (kind : Bytes → CmapType) (store : Store) : Prop :=
  ∀ key v, store key = some v → v.type = kind key ∧ v.type ≠ .BINARY

/-- A key is set to values of its type, and a delete does not ask for the value. -/
def Fits (kind : Bytes → CmapType) : Op → Prop
  | .set key _ type => type = (kind key).code ∧ kind key ≠ .BINARY
  | .get _ _ _ => True
  | .delete _ value _ => value = false

instance (kind : Bytes → CmapType) (op : Op) : Decidable (Fits kind op) := by
  cases op <;> unfold Fits <;> infer_instance

/-- An operation that keeps the keys to their types. -/
abbrev FittingOp (kind : Bytes → CmapType) := { op : Op // Fits kind op }

theorem typed_set {kind : Bytes → CmapType} {store : Store} (typed : Typed kind store) {key : Bytes} {v : CmapValue}
    (type : v.type = kind key) (noBinary : v.type ≠ .BINARY) : Typed kind (Function.update store key (some v)) := by
  intro key' w holds
  by_cases here : key' = key
  · subst here
    rw [Function.update_self, Option.some.injEq] at holds
    exact holds ▸ ⟨type, noBinary⟩
  · rw [Function.update_of_ne here] at holds
    exact typed key' w holds

theorem typed_delete {kind : Bytes → CmapType} {store : Store} (typed : Typed kind store) {key : Bytes} :
    Typed kind (Function.update store key none) := by
  intro key' w holds
  by_cases here : key' = key
  · subst here
    simp at holds
  · rw [Function.update_of_ne here] at holds
    exact typed key' w holds

/-! ### Where the operations take effect -/

/-- The calls of an operation. The copying `cmap_get` has room for the key's type. -/
def mayCall (kind : Bytes → CmapType) : Op → Call → Prop
  | _, Call.cmap_initialize => True
  | _, .cmap_finalize _ => True
  | .set key value type, .cmap_set _ key' v => key' = key ∧ pointee type value = some v
  | .get key _ _, .cmap_get _ key' none => key' = key
  | .get key value _, .cmap_get _ key' (some len) => key' = key ∧ value = true ∧ kind key ≠ .STRING ∧ len = width (kind key)
  | .get key value _, .cmap_get_string _ key' => key' = key ∧ value = true ∧ kind key = .STRING
  | .delete key _ _, .cmap_get _ key' none => key' = key
  | .delete key _ _, .cmap_delete _ key' => key' = key
  | _, _ => False

/-- The result of an operation that fails before it has found the key. -/
def refused (op : Op) (err : CsError) : Result :=
  match op with
  | .set _ _ _ => ⟨err.code, .INT8, none⟩
  | .get _ _ type => ⟨err.code, type, none⟩
  | .delete _ _ type => ⟨err.code, type, none⟩

/-- The result that a call and its reply fix. -/
def fixedAt (kind : Bytes → CmapType) (op : Op) : (c : Call) → Reply c → Option Result
  | Call.cmap_initialize, (err, _) => if err = .CS_OK then none else some (refused op err)
  | .cmap_set _ _ _, err => some ⟨err.code, .INT8, none⟩
  | .cmap_get _ _ none, (err, _, found, _) =>
    if err ≠ .CS_OK then some (refused op err)
    else match op with
      | .get _ false _ => some ⟨CS_OK, found, none⟩
      | _ => none
  | .cmap_get _ key (some _), (err, _, found, bytes) =>
    some (if err = .CS_OK then ⟨CS_OK, found, some (.raw bytes)⟩ else ⟨err.code, kind key, none⟩)
  | .cmap_get_string _ _, (err, str) =>
    some (if err = .CS_OK then ⟨CS_OK, .STRING, some (.string str)⟩ else ⟨err.code, .STRING, none⟩)
  | .cmap_delete _ key, err => some ⟨err.code, kind key, none⟩
  | _, _ => none

section
variable {mayFail : Prop} {kind : Bytes → CmapType}

/-- A pointer of a key's type has a value of that type behind it. -/
theorem pointee_of_kind {k : CmapType} (noBinary : k ≠ .BINARY) (value : Bytes) :
    ∃ v, pointee k.code value = some v ∧ v.type = k := by
  have inside : ¬ (k.code < 1 ∨ k.code > 11) := by
    revert noBinary
    cases k <;> decide
  obtain ⟨v, points⟩ : ∃ v, pointee k.code value = some v :=
    Option.ne_none_iff_exists'.mp (fun none => inside ((pointee_eq_none_iff k.code value).mp none))
  exact ⟨v, points, code_inj (pointee_pointsTo points).1⟩

theorem spec_set {key value : Bytes} {type : UInt32} {v : CmapValue} {m m' : Store} {err : Err}
    (points : pointee type value = some v) (same : m' = if err = CS_OK then Function.update m key (some v) else m)
    (reliable : ¬ mayFail → err = CS_OK) : Spec mayFail m (.set key value type) ⟨err, .INT8, none⟩ m' := by
  have inside : ¬ (type < 1 ∨ type > 11) := by
    rw [← pointee_eq_none_iff type value, points]
    simp
  rw [Spec, if_neg inside]
  exact ⟨v, pointee_pointsTo points, same, reliable⟩

/-- A failed `cmap_initialize` is a failed operation. -/
theorem spec_refused (faulty : mayFail) {err : CsError} (failed : err ≠ .CS_OK) {op : Op} (fits : Fits kind op) (store : Store) :
    Spec mayFail store op (refused op err) store := by
  cases op with
  | set key value type =>
    obtain ⟨rfl, noBinary⟩ := fits
    obtain ⟨v, points, -⟩ := pointee_of_kind noBinary value
    exact spec_set points (by simp [failed]) (absurd faulty)
  | get key value type => exact ⟨rfl, answer_failed failed (.inl faulty)⟩
  | delete key value type => exact ⟨by simp [refused, failed], answer_failed failed (.inl faulty)⟩

/-- A probe that fails is the failed operation, and changes nothing. -/
theorem spec_probe {op : Op} {key : Bytes} (reads : (∃ value type, op = .get key value type) ∨ ∃ value type, op = .delete key value type)
    {store : Store} {r : CsError × Nat × CmapType × Bytes} (reply : GetReply mayFail (store key) none r) (failed : r.1 ≠ .CS_OK) :
    Spec mayFail store op (refused op r.1) store := by
  obtain ⟨value, type, rfl⟩ | ⟨value, type, rfl⟩ := reads
  · exact ⟨rfl, answer_failed failed (getReply_failed reply failed)⟩
  · exact ⟨by simp [refused, failed], answer_failed failed (getReply_failed reply failed)⟩

theorem sound_set {handle : Handle} {op : Op} {key : Bytes} {v : CmapValue} {s s' : Store} {r : CsError} (fits : Fits kind op)
    (typed : Typed kind s) (allowed : mayCall kind op (.cmap_set handle key v))
    (answered : (cmapStore mayFail).answers s (.cmap_set handle key v) r s') :
    Typed kind s' ∧ Spec mayFail s op ⟨r.code, .INT8, none⟩ s' := by
  cases op with
  | set key' value type =>
    obtain ⟨rfl, points⟩ := allowed
    obtain ⟨rfl, noBinary⟩ := fits
    obtain ⟨w, points', same⟩ := pointee_of_kind noBinary value
    obtain rfl : v = w := Option.some.inj (points.symm.trans points')
    rcases answered with ⟨rfl, rfl⟩ | ⟨faulty, failed, rfl⟩
    · exact ⟨typed_set typed same (same ▸ noBinary), spec_set points (by simp) (fun _ => rfl)⟩
    · exact ⟨typed, spec_set points (by simp [failed]) (absurd faulty)⟩
  | get => cases allowed
  | delete => cases allowed

theorem sound_probe {handle : Handle} {op : Op} {key : Bytes} {s s' : Store} {r : CsError × Nat × CmapType × Bytes}
    (allowed : mayCall kind op (.cmap_get handle key none))
    (answered : (cmapStore mayFail).answers s (.cmap_get handle key none) r s') :
    s' = s ∧ ∀ a, fixedAt kind op (.cmap_get handle key none) r = some a → Spec mayFail s op a s := by
  obtain ⟨rfl, reply⟩ := answered
  refine ⟨rfl, fun a fixed => ?_⟩
  obtain ⟨err, len, found, bytes⟩ := r
  by_cases ok : err = .CS_OK
  · subst ok
    cases op with
    | set => cases allowed
    | delete => simp [fixedAt] at fixed
    | get key' value type =>
      obtain rfl : key = key' := allowed
      cases value with
      | true => simp [fixedAt] at fixed
      | false =>
        simp only [fixedAt, ne_eq, not_true_eq_false, if_false, Option.some.injEq] at fixed
        obtain ⟨v, holds, -, same, -⟩ := getReply_ok reply rfl
        subst fixed
        refine ⟨rfl, ?_⟩
        rw [holds]
        exact answer_ok same rfl
  · simp only [fixedAt, ne_eq, ok, not_false_eq_true, if_true, Option.some.injEq] at fixed
    subst fixed
    refine spec_probe ?_ reply ok
    cases op with
    | set => cases allowed
    | get key' value type => exact .inl ⟨value, type, by rw [show key = key' from allowed]⟩
    | delete key' value type => exact .inr ⟨value, type, by rw [show key = key' from allowed]⟩

/-- The copying read has room for what the key holds, since its type has one size. -/
theorem sound_copy {handle : Handle} {op : Op} {key : Bytes} {len : Nat} {s s' : Store} {r : CsError × Nat × CmapType × Bytes}
    (typed : Typed kind s) (allowed : mayCall kind op (.cmap_get handle key (some len)))
    (answered : (cmapStore mayFail).answers s (.cmap_get handle key (some len)) r s') :
    s' = s ∧ ∀ a, fixedAt kind op (.cmap_get handle key (some len)) r = some a → Spec mayFail s op a s := by
  obtain ⟨rfl, reply⟩ := answered
  refine ⟨rfl, fun a fixed => ?_⟩
  cases op with
  | set => cases allowed
  | delete => cases allowed
  | get key' value type =>
    obtain ⟨rfl, rfl, noString, rfl⟩ := allowed
    cases fixed
    obtain ⟨err, n, found, bytes⟩ := r
    refine ⟨rfl, ?_⟩
    by_cases ok : err = .CS_OK
    · subst ok
      obtain ⟨v, holds, -, same, copied⟩ := getReply_ok reply rfl
      rw [holds, if_pos rfl]
      refine answer_ok same ?_
      rw [if_pos rfl, represent_of_type_ne ((typed key v holds).1 ▸ noString), copied (by simp)]
    · rw [if_neg ok]
      refine answer_failed ok ?_
      rcases reply with reply | ⟨faulty, -⟩
      · cases holds : s' key with
        | none =>
          rw [holds] at reply
          exact .inr ⟨rfl, reply⟩
        | some v =>
          obtain ⟨same, noBinary⟩ := typed key v holds
          have room : v.len = width (kind key) := by rw [len_eq_width (same ▸ noString) noBinary, same]
          simp only [holds, room, le_refl, if_true, Prod.mk.injEq] at reply
          exact absurd reply.1 ok
      · exact .inl faulty

theorem sound_string {handle : Handle} {op : Op} {key : Bytes} {s s' : Store} {r : CsError × Option CString}
    (typed : Typed kind s) (allowed : mayCall kind op (.cmap_get_string handle key))
    (answered : (cmapStore mayFail).answers s (.cmap_get_string handle key) r s') :
    s' = s ∧ ∀ a, fixedAt kind op (.cmap_get_string handle key) r = some a → Spec mayFail s op a s := by
  obtain ⟨rfl, reply⟩ := answered
  refine ⟨rfl, fun a fixed => ?_⟩
  cases op with
  | set => cases allowed
  | delete => cases allowed
  | get key' value type =>
    obtain ⟨rfl, rfl, isString⟩ := allowed
    cases fixed
    obtain ⟨err, str⟩ := r
    refine ⟨rfl, ?_⟩
    rcases reply with reply | ⟨faulty, failed⟩
    · cases holds : s' key with
      | none =>
        rw [holds] at reply
        obtain rfl : err = .CS_ERR_NOT_EXIST := reply
        exact answer_failed (by simp) (.inr ⟨rfl, rfl⟩)
      | some v =>
        obtain ⟨text, rfl⟩ := (type_eq_string_iff v).mp ((typed key v holds).1.trans isString)
        rw [holds] at reply
        obtain ⟨rfl, rfl⟩ := Prod.mk.inj reply
        exact answer_ok rfl rfl
    · change err ≠ .CS_OK at failed
      rw [if_neg failed]
      exact answer_failed failed (.inl faulty)

theorem sound_delete {handle : Handle} {op : Op} {key : Bytes} {s s' : Store} {r : CsError} (fits : Fits kind op)
    (typed : Typed kind s) (allowed : mayCall kind op (.cmap_delete handle key))
    (answered : (cmapStore mayFail).answers s (.cmap_delete handle key) r s') :
    Typed kind s' ∧ Spec mayFail s op ⟨r.code, kind key, none⟩ s' := by
  cases op with
  | set => cases allowed
  | get => cases allowed
  | delete key' value type =>
    obtain rfl : key = key' := allowed
    obtain rfl : value = false := fits
    obtain ⟨cell, ⟨found, rfl, rfl⟩ | ⟨gone, rfl, rfl⟩ | ⟨faulty, failed, same⟩, rfl⟩ := answered
    · obtain ⟨v, holds⟩ := Option.isSome_iff_exists.mp found
      refine ⟨typed_delete typed, by simp, ?_⟩
      rw [holds]
      exact answer_ok (typed key v holds).1.symm rfl
    · refine ⟨typed_delete typed, by simp [update_self s key gone.symm], ?_⟩
      exact answer_failed (by decide) (.inr ⟨gone, rfl⟩)
    · rw [update_self s key same]
      exact ⟨typed, by simp [failed], answer_failed failed (.inl faulty)⟩

/-- Where the operations on keys that keep their types take effect. -/
def effects (mayFail : Prop) (kind : Bytes → CmapType) :
    Effects (cmapStore mayFail) (Typed kind) (fun m (op : FittingOp kind) r m' => Spec mayFail m op.1 r m') where
  allowed op c := mayCall kind op.1 c
  point op := fixedAt kind op.1
  sound := by
    rintro ⟨op, fits⟩ s c r s' typed allowed answered
    cases c
    case cmap_initialize =>
      obtain ⟨err, handle⟩ := r
      obtain ⟨rfl, opened⟩ := answered
      refine ⟨typed, moves_of_unchanged fun a fixed => ?_⟩
      by_cases ok : err = .CS_OK
      · simp [fixedAt, ok] at fixed
      · simp only [fixedAt, if_neg ok, Option.some.injEq] at fixed
        exact fixed ▸ spec_refused (opened.resolve_left ok) ok fits s'
    case cmap_finalize => exact ⟨(show s' = s from answered) ▸ typed, answered⟩
    case cmap_set handle key v => exact sound_set fits typed allowed answered
    case cmap_get handle key value_len =>
      cases value_len with
      | none =>
        obtain ⟨rfl, given⟩ := sound_probe allowed answered
        exact ⟨typed, moves_of_unchanged given⟩
      | some len =>
        obtain ⟨rfl, given⟩ := sound_copy typed allowed answered
        exact ⟨typed, moves_of_unchanged given⟩
    case cmap_get_string handle key =>
      obtain ⟨rfl, given⟩ := sound_string typed allowed answered
      exact ⟨typed, moves_of_unchanged given⟩
    case cmap_delete handle key => exact sound_delete fits typed allowed answered
    all_goals cases op <;> cases allowed

/-- The handle is closed when the operation has its result. -/
theorem closes {op : FittingOp kind} {α : Type} {Q : α → Option Result → Prop} {handle : Handle} {out : α} {result : Result}
    (given : Q out (some result)) :
    wlp ((effects mayFail kind).own op) (.call (.cmap_finalize handle) fun _ => .ret out) Q (some result) := by
  refine Effects.behind_call ?_ (fun _ => rfl) (fun _ => given)
  obtain ⟨op, -⟩ := op
  cases op <;> trivial

theorem open_fails {op : FittingOp kind} {err : CsError} {handle : Handle} (failed : err ≠ .CS_OK) :
    (effects mayFail kind).point op Call.cmap_initialize (err, handle) = some (refused op.1 err) := if_neg failed

theorem opened {op : FittingOp kind} {err : CsError} {handle : Handle} (succeeded : ¬ err ≠ .CS_OK) :
    (effects mayFail kind).point op Call.cmap_initialize (err, handle) = none := if_pos (not_ne_iff.mp succeeded)

theorem probe_fails {op : FittingOp kind} {key : Bytes} {err : CsError} {handle : Handle} {found : Nat × CmapType × Bytes}
    (failed : err ≠ .CS_OK) :
    (effects mayFail kind).point op (.cmap_get handle key none) (err, found) = some (refused op.1 err) := if_pos failed

theorem set_carries {key value : Bytes} {type : UInt32} (fits : Fits kind (.set key value type)) :
    (effects mayFail kind).Carries (Op.run (.set key value type)) ⟨.set key value type, fits⟩ := by
  obtain ⟨same, noBinary⟩ := id fits
  obtain ⟨v, points, -⟩ := pointee_of_kind noBinary value
  rw [← same] at points
  have inside : ¬ (type < 1 ∨ type > 11) := by
    rw [← pointee_eq_none_iff type value, points]
    simp
  rw [Effects.Carries, Op.run, wlp_bind, set_cmap_value, if_neg inside, points]
  simp only [perform_bind, Prog.pure_eq, wlp_ret]
  refine Effects.before_call trivial ?_
  rintro ⟨err, handle⟩ - - - -
  simp only [wlp_ite]
  refine ⟨fun failed => open_fails failed, fun succeeded => ?_⟩
  rw [opened succeeded]
  refine Effects.before_call ⟨rfl, points⟩ ?_
  intro err _ _ _ _
  rw [wlp_ite]
  refine ⟨fun _ => closes rfl, fun succeeded => ?_⟩
  rw [not_ne_iff.mp succeeded]
  exact closes rfl

/-- The fetch after a probe of a key of this type. -/
theorem fetch_carries {key : Bytes} {type : CmapType} {handle : Handle} {len : Nat} (room : kind key ≠ .STRING → len = width (kind key)) :
    wlp ((effects mayFail kind).own ⟨.get key true type, trivial⟩) (fetch_value handle key len (kind key))
      (fun out known => known = some
        (if out.1 = .CS_OK then ⟨CS_OK, out.2.1, some out.2.2⟩ else ⟨out.1.code, out.2.1, none⟩)) none := by
  simp only [fetch_value, perform_bind, Prog.pure_eq, wlp_ite]
  constructor
  · intro isString
    refine Effects.before_call ⟨rfl, rfl, isString⟩ ?_
    rintro ⟨err, str⟩ - - - -
    rw [wlp_ret, isString]
    rfl
  · intro other
    refine Effects.before_call ⟨rfl, rfl, other, room other⟩ ?_
    rintro ⟨err, n, found, bytes⟩ - - - -
    simp only [wlp_ret, effects, fixedAt]
    by_cases ok : err = .CS_OK
    · simp [ok]
    · simp [ok]

/-- What a probe tells of a key that keeps its type. -/
theorem probed {key : Bytes} {s : Store} (typed : Typed kind s) {r : CsError × Nat × CmapType × Bytes}
    (reply : GetReply mayFail (s key) none r) (succeeded : ¬ r.1 ≠ .CS_OK) :
    r.2.2.1 = kind key ∧ (kind key ≠ .STRING → r.2.1 = width (kind key)) := by
  obtain ⟨v, holds, long, found, -⟩ := getReply_ok reply (not_ne_iff.mp succeeded)
  obtain ⟨same, noBinary⟩ := typed key v holds
  refine ⟨found.trans same, fun other => ?_⟩
  rw [long, len_eq_width (same ▸ other) noBinary, same]

theorem get_carries {key : Bytes} {value : Bool} {type : CmapType} :
    (effects mayFail kind).Carries (Op.run (.get key value type)) ⟨.get key value type, trivial⟩ := by
  rw [Effects.Carries, Op.run, wlp_bind, get_cmap_value]
  simp only [perform_bind, Prog.pure_eq, wlp_ret]
  refine Effects.before_call trivial ?_
  rintro ⟨err, handle⟩ - - - -
  simp only [wlp_ite]
  refine ⟨fun failed => open_fails failed, fun succeeded => ?_⟩
  rw [opened succeeded]
  refine Effects.before_call rfl ?_
  rintro ⟨err, len, found, bytes⟩ s s' typed ⟨-, reply⟩
  simp only [wlp_ite]
  constructor
  · intro failed
    rw [probe_fails failed]
    exact closes rfl
  · intro succeeded
    obtain ⟨rfl, room⟩ := probed typed reply succeeded
    obtain rfl : err = .CS_OK := not_ne_iff.mp succeeded
    cases value with
    | false => exact ⟨fun _ => closes rfl, fun given => absurd rfl given⟩
    | true =>
      refine ⟨fun isNull => absurd isNull (by decide), fun _ => ?_⟩
      refine wlp_seq (fetch_carries room) ?_
      rintro ⟨err, found, fetched⟩ _ rfl
      rw [wlp_ite]
      constructor
      · intro failed
        rw [if_neg failed]
        exact closes rfl
      · intro succeeded
        rw [if_pos (not_ne_iff.mp succeeded)]
        exact closes rfl

theorem delete_carries {key : Bytes} {value : Bool} {type : CmapType} (fits : Fits kind (.delete key value type)) :
    (effects mayFail kind).Carries (Op.run (.delete key value type)) ⟨.delete key value type, fits⟩ := by
  obtain rfl : value = false := fits
  rw [Effects.Carries, Op.run, wlp_bind, delete_cmap_value]
  simp only [perform_bind, Prog.pure_eq, wlp_ret]
  refine Effects.before_call trivial ?_
  rintro ⟨err, handle⟩ - - - -
  simp only [wlp_ite]
  refine ⟨fun failed => open_fails failed, fun succeeded => ?_⟩
  rw [opened succeeded]
  refine Effects.before_call rfl ?_
  rintro ⟨err, len, found, bytes⟩ s s' typed ⟨-, reply⟩
  simp only [wlp_ite]
  constructor
  · intro failed
    rw [probe_fails failed]
    exact closes rfl
  · intro succeeded
    obtain ⟨rfl, -⟩ := probed typed reply succeeded
    obtain rfl : err = .CS_OK := not_ne_iff.mp succeeded
    refine Effects.before_call (c := Call.cmap_delete handle key) rfl ?_
    intro err _ _ _ _
    rw [wlp_ite]
    refine ⟨fun _ => closes rfl, fun succeeded => ?_⟩
    rw [not_ne_iff.mp succeeded]
    exact closes rfl

/-- Any number of clients that set, get and delete keys which keep their types, however
    their calls interleave and whatever calls fail: the history is that of a cmap which
    carries out each operation in one step, and each client's results are those of its
    operations in one common order. -/
theorem clients_atomic {ι : Type} [DecidableEq ι] {q : ι → Option (Client Result)} {s t : Store}
    {h : List (Action ι (FittingOp kind) Result)}
    (run : Concurrent (cmapStore mayFail) (fun op => op.1.run) (fun _ => none) s h q t) (typed : Typed kind s) :
    (∃ l, Atomic (fun m (op : FittingOp kind) r m' => Spec mayFail m op.1 r m') (fun _ => .idle) s h l t) ∧
    ∃ steps, Steps (fun m (op : FittingOp kind) r m' => Spec mayFail m op.1 r m') s steps t ∧
      ∀ i, (share i steps).map Prod.fst <+: invoked i h ∧ responded i h <+: (share i steps).map Prod.snd := by
  have carries : ∀ op : FittingOp kind, (effects mayFail kind).Carries op.1.run op := by
    rintro ⟨op, fits⟩
    cases op with
    | set => exact set_carries fits
    | get => exact get_carries
    | delete => exact delete_carries fits
  obtain ⟨l, atomic⟩ := concurrent_atomic (effects mayFail kind) carries run typed
  exact ⟨⟨l, atomic⟩, atomic_sequential atomic⟩

end

/-- One client writes a key that another reads, their calls in turn. -/
def pair : List (Bool × Option (FittingOp fun _ => .UINT8)) :=
  [(true, some ⟨.get (ascii "votes") true .INT8, trivial⟩), (false, some ⟨.set (ascii "votes") [7] 2, by decide⟩), (true, none),
    (false, none), (false, none), (true, none), (false, none), (true, none), (false, none), (true, none), (true, none)]

/-- What the two clients see. -/
def pairSeen : List (Action Bool (FittingOp fun _ => .UINT8) Result) :=
  (follow reliable (fun op => op.1.run) pair (fun _ => none) (fun _ => none)).1

example : responded true pairSeen = [⟨CS_OK, .UINT8, some (.raw [7])⟩] := by rfl

theorem clients_atomic_pair :
    ∃ steps t, Steps (fun m (op : FittingOp fun _ => .UINT8) r m' => Spec False m op.1 r m') (fun _ => none) steps t ∧
      ∀ i, (share i steps).map Prod.fst <+: invoked i pairSeen ∧ responded i pairSeen <+: (share i steps).map Prod.snd := by
  have typed : Typed (fun _ => .UINT8) (fun _ => none) := fun _ _ holds => absurd holds (by simp)
  obtain ⟨-, steps, sequence, agree⟩ := clients_atomic (follow_concurrent (W := cmapStore False) reliable_answers pair _ _) typed
  exact ⟨steps, _, sequence, agree⟩

end CorosyncClient.CmapClients
