import CorosyncClient.CmapRaces

/-!
A `delete_cmap_value` that hands back the value it deletes, beside other clients that set
the key. The fetch and the delete are two calls: a set between them is lost.
-/
namespace CorosyncClient.DeleteRaces
open CLib Interaction CmapStore CmapRaces
set_option linter.unusedSimpArgs false

/-- What a key holds, what it held at the last fetch of its value, and what it held when
    it was removed. -/
structure Cell where
  held : Option CmapValue
  fetched : Option CmapValue
  removed : Option CmapValue

/-- The cmap as far as `key` is concerned. Any call may fail. -/
@[simps] def removable (key : Bytes) : LibWorld Cell where
  permits _ _ := True
  answers s c r s' :=
    match c with
    | .cmap_get _ key_name none => (key_name = key → GetReply True s.held none r) ∧ s' = s
    | .cmap_get _ key_name (some len) =>
      (key_name = key → GetReply True s.held (some len) r) ∧ s' = { s with fetched := s.held }
    | .cmap_get_string _ key_name => (key_name = key → GetStringReply True s.held r) ∧ s' = { s with fetched := s.held }
    | .cmap_delete _ key_name =>
      ∃ cell, (key_name = key → DeleteReply True s.held r cell) ∧
        s' = { s with held := cell, removed := if r = .CS_OK then s.held else s.removed }
    | _ => s' = s

/-- Another client sets the key. -/
def OtherSet (s s' : Cell) : Prop := ∃ v, s' = { s with held := some v }

/-- The cmap where other clients set `key` between the calls. -/
abbrev contended (key : Bytes) : LibWorld Cell := (removable key).interfered OtherSet

/-- Sets leave what was fetched and what was removed as they are. -/
theorem sets_keep {s s' : Cell} (path : Relation.ReflTransGen OtherSet s s') :
    s'.fetched = s.fetched ∧ s'.removed = s.removed := by
  refine stable_of_step (P := fun t => t.fetched = s.fetched ∧ t.removed = s.removed) ?_ path ⟨rfl, rfl⟩
  rintro t _ ⟨v, rfl⟩ kept
  exact kept

/-- The value and the type handed back are those of the value that was removed. -/
def HandsBack (type : CmapType) (fetched : Option Fetched) (removed : Option CmapValue) : Prop :=
  ∃ v, removed = some v ∧ type = v.type ∧ fetched = some (represent v)

private theorem stored_inj {n a b : Nat} (same : Fetched.raw (storeNat n a) = .raw (storeNat n b)) (low : a < 256 ^ n)
    (high : b < 256 ^ n) : a = b := storeNat_inj (Fetched.raw.inj same) low high

/-- A value is determined by its type and the way it is handed out. -/
theorem represent_inj {v w : CmapValue} (type : v.type = w.type) (same : represent v = represent w) : v = w := by
  cases v <;> cases w <;> cases type
  case int8 a b =>
    have equal := UInt8.toNat_inj.mp (stored_inj same a.toUInt8.toNat_lt b.toUInt8.toNat_lt)
    rw [Int8.toBitVec.inj (congrArg UInt8.toBitVec equal)]
  case uint8 a b => rw [UInt8.toNat_inj.mp (stored_inj same a.toNat_lt b.toNat_lt)]
  case int16 a b =>
    have equal := UInt16.toNat_inj.mp (stored_inj same a.toUInt16.toNat_lt b.toUInt16.toNat_lt)
    rw [Int16.toBitVec.inj (congrArg UInt16.toBitVec equal)]
  case uint16 a b => rw [UInt16.toNat_inj.mp (stored_inj same a.toNat_lt b.toNat_lt)]
  case int32 a b =>
    have equal := UInt32.toNat_inj.mp (stored_inj same a.toUInt32.toNat_lt b.toUInt32.toNat_lt)
    rw [Int32.toBitVec.inj (congrArg UInt32.toBitVec equal)]
  case uint32 a b => rw [UInt32.toNat_inj.mp (stored_inj same a.toNat_lt b.toNat_lt)]
  case int64 a b =>
    have equal := UInt64.toNat_inj.mp (stored_inj same a.toUInt64.toNat_lt b.toUInt64.toNat_lt)
    rw [Int64.toBitVec.inj (congrArg UInt64.toBitVec equal)]
  case uint64 a b => rw [UInt64.toNat_inj.mp (stored_inj same a.toNat_lt b.toNat_lt)]
  case float a b => rw [UInt32.toNat_inj.mp (stored_inj same a.toNat_lt b.toNat_lt)]
  case double a b => rw [UInt64.toNat_inj.mp (stored_inj same a.toNat_lt b.toNat_lt)]
  case string s t =>
    obtain rfl : s = t := by simpa [represent] using same
    rfl
  case binary b c =>
    obtain rfl : b = c := by simpa [represent, CmapValue.bytes] using same
    rfl

/-- What has been handed back once a fetch has succeeded: the value held at the fetch, or
    the bytes of a string. -/
def Fetch (out : CsError × CmapType × Option Fetched) (s : Cell × List LibEvent) : Prop :=
  out.1 = .CS_OK → ∃ v, s.1.fetched = some v ∧ out.2.1 = v.type ∧
    ((out.2.2 = some (represent v) ∧ ¬ StringCopied s.2) ∨
      (v.type = .STRING ∧ (∃ bytes, out.2.2 = some (.raw bytes)) ∧ StringCopied s.2))

theorem fetch_races (handle : Handle) (key : Bytes) (len : Nat) (type : CmapType) {s : Cell} {tr : List LibEvent}
    (err : CsError) (none : ¬ StringCopied tr) :
    wlp (contended key).traced (fetch_if_asked handle key true err len type) Fetch (s, tr) := by
  simp only [fetch_if_asked, fetch_value, if_true]
  split
  · rename_i isString
    subst isString
    simp only [perform_bind, Prog.call_bind, Prog.ret_bind, Prog.pure_eq, wlp_traced_call, wlp_ret,
      World.interfered_permits, World.interfered_answers, removable_permits, removable_answers, implies_true, true_and]
    rintro ⟨err, str⟩ _ ⟨t, path, reply, rfl⟩ ok
    obtain ⟨str', held, rfl⟩ := getStringReply_ok (reply trivial) ok
    exact ⟨.string str', held, rfl, .inl ⟨rfl, by simpa [copiedString] using none⟩⟩
  · simp only [perform_bind, Prog.call_bind, Prog.ret_bind, Prog.pure_eq, wlp_traced_call, wlp_ret,
      World.interfered_permits, World.interfered_answers, removable_permits, removable_answers, implies_true, true_and]
    rintro ⟨err, n, found, bytes⟩ _ ⟨t, path, reply, rfl⟩ ok
    obtain ⟨v, held, -, rfl, given⟩ := getReply_ok (reply trivial) ok
    obtain rfl := given (by simp)
    have err_ok : err = .CS_OK := ok
    refine ⟨v, held, by simp [err_ok], ?_⟩
    by_cases isString : v.type = .STRING
    · exact .inr ⟨isString, ⟨_, rfl⟩, by simp [copiedString, err_ok, isString]⟩
    · exact .inl ⟨by rw [represent_of_type_ne isString], by simpa [copiedString, isString] using none⟩

/-- A successful delete hands back what it removed exactly when nothing but a string was
    fetched as one, and the key still held what was fetched. -/
def DeleteEnd (out : Err × CmapType × Option Fetched) (s : Cell × List LibEvent) : Prop :=
  out.1 = CS_OK → (HandsBack out.2.1 out.2.2 s.1.removed ↔ ¬ StringCopied s.2 ∧ s.1.fetched = s.1.removed)

/-- A delete that succeeds has removed a value. -/
theorem deleteReply_ok {cell cell' : Option CmapValue} (reply : DeleteReply True cell .CS_OK cell') : ∃ v, cell = some v := by
  rcases reply with ⟨some, -, -⟩ | ⟨-, failed, -⟩ | ⟨-, failed, -⟩
  · exact Option.isSome_iff_exists.mp some
  · cases failed
  · exact absurd rfl failed

/-- With `w` fetched and `v` removed. -/
theorem handsBack_iff {type : CmapType} {fetched : Option Fetched} {v w : CmapValue} {tr : List LibEvent}
    (type_is : type = w.type)
    (handed : (fetched = some (represent w) ∧ ¬ StringCopied tr) ∨
      (w.type = .STRING ∧ (∃ bytes, fetched = some (.raw bytes)) ∧ StringCopied tr)) :
    HandsBack type fetched (some v) ↔ ¬ StringCopied tr ∧ some w = some v := by
  subst type_is
  rcases handed with ⟨rfl, free⟩ | ⟨isString, ⟨bytes, rfl⟩, copied⟩
  · constructor
    · rintro ⟨x, removed, sameType, sameValue⟩
      obtain rfl := Option.some.inj removed
      exact ⟨free, congrArg some (represent_inj sameType (Option.some.inj sameValue))⟩
    · rintro ⟨-, same⟩
      obtain rfl := Option.some.inj same
      exact ⟨w, rfl, rfl, rfl⟩
  · refine iff_of_false ?_ (fun both => both.1 copied)
    rintro ⟨x, -, sameType, sameValue⟩
    exact represent_ne_raw (sameType.symm.trans isString) bytes (Option.some.inj sameValue).symm

theorem delete_cmap_value_races (key : Bytes) (type : CmapType) (cell : Option CmapValue) :
    wlp (contended key).traced (delete_cmap_value key true type) DeleteEnd (⟨cell, none, none⟩, []) := by
  simp only [delete_cmap_value, wlp_ite, perform_bind, wlp_traced_call, wlp_ret, Prog.pure_eq, World.interfered_permits,
    World.interfered_answers, removable_permits, removable_answers, implies_true, true_and]
  rintro ⟨err, handle⟩ _ ⟨s₁, -, rfl⟩
  refine ⟨fun failed ok => absurd ok (by simpa using failed), fun _ => ?_⟩
  rintro ⟨err, len, found, bytes⟩ _ ⟨s₂, -, -, rfl⟩
  refine ⟨fun failed _ _ _ ok => absurd ok (by simpa using failed), fun _ => ?_⟩
  refine wlp_seq (fetch_races handle key len found err (by simp [copiedString])) ?_
  rintro ⟨err, type, fetched⟩ ⟨s₃, tr⟩ fetch
  simp only [wlp_ite, wlp_traced_call, wlp_ret, World.interfered_permits, World.interfered_answers, removable_permits,
    removable_answers, implies_true, true_and]
  refine ⟨fun failed _ _ _ ok => absurd ok (by simpa using failed), fun succeeded => ?_⟩
  obtain ⟨w, held, type_is, handed⟩ := fetch (not_ne_iff.mp succeeded)
  rintro err _ ⟨s₄, path₄, cell', reply, rfl⟩
  refine ⟨fun failed _ _ _ ok => absurd ok (by simpa using failed), fun deleted => ?_⟩
  obtain rfl : err = .CS_OK := not_ne_iff.mp deleted
  obtain ⟨v, removed⟩ := deleteReply_ok (reply trivial)
  rintro finalized s₅ ⟨_, path₅, rfl⟩ -
  have kept := (sets_keep path₄).1.trans held
  obtain ⟨fetched_is, removed_is⟩ := sets_keep path₅
  have fetched_is : s₅.fetched = some w := fetched_is.trans kept
  have removed_is : s₅.removed = some v := removed_is.trans removed
  have same : StringCopied (tr ++ [⟨.cmap_delete handle key, .CS_OK⟩] ++ [⟨.cmap_finalize handle, finalized⟩]) ↔
      StringCopied tr := by simp [copiedString]
  simp only [fetched_is, removed_is, same]
  exact handsBack_iff type_is handed

/-- Where other clients only set the key, a `delete_cmap_value` that succeeds has handed
    back the value and type that it removed exactly when its copying `cmap_get` found no
    string, and the key held the fetched value when it was removed. -/
theorem delete_hands_back_iff {key : Bytes} {type₀ type : CmapType} {cell : Option CmapValue} {s : Cell}
    {tr : List LibEvent} {fetched : Option Fetched}
    (run : Run (contended key) (delete_cmap_value key true type₀) ⟨cell, none, none⟩ tr (.ret (CS_OK, type, fetched)) s) :
    HandsBack type fetched s.removed ↔ ¬ StringCopied tr ∧ s.fetched = s.removed :=
  run_ret_traced (delete_cmap_value_races key type₀ cell) run rfl

/-- The calls of a delete of a key that held 5 when it was fetched. -/
def deleted : List LibEvent :=
  [⟨ Call.cmap_initialize, (.CS_OK, 1)⟩, ⟨.cmap_get 1 (ascii "stats.count") none, (.CS_OK, 1, .UINT8, [])⟩,
    ⟨.cmap_get 1 (ascii "stats.count") (some 1), (.CS_OK, 1, .UINT8, [5])⟩,
    ⟨.cmap_delete 1 (ascii "stats.count"), .CS_OK⟩, ⟨.cmap_finalize 1, .CS_OK⟩]

/-- Between the fetch and the delete another client sets the key to 7. -/
theorem set_before_delete :
    Run (contended (ascii "stats.count")) (delete_cmap_value (ascii "stats.count") true .INT8)
      ⟨some (.uint8 5), none, none⟩ deleted (.ret (CS_OK, .UINT8, some (.raw [5]))) ⟨none, some (.uint8 5), some (.uint8 7)⟩ := by
  refine .step ⟨_, .refl, rfl⟩ <| .step ⟨_, .refl, fun _ => .inl ⟨rfl, rfl, rfl⟩, rfl⟩ <|
    .step ⟨_, .refl, fun _ => .inl rfl, rfl⟩ <| .step ⟨_, .single ⟨.uint8 7, rfl⟩, none, fun _ => .inl ⟨rfl, rfl, rfl⟩, rfl⟩ <| ?_
  exact .step ⟨_, .refl, rfl⟩ .done

/-- A delete that succeeds may hand back a value that another client has replaced, and
    destroy the new one. -/
theorem delete_loses_value :
    ¬ ∀ (tr : List LibEvent) (type : CmapType) (fetched : Option Fetched) (s : Cell),
      Run (contended (ascii "stats.count")) (delete_cmap_value (ascii "stats.count") true .INT8)
        ⟨some (.uint8 5), none, none⟩ tr (.ret (CS_OK, type, fetched)) s → HandsBack type fetched s.removed := by
  intro handsBack
  obtain ⟨v, removed, -, given⟩ := handsBack _ _ _ _ set_before_delete
  obtain rfl : CmapValue.uint8 7 = v := Option.some.inj removed
  exact absurd given (by decide)

theorem delete_hands_back_iff_set :
    HandsBack .UINT8 (some (.raw [5])) (some (.uint8 7)) ↔
      ¬ StringCopied deleted ∧ some (CmapValue.uint8 5) = some (.uint8 7) :=
  delete_hands_back_iff set_before_delete

end CorosyncClient.DeleteRaces
