import CorosyncClient.CmapStore
import CorosyncClient.Interaction.Composition

/-!
Single calls of the client on a key that other clients set and delete at the same time.
-/
namespace CorosyncClient.CmapRaces
open CLib Interaction CmapStore
set_option linter.unusedSimpArgs false

/-- What a key holds, and all that it has held since the call began. -/
structure History where
  held : Option CmapValue
  past : List (Option CmapValue)

namespace History

def start (cell : Option CmapValue) : History := ⟨cell, [cell]⟩
def change (h : History) (cell : Option CmapValue) : History := ⟨cell, h.past ++ [cell]⟩

/-- The history is complete. -/
def Complete (h : History) : Prop := h.held ∈ h.past

@[simp] theorem start_complete (cell : Option CmapValue) : (start cell).Complete := by simp [start, Complete]
@[simp] theorem change_complete (h : History) (cell : Option CmapValue) : (h.change cell).Complete := by
  simp [change, Complete]
@[simp] theorem change_past (h : History) (cell : Option CmapValue) : (h.change cell).past = h.past ++ [cell] := rfl

end History

/-- The cmap as far as `key` is concerned. A read may fail for any reason. -/
@[simps] def oneKey (key : Bytes) : LibWorld History where
  permits _ _ := True
  answers h c r h' :=
    match c with
    | .cmap_get _ key_name value_len => h' = h ∧ (key_name = key → GetReply True h.held value_len r)
    | .cmap_get_string _ key_name => h' = h ∧ (key_name = key → GetStringReply True h.held r)
    | _ => h' = h

/-- Another client sets the key, or deletes it. -/
def OtherClient (h h' : History) : Prop := ∃ cell, h' = h.change cell

/-- The cmap where other clients change `key` between the calls. -/
abbrev sharedKey (key : Bytes) : LibWorld History := (oneKey key).interfered OtherClient

/-- Others only add to the history. -/
theorem others_extend {h h' : History} (path : Relation.ReflTransGen OtherClient h h') (complete : h.Complete) :
    h'.Complete ∧ h.past ⊆ h'.past := by
  refine stable_of_step (P := fun t => t.Complete ∧ h.past ⊆ t.past) ?_ path ⟨complete, List.Subset.refl _⟩
  rintro s _ ⟨cell, rfl⟩ ⟨_, sub⟩
  exact ⟨by simp, fun x member => by simp [sub member]⟩

/-! ### Reads -/

/-- The pair handed back is one that the key held: the type of a value, and that value
    as a value of its type is handed out. -/
def Consistent (type : CmapType) (fetched : Option Fetched) (past : List (Option CmapValue)) : Prop :=
  ∃ v, some v ∈ past ∧ type = v.type ∧ fetched = some (represent v)

/-- The `cmap_get` that copies a value has copied a string. -/
def copiedString : LibEvent → Bool
  | ⟨.cmap_get _ _ (some _), (err, _, type, _)⟩ => err = .CS_OK && type = .STRING
  | _ => false

abbrev StringCopied (tr : List LibEvent) : Prop := Occurs copiedString tr

theorem represent_ne_raw {v : CmapValue} (isString : v.type = .STRING) (bytes : Bytes) : represent v ≠ .raw bytes := by
  obtain ⟨s, rfl⟩ := (type_eq_string_iff v).mp isString
  simp [represent]

theorem getStringReply_ok {mayFail : Prop} {cell : Option CmapValue} {r : CsError × Option CString}
    (reply : GetStringReply mayFail cell r) (ok : r.1 = .CS_OK) : ∃ s, cell = some (.string s) ∧ r.2 = some s := by
  rcases reply with reply | ⟨_, failed⟩
  · split at reply
    · exact ⟨_, rfl, by rw [reply]⟩
    · simp [reply] at ok
    · simp [reply] at ok
  · exact absurd ok failed

/-- A successful read is consistent unless it copied a string. -/
def ReadEnd (out : Err × CmapType × Option Fetched) (s : History × List LibEvent) : Prop :=
  out.1 = CS_OK → (Consistent out.2.1 out.2.2 s.1.past ↔ ¬ StringCopied s.2)

theorem consistent_later {type : CmapType} {fetched : Option Fetched} {past later : List (Option CmapValue)}
    (sub : past ⊆ later) (consistent : Consistent type fetched past) : Consistent type fetched later := by
  obtain ⟨v, held, same⟩ := consistent
  exact ⟨v, sub held, same⟩

/-- A string handed out as raw bytes is consistent with nothing. -/
theorem raw_string_inconsistent (bytes : Bytes) (past : List (Option CmapValue)) :
    ¬ Consistent .STRING (some (.raw bytes)) past := by
  rintro ⟨v, _, type, same⟩
  exact represent_ne_raw type.symm bytes (by simpa using same.symm)

/-- What a fetch has given is consistent, or it is a string that was copied. -/
theorem fetch_value_races (handle : Handle) (key : Bytes) (len : Nat) (type : CmapType) {h : History}
    {tr : List LibEvent} (complete : h.Complete) (none : ¬ StringCopied tr) :
    wlp (sharedKey key).traced (fetch_value handle key len type)
      (fun out s => s.1.Complete ∧ (out.1 = .CS_OK →
        (Consistent out.2.1 (some out.2.2) s.1.past ∧ ¬ StringCopied s.2) ∨
        (out.2.1 = .STRING ∧ (∃ bytes, out.2.2 = .raw bytes) ∧ StringCopied s.2))) (h, tr) := by
  simp only [fetch_value, wlp_ite, perform_bind, wlp_traced_call, wlp_ret, Prog.pure_eq, World.interfered_permits,
    World.interfered_answers, oneKey_permits, oneKey_answers, implies_true, true_and, forall_const]
  constructor
  · rintro rfl ⟨err, str⟩ _ ⟨h', path, rfl, reply⟩
    obtain ⟨complete', -⟩ := others_extend path complete
    refine ⟨complete', fun ok => ?_⟩
    obtain ⟨s, held, rfl⟩ := getStringReply_ok reply ok
    refine .inl ⟨⟨.string s, held ▸ complete', rfl, rfl⟩, by simpa [copiedString] using none⟩
  · rintro other ⟨err, n, found, bytes⟩ _ ⟨h', path, rfl, reply⟩
    obtain ⟨complete', -⟩ := others_extend path complete
    refine ⟨complete', fun ok => ?_⟩
    obtain ⟨v, held, -, rfl, given⟩ := getReply_ok reply ok
    obtain rfl := given (by simp)
    have err_ok : err = .CS_OK := ok
    by_cases isString : v.type = .STRING
    · exact .inr ⟨by simp [err_ok, isString], ⟨_, rfl⟩, by simp [copiedString, err_ok, isString]⟩
    · refine .inl ⟨⟨v, held ▸ complete', by simp [err_ok], ?_⟩, by simpa [copiedString, isString] using none⟩
      rw [represent_of_type_ne isString]

theorem get_cmap_value_races (key : Bytes) (type : CmapType) (cell : Option CmapValue) :
    wlp (sharedKey key).traced (get_cmap_value key true type) ReadEnd (.start cell, []) := by
  simp only [get_cmap_value, wlp_ite, perform_bind, wlp_traced_call, wlp_ret, Prog.pure_eq, World.interfered_permits,
    World.interfered_answers, oneKey_permits, oneKey_answers, implies_true, true_and, forall_const]
  rintro ⟨err, handle⟩ _ ⟨h₁, path₁, rfl⟩
  obtain ⟨complete₁, -⟩ := others_extend path₁ (History.start_complete cell)
  refine ⟨fun failed ok => absurd ok (by simpa using failed), fun _ => ?_⟩
  rintro ⟨err, len, found, bytes⟩ _ ⟨h₂, path₂, rfl, probe⟩
  obtain ⟨complete₂, -⟩ := others_extend path₂ complete₁
  refine ⟨fun failed _ _ _ ok => absurd ok (by simpa using failed), fun _ => ⟨by simp, fun _ => ?_⟩⟩
  refine wlp_seq (fetch_value_races handle key len found complete₂ (by simp [copiedString])) ?_
  rintro ⟨err, type, fetched⟩ ⟨h₃, tr⟩ ⟨complete₃, fetchedIs⟩
  simp only [wlp_ite, wlp_traced_call, wlp_ret, World.interfered_permits, World.interfered_answers, oneKey_permits,
    oneKey_answers, implies_true, true_and, forall_const]
  refine ⟨fun failed _ _ _ ok => absurd ok (by simpa using failed), fun succeeded => ?_⟩
  rintro err _ ⟨h₄, path₄, rfl⟩ _
  obtain ⟨-, sub⟩ := others_extend path₄ complete₃
  rcases fetchedIs (not_ne_iff.mp succeeded) with ⟨consistent, free⟩ | ⟨rfl, ⟨bytes, rfl⟩, copied⟩
  · have free' : ¬ StringCopied (tr ++ [⟨.cmap_finalize handle, err⟩]) := by simpa [copiedString] using free
    exact iff_of_true (consistent_later sub consistent) free'
  · have copied' : StringCopied (tr ++ [⟨.cmap_finalize handle, err⟩]) := by simp [copied]
    exact iff_of_false (raw_string_inconsistent bytes _) (not_not_intro copied')

/-- A successful read of a key that other clients change hands back a pair that the key
    held at one moment exactly when its copying `cmap_get` found no string. -/
theorem get_cmap_value_consistent_iff {key : Bytes} {type₀ type : CmapType} {cell : Option CmapValue} {h : History}
    {tr : List LibEvent} {fetched : Option Fetched}
    (run : Run (sharedKey key) (get_cmap_value key true type₀) (.start cell) tr (.ret (CS_OK, type, fetched)) h) :
    Consistent type fetched h.past ↔ ¬ StringCopied tr :=
  run_ret_traced (get_cmap_value_races key type₀ cell) run rfl

/-- Between the probe and the copying `cmap_get` another client replaces a number by a
    shorter string. -/
theorem string_replaces_number :
    Run (sharedKey (ascii "stats.count")) (get_cmap_value (ascii "stats.count") true .INT8) (.start (some (.int64 5)))
      [⟨ Call.cmap_initialize, (.CS_OK, 1)⟩, ⟨.cmap_get 1 (ascii "stats.count") none, (.CS_OK, 8, .INT64, [])⟩,
        ⟨.cmap_get 1 (ascii "stats.count") (some 8), (.CS_OK, 4, .STRING, ascii "off" ++ [0])⟩,
        ⟨.cmap_finalize 1, .CS_OK⟩]
      (.ret (CS_OK, .STRING, some (.raw (ascii "off" ++ [0]))))
      ((History.start (some (.int64 5))).change (some (.string ⟨ascii "off", by decide⟩))) :=
  .step ⟨_, .refl, rfl⟩ <| .step ⟨_, .refl, rfl, fun _ => .inl ⟨rfl, rfl, rfl⟩⟩ <|
    .step ⟨_, .single ⟨_, rfl⟩, rfl, fun _ => .inl rfl⟩ <| .step ⟨_, .refl, rfl⟩ .done

/-- A read that succeeds may hand out the bytes of a string where its caller is told to
    find a pointer to one. -/
theorem read_hands_out_raw_string :
    ¬ ∀ (tr : List LibEvent) (type : CmapType) (fetched : Option Fetched) (h : History),
      Run (sharedKey (ascii "stats.count")) (get_cmap_value (ascii "stats.count") true .INT8) (.start (some (.int64 5))) tr
        (.ret (CS_OK, type, fetched)) h → Consistent type fetched h.past := by
  intro consistent
  exact raw_string_inconsistent _ _ (consistent _ _ _ _ string_replaces_number)

theorem get_cmap_value_consistent_iff_replaced :
    Consistent .STRING (some (.raw (ascii "off" ++ [0])))
        [some (.int64 5), some (.string ⟨ascii "off", by decide⟩)] ↔
      ¬ StringCopied [⟨ Call.cmap_initialize, (.CS_OK, 1)⟩, ⟨.cmap_get 1 (ascii "stats.count") none, (.CS_OK, 8, .INT64, [])⟩,
        ⟨.cmap_get 1 (ascii "stats.count") (some 8), (.CS_OK, 4, .STRING, ascii "off" ++ [0])⟩,
        ⟨.cmap_finalize 1, .CS_OK⟩] :=
  get_cmap_value_consistent_iff string_replaces_number

end CorosyncClient.CmapRaces
