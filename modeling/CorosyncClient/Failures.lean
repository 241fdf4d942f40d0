import CorosyncClient.Services
import Mathlib.Tactic.Simps.Basic

/-!
Failures that are reported as success. The results of the calls by which the members are
scanned, and of the functions that `print_membership` and `monitor_status` call, are
assigned and overwritten; here is when each function tells the truth.
-/
namespace CorosyncClient.Failures
open CLib Interaction Services
set_option linter.unusedSimpArgs false

/-- Every call is permitted, and every reply is possible. -/
@[simps] def anything : LibWorld Unit where
  permits _ _ := True
  answers _ _ _ _ := True

/-- A run to the end of a function, with its result. -/
abbrev Ran {α : Type} (p : Client α) (tr : List LibEvent) (a : α) : Prop := Run anything p () tr (.ret a) ()

theorem ran_step {α : Type} {c : Call} {next : Reply c → Client α} {r : Reply c} {tr : List LibEvent} {a : α}
    (rest : Ran (next r) tr a) : Ran (.call c next) (⟨c, r⟩ :: tr) a := .step trivial rest

/-! ### Events -/

/-- The iteration is over. -/
def noMoreKeys : LibEvent → Bool
  | ⟨.cmap_iter_next _ _, r⟩ => r.1 = .CS_ERR_NO_SECTIONS
  | _ => false

/-- The iteration has broken off. -/
def iterFailed : LibEvent → Bool
  | ⟨.cmap_iter_next _ _, r⟩ => r.1 ≠ .CS_OK && r.1 ≠ .CS_ERR_NO_SECTIONS
  | _ => false

/-- A call that the read of a key makes has failed. -/
def readFailed : LibEvent → Bool
  | ⟨ Call.cmap_initialize, r⟩ => r.1 ≠ .CS_OK
  | ⟨.cmap_get _ _ _, r⟩ => r.1 ≠ .CS_OK
  | ⟨.cmap_get_string _ _, r⟩ => r.1 ≠ .CS_OK
  | _ => false

/-- The result of a call that begins an iteration. -/
def iterInit : LibEvent → Option CsError
  | ⟨.cmap_iter_init _ _, r⟩ => some r.1
  | _ => none

abbrev NoMoreKeys (tr : List LibEvent) : Prop := Occurs noMoreKeys tr
abbrev IterFailed (tr : List LibEvent) : Prop := Occurs iterFailed tr
abbrev ReadFailed (tr : List LibEvent) : Prop := Occurs readFailed tr

/-- The results of the calls that `pick` picks, in order. -/
def results (pick : LibEvent → Option CsError) (tr : List LibEvent) : List CsError := tr.filterMap pick

section
variable (pick : LibEvent → Option CsError)

@[simp] theorem results_nil : results pick [] = [] := rfl
@[simp] theorem results_cons (e : LibEvent) (tr : List LibEvent) :
    results pick (e :: tr) = (pick e).toList ++ results pick tr := by
  cases picked : pick e <;> simp [results, picked]
@[simp] theorem results_append (first rest : List LibEvent) :
    results pick (first ++ rest) = results pick first ++ results pick rest := List.filterMap_append

end

/-- The results of the iterations that were begun. -/
abbrev iterInits (tr : List LibEvent) : List CsError := results iterInit tr

/-- Calls for other services say nothing of iterations. -/
theorem apart_from_iteration {tr : List LibEvent} (apart : ∀ e ∈ tr, service e.call ≠ .iteration) :
    iterInits tr = [] ∧ ¬ NoMoreKeys tr ∧ ¬ IterFailed tr := by
  induction tr with
  | nil => simp
  | cons e tr ih =>
    obtain ⟨inits, more, failed⟩ := ih fun e later => apart e (List.mem_cons_of_mem _ later)
    have here := apart e (by simp)
    obtain ⟨c, r⟩ := e
    cases c <;> first | exact absurd rfl here | exact ⟨by simpa [iterInit] using inits, by simpa [noMoreKeys] using more, by simpa [iterFailed] using failed⟩

/-! ### Scans -/

/-- A scan that ends has either seen all keys or broken off. -/
def Over (tr : List LibEvent) : Prop := iterInits tr = [.CS_OK] ∧ (NoMoreKeys tr ↔ ¬ IterFailed tr)

/-- A scan is under way. -/
def Scanning (tr : List LibEvent) : Prop := iterInits tr = [.CS_OK] ∧ ¬ NoMoreKeys tr ∧ ¬ IterFailed tr

theorem scanning_append {tr more : List LibEvent} (scanning : Scanning tr)
    (apart : ∀ e ∈ more, service e.call ≠ .iteration) : Scanning (tr ++ more) := by
  obtain ⟨inits, keys, failed⟩ := scanning
  obtain ⟨inits', keys', failed'⟩ := apart_from_iteration apart
  exact ⟨by simp [inits, inits'], by simpa using ⟨keys, keys'⟩, by simpa using ⟨failed, failed'⟩⟩

theorem scanning_next {tr : List LibEvent} (scanning : Scanning tr) (handle iter_handle : Handle)
    {r : CsError × Bytes × Nat × CmapType} (ok : r.1 = .CS_OK) :
    Scanning (tr ++ [⟨.cmap_iter_next handle iter_handle, r⟩]) := by
  obtain ⟨inits, keys, failed⟩ := scanning
  exact ⟨by simp [inits, iterInit], by simpa [noMoreKeys, ok] using keys, by simpa [iterFailed, ok] using failed⟩

theorem over_next {tr : List LibEvent} (scanning : Scanning tr) (handle iter_handle : Handle)
    {r : CsError × Bytes × Nat × CmapType} (ended : r.1 ≠ .CS_OK) :
    Over (tr ++ [⟨.cmap_iter_next handle iter_handle, r⟩]) := by
  obtain ⟨inits, keys, failed⟩ := scanning
  refine ⟨by simp [inits, iterInit], ?_⟩
  simp [noMoreKeys, iterFailed, keys, failed, ended]

theorem over_append {tr more : List LibEvent} (ended : Over tr) (inits : iterInits more = []) (keys : ¬ NoMoreKeys more)
    (failed : ¬ IterFailed more) : Over (tr ++ more) := by
  refine ⟨by simp [ended.1, inits], ?_⟩
  simpa [keys, failed] using ended.2

/-- What a scan leaves: it has succeeded exactly if its iteration was begun. -/
def ScanEnd (err : Err) (tr : List LibEvent) : Prop :=
  (err = CS_OK ∧ Over tr) ∨ (err ≠ CS_OK ∧ .CS_OK ∉ iterInits tr)

theorem scanEnd_ok {err : Err} {tr : List LibEvent} (ends : ScanEnd err tr) : err = CS_OK ↔ iterInits tr = [.CS_OK] := by
  rcases ends with ⟨ok, ended⟩ | ⟨failed, none⟩
  · exact iff_of_true ok ended.1
  · exact iff_of_false failed fun one => none (by simp [one])

theorem count_loop_ends (cmap_handle iter_handle : Handle) (fuel : Nat) (start : CountState) {tr : List LibEvent}
    (scanning : Scanning tr) :
    wlp anything.traced (loop (count_round cmap_handle iter_handle) fuel start) (fun _ t => Over t.2) ((), tr) := by
  refine wlp_loop (fun _ t => Scanning t.2) ?_ fuel start scanning
  rintro s ⟨_, tr⟩ scanning
  simp only [count_round, perform_bind, Prog.pure_eq, wlp_traced_call, wlp_ite, wlp_ret, anything_permits, anything_answers,
    true_and]
  intro r _ _
  refine ⟨fun ended => over_next scanning _ _ ended, fun ok => ⟨fun _ => ?_, fun _ => ?_⟩⟩
  · exact scanning_next scanning _ _ (not_ne_iff.mp ok)
  · exact scanning_next scanning _ _ (not_ne_iff.mp ok)

theorem get_member_count_ends (fuel : Nat) (id count : Int32) :
    wlp anything.traced (get_member_count fuel id count) (fun out t => ScanEnd out.1 t.2) ((), []) := by
  simp only [get_member_count, perform_bind, Prog.pure_eq, wlp_traced_call, wlp_ite, wlp_ret, anything_permits,
    anything_answers, true_and]
  intro r _ _
  refine ⟨fun failed => .inr ⟨by simpa using failed, by simp [iterInit]⟩, fun _ iter _ _ => ?_⟩
  constructor
  · intro failed _ _ _
    exact .inr ⟨by simpa using failed, by simpa [iterInit] using Ne.symm failed⟩
  · intro began
    have began : iter.1 = .CS_OK := not_ne_iff.mp began
    refine wlp_seq (count_loop_ends r.2 iter.2 fuel _ ⟨?_, ?_, ?_⟩) ?_
    · simp [iterInit, began]
    · simp [noMoreKeys]
    · simp [iterFailed]
    rintro total ⟨_, tr⟩ ended
    simp only [wlp_traced_call, wlp_ret, anything_permits, anything_answers, true_and, List.append_assoc]
    intro e _ _ f _ _
    exact .inl ⟨rfl, over_append ended (by simp [iterInit]) (by simp [noMoreKeys]) (by simp [iterFailed])⟩

/-! ### Reads -/

/-- A read of a key, begun and ended, has failed. -/
def FailedRead (tr : List LibEvent) : Prop :=
  ∃ before read after key type out, tr = before ++ read ++ after ∧
    Ran (get_cmap_value key true type) read out ∧ out.1 ≠ CS_OK

theorem failedRead_append {tr : List LibEvent} (failed : FailedRead tr) (more : List LibEvent) : FailedRead (tr ++ more) := by
  obtain ⟨before, read, after, key, type, out, rfl, run, err⟩ := failed
  exact ⟨before, read, after ++ more, key, type, out, by simp, run, err⟩

theorem get_cmap_value_fails {key : Bytes} {type : CmapType} {tr : List LibEvent} {out : Err × CmapType × Option Fetched}
    (run : Ran (get_cmap_value key true type) tr out) : out.1 ≠ CS_OK ↔ ReadFailed tr := by
  have spec : wlp anything.traced (get_cmap_value key true type) (fun out t => out.1 ≠ CS_OK ↔ ReadFailed t.2) ((), []) := by
    simp only [get_cmap_value, fetch_value, perform_bind, Prog.pure_eq, wlp_traced_call, wlp_ite, wlp_ret, anything_permits,
      anything_answers, true_and]
    intro r _ _
    refine ⟨fun failed => by simp [readFailed], fun opened probe _ _ => ?_⟩
    have opened : r.1 = .CS_OK := not_ne_iff.mp opened
    refine ⟨fun failed _ _ _ => by simp [readFailed, opened], fun probed => ⟨by simp, fun _ => ?_⟩⟩
    have probed : probe.1 = .CS_OK := not_ne_iff.mp probed
    -- the fetch is one of two calls
    split
    · simp only [Prog.call_bind, Prog.ret_bind, wlp_traced_call, wlp_ite, wlp_ret, anything_permits, anything_answers, true_and]
      intro copy _ _
      exact ⟨fun failed _ _ _ => by simp [readFailed, opened, probed], fun copied _ _ _ => by
        simpa [readFailed, opened, probed] using copied⟩
    · simp only [Prog.call_bind, Prog.ret_bind, wlp_traced_call, wlp_ite, wlp_ret, anything_permits, anything_answers, true_and]
      intro copy _ _
      exact ⟨fun failed _ _ _ => by simp [readFailed, opened, probed], fun copied _ _ _ => by
        simpa [readFailed, opened, probed] using copied⟩
  exact run_ret_traced spec run

theorem failedRead_fails {tr : List LibEvent} (failed : FailedRead tr) : ReadFailed tr := by
  obtain ⟨before, read, after, key, type, out, rfl, run, err⟩ := failed
  simp only [ReadFailed, occurs_append]
  exact .inl (.inr ((get_cmap_value_fails run).mp err))

/-- A scan of the members is under way, and what has failed in it were reads. -/
def Reading (tr : List LibEvent) : Prop := Scanning tr ∧ (ReadFailed tr → FailedRead tr)

theorem reading_append {tr more : List LibEvent} (reading : Reading tr) (apart : ∀ e ∈ more, service e.call ≠ .iteration)
    (reads : ReadFailed more → FailedRead more) : Reading (tr ++ more) := by
  refine ⟨scanning_append reading.1 apart, fun failed => ?_⟩
  rcases (occurs_append _ _ _).mp failed with early | late
  · exact failedRead_append (reading.2 early) more
  · obtain ⟨before, read, after, key, type, out, rfl, run, err⟩ := reads late
    exact ⟨tr ++ before, read, after, key, type, out, by simp, run, err⟩

theorem no_read_failed {tr : List LibEvent} (apart : ∀ e ∈ tr, service e.call ≠ .cmap) : ¬ ReadFailed tr := by
  induction tr with
  | nil => simp
  | cons e tr ih =>
    have rest := ih fun e later => apart e (List.mem_cons_of_mem _ later)
    have here := apart e (by simp)
    obtain ⟨c, r⟩ := e
    cases c <;> first | exact absurd rfl here | simpa [readFailed] using rest

/-- What makes calls for neither the cmap nor an iteration leaves the scan as it is. -/
theorem reading_within {α : Type} {l : List Service} {p : Client α} (within : Within l p) (other : .cmap ∉ l ∧ .iteration ∉ l)
    {tr : List LibEvent} (reading : Reading tr) : wlp anything.traced p (fun _ t => Reading t.2) ((), tr) := by
  refine wlp_mono (wlp_traced_self (fun _ _ => trivial) p () tr) ?_
  rintro a ⟨_, _⟩ ⟨more, rfl, run⟩
  refine reading_append reading (run_avoids run within other.2) fun failed => ?_
  exact absurd failed (no_read_failed (run_avoids run within other.1))

theorem reading_get_cmap_value (key : Bytes) (type : CmapType) {tr : List LibEvent} (reading : Reading tr) :
    wlp anything.traced (get_cmap_value key true type) (fun _ t => Reading t.2) ((), tr) := by
  refine wlp_mono (wlp_traced_self (fun _ _ => trivial) _ () tr) ?_
  rintro out ⟨_, _⟩ ⟨read, rfl, run⟩
  refine reading_append reading (run_avoids run (get_cmap_value_within key true type) (by simp)) fun failed => ?_
  exact ⟨[], read, [], key, type, out, by simp, run, (get_cmap_value_fails run).mpr failed⟩

theorem reading_read_string (key : Bytes) (type : CmapType) (capacity : Nat) (buffer : Bytes) {tr : List LibEvent}
    (reading : Reading tr) : wlp anything.traced (read_string key type capacity buffer) (fun _ t => Reading t.2) ((), tr) := by
  simp only [read_string, Prog.pure_eq]
  refine wlp_seq (reading_get_cmap_value key type reading) ?_
  rintro out ⟨_, tr⟩ reading
  simp only [wlp_ite, wlp_ret]
  refine ⟨fun _ => wlp_seq (reading_within (deref_within _) (by simp) reading) ?_, fun _ => reading⟩
  rintro text ⟨_, tr⟩ reading
  exact reading_within (l := [.buffer capacity]) (within_last (by simp) _) (by simp) reading

theorem members_round_ends (cmap_handle iter_handle : Handle) (array_len : Int32) (s : MembersState) {tr : List LibEvent}
    (reading : Reading tr) :
    wlp anything.traced (members_round cmap_handle iter_handle array_len s)
      (fun out t => Sum.elim (fun _ => Reading t.2) (fun _ => Over t.2 ∧ (ReadFailed t.2 → FailedRead t.2)) out) ((), tr) := by
  simp only [members_round, perform_bind, Prog.pure_eq, wlp_traced_call, wlp_ite, wlp_ret, anything_permits, anything_answers,
    true_and]
  intro r _ _
  refine ⟨fun ended => ⟨over_next reading.1 _ _ ended, fun failed => ?_⟩, fun ok => ?_⟩
  · exact failedRead_append (reading.2 (by simpa [readFailed] using failed)) _
  · have next : Reading (tr ++ [⟨.cmap_iter_next cmap_handle iter_handle, r⟩]) :=
      ⟨scanning_next reading.1 _ _ (not_ne_iff.mp ok),
        fun failed => failedRead_append (reading.2 (by simpa [readFailed] using failed)) _⟩
    refine wlp_seq (reading_within (store_suffix_within _ _) (by simp) next) ?_
    rintro key_suffix ⟨_, tr⟩ reading
    refine wlp_seq (reading_within (begin_entry_within _ _ _) (by simp) reading) ?_
    rintro s ⟨_, tr⟩ reading
    simp only [wlp_ite, wlp_ret]
    have entry : wlp anything.traced (access (.entry s.i array_len)) (fun _ t => Reading t.2) ((), tr) :=
      reading_within (l := [.entries]) (within_last (by simp) ()) (by simp) reading
    refine ⟨fun _ => wlp_seq entry ?_, fun _ => ⟨fun _ => wlp_seq entry ?_, fun _ => reading⟩⟩
    · rintro _ ⟨_, tr⟩ reading
      exact wlp_seq (reading_read_string _ _ _ _ reading) fun _ _ reading => reading
    · rintro _ ⟨_, tr⟩ reading
      exact wlp_seq (reading_read_string _ _ _ _ reading) fun _ _ reading => reading

theorem members_loop_ends (cmap_handle iter_handle : Handle) (array_len : Int32) (fuel : Nat) (start : MembersState)
    {tr : List LibEvent} (reading : Reading tr) :
    wlp anything.traced (loop (members_round cmap_handle iter_handle array_len) fuel start)
      (fun _ t => Over t.2 ∧ (ReadFailed t.2 → FailedRead t.2)) ((), tr) := by
  refine wlp_loop (fun _ t => Reading t.2) ?_ fuel start reading
  rintro s ⟨_, tr⟩ reading
  exact members_round_ends _ _ _ _ reading

theorem get_members_ends (fuel : Nat) (id : Int32) (key_suffix : Bytes) (array : Int32 → ClusterMember) (array_len : Int32) :
    wlp anything.traced (get_members fuel id key_suffix array array_len)
      (fun out t => ScanEnd out.1 t.2 ∧ (out.1 = CS_OK → ReadFailed t.2 → FailedRead t.2)) ((), []) := by
  simp only [get_members, perform_bind, Prog.pure_eq, wlp_traced_call, wlp_ite, wlp_ret, anything_permits,
    anything_answers, true_and]
  intro r _ _
  refine ⟨fun failed => ⟨.inr ⟨by simpa using failed, by simp [iterInit]⟩, fun ok => ?_⟩, fun opened iter _ _ => ?_⟩
  · exact absurd ok (by simpa using failed)
  constructor
  · intro failed _ _ _
    refine ⟨.inr ⟨by simpa using failed, by simpa [iterInit] using Ne.symm failed⟩, fun ok => ?_⟩
    exact absurd ok (by simpa using failed)
  · intro began
    have opened : r.1 = .CS_OK := not_ne_iff.mp opened
    have began : iter.1 = .CS_OK := not_ne_iff.mp began
    refine wlp_seq (members_loop_ends r.2 iter.2 array_len fuel _ ⟨⟨?_, ?_, ?_⟩, ?_⟩) ?_
    · simp [iterInit, began]
    · simp [noMoreKeys]
    · simp [iterFailed]
    · simp [readFailed, opened]
    rintro array ⟨_, tr⟩ ⟨ended, reads⟩
    simp only [wlp_traced_call, wlp_ret, anything_permits, anything_answers, true_and, List.append_assoc]
    intro e _ _ f _ _
    refine ⟨.inl ⟨rfl, over_append ended (by simp [iterInit]) (by simp [noMoreKeys]) (by simp [iterFailed])⟩, fun _ failed => ?_⟩
    exact failedRead_append (reads (by simpa [readFailed] using failed)) _

/-! ### The membership -/

/-- The result of a call that opens the cfg service. -/
def cfgInit : LibEvent → Option CsError
  | ⟨ Call.corosync_cfg_initialize, r⟩ => some r.1
  | _ => none

/-- The result of a question for the local id. -/
def localGet : LibEvent → Option CsError
  | ⟨.corosync_cfg_local_get _, r⟩ => some r.1
  | _ => none

theorem apart_from_cfg {tr : List LibEvent} (apart : ∀ e ∈ tr, service e.call ≠ .cfg) :
    results cfgInit tr = [] ∧ results localGet tr = [] := by
  induction tr with
  | nil => simp
  | cons e tr ih =>
    obtain ⟨inits, gets⟩ := ih fun e later => apart e (List.mem_cons_of_mem _ later)
    have here := apart e (by simp)
    obtain ⟨c, r⟩ := e
    cases c <;> first | exact absurd rfl here | exact ⟨by simpa [cfgInit] using inits, by simpa [localGet] using gets⟩

/-- The local id is known exactly if the first two calls for it succeed. -/
theorem get_local_nodeid_known {id : UInt32} {tr : List LibEvent} {out : Err × UInt32}
    (run : Ran (get_local_nodeid id) tr out) (more : List LibEvent) :
    out.1 = CS_OK ↔ (results cfgInit (tr ++ more)).head? = some .CS_OK ∧ (results localGet (tr ++ more)).head? = some .CS_OK := by
  have spec : wlp anything.traced (get_local_nodeid id) (fun out t => out.1 = CS_OK ↔
      (results cfgInit (t.2 ++ more)).head? = some .CS_OK ∧ (results localGet (t.2 ++ more)).head? = some .CS_OK) ((), []) := by
    simp only [get_local_nodeid, perform_bind, Prog.pure_eq, wlp_traced_call, wlp_ite, wlp_ret, anything_permits,
      anything_answers, true_and]
    intro r _ _
    refine ⟨fun failed => by simp [cfgInit, failed], fun opened got _ _ => ?_⟩
    have opened : r.1 = .CS_OK := not_ne_iff.mp opened
    refine ⟨fun failed _ _ _ => by simp [cfgInit, localGet, failed], fun known _ _ _ => ?_⟩
    have known : got.1 = .CS_OK := not_ne_iff.mp known
    simp [cfgInit, localGet, opened, known]
  exact run_ret_traced spec run

/-- The three functions that `print_membership` calls first have all succeeded. -/
def MembersFound (fuel : Nat) (u : Uninit) (tr : List LibEvent) : Prop :=
  ∃ count entries known members rest n id array, tr = count ++ (entries ++ (known ++ (members ++ rest))) ∧
    Ran (get_member_count fuel u.count_id u.arr_len) count (CS_OK, n) ∧
    Ran (forEntries n (fun i _ => access (.entry i n)) ()) entries () ∧
    Ran (get_local_nodeid u.local_nodeid) known (CS_OK, id) ∧
    Ran (get_members fuel u.id u.key_suffix u.entries n) members (CS_OK, array)

/-- Nothing begins the count, or the two iterations begin and the local id is given. -/
def Reachable (tr : List LibEvent) : Prop :=
  (iterInits tr).head? ≠ some .CS_OK ∨
    (iterInits tr = [.CS_OK, .CS_OK] ∧ (results cfgInit tr).head? = some .CS_OK ∧
      (results localGet tr).head? = some .CS_OK)

/-- The calls of a print that has counted: two functions are asked whose results are then
    ignored. -/
structure Counted (fuel : Nat) (u : Uninit) (count entries known members : List LibEvent) (n : Int32)
    (local_err members_err : Err) : Prop where
  counted : Ran (get_member_count fuel u.count_id u.arr_len) count (CS_OK, n)
  allocated : Ran (forEntries n (fun i _ => access (.entry i n)) ()) entries ()
  asked : ∃ id, Ran (get_local_nodeid u.local_nodeid) known (local_err, id)
  scanned : ∃ array, Ran (get_members fuel u.id u.key_suffix u.entries n) members (members_err, array)

section
variable {fuel : Nat} {u : Uninit} {count entries known members rest : List LibEvent} {n : Int32} {local_err members_err : Err}

/-- A run is cut in one way only. -/
theorem membersFound_iff (parts : Counted fuel u count entries known members n local_err members_err) :
    MembersFound fuel u (count ++ (entries ++ (known ++ (members ++ rest)))) ↔ local_err = CS_OK ∧ members_err = CS_OK := by
  obtain ⟨counted, allocated, ⟨id, asked⟩, ⟨array, scanned⟩⟩ := parts
  constructor
  · rintro ⟨count', entries', known', members', rest', n', id', array', same, counted', allocated', asked', scanned'⟩
    obtain ⟨total, -, same⟩ := run_prefix counted counted' same
    obtain rfl : n = n' := congrArg Prod.snd total
    obtain ⟨-, -, same⟩ := run_prefix allocated allocated' same
    obtain ⟨given, -, same⟩ := run_prefix asked asked' same
    obtain ⟨listed, -, -⟩ := run_prefix scanned scanned' same
    exact ⟨congrArg Prod.fst given, congrArg Prod.fst listed⟩
  · rintro ⟨rfl, rfl⟩
    exact ⟨count, entries, known, members, rest, n, id, array, rfl, counted, allocated, asked, scanned⟩

theorem entries_within (n : Int32) : Within [.entries] (forEntries n (fun i (_ : Unit) => access (.entry i n)) ()) :=
  makes_forEntries (fun _ _ _ => within_last (by simp) ()) ()

/-- The iterations of a print are those of the two scans. -/
theorem iterInits_membership (parts : Counted fuel u count entries known members n local_err members_err)
    (apart : ∀ e ∈ rest, service e.call ≠ .iteration) :
    iterInits (count ++ (entries ++ (known ++ (members ++ rest)))) = .CS_OK :: iterInits members := by
  have begun := (scanEnd_ok (run_ret_traced (get_member_count_ends fuel _ _) parts.counted)).mp rfl
  have entries := (apart_from_iteration (run_avoids parts.allocated (entries_within n) (by simp))).1
  obtain ⟨id, asked⟩ := parts.asked
  have known := (apart_from_iteration (run_avoids asked (get_local_nodeid_within _) (by simp))).1
  have rest := (apart_from_iteration apart).1
  simp [begun, entries, known, rest]

/-- The first calls for the local id are those of `get_local_nodeid`. -/
theorem local_known_iff (parts : Counted fuel u count entries known members n local_err members_err) (more : List LibEvent) :
    local_err = CS_OK ↔ (results cfgInit (count ++ (entries ++ (known ++ (members ++ more))))).head? = some .CS_OK ∧
      (results localGet (count ++ (entries ++ (known ++ (members ++ more))))).head? = some .CS_OK := by
  obtain ⟨countInits, countGets⟩ := apart_from_cfg (run_avoids parts.counted (get_member_count_within fuel _ _) (by simp))
  obtain ⟨entryInits, entryGets⟩ := apart_from_cfg (run_avoids parts.allocated (entries_within n) (by simp))
  obtain ⟨id, asked⟩ := parts.asked
  rw [get_local_nodeid_known asked (members ++ more)]
  simp only [results_append, countInits, countGets, entryInits, entryGets, List.nil_append]

theorem reachable_iff (parts : Counted fuel u count entries known members n local_err members_err)
    (apart : ∀ e ∈ rest, service e.call ≠ .iteration) :
    Reachable (count ++ (entries ++ (known ++ (members ++ rest)))) ↔ local_err = CS_OK ∧ members_err = CS_OK := by
  obtain ⟨array, scanned⟩ := parts.scanned
  have listed : members_err = CS_OK ↔ iterInits members = [.CS_OK] :=
    scanEnd_ok (run_ret_traced (get_members_ends fuel _ _ _ _) scanned).1
  rw [Reachable, iterInits_membership parts apart, local_known_iff parts rest, listed]
  simp [and_comm]

end

/-- Once the members are found a print reports success. -/
theorem print_lines_ok {arr : Int32 → ClusterMember} {arr_len : Int32} {local_nodeid votes : UInt32} {tr : List LibEvent}
    {result : Err} (run : Ran (do
      let _ ← printf (ascii "\nMembership information\n")
      let _ ← printf (ascii "----------------------\n")
      let _ ← forEntries arr_len (print_member arr arr_len local_nodeid) votes
      return CS_OK) tr result) : result = CS_OK := by
  obtain ⟨_, _, _, _, -, -, run⟩ := run_bind_ret run
  obtain ⟨_, _, _, _, -, -, run⟩ := run_bind_ret run
  obtain ⟨_, _, _, _, -, -, run⟩ := run_bind_ret run
  cases run
  rfl

theorem membership_reported_iff {fuel : Nat} {u : Uninit} {tr : List LibEvent} {result : Err}
    (run : Ran (print_membership fuel u) tr result) :
    (result = CS_OK → MembersFound fuel u tr) ↔ Reachable tr := by
  obtain ⟨⟨err, n⟩, _, count, tr, rfl, counted, run⟩ := run_bind_ret run
  by_cases failed : err ≠ CS_OK
  · simp only [if_pos failed, Prog.pure_eq] at run
    cases run
    rcases run_ret_traced (get_member_count_ends fuel _ _) counted with ⟨ok, -⟩ | ⟨-, begun⟩
    · exact absurd ok failed
    · refine iff_of_true (fun ok => absurd ok failed) (.inl fun first => begun ?_)
      exact List.mem_of_mem_head? (by simpa using first)
  · simp only [if_neg failed] at run
    obtain rfl := not_ne_iff.mp failed
    obtain ⟨_, _, entries, tr, rfl, allocated, run⟩ := run_bind_ret run
    obtain ⟨⟨local_err, id⟩, _, known, tr, rfl, asked, run⟩ := run_bind_ret run
    obtain ⟨⟨members_err, array⟩, _, members, rest, rfl, scanned, run⟩ := run_bind_ret run
    have parts : Counted fuel u count entries known members n local_err members_err :=
      ⟨counted, allocated, ⟨id, asked⟩, ⟨array, scanned⟩⟩
    rw [membersFound_iff parts, reachable_iff parts (run_avoids run (print_lines_within _ _ _ _) (by simp)), print_lines_ok run]
    simp

/-! ### The monitor -/

/-- A call that opens a service, or one that reads the own id, has failed. -/
def openFailed : LibEvent → Bool
  | ⟨ Call.cmap_initialize, r⟩ => r.1 ≠ .CS_OK
  | ⟨ Call.quorum_initialize, r⟩ => r.1 ≠ .CS_OK
  | ⟨ Call.corosync_cfg_initialize, r⟩ => r.1 ≠ .CS_OK
  | ⟨ Call.votequorum_initialize, r⟩ => r.1 ≠ .CS_OK
  | ⟨.cmap_get_uint32 _ _, r⟩ => r.1 ≠ .CS_OK
  | _ => false

/-- The cluster is reported to run without quorum. -/
def quorumFree : LibEvent → Bool
  | ⟨ Call.quorum_initialize, r⟩ => r.2.2 = QUORUM_FREE
  | _ => false

/-- A call that starts the tracking, or one that waits for an event, has failed. -/
def trackFailed : LibEvent → Bool
  | ⟨.quorum_trackstart _ _, r⟩ => r ≠ .CS_OK
  | ⟨.votequorum_trackstart _ _, r⟩ => r ≠ .CS_OK
  | ⟨.votequorum_dispatch _, r⟩ => r ≠ .CS_OK
  | _ => false

/-- The calls before the monitor tracks anything. -/
def untracked (tr : List LibEvent) : List LibEvent := tr.takeWhile (fun e => service e.call ≠ .tracking)

/-- An error ends the loop of the monitor: of a call for the tracking, or of the last
    print of the quorum. -/
def LoopError (tr : List LibEvent) : Prop :=
  Occurs trackFailed tr ∨ ∃ before print err, tr = before ++ print ∧ Ran print_quorum print err ∧ err ≠ CS_OK

theorem untracked_append {tr : List LibEvent} (apart : ∀ e ∈ tr, service e.call ≠ .tracking) (more : List LibEvent) :
    untracked (tr ++ more) = tr ++ untracked more := by
  unfold untracked
  rw [List.takeWhile_append_of_pos (by simpa [-service] using apart)]

/-- The question for the provider opens nothing. -/
theorem using_votequorum_opens (g : Globals) (tr : List LibEvent) : wlp anything.traced (using_votequorum g)
    (fun _ t => (Occurs openFailed t.2 ↔ Occurs openFailed tr) ∧ (Occurs quorumFree t.2 ↔ Occurs quorumFree tr)) ((), tr) := by
  simp only [using_votequorum]
  refine wlp_seq (Q := fun _ t => (Occurs openFailed t.2 ↔ Occurs openFailed tr) ∧
    (Occurs quorumFree t.2 ↔ Occurs quorumFree tr)) ?_ ?_
  · simp only [get_quorum_type, perform_bind, Prog.pure_eq, wlp_traced_call, wlp_ite, wlp_ret, anything_permits,
      anything_answers, true_and]
    refine ⟨fun _ => trivial, fun _ str _ _ => ⟨fun _ => by simp [openFailed, quorumFree], fun _ => ?_⟩⟩
    have same : ∀ e : LibEvent, openFailed e = false → quorumFree e = false →
        (Occurs openFailed (tr ++ [e]) ↔ Occurs openFailed tr) ∧ (Occurs quorumFree (tr ++ [e]) ↔ Occurs quorumFree tr) :=
      fun e opened free => by simp [opened, free]
    split
    · exact same _ rfl rfl
    · exact same _ rfl rfl
  · intro out t same
    simp only [Prog.pure_eq, wlp_ite, wlp_ret]
    exact ⟨fun _ => same, fun _ => ⟨fun _ => same, fun _ => same⟩⟩

/-- How the services are opened. -/
theorem init_all_opens {g : Globals} {tr : List LibEvent} {out : Int × Globals} (run : Ran (init_all g) tr out) :
    (out.1 ≠ 0 ↔ Occurs openFailed tr) ∧ (out.1 = 0 → (out.2.q_type = QUORUM_FREE ↔ Occurs quorumFree tr)) := by
  have spec : wlp anything.traced (init_all g) (fun out t => (out.1 ≠ 0 ↔ Occurs openFailed t.2) ∧
      (out.1 = 0 → (out.2.q_type = QUORUM_FREE ↔ Occurs quorumFree t.2))) ((), []) := by
    simp only [init_all, perform_bind, Prog.pure_eq, wlp_traced_call, wlp_ite, wlp_ret, anything_permits, anything_answers, true_and]
    intro cmap _ _
    refine ⟨fun failed _ _ _ => by simp [openFailed, failed], fun opened quorum _ _ => ?_⟩
    have opened : cmap.1 = .CS_OK := not_ne_iff.mp opened
    refine ⟨fun failed _ _ _ => by simp [openFailed, failed], fun started cfg _ _ => ?_⟩
    have started : quorum.1 = .CS_OK := not_ne_iff.mp started
    refine ⟨fun failed _ _ _ => by simp [openFailed, failed], fun given => ?_⟩
    have given : cfg.1 = .CS_OK := not_ne_iff.mp given
    refine wlp_seq (using_votequorum_opens _ _) ?_
    rintro using_vq ⟨_, tr⟩ ⟨failed, free⟩
    simp only [wlp_traced_call, wlp_ite, wlp_ret, anything_permits, anything_answers, true_and]
    have failed : ¬ Occurs openFailed tr := by simpa [openFailed, opened, started, given] using failed
    have free : Occurs quorumFree tr ↔ quorum.2.2 = QUORUM_FREE := by simpa [quorumFree] using free
    refine ⟨fun _ => ⟨by simpa using failed, fun _ => free.symm⟩, fun _ votes _ _ => ?_⟩
    refine ⟨fun failed _ _ _ => by simp [openFailed, failed], fun voting id _ _ => ?_⟩
    have voting : votes.1 = .CS_OK := not_ne_iff.mp voting
    refine ⟨fun failed _ _ _ => by simp [openFailed, failed], fun known => ?_⟩
    have known : id.1 = .CS_OK := not_ne_iff.mp known
    exact ⟨by simpa [openFailed, voting, known] using failed, fun _ => by simpa [quorumFree] using free.symm⟩
  exact run_ret_traced spec run

theorem monitor_round_fails (fuel : Nat) (u : Nat → Uninit) (g : Globals) (n : Nat) (tr : List LibEvent) :
    wlp anything.traced (monitor_round fuel u g n)
      (fun out t => Sum.elim (fun _ => True) (fun _ => LoopError t.2) out) ((), tr) := by
  simp only [monitor_round, perform_bind, Prog.pure_eq, wlp_traced_call, wlp_ite, wlp_ret, anything_permits, anything_answers,
    true_and]
  intro r _ _
  refine ⟨fun failed text _ _ _ _ _ => ?_, fun _ => ?_⟩
  · exact .inl (by simp [trackFailed, failed])
  · refine wlp_seq (wlp_traced_self (fun _ _ => trivial) print_quorum () _) ?_
    rintro err ⟨_, _⟩ ⟨print, rfl, run⟩
    simp only [wlp_ite, wlp_ret]
    refine ⟨fun failed => .inr ⟨_, print, err, rfl, run, failed⟩, fun _ => ?_⟩
    exact wlp_seq (wlp_traced_self (fun _ _ => trivial) (print_membership fuel (u n)) () _) fun _ _ _ => trivial

/-- Only an error ends the loop once the tracking is begun. -/
theorem monitor_loop_fails {fuel : Nat} {u : Nat → Uninit} {g : Globals} (tracked : g.q_type ≠ QUORUM_FREE)
    {tr : List LibEvent} {out : Int} (run : Ran (monitor_loop fuel u g) tr out) : LoopError tr := by
  have rounds : ∀ tr, wlp anything.traced (loop (monitor_round fuel u g) fuel 0) (fun _ t => LoopError t.2) ((), tr) := by
    intro tr
    refine wlp_loop (fun _ _ => True) ?_ fuel 0 trivial
    rintro n ⟨_, tr⟩ _
    exact monitor_round_fails fuel u g n tr
  have spec : wlp anything.traced (monitor_loop fuel u g) (fun _ t => LoopError t.2) ((), []) := by
    simp only [monitor_loop, perform_bind, Prog.pure_eq, if_neg tracked, wlp_traced_call, wlp_ite, wlp_ret, anything_permits,
      anything_answers, true_and]
    intro r _ _
    refine ⟨fun failed text _ _ _ _ _ => .inl (by simp [trackFailed, failed]), fun _ => ?_⟩
    refine wlp_seq (wlp_traced_self (fun _ _ => trivial) (using_votequorum g) () _) ?_
    rintro using_vq ⟨_, tr⟩ _
    simp only [wlp_traced_call, wlp_ite, wlp_ret, anything_permits, anything_answers, true_and]
    refine ⟨fun _ r _ _ => ⟨fun failed text _ _ _ _ _ => ?_, fun _ => rounds _⟩, fun _ => rounds _⟩
    exact .inl (by simp [trackFailed, failed])
  exact run_ret_traced spec run

/-- Without quorum the loop is not entered. -/
theorem monitor_loop_free {fuel : Nat} {u : Nat → Uninit} {g : Globals} (free : g.q_type = QUORUM_FREE)
    {tr : List LibEvent} {out : Int} (run : Ran (monitor_loop fuel u g) tr out) : ¬ LoopError tr := by
  have trace : ∃ r, tr = [⟨.printf (ascii "\nQuorum is not configured - cannot monitor\n"), r⟩] := by
    simp only [monitor_loop, perform_bind, Prog.pure_eq, if_pos free] at run
    cases run with
    | step _ rest =>
      cases rest
      exact ⟨_, rfl⟩
  obtain ⟨r, rfl⟩ := trace
  rintro (failed | ⟨before, print, err, same, run, -⟩)
  · simp [trackFailed] at failed
  · have begins : ∃ r rest, print = ⟨ Call.votequorum_initialize, r⟩ :: rest := by
      simp only [print_quorum, get_quorum_info, perform_bind, Prog.call_bind] at run
      cases run with
      | step _ _ => exact ⟨_, _, rfl⟩
    obtain ⟨r', rest, rfl⟩ := begins
    cases before with
    | nil => simp at same
    | cons e before => simp at same

/-- The loop of the monitor has been entered, and it has ended without an error. -/
def LoopEnded (fuel : Nat) (u : Nat → Uninit) (g : Globals) (tr : List LibEvent) : Prop :=
  ∃ opened looped closed g' out, tr = opened ++ (looped ++ closed) ∧ Ran (init_all g) opened (0, g') ∧
    Ran (monitor_loop fuel u g') looped out ∧ Ran (close_all g') closed () ∧ ¬ LoopError looped

/-- The services cannot be opened, or there is no quorum to be tracked. -/
def Untrackable (tr : List LibEvent) : Prop := Occurs openFailed (untracked tr) ∨ Occurs quorumFree (untracked tr)

theorem monitor_reported_iff {fuel : Nat} {u : Nat → Uninit} {g : Globals} {tr : List LibEvent} {out : Int × Globals}
    (run : Ran (monitor_status fuel u g) tr out) :
    (out.1 = CS_OK → LoopEnded fuel u g tr) ↔ Untrackable tr := by
  obtain ⟨⟨failed, g'⟩, _, opened, tr, rfl, opens, run⟩ := run_bind_ret run
  obtain ⟨failure, free⟩ := init_all_opens opens
  have quiet := run_avoids (k := .tracking) opens (init_all_within g) (by simp)
  unfold Untrackable
  rw [untracked_append quiet]
  by_cases unopened : failed ≠ 0
  · simp only [if_pos unopened] at run
    obtain ⟨_, _, closed, _, rfl, closes, run⟩ := run_bind_ret run
    cases run
    refine iff_of_true (fun ok => absurd ok (show ¬ (-1 : Err) = CS_OK by decide)) (.inl ?_)
    exact (occurs_append _ _ _).mpr (.inl (failure.mp unopened))
  · simp only [if_neg unopened] at run
    obtain rfl := not_ne_iff.mp unopened
    obtain ⟨result, _, looped, tr, rfl, loops, run⟩ := run_bind_ret run
    obtain ⟨_, _, closed, _, rfl, closes, run⟩ := run_bind_ret run
    cases run
    rw [List.append_nil]
    have free : g'.q_type = QUORUM_FREE ↔ Occurs quorumFree opened := free rfl
    by_cases quorum : g'.q_type = QUORUM_FREE
    · refine iff_of_true (fun _ => ?_) (.inr ((occurs_append _ _ _).mpr (.inl (free.mp quorum))))
      exact ⟨opened, looped, closed, g', result, rfl, opens, loops, closes, monitor_loop_free quorum loops⟩
    · refine iff_of_false (fun honest => ?_) ?_
      · obtain ⟨opened', looped', closed', g'', out', same, opens', loops', -, ended⟩ := honest rfl
        obtain ⟨given, -, same⟩ := run_prefix opens opens' same
        obtain rfl : g' = g'' := congrArg Prod.snd given
        obtain ⟨-, rfl, -⟩ := run_prefix loops loops' same
        exact ended (monitor_loop_fails quorum loops)
      · have none : untracked (looped ++ closed) = [] := by
          simp only [monitor_loop, perform_bind, Prog.pure_eq, if_neg quorum] at loops
          cases loops with
          | step _ _ => rfl
        rw [none, List.append_nil]
        rintro (failed | reported)
        · exact failure.mpr failed rfl
        · exact quorum (free.mpr reported)

/-! ### All four -/

theorem member_count_reported_iff {fuel : Nat} {id count : Int32} {tr : List LibEvent} {out : Err × Int32}
    (run : Ran (get_member_count fuel id count) tr out) :
    (out.1 = CS_OK → NoMoreKeys tr) ↔ .CS_OK ∉ iterInits tr ∨ ¬ IterFailed tr := by
  rcases run_ret_traced (get_member_count_ends fuel id count) run with ⟨ok, begun, ended⟩ | ⟨failed, begun⟩
  · simp only [ok, begun, ended, forall_const, List.mem_singleton, not_true_eq_false, false_or]
  · exact iff_of_true (fun ok => absurd ok failed) (.inl begun)

theorem members_reported_iff {fuel : Nat} {id : Int32} {key_suffix : Bytes} {array : Int32 → ClusterMember} {array_len : Int32}
    {tr : List LibEvent} {out : Err × (Int32 → ClusterMember)} (run : Ran (get_members fuel id key_suffix array array_len) tr out) :
    (out.1 = CS_OK → NoMoreKeys tr ∧ ¬ FailedRead tr) ↔ .CS_OK ∉ iterInits tr ∨ (¬ IterFailed tr ∧ ¬ ReadFailed tr) := by
  obtain ⟨ends, reads⟩ := run_ret_traced (get_members_ends fuel id key_suffix array array_len) run
  rcases ends with ⟨ok, begun, ended⟩ | ⟨failed, begun⟩
  · have reads : FailedRead tr ↔ ReadFailed tr := ⟨failedRead_fails, reads ok⟩
    simp only [ok, begun, ended, reads, forall_const, List.mem_singleton, not_true_eq_false, false_or]
  · exact iff_of_true (fun ok => absurd ok failed) (.inl begun)

/-- When each of the four functions reports no failure as success: the two scans exactly
    if nothing breaks the iteration off, and for the members no read fails; the print exactly
    if what it needs can be reached; the monitor exactly if it does not come to track. -/
theorem failures_reported_iff (fuel : Nat) (tr : List LibEvent) :
    (∀ id count out, Ran (get_member_count fuel id count) tr out →
      ((out.1 = CS_OK → NoMoreKeys tr) ↔ .CS_OK ∉ iterInits tr ∨ ¬ IterFailed tr)) ∧
    (∀ id key_suffix array array_len out, Ran (get_members fuel id key_suffix array array_len) tr out →
      ((out.1 = CS_OK → NoMoreKeys tr ∧ ¬ FailedRead tr) ↔
        .CS_OK ∉ iterInits tr ∨ (¬ IterFailed tr ∧ ¬ ReadFailed tr))) ∧
    (∀ u result, Ran (print_membership fuel u) tr result →
      ((result = CS_OK → MembersFound fuel u tr) ↔ Reachable tr)) ∧
    (∀ u g out, Ran (monitor_status fuel u g) tr out →
      ((out.1 = CS_OK → LoopEnded fuel u g tr) ↔ Untrackable tr)) :=
  ⟨fun _ _ _ run => member_count_reported_iff run, fun _ _ _ _ _ run => members_reported_iff run,
    fun _ _ run => membership_reported_iff run, fun _ _ _ run => monitor_reported_iff run⟩

/-- The calls of a count that breaks off behind the first key. -/
def brokenOff : List LibEvent :=
  [⟨ Call.cmap_initialize, (.CS_OK, 1)⟩, ⟨.cmap_iter_init 1 generic_key_prefix, (.CS_OK, 2)⟩,
    ⟨.cmap_iter_next 1 2, (.CS_OK, ascii "runtime.totem.pg.mrp.srp.members.7.ip", 0, .STRING)⟩,
    ⟨.cmap_iter_next 1 2, (.CS_ERR_LIBRARY, [], 0, .STRING)⟩, ⟨.cmap_iter_finalize 1 2, .CS_OK⟩, ⟨.cmap_finalize 1, .CS_OK⟩]

theorem brokenOff_runs : Ran (get_member_count 2 0 0) brokenOff (CS_OK, 1) :=
  ran_step <| ran_step <| ran_step <| ran_step <| ran_step <| ran_step .done

/-- A count that has seen one key is reported as complete. -/
theorem broken_count_reported :
    ¬ ∀ (tr : List LibEvent) (out : Err × Int32), Ran (get_member_count 2 0 0) tr out → out.1 = CS_OK → NoMoreKeys tr := by
  intro honest
  exact absurd (honest _ _ brokenOff_runs rfl) (by simp [brokenOff, noMoreKeys])

theorem failures_reported_iff_brokenOff :
    (CS_OK = CS_OK → NoMoreKeys brokenOff) ↔ .CS_OK ∉ iterInits brokenOff ∨ ¬ IterFailed brokenOff :=
  (failures_reported_iff 2 brokenOff).1 0 0 (CS_OK, 1) brokenOff_runs

end CorosyncClient.Failures
