import CorosyncClient.VoteChains

/-!
Two clients that run `set_votes_and_adjust` on distinct nodes at the same time. The
votes come out right; the expected votes take in both changes when one client has set
them before the other reads them, and else only the change of the client that sets
them last.
-/
namespace CorosyncClient.VoteRaces
open CLib Interaction Votes VoteProtocol
open VoteChains (ledger ledger_snoc ledger_info ledger_set ledger_quiet setters counted Lost Waiting tally)
set_option linter.unusedSimpArgs false

/-! ### What a trace tells -/

abbrev Trace := List (Bool × LibEvent)

/-- The calls of `votequorum_getinfo` by client `i`. The first reads the votes of its
    node, the second the expected votes. -/
def infos (i : Bool) (tr : Trace) : Nat := tr.countP (fun e => e.1 = i && isInfo e.2)

def HasSet (i : Bool) (tr : Trace) : Prop := ∃ e ∈ tr, e.1 = i ∧ isSet e.2 = true

/-- Client `i` has set the expected votes before the other client reads them. -/
def Precedes (i : Bool) (tr : Trace) : Prop := ∃ past ∈ tr.inits, HasSet i past ∧ infos (!i) past ≤ 1

instance (i : Bool) (tr : Trace) : Decidable (HasSet i tr) := inferInstanceAs (Decidable (∃ e ∈ tr, _ ∧ _))
instance (i : Bool) (tr : Trace) : Decidable (Precedes i tr) := inferInstanceAs (Decidable (∃ past ∈ tr.inits, _ ∧ _))

/-- The client that set the expected votes last. -/
def lastToSet (tr : Trace) : Option Bool := ((tr.filter (fun e => isSet e.2)).getLast?).map Prod.fst

section
variable {i j : Bool} {tr : Trace} {e : LibEvent}

theorem infos_snoc : infos j (tr ++ [(i, e)]) = infos j tr + if i = j ∧ isInfo e = true then 1 else 0 := by
  simp [infos, List.countP_append, List.countP_cons]

theorem hasSet_snoc : HasSet j (tr ++ [(i, e)]) ↔ HasSet j tr ∨ (i = j ∧ isSet e = true) := by
  simp [HasSet, or_and_right, exists_or]

theorem precedes_snoc {x : Bool × LibEvent} :
    Precedes j (tr ++ [x]) ↔ Precedes j tr ∨ (HasSet j (tr ++ [x]) ∧ infos (!j) (tr ++ [x]) ≤ 1) := by
  simp only [Precedes, List.mem_inits, List.prefix_concat_iff, or_and_right, exists_or, exists_eq_left]
  exact or_comm

theorem precedes_of (set : HasSet j tr) (early : infos (!j) tr ≤ 1) : Precedes j tr :=
  ⟨tr, (List.mem_inits _ _).mpr List.prefix_rfl, set, early⟩

theorem hasSet_of_precedes (precedes : Precedes j tr) : HasSet j tr := by
  obtain ⟨past, isInit, ⟨e, member, sets⟩, _⟩ := precedes
  exact ⟨e, ((List.mem_inits _ _).mp isInit).subset member, sets⟩

/-- Only a set changes which client has gone first. -/
theorem precedes_quiet (quiet : isSet e = false) : Precedes j (tr ++ [(i, e)]) ↔ Precedes j tr := by
  rw [precedes_snoc, hasSet_snoc, infos_snoc]
  constructor
  · rintro (precedes | ⟨set | ⟨_, sets⟩, early⟩)
    · exact precedes
    · exact precedes_of set (by omega)
    · simp [quiet] at sets
  · exact .inl

/-- No call asks for votes and sets them. -/
theorem not_set_of_info (info : isInfo e = true) : isSet e = false := by
  obtain ⟨call, r⟩ := e
  cases call <;> simp [isInfo, isSet] at info ⊢

theorem lastToSet_eq (tr : Trace) : lastToSet tr = (setters tr).getLast? := by
  have order : setters tr = (tr.filter (fun e => isSet e.2)).map Prod.fst := by
    induction tr using List.reverseRecOn with
    | nil => rfl
    | append_singleton tr x ih =>
      obtain ⟨i, e⟩ := x
      cases info : isInfo e with
      | true => simpa [setters, ledger_info info, not_set_of_info info] using ih
      | false =>
        cases sets : isSet e with
        | true => simpa [setters, ledger_set info sets, sets] using ih
        | false => simpa [setters, ledger_quiet info sets, sets] using ih
  rw [order, List.getLast?_map]
  rfl

/-- A call that sets nothing leaves the loss as it was, and who is up to date but for the
    client that makes it. -/
theorem ledger_lost (noSet : isSet e = false) : (ledger (tr ++ [(i, e)])).lost = (ledger tr).lost := by
  cases info : isInfo e
  · rw [ledger_quiet info noSet]
  · rw [ledger_info info]
    rfl

theorem ledger_stale (noSet : isSet e = false) (other : j ≠ i) :
    (ledger (tr ++ [(i, e)])).stale j = (ledger tr).stale j := by
  cases info : isInfo e
  · rw [ledger_quiet info noSet]
  · simp [ledger_info info, other]

end

/-! ### The ledger of two clients -/

theorem other_iff {i j : Bool} : j ≠ i ↔ j = !i := by
  cases i <;> cases j <;> decide

theorem all_iff {P : Bool → Prop} (i : Bool) : (∀ j, P j) ↔ P i ∧ P (!i) := by
  cases i <;> simp [and_comm]

/-- What the trace and the ledger tell of two clients. -/
structure Pair (tr : Trace) (k : Bool → Phase) : Prop where
  infos : ∀ i, infos i tr = (k i).infos
  set : ∀ i, HasSet i tr ↔ k i = .done
  stale : ∀ i, Waiting (k i) → ((ledger tr).stale i = true ↔ k (!i) = .done ∧ ¬ Precedes (!i) tr)
  lost : Lost tr ↔ ∀ i, k i = .done ∧ ¬ Precedes i tr

section
variable {tr : Trace} {k : Bool → Phase} {i : Bool} {e : LibEvent}

theorem pair_start : Pair [] fun _ => .start where
  infos i := rfl
  set i := by simp [HasSet]
  stale i waits := absurd rfl waits
  lost := by simp [Lost, ledger, VoteChains.Ledger.empty]

/-- A client that has not set the expected votes has not gone first. -/
theorem not_precedes (pair : Pair tr k) (unset : k i ≠ .done) : ¬ Precedes i tr :=
  fun precedes => unset ((pair.set i).mp (hasSet_of_precedes precedes))

theorem late_of_waiting {p : Phase} (waits : Waiting p) : p.infos = 2 := by
  cases p <;> simp [Waiting, Phase.seen, Phase.infos] at waits ⊢

/-- A call that is neither a read nor a set of the expected votes tells nothing new. -/
theorem pair_quiet (pair : Pair tr k) (noInfo : isInfo e = false) (noSet : isSet e = false) : Pair (tr ++ [(i, e)]) k where
  infos j := by simp [infos_snoc, noInfo, pair.infos]
  set j := by simp [hasSet_snoc, noSet, pair.set]
  stale j waits := by simpa only [ledger_quiet noInfo noSet, precedes_quiet noSet] using pair.stale j waits
  lost := by simpa only [Lost, ledger_quiet noInfo noSet, precedes_quiet noSet] using pair.lost

/-- Client `i` goes on without setting the expected votes. -/
theorem pair_move (pair : Pair tr k) (noSet : isSet e = false) (running : k i ≠ .done) {p : Phase} (more : p ≠ .done)
    (infos : p.infos = (k i).infos + if isInfo e = true then 1 else 0)
    (stale : Waiting p → ((ledger (tr ++ [(i, e)])).stale i = true ↔ k (!i) = .done ∧ ¬ Precedes (!i) tr)) :
    Pair (tr ++ [(i, e)]) (Function.update k i p) where
  infos j := by
    have before := pair.infos j
    rcases eq_or_ne j i with rfl | other
    · simp [infos_snoc, before, infos]
    · simp [infos_snoc, other, other.symm, before]
  set j := by
    have before := pair.set j
    rcases eq_or_ne j i with rfl | other
    · simpa [hasSet_snoc, noSet, more, running] using before
    · simpa [hasSet_snoc, noSet, other] using before
  stale j waits := by
    rw [precedes_quiet noSet]
    rcases eq_or_ne j i with rfl | other
    · simpa using stale (by simpa using waits)
    · obtain rfl := other_iff.mp other
      have before := pair.stale (!i) (by simpa using waits)
      rw [ledger_stale noSet other, before]
      simp [more, running]
  lost := by
    have lost := pair.lost
    rw [all_iff i] at lost ⊢
    simp only [Lost, ledger_lost noSet] at lost ⊢
    simp [lost, running, more]

/-- Client `i` sets the expected votes. It goes first if the other has not read them yet,
    and whether the other went first stays as it was. -/
theorem pair_done (pair : Pair tr k) {old expected : UInt32} (comes : k i = .voted old expected)
    (noInfo : isInfo e = false) (sets : isSet e = true) : Pair (tr ++ [(i, e)]) (Function.update k i .done) := by
  have after : ledger (tr ++ [(i, e)]) = (ledger tr).setExpected i := ledger_set noInfo sets
  have running : k i ≠ .done := by simp [comes]
  have same : ∀ j, infos j (tr ++ [(i, e)]) = (k j).infos := by simp [infos_snoc, noInfo, pair.infos]
  have first : Precedes i (tr ++ [(i, e)]) ↔ (k (!i)).infos ≤ 1 := by
    rw [precedes_snoc, same, hasSet_snoc]
    simp [not_precedes pair running, sets]
  have other : Precedes (!i) (tr ++ [(i, e)]) ↔ Precedes (!i) tr := by
    rw [precedes_snoc, same, Bool.not_not, comes]
    simp [Phase.infos]
  constructor
  case infos =>
    intro j
    rcases eq_or_ne j i with rfl | other
    · simp [same, comes, Phase.infos]
    · simp [same, other]
  case set =>
    intro j
    rcases eq_or_ne j i with rfl | other
    · simp [hasSet_snoc, sets]
    · simpa [hasSet_snoc, other, other.symm] using pair.set j
  case stale =>
    intro j waits
    rcases eq_or_ne j i with rfl | other
    · simp [Waiting, Phase.seen] at waits
    · obtain rfl := other_iff.mp other
      have late := late_of_waiting (p := k (!i)) (by simpa using waits)
      simp [after, first, late]
  case lost =>
    have fresh : (ledger tr).lost = false := by
      rw [← Bool.not_eq_true]
      exact fun lost => running (pair.lost.mp lost i).1
    have stale := pair.stale i (by simp [comes, Waiting, Phase.seen])
    rw [all_iff i, first, other]
    by_cases ended : k (!i) = .done <;> simp [Lost, after, fresh, stale, ended, Phase.infos]

/-- Every move of a client keeps what the ledger tells. -/
theorem pair_step (pair : Pair tr k) {nodeid votes : UInt32} {c c' : Cluster} {p : Phase}
    (moves : Moves nodeid votes c e (k i) p c') : Pair (tr ++ [(i, e)]) (Function.update k i p) := by
  generalize comes : k i = before at moves
  cases moves with
  | quiet noInfo noSet =>
    rw [← comes, Function.update_eq_self]
    exact pair_quiet pair noInfo noSet
  | knows info noSet =>
    exact pair_move pair noSet (by simp [comes]) (by simp) (by simp [comes, info, Phase.infos])
      (fun waits => by simp [Waiting, Phase.seen] at waits)
  | read info noSet =>
    refine pair_move pair noSet (by simp [comes]) (by simp) (by simp [comes, info, Phase.infos]) fun _ => ?_
    -- whatever the other has set so far it has set before this read
    have early : k (!i) = .done → Precedes (!i) tr := fun ended =>
      precedes_of ((pair.set _).mpr ended) (by simp [pair.infos, comes, Phase.infos])
    simpa [ledger_info info] using early
  | voted noInfo noSet =>
    refine pair_move pair noSet (by simp [comes]) (by simp) (by simp [comes, noInfo, Phase.infos]) fun _ => ?_
    rw [ledger_quiet noInfo noSet]
    exact pair.stale i (by simp [comes, Waiting, Phase.seen])
  | done noInfo sets => exact pair_done pair comes noInfo sets

end

/-! ### Both changes or the last -/

theorem two_setters {l : List Bool} (once : l.Nodup) (all : ∀ i, i ∈ l) : ∃ last, l = [!last, last] := by
  match l, once, all with
  | [], _, all => exact absurd (all true) (by simp)
  | [i], _, all => exact absurd (all !i) (by simp)
  | [i, j], once, _ =>
    obtain rfl : i = !j := other_iff.mp (by simpa using once)
    exact ⟨j, rfl⟩
  | i :: j :: m :: _, once, _ => cases i <;> cases j <;> cases m <;> simp at once

/-- The last of two changes is in the expected votes, alone or behind the first. -/
theorem counted_cases {l : VoteChains.Ledger Bool} {waiting : Bool → Prop} (sound : VoteChains.Sound l waiting) {last : Bool}
    (two : l.setters = [!last, last]) : l.counted = [last] ∨ l.counted = l.setters := by
  have ends : l.counted.getLast? = some last := by
    rw [sound.last, two]
    rfl
  obtain ⟨earlier, split⟩ := List.getLast?_eq_some_iff.mp ends
  have within : (earlier ++ [last]).Sublist ([!last] ++ [last]) := by
    have within := sound.within
    rwa [split, two] at within
  rw [split, two]
  rcases List.sublist_singleton.mp ((List.append_sublist_append_right [last]).mp within) with rfl | rfl
  · exact .inl rfl
  · exact .inr rfl

section
variable (c₀ : Cluster) (node votes : Bool → UInt32)

/-- The change that client `i` makes to the votes. -/
def change (i : Bool) : UInt32 := votes i - c₀.votes (node i)

variable {c₀ node votes} {tr : Trace}

theorem tally_both (last : Bool) : tally c₀ node votes [!last, last] =
    c₀.expected + change c₀ node votes false + change c₀ node votes true := by
  cases last
  · show c₀.expected + change c₀ node votes true + change c₀ node votes false = _
    rw [UInt32.add_assoc, UInt32.add_assoc, UInt32.add_comm (change c₀ node votes true)]
  · rfl

/-- From any moment on both clients can return. Where they have returned, with success,
    the votes are right, and the expected votes take in both changes exactly when one
    client had set them before the other read them. -/
theorem both_adjust (distinct : Function.Injective node) {t : Cluster} {q : Bool → Client Err}
    (run : Interleaved (cluster False) (fun i => set_votes_and_adjust (node i) (votes i)) c₀ tr q t) :
    (∃ more q' t', Interleaved (cluster False) q t more q' t' ∧ ∀ i, q' i = .ret CS_OK) ∧
      ∀ err : Bool → Err, (∀ i, q i = .ret (err i)) →
        (∀ i, err i = CS_OK ∧ t.votes (node i) = votes i) ∧ (∀ m, (∀ i, m ≠ node i) → t.votes m = c₀.votes m) ∧
          ∃ last, lastToSet tr = some last ∧ t.expected =
            if Precedes false tr ∨ Precedes true tr then
              c₀.expected + change c₀ node votes false + change c₀ node votes true
            else c₀.expected + change c₀ node votes last := by
  constructor
  · obtain ⟨more, q', t', rest, ended⟩ := clients_return run [false, true]
    exact ⟨more, q', t', rest, fun i => ended i (by cases i <;> simp)⟩
  intro err ended
  obtain ⟨k, ⟨joint, pair⟩, each⟩ := clients_rule (fun c tr k => VoteChains.Joint c₀ node votes c tr k ∧ Pair tr k)
    (fun _ _ _ _ _ _ _ both moves => ⟨VoteChains.joint_step distinct both.1 moves, pair_step both.2 moves⟩) run
    ⟨VoteChains.joint_start, pair_start⟩
  have done : ∀ i, err i = CS_OK ∧ k i = .done := fun i => each i (err i) (ended i)
  obtain ⟨last, two⟩ := two_setters joint.once fun i => (joint.set i).mpr (done i).2
  refine ⟨fun i => ⟨(done i).1, ?_⟩, joint.others, last, by rw [lastToSet_eq, two]; rfl, ?_⟩
  · simpa [(done i).2, Phase.hasVoted] using joint.own i
  have lost : Lost tr ↔ ¬ (Precedes false tr ∨ Precedes true tr) := by
    rw [pair.lost, all_iff false]
    simp [done]
  have missed := joint.sound.lost
  rw [joint.expected]
  by_cases first : Precedes false tr ∨ Precedes true tr
  · have all : counted tr = setters tr := missed.mp (by simpa [Lost] using fun isLost => lost.mp isLost first)
    rw [if_pos first, all, two]
    exact tally_both last
  · have missing : counted tr ≠ setters tr := fun all => by simpa [Lost, missed.mpr all] using lost.mpr first
    rw [if_neg first, counted, (counted_cases joint.sound two).resolve_right missing]
    rfl

end

/-- Node 2 and node 1 are given three votes each. -/
def threeEach : Bool → Client Err := fun i => set_votes_and_adjust (if i then 1 else 2) 3

/-- The clients take turns, call by call. -/
def turns : List Bool := (List.replicate 21 [false, true]).flatten

/-- The trace, the ends of the clients and the cluster at the end. -/
def taken : Trace × (Bool → Client Err) × Cluster := interleave (obliging false) turns threeEach twoNodes

theorem taken_run : Interleaved (cluster False) threeEach twoNodes taken.1 taken.2.1 taken.2.2 :=
  interleave_run (obliging_answers (by simp)) turns threeEach twoNodes

theorem taken_ended (i : Bool) : taken.2.1 i = .ret CS_OK := by
  cases i <;> rfl

theorem both_adjust_taken :
    ∃ last, lastToSet taken.1 = some last ∧ taken.2.2.expected =
      if Precedes false taken.1 ∨ Precedes true taken.1 then
        twoNodes.expected + change twoNodes (fun i => if i then 1 else 2) (fun _ => 3) false +
          change twoNodes (fun i => if i then 1 else 2) (fun _ => 3) true
      else twoNodes.expected + change twoNodes (fun i => if i then 1 else 2) (fun _ => 3) last :=
  ((both_adjust (by decide) taken_run).2 _ taken_ended).2.2

/-- Where both clients read the expected votes before either sets them, a change is lost. -/
theorem turns_lose_a_change :
    ¬ ∀ (tr : Trace) (q : Bool → Client Err) (t : Cluster) (err : Bool → Err),
      Interleaved (cluster False) threeEach twoNodes tr q t → (∀ i, q i = .ret (err i)) →
      t.expected = twoNodes.expected + change twoNodes (fun i => if i then 1 else 2) (fun _ => 3) false +
        change twoNodes (fun i => if i then 1 else 2) (fun _ => 3) true := by
  intro kept
  have all := kept _ _ _ _ taken_run taken_ended
  exact absurd all (by decide)

end CorosyncClient.VoteRaces
