import CorosyncClient.Interaction.Atomicity
import CorosyncClient.Interaction.Processes
import CorosyncClient.Authority
import CorosyncClient.NodeIds

/-!
Any number of users of one cluster at the same time, each with a command line of any
task. The votes of the nodes are at every moment the first ones, changed by the requests
of the `-q` lines that were carried out, each of them once and in their order; and every
user of such a line is told whether the own request was.
-/
namespace CorosyncClient.Users
open CLib Interaction SshOption VoteOperands NodeIds Authority
set_option linter.unusedSimpArgs false
variable {ι : Type} [DecidableEq ι]

/-! ### Requests -/

/-- The node and the votes of `set_votes`. -/
def wordsRequest : List CString → Option (UInt32 × UInt32)
  | q_option :: nodeid :: votes :: _ =>
    if q_option.chars = ascii "set_votes" then some (operand nodeid.chars, operand votes.chars) else none
  | _ => none

/-- What a command line asks for. -/
def request (line : List (OptKey × CString)) : Option (UInt32 × UInt32) :=
  if lastTask line .print_option = .quorum_option ∧ line.length ≤ 8 then wordsRequest (line.map Prod.snd) else none

/-- A walk for another word than `set_votes` comes to its end. -/
theorem quorum_walk {q_option : CString} {operands : List CString} (other : q_option.chars ≠ ascii "set_votes")
    (before : List CString) (w : CString) (after : List CString) (split : q_option :: operands = before ++ w :: after)
    {rounds : Nat} (enough : after.length < rounds) :
    Unmarked (loop (quorum_round (argzOf (q_option :: operands)) (some (position []))) rounds (some (position before))) = .ret () := by
  have first := argz_string_position [] q_option operands
  rw [List.nil_append] at first
  induction after generalizing before w rounds with
  | nil =>
    cases rounds with
    | zero => omega
    | succ rounds =>
      rw [loop, unmarked_bind, quorum_round, split, unmarked_next_entry, if_pos rfl]
      rfl
  | cons a after ih =>
    cases rounds with
    | zero => omega
    | succ rounds =>
      have rest := ih (before ++ [w]) a (by rw [split, List.append_assoc]; rfl)
        (show after.length < rounds by simpa using enough)
      rw [loop, unmarked_bind, quorum_round, first, split, unmarked_next_entry, if_neg (by simp), ← split]
      simp only [unmarked_read_word]
      rw [if_neg other]
      exact rest

/-- A `-q` line comes to its request, or does nothing. -/
theorem quorum_option_request {q_option : CString} {operands : List CString}
    (fit : q_option.chars = ascii "set_votes" → operands.length ≠ 1) {fuel : Nat} (enough : operands.length < fuel) :
    Unmarked (client_quorum_option fuel (argzOf (q_option :: operands))) =
      match wordsRequest (q_option :: operands) with
      | some (nodeid, votes) => Unmarked (client_change_votes nodeid votes)
      | none => .ret () := by
  have first := argz_string_position [] q_option operands
  rw [List.nil_append] at first
  rw [client_quorum_option, argz_next_first]
  by_cases task : q_option.chars = ascii "set_votes"
  · cases fuel with
    | zero => omega
    | succ fuel =>
      rcases operands with _ | ⟨nodeid, _ | ⟨votes, operands⟩⟩
      · rw [loop, unmarked_bind, quorum_round, ← List.nil_append [q_option], unmarked_next_entry, if_pos rfl]
        rfl
      · exact absurd rfl (fit task)
      · have second := argz_string_position [q_option] nodeid (votes :: operands)
        have third := argz_string_position [q_option, nodeid] votes operands
        have next := unmarked_next_entry (α := Option Nat ⊕ Unit) [] q_option (nodeid :: votes :: operands)
        have next' := unmarked_next_entry (α := Option Nat ⊕ Unit) [q_option] nodeid (votes :: operands)
        rw [List.nil_append, List.nil_append] at next
        simp only [List.singleton_append, List.cons_append, List.nil_append] at second third next'
        rw [loop, unmarked_bind, quorum_round, next, if_neg (by simp)]
        simp only [first, unmarked_read_word, if_pos task, second, next', if_neg, third, reduceCtorEq, not_false_eq_true]
        rw [unmarked_bind, wordsRequest, if_pos task, Prog.bind_assoc]
        exact Prog.bind_ret _
  · have none : wordsRequest (q_option :: operands) = none := by
      rcases operands with _ | ⟨nodeid, _ | ⟨votes, operands⟩⟩
      · rfl
      · rfl
      · exact if_neg task
    rw [none]
    exact quorum_walk task [] q_option operands rfl enough

/-! ### The votes of the cluster -/

/-- What one user has done, and what was printed. -/
structure Voter where
  /-- The requests that the user made, also those that were refused. -/
  tried : List (UInt32 × UInt32)
  /-- Those that were carried out. -/
  made : List (UInt32 × UInt32)
  out : Bytes

/-- The votes of the nodes, and the requests, each with its user. -/
structure Poll (ι : Type) where
  tried : List (ι × UInt32 × UInt32)
  made : List (ι × UInt32 × UInt32)
  votes : UInt32 → UInt32

/-- The votes once some requests are carried out, in order. -/
def carriedOut (made : List (ι × UInt32 × UInt32)) (votes : UInt32 → UInt32) : UInt32 → UInt32 :=
  made.foldl (fun votes x => Function.update votes x.2.1 x.2.2) votes

/-- The libraries of one user: votes are set or refused, and any other call may have any
    reply. -/
@[simps] def polling (i : ι) : LibWorld (Voter × Poll ι) where
  permits _ _ := True
  answers x c r x' :=
    match c with
    | .votequorum_setvotes _ nodeid votes =>
      let tried : Voter × Poll ι :=
        ({ x.1 with tried := x.1.tried ++ [(nodeid, votes)] }, { x.2 with tried := x.2.tried ++ [(i, nodeid, votes)] })
      (r = .CS_OK ∧ x' = ({ tried.1 with made := x.1.made ++ [(nodeid, votes)] },
        { tried.2 with made := x.2.made ++ [(i, nodeid, votes)], votes := Function.update x.2.votes nodeid votes })) ∨
      (r ≠ .CS_OK ∧ x' = tried)
    | .printf text => x' = ({ x.1 with out := x.1.out ++ text }, x.2)
    | _ => x' = x

/-- What a user knows. A request may be made once, and must be that of the line. -/
@[simps] def voter (asked : Option (UInt32 × UInt32)) : LibWorld Voter where
  permits k c :=
    match c with
    | .votequorum_setvotes _ nodeid votes => k.tried = [] ∧ asked = some (nodeid, votes)
    | _ => True
  answers k c r k' :=
    match c with
    | .votequorum_setvotes _ nodeid votes =>
      let tried := { k with tried := k.tried ++ [(nodeid, votes)] }
      (r = .CS_OK ∧ k' = { tried with made := k.made ++ [(nodeid, votes)] }) ∨ (r ≠ .CS_OK ∧ k' = tried)
    | .printf text => k' = { k with out := k.out ++ text }
    | _ => k' = k

omit [DecidableEq ι] in
theorem polling_alone (asked : Option (UInt32 × UInt32)) {i : ι} {k k' : Voter} {s s' : Poll ι} {c : Call} {r : Reply c}
    (answered : (polling i).answers (k, s) c r (k', s')) : (voter asked).answers k c r k' := by
  cases c
  case votequorum_setvotes handle nodeid votes =>
    rcases answered with ⟨ok, same⟩ | ⟨failed, same⟩
    · exact .inl ⟨ok, (Prod.mk.inj same).1⟩
    · exact .inr ⟨failed, (Prod.mk.inj same).1⟩
  all_goals exact (Prod.mk.inj answered).1

/-! ### One user -/

/-- Whether a request was carried out, and what its user is shown. -/
def Told (nodeid votes : UInt32) (made : List (UInt32 × UInt32)) (shown : Bytes) : Prop :=
  (made = [(nodeid, votes)] ∧ shown = changedLine (decimal nodeid.toNat) votes) ∨
    (made = [] ∧ ∃ err, err ≠ CS_OK ∧ shown = failedLine (decimal nodeid.toNat) err ++ changedLine (decimal nodeid.toNat) votes)

theorem set_votes_told (nodeid votes : UInt32) (out : Bytes) :
    wp (voter (some (nodeid, votes))) (set_votes nodeid votes)
      (fun err k => k.out = out ∧ ((err = CS_OK ∧ k.made = [(nodeid, votes)]) ∨ (err ≠ CS_OK ∧ k.made = []))) ⟨[], [], out⟩ := by
  simp only [set_votes, perform_bind, Prog.pure_eq, wp_call, wp_ite, wp_ret, voter_permits, voter_answers, true_and, and_true]
  rintro ⟨err, handle⟩ _ rfl
  refine ⟨fun failed => ⟨rfl, .inr ⟨(code_eq_ok err).not.mpr failed, rfl⟩⟩, fun _ => ⟨rfl, ?_⟩⟩
  rintro err k (⟨rfl, rfl⟩ | ⟨failed, rfl⟩)
  · refine ⟨fun failed => absurd rfl failed, ?_⟩
    rintro _ _ _ rfl
    exact ⟨rfl, .inl rfl⟩
  · refine ⟨?_, fun ok => absurd failed ok⟩
    rintro _ _ _ rfl
    exact ⟨rfl, .inr ⟨(code_eq_ok err).not.mpr failed, rfl⟩⟩

theorem client_change_votes_told (nodeid votes : UInt32) (out : Bytes) :
    wp (voter (some (nodeid, votes))) (client_change_votes nodeid votes)
      (fun _ k => ∃ shown, Told nodeid votes k.made shown ∧ k.out = out ++ shown) ⟨[], [], out⟩ := by
  refine wp_seq (set_votes_told nodeid votes out) ?_
  rintro err ⟨tried, made, _⟩ ⟨rfl, ⟨rfl, rfl⟩ | ⟨failed, rfl⟩⟩
  · rw [if_neg (not_not.mpr rfl)]
    refine ⟨trivial, ?_⟩
    rintro _ _ rfl
    exact ⟨_, .inl ⟨rfl, rfl⟩, rfl⟩
  · rw [if_pos failed]
    refine ⟨trivial, ?_⟩
    rintro _ _ rfl
    refine ⟨trivial, ?_⟩
    rintro _ _ rfl
    exact ⟨_, .inr ⟨rfl, err, failed, rfl⟩, List.append_assoc ..⟩

/-- The reads of words change nothing. -/
theorem unmarked_voter (asked : Option (UInt32 × UInt32)) (p : Client Unit) (Q : Unit → Voter → Prop) (k : Voter) :
    wp (voter asked) (Unmarked p) Q k ↔ wp (voter asked) p Q k := by
  refine wp_without (fun k c r marked => ?_) p Q k
  cases c
  case access a =>
    cases a
    case word text =>
      cases text with
      | none => cases marked
      | some text => exact ⟨trivial, fun _ _ => ⟨fun same => ⟨rfl, same⟩, fun same => same.2⟩⟩
    all_goals cases marked
  all_goals cases marked

/-- Calls that the line of another task may make are permitted to any user. -/
theorem other_voter {p : Client Unit} {task : ClientTask} (licensed : p.Makes (Licensed task)) (other : task ≠ .quorum_option)
    (k : Voter) : wlp (voter none) p (fun _ _ => True) k := by
  refine wlp_of_makes licensed (fun k c licensed => ?_) k
  cases c
  case votequorum_setvotes =>
    cases task with
    | print_option => exact absurd trivial licensed
    | monitor_option => exact absurd trivial licensed
    | quorum_option => exact absurd rfl other
    | ssh_cmd =>
      rcases licensed trivial with ssh | sftp
      · cases ssh
      · cases sftp
  all_goals exact trivial

/-- The program comes to the request of a line, and to nothing else where there is none. -/
theorem main_told {line : List (OptKey × CString)} (task : lastTask line .print_option = .quorum_option)
    (fit : Operands.OperandsFit .quorum_option (line.map Prod.snd)) {fuel : Nat} (enough : line.length ≤ fuel) (u : ClientUninit)
    (name : Bytes) :
    wp (voter (request line)) (main fuel u name line)
      (fun _ k => ∀ nodeid votes, request line = some (nodeid, votes) →
        ∃ shown, Told nodeid votes k.made shown ∧ k.out = ascii "\n" ++ shown ++ ascii "\n") ⟨[], [], []⟩ := by
  simp only [main, perform_bind, Prog.pure_eq]
  refine ⟨trivial, ?_⟩
  rintro _ _ rfl
  have nonempty : 1 ≤ line.length := by
    cases line with
    | nil => cases task
    | cons w rest => simp
  cases parsed : argp_parse line with
  | error message =>
    have many : ¬ line.length ≤ 8 := by
      intro few
      have accepted := (argp_parse_ok line _).mpr ⟨⟨nonempty, few⟩, rfl⟩
      rw [parsed] at accepted
      cases accepted
    rw [request, if_neg fun asked => many asked.2]
    refine ⟨trivial, ?_⟩
    rintro _ _ _ _ _ ⟨⟩
  | ok arguments =>
    obtain ⟨⟨-, few⟩, rfl⟩ := (argp_parse_ok line arguments).mp parsed
    have here : request line = wordsRequest (line.map Prod.snd) := if_pos ⟨task, few⟩
    rw [here]
    simp only [run_task, task]
    obtain ⟨w, rest, rfl⟩ := List.exists_cons_of_length_pos nonempty
    rw [List.map_cons] at fit ⊢
    have rounds : (rest.map Prod.snd).length < fuel := by
      rw [List.length_map]
      exact enough
    have walk := quorum_option_request fit rounds
    refine wp_seq (Q := fun _ k => ∀ nodeid votes, wordsRequest (w.2 :: rest.map Prod.snd) = some (nodeid, votes) →
      ∃ shown, Told nodeid votes k.made shown ∧ k.out = ascii "\n" ++ shown) ?_ ?_
    · rw [← unmarked_voter, walk]
      cases wordsRequest (w.2 :: rest.map Prod.snd) with
      | none => rintro _ _ ⟨⟩
      | some asked =>
        obtain ⟨nodeid, votes⟩ := asked
        rw [unmarked_voter]
        refine wp_mono (client_change_votes_told nodeid votes _) ?_
        rintro _ k told _ _ ⟨⟩
        exact told
    · rintro _ k told
      refine ⟨trivial, ?_⟩
      rintro _ _ rfl nodeid votes asked
      obtain ⟨shown, told, out⟩ := told nodeid votes asked
      exact ⟨shown, told, by rw [out]⟩

/-- The program makes no request but that of the line; that of a `-q` line comes to its end
    and tells whether the request was carried out. -/
def Follows (line : List (OptKey × CString)) (p : Client Unit) (k : Voter) : Prop :=
  wlp (voter (request line)) p (fun _ _ => True) k ∧ (lastTask line .print_option = .quorum_option →
    wp (voter (request line)) p (fun _ k => ∀ nodeid votes, request line = some (nodeid, votes) →
      ∃ shown, Told nodeid votes k.made shown ∧ k.out = ascii "\n" ++ shown ++ ascii "\n") k)

theorem main_follows {line : List (OptKey × CString)}
    (fit : lastTask line .print_option = .quorum_option → Operands.OperandsFit .quorum_option (line.map Prod.snd)) {fuel : Nat}
    (enough : line.length ≤ fuel) (u : ClientUninit) (name : Bytes) : Follows line (main fuel u name line) ⟨[], [], []⟩ := by
  by_cases task : lastTask line .print_option = .quorum_option
  · have told := main_told task (fit task) enough u name
    exact ⟨wlp_mono (wlp_of_wp told) fun _ _ _ => trivial, fun _ => told⟩
  · have none : request line = none := if_neg fun both => task both.1
    rw [Follows, none]
    exact ⟨other_voter (main_licensed _ _ _ _) task _, fun same => absurd same task⟩

/-! ### All users -/

/-- What holds of the votes and of the users, where user `i` may ask for `asked i`. -/
structure Joint (asked : ι → Option (UInt32 × UInt32)) (votes : UInt32 → UInt32) (k : ι → Voter) (s : Poll ι) : Prop where
  votes : s.votes = carriedOut s.made votes
  tried : ∀ i, share i s.tried = (k i).tried
  made : ∀ i, share i s.made = (k i).made
  once : ∀ i, (k i).tried <+: (asked i).toList
  among : ∀ i, (k i).made <+: (k i).tried

section
variable {asked : ι → Option (UInt32 × UInt32)} {votes : UInt32 → UInt32} {k : ι → Voter} {s s' : Poll ι} {i : ι} {d : Voter}

theorem joint_start : Joint asked votes (fun _ => ⟨[], [], []⟩) ⟨[], [], votes⟩ where
  votes := rfl
  tried _ := rfl
  made _ := rfl
  once _ := List.nil_prefix
  among _ := List.nil_prefix

/-- A request of user `i` is written down for the user and among those of all. -/
theorem share_update {l : List (ι × UInt32 × UInt32)} {f : Voter → List (UInt32 × UInt32)} {change : UInt32 × UInt32}
    (shares : ∀ j, share j l = f (k j)) (added : f d = f (k i) ++ [change]) (j : ι) :
    share j (l ++ [(i, change)]) = f (Function.update k i d j) := by
  rw [share_snoc, shares j]
  rcases eq_or_ne j i with rfl | other
  · rw [Function.update_self, added, if_pos rfl]
  · rw [Function.update_of_ne other, if_neg other.symm, List.append_nil]

/-- A call by which no votes are set. -/
theorem joint_still (joint : Joint asked votes k s) (tried : d.tried = (k i).tried) (made : d.made = (k i).made) :
    Joint asked votes (Function.update k i d) s where
  votes := joint.votes
  tried := (Function.forall_update_iff k fun j d => share j s.tried = d.tried).mpr
    ⟨(joint.tried i).trans tried.symm, fun j _ => joint.tried j⟩
  made := (Function.forall_update_iff k fun j d => share j s.made = d.made).mpr
    ⟨(joint.made i).trans made.symm, fun j _ => joint.made j⟩
  once := (Function.forall_update_iff k fun j d => d.tried <+: (asked j).toList).mpr
    ⟨tried ▸ joint.once i, fun j _ => joint.once j⟩
  among := (Function.forall_update_iff k fun _ d => d.made <+: d.tried).mpr
    ⟨made ▸ tried ▸ joint.among i, fun j _ => joint.among j⟩

/-- The request of a user is carried out or refused. -/
theorem joint_request (joint : Joint asked votes k s) {change : UInt32 × UInt32} (first : (k i).tried = [])
    (asks : asked i = some change) (tried : d.tried = (k i).tried ++ [change]) (noted : s'.tried = s.tried ++ [(i, change)])
    (outcome : (d.made = (k i).made ++ [change] ∧ s'.made = s.made ++ [(i, change)] ∧
        s'.votes = Function.update s.votes change.1 change.2) ∨
      (d.made = (k i).made ∧ s'.made = s.made ∧ s'.votes = s.votes)) :
    Joint asked votes (Function.update k i d) s' := by
  have none : (k i).made = [] := List.prefix_nil.mp (first ▸ joint.among i)
  constructor
  case votes =>
    have before := joint.votes
    rcases outcome with ⟨-, made, set⟩ | ⟨-, made, same⟩
    · rw [set, made, before, carriedOut, carriedOut, List.foldl_append]
      rfl
    · rw [same, made, before]
  case tried => exact noted ▸ share_update (f := Voter.tried) joint.tried tried
  case made =>
    rcases outcome with ⟨added, made, -⟩ | ⟨kept, made, -⟩
    · exact made ▸ share_update (f := Voter.made) joint.made added
    · rw [made]
      exact (Function.forall_update_iff k fun j d => share j s.made = d.made).mpr
        ⟨(joint.made i).trans kept.symm, fun j _ => joint.made j⟩
  case once =>
    refine (Function.forall_update_iff k fun j d => d.tried <+: (asked j).toList).mpr ⟨?_, fun j _ => joint.once j⟩
    rw [tried, first, asks]
    exact List.prefix_rfl
  case among =>
    refine (Function.forall_update_iff k fun _ d => d.made <+: d.tried).mpr ⟨?_, fun j _ => joint.among j⟩
    rcases outcome with ⟨added, -, -⟩ | ⟨kept, -, -⟩
    · rw [added, tried, none, first]
    · rw [kept, none]
      exact List.nil_prefix

theorem joint_step (joint : Joint asked votes k s) {c : Call} {r : Reply c} (permitted : (voter (asked i)).permits (k i) c)
    (answered : (polling i).answers (k i, s) c r (d, s')) : Joint asked votes (Function.update k i d) s' := by
  cases c
  case votequorum_setvotes handle nodeid votes =>
    rcases answered with ⟨-, same⟩ | ⟨-, same⟩
    · obtain ⟨rfl, rfl⟩ := Prod.mk.inj same
      exact joint_request joint permitted.1 permitted.2 rfl rfl (.inl ⟨rfl, rfl, rfl⟩)
    · obtain ⟨rfl, rfl⟩ := Prod.mk.inj same
      exact joint_request joint permitted.1 permitted.2 rfl rfl (.inr ⟨rfl, rfl, rfl⟩)
  all_goals
    obtain ⟨rfl, rfl⟩ := Prod.mk.inj answered
    exact joint_still joint rfl rfl

end

/-- Users with any command lines, of which those of `-q` have the operands that they need.
    Whatever the libraries answer and however the calls interleave, the votes of the nodes
    are the first ones with the requests that were carried out, in their order; each user
    has made no other request than that of the line, and that at most once, also where it
    was refused. A user with a request is not cut off, and is told at the end whether it
    was carried out. -/
theorem users_vote {fuel : ι → Nat} {u : ι → ClientUninit} {name : ι → Bytes} {line : ι → List (OptKey × CString)}
    (fit : ∀ i, lastTask (line i) .print_option = .quorum_option → Operands.OperandsFit .quorum_option ((line i).map Prod.snd))
    (enough : ∀ i, (line i).length ≤ fuel i) {votes : UInt32 → UInt32} {q : ι → Client Unit} {k : ι → Voter} {s : Poll ι}
    (run : Processes polling (fun i => main (fuel i) (u i) (name i) (line i)) (fun _ => ⟨[], [], []⟩) ⟨[], [], votes⟩ q k s) :
    s.votes = carriedOut s.made votes ∧ ∀ i, share i s.made <+: share i s.tried ∧ share i s.tried <+: (request (line i)).toList ∧
      ∀ nodeid votes, request (line i) = some (nodeid, votes) → q i ≠ .cut ∧ (q i = .ret () →
        ∃ shown, Told nodeid votes (share i s.made) shown ∧ (k i).out = ascii "\n" ++ shown ++ ascii "\n") := by
  obtain ⟨ends, joint⟩ := processes_rule (W := polling) (fun i => voter (request (line i)))
    (fun i k s c r k' s' answered => polling_alone _ answered) (Joint (fun i => request (line i)) votes)
    (fun i k s c r k' s' joint permitted answered => joint_step joint permitted answered)
    (fun i => Follows (line i))
    (fun i c next d holds => ⟨holds.1.1, fun r d' answered =>
      ⟨holds.1.2 r d' answered, fun task => (holds.2 task).2 r d' answered⟩⟩)
    run (fun i => main_follows (fit i) (enough i) (u i) (name i)) joint_start
  refine ⟨joint.votes, fun i => ⟨?_, joint.tried i ▸ joint.once i, fun nodeid votes asks => ?_⟩⟩
  · rw [joint.made i, joint.tried i]
    exact joint.among i
  have task : lastTask (line i) .print_option = .quorum_option := by
    by_contra other
    rw [request, if_neg fun both => other both.1] at asks
    cases asks
  have total := (ends i).2 task
  constructor
  · intro cut
    rwa [cut] at total
  · intro ended
    rw [ended] at total
    rw [joint.made i]
    exact total nodeid votes asks

/-- Every request is carried out. -/
def polled (i : ι) : Handler Call Reply (Voter × Poll ι) := fun x c =>
  match c with
  | .votequorum_setvotes _ nodeid votes =>
    (.CS_OK, { x.1 with tried := x.1.tried ++ [(nodeid, votes)], made := x.1.made ++ [(nodeid, votes)] },
      { tried := x.2.tried ++ [(i, nodeid, votes)], made := x.2.made ++ [(i, nodeid, votes)],
        votes := Function.update x.2.votes nodeid votes })
  | .printf text => (text.length, { x.1 with out := x.1.out ++ text }, x.2)
  | c => (Reply.success c, x)

omit [DecidableEq ι] in
theorem polled_answers (i : ι) (x : Voter × Poll ι) (c : Call) : (polling i).answers x c (polled i x c).1 (polled i x c).2 := by
  cases c
  case votequorum_setvotes => exact .inl ⟨rfl, rfl⟩
  all_goals rfl

/-- Two users set the votes of node 2, to 3 and to 2. -/
def bothLines (i : Bool) : List (OptKey × CString) :=
  [(.q, setVotesWord), (.ARG, ⟨ascii "2", two_nul_free⟩), (.ARG, cond i ⟨ascii "2", two_nul_free⟩ ⟨ascii "3", three_nul_free⟩)]

def bothVote : (Bool → Client Unit) × (Bool → Voter) × Poll Bool :=
  schedule polled (List.replicate 20 [false, true]).flatten (fun i => main 3 Operands.cleared [] (bothLines i))
    (fun _ => ⟨[], [], []⟩) ⟨[], [], fun _ => 1⟩

theorem bothVote_ended : bothVote.1 false = .ret () := by
  have ended : (match bothVote.1 false with | .ret _ => true | _ => false) = true := by decide +kernel
  split at ended
  · assumption
  · cases ended

theorem users_vote_both : bothVote.2.2.votes = carriedOut bothVote.2.2.made (fun _ => 1) ∧
    ∃ shown, Told 2 3 (share false bothVote.2.2.made) shown ∧ (bothVote.2.1 false).out = ascii "\n" ++ shown ++ ascii "\n" := by
  have fit : ∀ i, lastTask (bothLines i) .print_option = .quorum_option →
      Operands.OperandsFit .quorum_option ((bothLines i).map Prod.snd) := fun _ _ _ => by simp [bothLines]
  have run : Processes polling (fun i => main 3 Operands.cleared [] (bothLines i)) (fun _ => ⟨[], [], []⟩) ⟨[], [], fun _ => 1⟩
      bothVote.1 bothVote.2.1 bothVote.2.2 := schedule_processes polled_answers _ _ _ _
  have voted := users_vote fit (fun _ => Nat.le_refl 3) run
  exact ⟨voted.1, ((voted.2 false).2.2 2 3 (by decide)).2 bothVote_ended⟩

end CorosyncClient.Users
