import CorosyncClient.Screens

/-!
What a print shows. For any command line of the print task the program comes to its end,
and its output is what the services tell, as the first word asks for it.
-/
namespace CorosyncClient.Prints
open CLib Interaction CmapStore CorosyncClient.Membership Screens
set_option linter.unusedSimpArgs false

variable {Clock : Bytes → Prop} {v : View}

/-! ### Command lines -/

/-- What is printed for a word. -/
def Printed (Clock : Bytes → Prop) (v : View) (target text : Bytes) : Prop :=
  if target = ascii "membership" then text = v.membershipText
  else if target = ascii "quorum" then ∃ time, Clock time ∧ text = v.quorumText ++ time
  else text = []

theorem client_print_option_tells {fuel : Nat} (enough : v.members.entries.length < fuel) (u : Uninit) (w : CString)
    (words : List CString) (rest : List Member) (out : Bytes) :
    wp (telling Clock v) (client_print_option fuel u (argzOf (w :: words)))
      (fun _ t => ∃ text, Printed Clock v w.chars text ∧ t.out = out ++ text) ⟨v.members, v.members, rest, out⟩ := by
  have first := argz_string_position [] w words
  rw [List.nil_append] at first
  rw [client_print_option, argz_next_first, first]
  refine ⟨rfl, ?_⟩
  rintro _ _ ⟨rfl, -⟩
  show wp (telling Clock v) (if w.chars = ascii "membership" then _ else _) _ _
  rw [wp_ite]
  refine ⟨fun asked => ?_, fun other => ?_⟩
  · refine wp_seq (telling_of_members (print_membership_table v.regular enough rest out v.few u)) ?_
    rintro _ t ⟨rfl, printed⟩
    refine ⟨v.membershipText, by rw [Printed, if_pos asked], ?_⟩
    simpa [View.membershipText] using printed
  · rw [wp_ite]
    refine ⟨fun asked => ?_, fun other' => ⟨[], by rw [Printed, if_neg other, if_neg other'], by simp⟩⟩
    refine wp_seq (print_quorum_tells _) ?_
    rintro _ _ ⟨rfl, time, clock, rfl⟩
    refine ⟨v.quorumText ++ time, ?_, by simp⟩
    rw [Printed, if_neg other, if_pos asked]
    exact ⟨time, clock, rfl⟩

theorem telling_live (clock : ∃ time, Clock time) (s : Scan) (c : Call) : ∃ r s', (telling Clock v).answers s c r s' := by
  obtain ⟨time, clock⟩ := clock
  obtain ⟨r, s', answered⟩ : ∃ r s', (members False (fun n => (v.info n).node_votes) v.local_nodeid).answers s c r s' :=
    members_live s c
  cases c
  case votequorum_getinfo handle n => exact ⟨(.CS_OK, v.info n), s, ⟨rfl, .inl ⟨rfl, rfl⟩⟩, rfl⟩
  case ctime => exact ⟨time, s, rfl, clock⟩
  all_goals exact ⟨r, s', answered, trivial⟩

/-- Every accepted line of the print task comes to its end, and shows what the services
    tell: the members, the quorum and the time, or nothing where the first word is another. -/
theorem main_prints {fuel : Nat} (clock : ∃ time, Clock time) (enough : v.members.entries.length < fuel) (u : ClientUninit) (name : Bytes)
    (w : OptKey × CString) (words : List (OptKey × CString)) (few : words.length < 8)
    (task : lastTask (w :: words) .print_option = .print_option) (rest : List Member) (out : Bytes) :
    Returns (telling Clock v) (main fuel u name (w :: words)) ⟨v.members, v.members, rest, out⟩
      (fun _ t => ∃ text, Printed Clock v w.2.chars text ∧ t.out = out ++ ascii "\n" ++ text ++ ascii "\n") := by
  refine returns_of_wp (fun s c _ => telling_live clock s c) ?_
  have accepted := (argp_parse_ok (w :: words) _).mpr ⟨⟨by simp, few⟩, rfl⟩
  simp only [main, perform_bind, Prog.pure_eq, accepted, task, run_task]
  refine ⟨trivial, ?_⟩
  rintro _ _ ⟨rfl, -⟩
  refine wp_seq (client_print_option_tells enough _ w.2 (words.map Prod.snd) rest _) ?_
  rintro _ t ⟨text, printed, shown⟩
  refine ⟨trivial, ?_⟩
  rintro _ _ ⟨rfl, -⟩
  exact ⟨text, printed, by rw [shown]⟩

theorem membership_terminated : 0 ∉ ascii "membership" := by decide

theorem main_prints_pair :
    Returns (telling (fun _ => True) pairView) (main 5 Operands.cleared [] [(.p, ⟨ascii "membership", membership_terminated⟩)])
      ⟨twoNodes, twoNodes, [], []⟩
      (fun _ t => ∃ text, Printed (fun _ => True) pairView (ascii "membership") text ∧
        t.out = [] ++ ascii "\n" ++ text ++ ascii "\n") :=
  main_prints ⟨[], trivial⟩ (by decide) Operands.cleared [] (.p, ⟨ascii "membership", membership_terminated⟩) []
    (by decide) rfl [] []

end CorosyncClient.Prints
