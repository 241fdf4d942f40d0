import CorosyncClient.CLib.Files
import CorosyncClient.Interaction.Atomicity
import CorosyncClient.Interaction.Processes
import CorosyncClient.Deployment

/-!
Any number of operators at the same time, each with a `-c` line, on machines that they
share. Each starts its commands as if it were alone. A machine that all its operators
reset to one template has exactly the template whenever no copy to it is open, however
the copies interleave.
-/
namespace CorosyncClient.Operators
open CLib Interaction RemoteMachines Deployment
set_option linter.unusedSimpArgs false
variable {ι : Type} [DecidableEq ι]

/-! ### The machines -/

/-- The machines that the operators share: the commands that were started, each with its
    operator, and the files. -/
structure Site (ι : Type) where
  log : List (ι × Bytes × Bytes)
  files : Bytes → Bytes → Option Bytes

namespace Site

/-- A file of a machine gets a new content. -/
@[simps] def put (s : Site ι) (addr path : Bytes) (content : Option Bytes) : Site ι :=
  { s with files := Function.update s.files addr (Function.update (s.files addr) path content) }

end Site

/-- What a call of an operator does to the machines. -/
def effect (i : ι) (d : Desk) (s : Site ι) : Call → Site ι
  | .ssh_channel_request_exec channel cmd =>
    match d.fleet.host (d.fleet.channel channel) with
    | some addr => { s with log := s.log ++ [(i, addr, cmd)] }
    | none => s
  | .sftp_open sftp path flags =>
    match d.fleet.host (d.fleet.sftp sftp) with
    | some addr => s.put addr path (some (if flags.O_TRUNC then [] else (s.files addr path).getD []))
    | none => s
  | .sftp_write dest buf =>
    match d.fleet.target dest, d.position dest with
    | some (addr, path), some pos => s.put addr path ((s.files addr path).map fun content => writeAt content pos buf)
    | _, _ => s
  | _ => s

/-- Sound libraries for an operator among others. No reply tells of the content of a remote
    file, so that they answer it as if it were alone. -/
@[simps] def beside (S : Supply) (i : ι) : LibWorld (Desk × Site ι) where
  permits _ c := Operands.Allowed c
  answers x c r x' := (sound S).answers x.1.fleet c r x'.1.fleet ∧ x'.1.position = moved x.1.position c r ∧
    x'.2 = effect i x.1 x.2 c

/-- The calls that start no command and neither open, write nor close a remote file. -/
def Quiet : Call → Prop
  | .ssh_channel_request_exec _ _ => False
  | .sftp_open _ _ _ => False
  | .sftp_write _ _ => False
  | .sftp_close _ => False
  | _ => True

theorem quiet_sound {S : Supply} {f f' : Fleet} {c : Call} {r : Reply c} (quiet : Quiet c)
    (answered : (sound S).answers f c r f') : f'.target = f.target ∧ f'.machines = f.machines := by
  cases c
  case ssh_channel_request_exec => exact quiet.elim
  case sftp_open => exact quiet.elim
  case sftp_write => exact quiet.elim
  case ssh_new =>
    rcases answered with ⟨_, -, rfl⟩ | ⟨-, -, rfl⟩
    · exact ⟨rfl, rfl⟩
    · exact ⟨rfl, rfl⟩
  case ssh_options_set session option =>
    cases option with
    | host addr =>
      rcases answered with ⟨-, rfl⟩ | ⟨-, -, rfl⟩
      · exact ⟨rfl, rfl⟩
      · exact ⟨rfl, rfl⟩
    | port port =>
      obtain rfl := answered
      exact ⟨rfl, rfl⟩
    | user name =>
      obtain rfl := answered
      exact ⟨rfl, rfl⟩
  case ssh_channel_new =>
    rcases answered with ⟨_, -, rfl⟩ | ⟨-, -, rfl⟩
    · exact ⟨rfl, rfl⟩
    · exact ⟨rfl, rfl⟩
  case sftp_new =>
    rcases answered with ⟨_, -, rfl⟩ | ⟨-, -, rfl⟩
    · exact ⟨rfl, rfl⟩
    · exact ⟨rfl, rfl⟩
  case fopen =>
    rcases answered with ⟨_, _, -, -, rfl⟩ | ⟨-, -, rfl⟩
    · exact ⟨rfl, rfl⟩
    · exact ⟨rfl, rfl⟩
  case fseek =>
    rcases answered with ⟨-, rfl⟩ | ⟨-, rfl⟩
    · exact ⟨rfl, rfl⟩
    · exact ⟨rfl, rfl⟩
  all_goals first
    | (obtain rfl := answered; exact ⟨rfl, rfl⟩)
    | (obtain ⟨rfl, -⟩ := answered; exact ⟨rfl, rfl⟩)

omit [DecidableEq ι] in
theorem quiet_effect {c : Call} (quiet : Quiet c) (i : ι) (d : Desk) (s : Site ι) (r : Reply c) :
    effect i d s c = s ∧ moved d.position c r = d.position := by
  cases c
  case ssh_channel_request_exec => exact quiet.elim
  case sftp_open => exact quiet.elim
  case sftp_write => exact quiet.elim
  case sftp_close => exact quiet.elim
  all_goals exact ⟨rfl, rfl⟩

/-! ### One configuration -/

/-- An operator has the configuration of a machine open, and writes on at a position. -/
def Copying (d : Desk) (addr : Bytes) (pos : Nat) : Prop :=
  ∃ dest, d.position dest = some pos ∧ d.fleet.target dest = some (addr, corosyncConf)

/-- No operator has opened the configuration of a machine. -/
structure Untouched (m : Site ι) (k : ι → Desk) (s : Site ι) (addr : Bytes) : Prop where
  same : s.files addr corosyncConf = m.files addr corosyncConf
  closed : ∀ i pos, ¬ Copying (k i) addr pos
  unwritten : ∀ i, (k i).fleet.machines.files addr corosyncConf = none

/-- A configuration is the whole template, or is right up to the position of some copy that
    is open; and it is not longer. -/
structure Carried (template : Bytes) (k : ι → Desk) (addr content : Bytes) : Prop where
  short : content.length ≤ template.length
  right : template <+: content ∨ ∃ i pos, Copying (k i) addr pos ∧ template.take pos <+: content

/-- How the configuration of a machine stands whose operators copy one template. -/
def Stands (template : Bytes) (m : Site ι) (k : ι → Desk) (s : Site ι) (addr : Bytes) : Prop :=
  Untouched m k s addr ∨ ∃ content, s.files addr corosyncConf = some content ∧ Carried template k addr content

section
variable {template : Bytes} {m s s' : Site ι} {k k' : ι → Desk} {addr : Bytes}

omit [DecidableEq ι] in
/-- A step that is not about this configuration. -/
theorem stands_alike (stands : Stands template m k s addr) (files : s'.files addr corosyncConf = s.files addr corosyncConf)
    (copying : ∀ i pos, Copying (k' i) addr pos ↔ Copying (k i) addr pos)
    (written : ∀ i, (k' i).fleet.machines.files addr corosyncConf = (k i).fleet.machines.files addr corosyncConf) :
    Stands template m k' s' addr := by
  rcases stands with ⟨same, closed, unwritten⟩ | ⟨content, here, short, right⟩
  · refine .inl ⟨files.trans same, fun i pos => ?_, fun i => (written i).trans (unwritten i)⟩
    rw [copying]
    exact closed i pos
  · refine .inr ⟨content, files.trans here, short, right.imp_right ?_⟩
    rintro ⟨i, pos, carries, holds⟩
    exact ⟨i, pos, (copying i pos).mpr carries, holds⟩

omit [DecidableEq ι] in
/-- Where no copy is open, a configuration that was touched is the template. -/
theorem stands_whole (stands : Stands template m k s addr) (none : ∀ i pos, ¬ Copying (k i) addr pos) :
    (s.files addr corosyncConf = m.files addr corosyncConf ∧ ∀ i, (k i).fleet.machines.files addr corosyncConf = Option.none) ∨
      s.files addr corosyncConf = some template := by
  rcases stands with untouched | ⟨content, here, short, right⟩
  · exact .inl ⟨untouched.same, untouched.unwritten⟩
  · rcases right with whole | ⟨i, pos, carries, -⟩
    · rw [here, whole.eq_of_length_le short]
      exact .inr rfl
    · exact absurd carries (none i pos)

end

/-! ### The joint invariant -/

/-- What holds of the machines and of what the libraries keep for the operators, where
    operator `i` copies `file i` to the machines `addrs i`. -/
structure Joint (addrs : ι → List Bytes) (file : ι → Bytes) (m : Site ι) (k : ι → Desk) (s : Site ι) : Prop where
  goal : ∀ i dest pos, (k i).position dest = some pos → ∃ addr ∈ addrs i, (k i).fleet.target dest = some (addr, corosyncConf)
  log : ∀ i, share i s.log = share i m.log ++ (k i).fleet.machines.log
  other : ∀ addr path, (path ≠ corosyncConf ∨ ∀ i, addr ∉ addrs i) → s.files addr path = m.files addr path
  conf : ∀ addr template, (∀ i, addr ∈ addrs i → file i = template) → Stands template m k s addr

section
variable {addrs : ι → List Bytes} {file : ι → Bytes} {m s s' : Site ι} {k : ι → Desk} {i : ι} {d : Desk}

theorem joint_start : Joint addrs file m (fun _ => ⟨idle, closed⟩) m where
  goal _ _ _ opened := by cases opened
  log _ := by simp [idle]
  other _ _ _ := rfl
  conf addr _ _ := by
    refine .inl ⟨rfl, ?_, fun _ => rfl⟩
    rintro i pos ⟨dest, opened, -⟩
    cases opened

/-- A call that opens, writes and closes nothing. -/
theorem joint_still (joint : Joint addrs file m k s) (position : d.position = (k i).position)
    (target : d.fleet.target = (k i).fleet.target) (written : d.fleet.machines.files = (k i).fleet.machines.files)
    (log : ∀ j, share j s'.log = share j m.log ++ (Function.update k i d j).fleet.machines.log) (files : s'.files = s.files) :
    Joint addrs file m (Function.update k i d) s' where
  goal j dest pos opened := by
    rcases eq_or_ne j i with rfl | other
    · rw [Function.update_self, position] at opened
      rw [Function.update_self, target]
      exact joint.goal j dest pos opened
    · rw [Function.update_of_ne other] at opened ⊢
      exact joint.goal j dest pos opened
  log := log
  other addr path apart := by rw [files, joint.other addr path apart]
  conf addr template agree := by
    refine stands_alike (joint.conf addr template agree) (by rw [files]) (fun j pos => ?_) fun j => ?_
    · rcases eq_or_ne j i with rfl | other
      · simp [Copying, position, target]
      · rw [Function.update_of_ne other]
    · rcases eq_or_ne j i with rfl | other
      · simp [written]
      · rw [Function.update_of_ne other]

/-- A call that starts no command. -/
theorem joint_log (joint : Joint addrs file m k s) (same : s'.log = s.log)
    (log : d.fleet.machines.log = (k i).fleet.machines.log) (j : ι) :
    share j s'.log = share j m.log ++ (Function.update k i d j).fleet.machines.log := by
  rw [same, joint.log j]
  rcases eq_or_ne j i with rfl | other
  · rw [Function.update_self, log]
  · rw [Function.update_of_ne other]

/-- A configuration that an operator may write is no other file. -/
theorem joint_other (joint : Joint addrs file m k s) {addr : Bytes} (member : addr ∈ addrs i) (content : Option Bytes)
    (a path : Bytes) (apart : path ≠ corosyncConf ∨ ∀ i, a ∉ addrs i) :
    (s.put addr corosyncConf content).files a path = m.files a path := by
  rw [← joint.other a path apart]
  rcases eq_or_ne a addr with rfl | other
  · have path : path ≠ corosyncConf := apart.resolve_right fun unlisted => unlisted i member
    simp [path]
  · simp [other]

/-- A configuration is opened and emptied. -/
theorem joint_open (joint : Joint addrs file m k s) {addr : Bytes} (member : addr ∈ addrs i) (only : (k i).position = closed)
    {dest : Handle} (position : d.position = Function.update closed dest (some 0))
    (target : d.fleet.target = Function.update (k i).fleet.target dest (some (addr, corosyncConf)))
    (machines : d.fleet.machines = wrote (k i).fleet.machines addr corosyncConf (some [])) :
    Joint addrs file m (Function.update k i d) (s.put addr corosyncConf (some [])) where
  goal j x pos opened := by
    rcases eq_or_ne j i with rfl | other
    · rw [Function.update_self, position] at opened
      rw [Function.update_self, target]
      rcases eq_or_ne x dest with rfl | another
      · exact ⟨addr, member, Function.update_self ..⟩
      · rw [Function.update_of_ne another] at opened
        cases opened
    · rw [Function.update_of_ne other] at opened ⊢
      exact joint.goal j x pos opened
  log := joint_log joint rfl (by rw [machines]; rfl)
  other := joint_other joint member _
  conf a template agree := by
    rcases eq_or_ne a addr with rfl | apart
    · refine .inr ⟨[], by simp, by simp, .inr ⟨i, 0, ⟨dest, ?_, ?_⟩, by simp⟩⟩
      · rw [Function.update_self, position, Function.update_self]
      · rw [Function.update_self, target, Function.update_self]
    · refine stands_alike (joint.conf a template agree) (by simp [apart]) (fun j pos => ?_) fun j => ?_
      · rcases eq_or_ne j i with rfl | other
        · simp only [Copying, Function.update_self, position, target, only]
          constructor
          · rintro ⟨x, opened, goal⟩
            rcases eq_or_ne x dest with rfl | another
            · rw [Function.update_self] at goal
              simp only [Option.some.injEq, Prod.mk.injEq] at goal
              exact absurd goal.1.symm apart
            · rw [Function.update_of_ne another] at opened
              cases opened
          · rintro ⟨x, opened, -⟩
            cases opened
        · rw [Function.update_of_ne other]
      · rcases eq_or_ne j i with rfl | other
        · simp [machines, wrote, apart]
        · rw [Function.update_of_ne other]

/-- The next part of the file is written to an open configuration. -/
theorem joint_write (joint : Joint addrs file m k s) {dest : Handle} {pos : Nat} {buf : Bytes}
    (opened : (k i).position dest = some pos) (part : buf <+: (file i).drop pos) {addr : Bytes}
    (goal : (k i).fleet.target dest = some (addr, corosyncConf)) (member : addr ∈ addrs i)
    (position : d.position = Function.update (k i).position dest (some (pos + buf.length)))
    (target : d.fleet.target = (k i).fleet.target)
    {written : Option Bytes} (machines : d.fleet.machines = wrote (k i).fleet.machines addr corosyncConf written) :
    Joint addrs file m (Function.update k i d)
      (s.put addr corosyncConf ((s.files addr corosyncConf).map fun content => writeAt content pos buf)) where
  goal j x n isOpen := by
    rcases eq_or_ne j i with rfl | other
    · rw [Function.update_self, position] at isOpen
      rw [Function.update_self, target]
      rcases eq_or_ne x dest with rfl | another
      · exact ⟨addr, member, goal⟩
      · rw [Function.update_of_ne another] at isOpen
        exact joint.goal j x n isOpen
    · rw [Function.update_of_ne other] at isOpen ⊢
      exact joint.goal j x n isOpen
  log := joint_log joint rfl (by rw [machines]; rfl)
  other := joint_other joint member _
  conf a template agree := by
    rcases eq_or_ne a addr with rfl | apart
    · obtain rfl := agree i member
      rcases joint.conf a (file i) agree with untouched | ⟨content, here, short, right⟩
      · exact absurd ⟨dest, opened, goal⟩ (untouched.closed i pos)
      · refine .inr ⟨writeAt content pos buf, by simp [here], writeAt_within short part, ?_⟩
        rcases right with whole | ⟨j, n, ⟨x, carries, towards⟩, holds⟩
        · have all : (file i).take (file i).length <+: content := by rwa [List.take_length]
          have kept := writeAt_keeps all part
          rw [List.take_length] at kept
          exact .inl kept
        · by_cases same : j = i ∧ x = dest
          · obtain ⟨rfl, rfl⟩ := same
            obtain rfl := Option.some.inj (carries.symm.trans opened)
            refine .inr ⟨j, n + buf.length, ⟨x, ?_, ?_⟩, writeAt_extends holds part⟩
            · rw [Function.update_self, position, Function.update_self]
            · rw [Function.update_self, target, towards]
          · refine .inr ⟨j, n, ⟨x, ?_, ?_⟩, writeAt_keeps holds part⟩
            · rcases eq_or_ne j i with rfl | other
              · rw [Function.update_self, position, Function.update_of_ne fun here => same ⟨rfl, here⟩, carries]
              · rw [Function.update_of_ne other, carries]
            · rcases eq_or_ne j i with rfl | other
              · rw [Function.update_self, target, towards]
              · rw [Function.update_of_ne other, towards]
    · refine stands_alike (joint.conf a template agree) (by simp [apart]) (fun j n => ?_) fun j => ?_
      · rcases eq_or_ne j i with rfl | other
        · have another : ∀ x, (k j).fleet.target x = some (a, corosyncConf) → x ≠ dest := by
            rintro x towards rfl
            rw [goal] at towards
            simp only [Option.some.injEq, Prod.mk.injEq] at towards
            exact apart towards.1.symm
          simp only [Copying, Function.update_self, position, target]
          refine exists_congr fun x => and_congr_left fun towards => ?_
          rw [Function.update_of_ne (another x towards)]
        · rw [Function.update_of_ne other]
      · rcases eq_or_ne j i with rfl | other
        · simp [machines, wrote, apart]
        · rw [Function.update_of_ne other]

/-- An open configuration is closed when the copy is whole. -/
theorem joint_close (joint : Joint addrs file m k s) {dest : Handle} (whole : (k i).position dest = some (file i).length)
    (position : d.position = Function.update (k i).position dest none) (fleet : d.fleet = (k i).fleet) :
    Joint addrs file m (Function.update k i d) s where
  goal j x n isOpen := by
    rcases eq_or_ne j i with rfl | other
    · rw [Function.update_self, position] at isOpen
      rw [Function.update_self, fleet]
      rcases eq_or_ne x dest with rfl | another
      · rw [Function.update_self] at isOpen
        cases isOpen
      · rw [Function.update_of_ne another] at isOpen
        exact joint.goal j x n isOpen
    · rw [Function.update_of_ne other] at isOpen ⊢
      exact joint.goal j x n isOpen
  log := joint_log joint rfl (by rw [fleet])
  other := joint.other
  conf a template agree := by
    -- a copy that is open afterwards was open before
    have before : ∀ j n, Copying (Function.update k i d j) a n → Copying (k j) a n := by
      rintro j n ⟨x, isOpen, towards⟩
      rcases eq_or_ne j i with rfl | other
      · rw [Function.update_self, position] at isOpen
        rw [Function.update_self, fleet] at towards
        rcases eq_or_ne x dest with rfl | another
        · rw [Function.update_self] at isOpen
          cases isOpen
        · rw [Function.update_of_ne another] at isOpen
          exact ⟨x, isOpen, towards⟩
      · rw [Function.update_of_ne other] at isOpen towards
        exact ⟨x, isOpen, towards⟩
    rcases joint.conf a template agree with ⟨same, none, unwritten⟩ | ⟨content, here, short, right⟩
    · refine .inl ⟨same, fun j n copies => none j n (before j n copies), fun j => ?_⟩
      rcases eq_or_ne j i with rfl | other
      · rw [Function.update_self, fleet]
        exact unwritten j
      · rw [Function.update_of_ne other]
        exact unwritten j
    · refine .inr ⟨content, here, short, ?_⟩
      rcases right with right | ⟨j, n, ⟨x, carries, towards⟩, holds⟩
      · exact .inl right
      · by_cases same : j = i ∧ x = dest
        · obtain ⟨rfl, rfl⟩ := same
          obtain rfl := Option.some.inj (carries.symm.trans whole)
          obtain ⟨addr, member, goal⟩ := joint.goal j x _ whole
          rw [goal] at towards
          simp only [Option.some.injEq, Prod.mk.injEq, and_true] at towards
          obtain rfl := agree j (towards ▸ member)
          rw [List.take_length] at holds
          exact .inl holds
        · refine .inr ⟨j, n, ⟨x, ?_, ?_⟩, holds⟩
          · rcases eq_or_ne j i with rfl | other
            · rw [Function.update_self, position, Function.update_of_ne fun here => same ⟨rfl, here⟩, carries]
            · rw [Function.update_of_ne other, carries]
          · rcases eq_or_ne j i with rfl | other
            · rw [Function.update_self, fleet, towards]
            · rw [Function.update_of_ne other, towards]

/-- Whatever an operator does keeps the joint invariant. -/
theorem joint_step {S : Supply} (joint : Joint addrs file m k s) {c : Call} {r : Reply c}
    (permitted : (copying S (addrs i) (file i)).permits (k i) c) (answered : (beside S i).answers (k i, s) c r (d, s')) :
    Joint addrs file m (Function.update k i d) s' := by
  obtain ⟨fleet, position, rfl⟩ := answered
  by_cases quiet : Quiet c
  · obtain ⟨target, machines⟩ := quiet_sound quiet fleet
    obtain ⟨still, same⟩ := quiet_effect quiet i (k i) s r
    rw [same] at position
    rw [still]
    exact joint_still joint position target (by rw [machines]) (joint_log joint rfl (by rw [machines])) rfl
  cases c
  case ssh_channel_request_exec channel cmd =>
    obtain ⟨output, -, started, -⟩ := fleet.resolve_right fun failed => failed.1
    cases host : (k i).fleet.host ((k i).fleet.channel channel) with
    | none =>
      simp only [Fleet.exec, host] at started
      simp only [effect, host]
      exact joint_still joint position (by rw [started]) (by rw [started]) (joint_log joint rfl (by rw [started])) rfl
    | some addr =>
      simp only [Fleet.exec, host] at started
      simp only [effect, host]
      refine joint_still joint position (by rw [started]) (by rw [started]; rfl) (fun j => ?_) rfl
      rw [share_snoc, joint.log j]
      rcases eq_or_ne j i with rfl | other
      · rw [Function.update_self, started, if_pos rfl, List.append_assoc]
        rfl
      · rw [Function.update_of_ne other, if_neg other.symm, List.append_nil]
  case sftp_open sftp path flags =>
    obtain ⟨-, only, emptied, rfl, addr, member, host⟩ := permitted
    obtain ⟨dest, rfl, opened⟩ := fleet.resolve_right fun failed => failed.1
    simp only [effect, host, emptied, if_true]
    simp only [Fleet.opened, host, emptied, if_true] at opened
    simp only [moved, only] at position
    exact joint_open joint member only position (by rw [opened]) (by rw [opened])
  case sftp_write dest buf =>
    obtain ⟨-, pos, here, part⟩ := permitted
    obtain ⟨addr, member, goal⟩ := joint.goal i dest pos here
    obtain ⟨n, -, written, ⟨-, rfl⟩ | failed⟩ := fleet
    swap
    · exact failed.elim
    simp only [effect, goal, here]
    simp only [Fleet.append, goal] at written
    simp only [moved, here, Option.map_some] at position
    exact joint_write joint here part goal member position (by rw [written]) (by rw [written])
  case sftp_close dest => exact joint_close joint permitted.2 position fleet
  all_goals exact absurd trivial quiet

end

/-- The commands that a line starts, each with its machine. -/
def commands (line : List (OptKey × CString)) : List (Bytes × Bytes) :=
  (listed line).flatMap fun addr => (remoteCommands (command line)).map fun text => (addr, text)

/-- Operators with `-c` lines on shared machines. None of them is cut off, overruns a buffer
    or reads a missing word, and when one has ended it has started the commands of its line,
    in order, and has no copy open. Only the configurations of machines that are reset
    change. A machine that its operators reset to one template has exactly that template
    whenever no copy to it is open and one of them has ended; before, it may also be as it
    was. -/
theorem operators_deploy {S : ι → Supply} {fuel : ι → Nat} {file : ι → ConfCopy.SourceFile} {line : ι → List (OptKey × CString)}
    (ready : ∀ i, Ready (S i) (fuel i) (file i) (line i)) {u : ι → ClientUninit} {name : ι → Bytes} {m s : Site ι}
    {q : ι → Client Unit} {k : ι → Desk}
    (run : Processes (fun i => beside (S i) i) (fun i => main (fuel i) (u i) (name i) (line i)) (fun _ => ⟨idle, closed⟩) m q k s) :
    (∀ i, q i ≠ .cut ∧ (∀ c next, q i = .call c next → Operands.Allowed c) ∧
      (q i = .ret () → share i s.log = share i m.log ++ commands (line i) ∧ ∀ addr pos, ¬ Copying (k i) addr pos)) ∧
    (∀ addr path, (path ≠ corosyncConf ∨ ∀ i, addr ∉ resets (line i)) → s.files addr path = m.files addr path) ∧
    ∀ addr template, (∀ i, addr ∈ resets (line i) → (file i).bytes = template) → (∀ i pos, ¬ Copying (k i) addr pos) →
      (s.files addr corosyncConf = m.files addr corosyncConf ∨ s.files addr corosyncConf = some template) ∧
      ((∃ i, addr ∈ resets (line i) ∧ q i = .ret ()) → s.files addr corosyncConf = some template) := by
  obtain ⟨ends, joint⟩ := processes_rule (W := fun i => beside (S i) i) (fun i => copying (S i) (resets (line i)) (file i).bytes)
    (fun i k s c r k' s' answered => ⟨answered.1, answered.2.1⟩)
    (Joint (fun i => resets (line i)) (fun i => (file i).bytes) m)
    (fun i k s c r k' s' joint permitted answered => joint_step joint permitted answered)
    (fun i p d => wp (copying (S i) (resets (line i)) (file i).bytes) p
      (fun _ => Served (command (line i)) (file i).bytes (listed (line i)) idle.machines) d)
    (fun _ _ _ _ holds => holds) run (fun i => main_serves (ready i) (u i) (name i) idle) joint_start
  have served : ∀ i, q i = .ret () → Served (command (line i)) (file i).bytes (listed (line i)) idle.machines (k i) := by
    intro i ended
    have spec := ends i
    rwa [ended] at spec
  refine ⟨fun i => ⟨fun cut => ?_, fun c next comes => ?_, fun ended => ?_⟩, joint.other, fun addr template agree none => ⟨?_, ?_⟩⟩
  · have spec := ends i
    rwa [cut] at spec
  · have spec := ends i
    rw [comes] at spec
    exact spec.1.1
  · constructor
    · rw [joint.log i, (served i ended).deployed.log]
      rfl
    · rintro addr pos ⟨dest, opened, -⟩
      rw [(served i ended).position] at opened
      cases opened
  · exact (stands_whole (joint.conf addr template agree) none).imp_left And.left
  · rintro ⟨i, member, ended⟩
    refine (stands_whole (joint.conf addr template agree) none).resolve_left fun untouched => ?_
    have reset : command (line i) = ascii "reset_conf" := by
      by_contra other
      rw [resets, if_neg other] at member
      cases member
    rw [resets, if_pos reset] at member
    have written := (served i ended).deployed.files addr corosyncConf
    rw [untouched.2 i, if_pos ⟨reset, member, rfl⟩] at written
    cases written

/-- Handlers for the libraries of all operators. -/
def flawlessly (templates : Bytes → Option ConfCopy.SourceFile) (i : ι) : Handler Call Reply (Desk × Site ι) := fun x c =>
  let (r, fleet) := flawless templates x.1.fleet c
  (r, ⟨fleet, moved x.1.position c r⟩, effect i x.1 x.2 c)

omit [DecidableEq ι] in
theorem flawlessly_answers {S : Supply} (i : ι) (x : Desk × Site ι) (c : Call) :
    (beside S i).answers x c (flawlessly S.templates i x c).1 (flawlessly S.templates i x c).2 :=
  ⟨flawless_answers (fun _ => True) (S := ⟨S.templates, False, (· ≤ S.limit)⟩) (Nat.zero_le _) x.1.fleet c, rfl, rfl⟩

theorem resetBoth_ready : Ready oneTemplate 3 vm_default resetBoth where
  remote := by rfl
  accepted := by decide
  supplied _ := ⟨ascii "vm_default.conf", by rfl, ⟨vm_default_terminated, by decide, by rfl, by decide⟩⟩
  rounds := by decide
  enough := by decide

/-- Two operators that take turns. -/
def turns : List Bool := (List.replicate 110 [false, true]).flatten

def untouched : Site Bool := ⟨[], fun _ _ => none⟩

/-- Both reset the same two machines at the same time. -/
def resetTwice : (Bool → Client Unit) × (Bool → Desk) × Site Bool :=
  schedule (flawlessly oneTemplate.templates) turns (fun _ => main 3 Operands.cleared [] resetBoth) (fun _ => ⟨idle, closed⟩) untouched

theorem resetTwice_ended (i : Bool) : resetTwice.1 i = .ret () := by
  have ended : ∀ i, (match resetTwice.1 i with | .ret _ => true | _ => false) = true := by decide +kernel
  have here := ended i
  split at here
  · assumption
  · cases here

theorem operators_deploy_twice :
    resetTwice.2.2.files (ascii "11.0.0.2") corosyncConf = some vm_default.bytes ∧
      share false resetTwice.2.2.log =
        [(ascii "11.0.0.2", ascii "corosync-cfgtool -H"), (ascii "11.0.0.3", ascii "corosync-cfgtool -H")] := by
  have run := schedule_processes (W := fun i => beside oneTemplate i) (h := flawlessly oneTemplate.templates)
    (fun i x c => flawlessly_answers (S := oneTemplate) i x c) turns (fun _ => main 3 Operands.cleared [] resetBoth)
    (fun _ => ⟨idle, closed⟩) untouched
  have deployed := operators_deploy (fun _ => resetBoth_ready) run
  have noneOpen := fun i => ((deployed.1 i).2.2 (resetTwice_ended i)).2
  refine ⟨(deployed.2.2 (ascii "11.0.0.2") vm_default.bytes (fun _ _ => rfl) fun i => noneOpen i (ascii "11.0.0.2")).2 ⟨false, ?_, ?_⟩, ?_⟩
  · decide
  · exact resetTwice_ended false
  · exact ((deployed.1 false).2.2 (resetTwice_ended false)).1.trans (by decide)

theorem short_tail : (ascii "quorum").length < 2 ^ 63 := by decide

/-- Another template under the same name. -/
def anotherTemplate : Supply where
  templates path := if path = ascii "../conf_templates/vm_default.conf" then some ⟨ascii "quorum", short_tail⟩ else none
  limit := 0

/-- Operators with different templates can leave a file that is neither of them. -/
example : (schedule (fun i => flawlessly (cond i anotherTemplate oneTemplate).templates i) turns
    (fun _ => main 3 Operands.cleared [] resetBoth) (fun _ => ⟨idle, closed⟩) untouched).2.2.files (ascii "11.0.0.2") corosyncConf =
      some (ascii "quorum{ version: 2 }") := by
  decide +kernel

end CorosyncClient.Operators
