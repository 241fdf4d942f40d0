import CorosyncClient.SshManager
import CorosyncClient.Interaction.Composition
import Mathlib.Tactic.Simps.Basic

/-!
The sessions, channels and sftp sessions that the commands for other machines make. What
a command makes it frees once and in order, except for a session whose password is
refused and an sftp session that cannot be initialised.
-/
namespace CorosyncClient.Connections
open CLib Interaction
set_option linter.unusedSimpArgs false

/-! ### Objects of libssh -/

inductive Kind where
  | session | channel | sftp | file
  deriving DecidableEq

/-- An object, with the one that it was made from. -/
inductive Object where
  | session
  | channel (session : Handle)
  | sftp (session : Handle)
  | file (sftp : Handle)
  | freed
  deriving DecidableEq

def Object.kind : Object → Option Kind
  | .session => some .session
  | .channel _ => some .channel
  | .sftp _ => some .sftp
  | .file _ => some .file
  | .freed => none

def Object.madeFrom : Object → Option Handle
  | .session => none
  | .channel h => some h
  | .sftp h => some h
  | .file h => some h
  | .freed => none

/-- The objects that there have been. A handle is the name of one object only. -/
abbrev Objects := Handle → Option Object

/-- What a call makes, where it succeeds. -/
def makes : (c : Call) → Reply c → Option (Handle × Object)
  | .ssh_new, r => r.map (fun h => (h, .session))
  | .ssh_channel_new session, r => r.map (fun h => (h, .channel session))
  | .sftp_new session, r => r.map (fun h => (h, .sftp session))
  | .sftp_open sftp _ _, r => r.map (fun h => (h, .file sftp))
  | _, _ => none

/-- The object that a call is made on, with the kind that it must have. -/
def uses : Call → Option (Handle × Kind)
  | .ssh_options_set session _ => some (session, .session)
  | .ssh_connect session => some (session, .session)
  | .ssh_userauth_password session _ => some (session, .session)
  | .ssh_disconnect session => some (session, .session)
  | .ssh_free session => some (session, .session)
  | .ssh_channel_new session => some (session, .session)
  | .ssh_channel_open_session channel => some (channel, .channel)
  | .ssh_channel_request_exec channel _ => some (channel, .channel)
  | .ssh_channel_read channel _ => some (channel, .channel)
  | .ssh_channel_send_eof channel => some (channel, .channel)
  | .ssh_channel_close channel => some (channel, .channel)
  | .ssh_channel_free channel => some (channel, .channel)
  | .sftp_new session => some (session, .session)
  | .sftp_init sftp => some (sftp, .sftp)
  | .sftp_open sftp _ _ => some (sftp, .sftp)
  | .sftp_write file _ => some (file, .file)
  | .sftp_close file => some (file, .file)
  | .sftp_free sftp => some (sftp, .sftp)
  | _ => none

/-- The object that a call frees. -/
def frees : Call → Option Handle
  | .ssh_free session => some session
  | .ssh_channel_free channel => some channel
  | .sftp_free sftp => some sftp
  | .sftp_close file => some file
  | _ => none

/-- No object in use was made from `h`. -/
def Alone (objs : Objects) (h : Handle) : Prop := ∀ x o, objs x = some o → o.madeFrom ≠ some h

/-- A call is made on an object in use, and an object is freed after those made from it. -/
def Allowed (objs : Objects) (c : Call) : Prop :=
  (∀ x ∈ uses c, (objs x.1).bind Object.kind = some x.2) ∧ ∀ h ∈ frees c, Alone objs h

def after (objs : Objects) (e : LibEvent) : Objects :=
  match frees e.call with
  | some h => Function.update objs h (some .freed)
  | none =>
    match makes e.call e.reply with
    | some (h, o) => Function.update objs h (some o)
    | none => objs

/-- Every reply is possible. A new object has a handle that no object has had. -/
@[simps] def libssh : LibWorld Objects where
  permits _ _ := True
  answers objs c r objs' := (∀ x ∈ makes c r, objs x.1 = none ∧ Alone objs x.1) ∧ objs' = after objs ⟨c, r⟩

/-- Every call of the trace is allowed where it is made. -/
def Orderly : Objects → List LibEvent → Prop
  | _, [] => True
  | objs, e :: tr => Allowed objs e.call ∧ Orderly (after objs e) tr

/-- All that is new is freed. -/
def Released (objs objs' : Objects) : Prop := ∀ h, objs' h ≠ objs h → objs h = none ∧ objs' h = some .freed

/-- From `objs` on all calls of the trace are allowed, and what they make they free. -/
def Clean (objs : Objects) (tr : List LibEvent) : Prop := Orderly objs tr ∧ Released objs (tr.foldl after objs)

theorem orderly_append (objs : Objects) (first rest : List LibEvent) :
    Orderly objs (first ++ rest) ↔ Orderly objs first ∧ Orderly (first.foldl after objs) rest := by
  induction first generalizing objs with
  | nil => simp [Orderly]
  | cons e first ih => simp [Orderly, ih, and_assoc]

theorem alone_update {objs : Objects} {h x : Handle} {o : Object} (alone : Alone objs h) (other : o.madeFrom ≠ some h) :
    Alone (Function.update objs x (some o)) h := by
  intro y p held
  by_cases same : y = x
  · subst same
    obtain rfl : o = p := by simpa using held
    exact other
  · exact alone y p (by simpa [same] using held)

theorem released_refl (objs : Objects) : Released objs objs := fun _ other => absurd rfl other

/-- A new object that is freed adds nothing to be released. -/
theorem released_update {objs objs' : Objects} {h : Handle} (released : Released objs objs') (new : objs h = none) :
    Released objs (Function.update objs' h (some .freed)) := by
  intro x changed
  by_cases same : x = h
  · subst same
    simp [new]
  · simp only [Function.update_of_ne same] at changed ⊢
    exact released x changed

/-! ### The commands -/

/-- The five functions, each with its arguments. -/
inductive Command where
  | start_corosync (fuel : Nat) (addr : Bytes)
  | stop_corosync (fuel : Nat) (addr : Bytes)
  | kill_conn (fuel : Nat) (addr : Bytes)
  | start_conn (fuel : Nat) (addr : Bytes)
  | copy_conf (fuel : Nat) (st_size : UInt64) (buffer addr source_file dest_directory : Bytes)

def Command.run : Command → Client Err
  | start_corosync fuel addr => CorosyncClient.start_corosync fuel addr
  | stop_corosync fuel addr => CorosyncClient.stop_corosync fuel addr
  | kill_conn fuel addr => CorosyncClient.kill_conn fuel addr
  | start_conn fuel addr => CorosyncClient.start_conn fuel addr
  | copy_conf fuel st_size buffer addr source_file dest_directory =>
    CorosyncClient.copy_conf fuel st_size buffer addr source_file dest_directory

/-- The password is refused. -/
def authFailed : LibEvent → Bool
  | ⟨.ssh_userauth_password _ _, rc⟩ => rc != SSH_AUTH_SUCCESS
  | _ => false

/-- An sftp session cannot be initialised. -/
def initFailed : LibEvent → Bool
  | ⟨.sftp_init _, rc⟩ => decide (rc < 0)
  | _ => false

/-- The failure after which a command does not free what it has made. -/
def Command.forgets : Command → LibEvent → Bool
  | copy_conf _ _ _ _ _ _ => initFailed
  | _ => authFailed

section
variable {objs₀ objs : Objects} {bad : LibEvent → Bool} {tr : List LibEvent} {α : Type}

/-- All has been in order since `objs₀`. -/
structure Kept (objs₀ : Objects) (bad : LibEvent → Bool) (s : Objects × List LibEvent) : Prop where
  orderly : Orderly objs₀ s.2
  current : s.2.foldl after objs₀ = s.1
  good : ¬ Occurs bad s.2

theorem kept_snoc {c : Call} (kept : Kept objs₀ bad (objs, tr)) (allowed : Allowed objs c) (r : Reply c)
    (harmless : bad ⟨c, r⟩ = false) : Kept objs₀ bad (after objs ⟨c, r⟩, tr ++ [⟨c, r⟩]) where
  orderly := by
    rw [orderly_append, kept.current]
    exact ⟨kept.orderly, allowed, trivial⟩
  current := by simp [kept.current]
  good := by simpa [harmless] using kept.good

/-- The rule for a call that is allowed. -/
theorem wlp_allowed {c : Call} {next : Reply c → Client α} {Q : α → Objects × List LibEvent → Prop}
    (kept : Kept objs₀ bad (objs, tr)) (allowed : Allowed objs c) (harmless : ∀ r, bad ⟨c, r⟩ = false)
    (rest : ∀ r tr', (∀ x ∈ makes c r, objs x.1 = none ∧ Alone objs x.1) →
      Kept objs₀ bad (after objs ⟨c, r⟩, tr') → wlp libssh.traced (next r) Q (after objs ⟨c, r⟩, tr')) :
    wlp libssh.traced (.call c next) Q (objs, tr) := by
  rw [wlp_traced_call]
  refine ⟨trivial, ?_⟩
  rintro r _ ⟨fresh, rfl⟩
  exact rest r _ fresh (kept_snoc kept allowed r (harmless r))

/-- A call that makes and frees nothing, and may go wrong. -/
theorem wlp_risk {c : Call} {next : Reply c → Client α} {Q : α → Objects × List LibEvent → Prop}
    (kept : Kept objs₀ bad (objs, tr)) {h : Handle} {k : Kind} (used : uses c = some (h, k))
    (held : (objs h).bind Object.kind = some k) (frees : frees c = none) (makes : ∀ r, makes c r = none)
    (wrong : ∀ r tr', bad ⟨c, r⟩ = true → tr'.foldl after objs₀ = objs → Occurs bad tr' →
      wlp libssh.traced (next r) Q (objs, tr'))
    (rest : ∀ r tr', bad ⟨c, r⟩ = false → Kept objs₀ bad (objs, tr') → wlp libssh.traced (next r) Q (objs, tr')) :
    wlp libssh.traced (.call c next) Q (objs, tr) := by
  have same : ∀ r, after objs ⟨c, r⟩ = objs := fun r => by simp [after, frees, makes]
  have allowed : Allowed objs c := by
    refine ⟨?_, by simp [frees]⟩
    intro x isUsed
    obtain rfl : (h, k) = x := by simpa [used] using isUsed
    exact held
  rw [wlp_traced_call]
  refine ⟨trivial, ?_⟩
  rintro r _ ⟨-, rfl⟩
  by_cases harmful : bad ⟨c, r⟩ = true
  · rw [same]
    exact wrong r _ harmful (by simp [kept.current, same]) (by simp [harmful])
  · have harmless : bad ⟨c, r⟩ = false := by simpa using harmful
    have kept' := kept_snoc kept allowed r harmless
    rw [same] at kept' ⊢
    exact rest r _ harmless kept'

theorem wlp_use {c : Call} {next : Reply c → Client α} {Q : α → Objects × List LibEvent → Prop}
    (kept : Kept objs₀ bad (objs, tr)) {h : Handle} {k : Kind} (used : uses c = some (h, k))
    (held : (objs h).bind Object.kind = some k) (frees : frees c = none) (makes : ∀ r, makes c r = none)
    (harmless : ∀ r, bad ⟨c, r⟩ = false)
    (rest : ∀ r tr', Kept objs₀ bad (objs, tr') → wlp libssh.traced (next r) Q (objs, tr')) :
    wlp libssh.traced (.call c next) Q (objs, tr) := by
  refine wlp_risk kept used held frees makes ?_ (fun r tr' _ kept' => rest r tr' kept')
  intro r tr' harmful
  rw [harmless r] at harmful
  cases harmful

/-- A call that may make an object. -/
theorem wlp_make {c : Call} {next : Reply c → Client α} {Q : α → Objects × List LibEvent → Prop}
    (kept : Kept objs₀ bad (objs, tr)) (allowed : Allowed objs c) (frees : frees c = none)
    (harmless : ∀ r, bad ⟨c, r⟩ = false)
    (failed : ∀ r tr', makes c r = none → Kept objs₀ bad (objs, tr') → wlp libssh.traced (next r) Q (objs, tr'))
    (made : ∀ r tr' h o, makes c r = some (h, o) → objs h = none → Alone objs h →
      Kept objs₀ bad (Function.update objs h (some o), tr') →
      wlp libssh.traced (next r) Q (Function.update objs h (some o), tr')) :
    wlp libssh.traced (.call c next) Q (objs, tr) := by
  refine wlp_allowed kept allowed harmless ?_
  intro r tr' fresh kept'
  cases makes : makes c r with
  | none =>
    have same : after objs ⟨c, r⟩ = objs := by simp [after, frees, makes]
    rw [same] at kept' ⊢
    exact failed r tr' makes kept'
  | some new =>
    obtain ⟨h, o⟩ := new
    have grown : after objs ⟨c, r⟩ = Function.update objs h (some o) := by simp [after, frees, makes]
    rw [grown] at kept' ⊢
    obtain ⟨new, alone⟩ := fresh (h, o) (by simp [makes])
    exact made r tr' h o makes new alone kept'

/-- A call that frees the object it is made on. -/
theorem wlp_free {c : Call} {next : Reply c → Client α} {Q : α → Objects × List LibEvent → Prop}
    (kept : Kept objs₀ bad (objs, tr)) {h : Handle} {k : Kind} (used : uses c = some (h, k)) (freed : frees c = some h)
    (held : (objs h).bind Object.kind = some k) (alone : Alone objs h) (harmless : ∀ r, bad ⟨c, r⟩ = false)
    (rest : ∀ r tr', Kept objs₀ bad (Function.update objs h (some .freed), tr') →
      wlp libssh.traced (next r) Q (Function.update objs h (some .freed), tr')) :
    wlp libssh.traced (.call c next) Q (objs, tr) := by
  have shrunk : ∀ r, after objs ⟨c, r⟩ = Function.update objs h (some .freed) := fun r => by simp [after, freed]
  refine wlp_allowed kept ⟨?_, ?_⟩ harmless ?_
  · intro x isUsed
    obtain rfl : (h, k) = x := by simpa [used] using isUsed
    exact held
  · intro x isFreed
    obtain rfl : h = x := by simpa [freed] using isFreed
    exact alone
  · intro r tr' _ kept'
    rw [shrunk] at kept' ⊢
    exact rest r tr' kept'

/-- What a part of a command leaves when nothing has gone wrong. -/
def Leaves (objs₀ objs : Objects) (bad : LibEvent → Bool) (s : Objects × List LibEvent) : Prop :=
  s.1 = objs ∧ Kept objs₀ bad s

variable {session channel : Handle}

theorem free_session_spec (command : Command) (kept : Kept objs₀ command.forgets (objs, tr))
    (held : objs session = some .session) (alone : Alone objs session) :
    wlp libssh.traced (free_session session)
      (fun _ => Leaves objs₀ (Function.update objs session (some .freed)) command.forgets) (objs, tr) := by
  have harmless : ∀ r, command.forgets ⟨.ssh_disconnect session, r⟩ = false := by cases command <;> intro r <;> rfl
  have harmless' : ∀ r, command.forgets ⟨.ssh_free session, r⟩ = false := by cases command <;> intro r <;> rfl
  simp only [free_session, perform_bind]
  refine wlp_use kept rfl (by simp [held, Object.kind]) rfl (fun _ => rfl) harmless fun _ tr kept => ?_
  refine wlp_free kept rfl rfl (by simp [held, Object.kind]) alone harmless' fun _ tr kept => ?_
  exact ⟨rfl, kept⟩

theorem free_channel_spec (held : objs channel = some (.channel session)) (alone : Alone objs channel)
    (kept : Kept objs₀ authFailed (objs, tr)) :
    wlp libssh.traced (free_channel channel)
      (fun _ => Leaves objs₀ (Function.update objs channel (some .freed)) authFailed) (objs, tr) := by
  simp only [free_channel, perform_bind]
  refine wlp_use kept rfl (by simp [held, Object.kind]) rfl (fun _ => rfl) (fun _ => rfl) fun _ tr kept => ?_
  refine wlp_use kept rfl (by simp [held, Object.kind]) rfl (fun _ => rfl) (fun _ => rfl) fun _ tr kept => ?_
  refine wlp_free kept rfl rfl (by simp [held, Object.kind]) alone (fun _ => rfl) fun _ tr kept => ?_
  exact ⟨rfl, kept⟩

theorem drain_spec (fuel : Nat) (held : objs channel = some (.channel session)) (kept : Kept objs₀ authFailed (objs, tr)) :
    wlp libssh.traced (drain fuel channel) (fun _ => Leaves objs₀ objs authFailed) (objs, tr) := by
  simp only [drain, perform_bind]
  refine wlp_use kept rfl (by simp [held, Object.kind]) rfl (fun _ => rfl) (fun _ => rfl) fun result tr kept => ?_
  refine wlp_loop (fun _ => Leaves objs₀ objs authFailed) ?_ fuel _ ⟨rfl, kept⟩
  rintro nbytes ⟨objs', tr⟩ ⟨same, kept⟩
  obtain rfl : objs = objs' := same.symm
  simp only [drain_round, wlp_ite, perform_bind, Prog.pure_eq]
  constructor
  · intro _
    exact wlp_use kept rfl (by simp [held, Object.kind]) rfl (fun _ => rfl) (fun _ => rfl) fun _ tr kept => ⟨rfl, kept⟩
  · intro _
    exact ⟨rfl, kept⟩

/-- A command has been in order exactly when nothing has gone wrong. -/
def Ends (objs₀ : Objects) (bad : LibEvent → Bool) (s : Objects × List LibEvent) : Prop :=
  Clean objs₀ s.2 ↔ ¬ Occurs bad s.2

theorem kept_ends {s : Objects × List LibEvent} (kept : Kept objs₀ bad s) (released : Released objs₀ s.1) :
    Ends objs₀ bad s := by
  refine iff_of_true ⟨kept.orderly, ?_⟩ kept.good
  rw [kept.current]
  exact released

/-- A new object that is in use at the end has been forgotten. -/
theorem forgotten_ends {s : Objects × List LibEvent} {h : Handle} {o : Object} (current : s.2.foldl after objs₀ = s.1)
    (new : objs₀ h = none) (held : s.1 h = some o) (inUse : o ≠ .freed) (failed : Occurs bad s.2) :
    Ends objs₀ bad s := by
  refine iff_of_false ?_ (not_not_intro failed)
  rintro ⟨-, released⟩
  rw [current] at released
  have freed := (released h (by simp [new, held])).2
  rw [held] at freed
  exact inUse (Option.some.inj freed)

/-- The session is the one new object in use. -/
structure Sole (objs₀ objs : Objects) (session : Handle) : Prop where
  held : objs session = some .session
  alone : Alone objs session
  released : Released objs₀ (Function.update objs session (some .freed))

theorem sole_new (new : objs₀ session = none) (alone : Alone objs₀ session) :
    Sole objs₀ (Function.update objs₀ session (some .session)) session where
  held := by simp
  alone := alone_update alone (by simp [Object.madeFrom])
  released := by simpa using released_update (released_refl objs₀) new

theorem sole_apart {x : Handle} (sole : Sole objs₀ objs session) (new : objs x = none) :
    session ≠ x ∧ objs₀ x = none := by
  have other : session ≠ x := by
    rintro rfl
    simp [sole.held] at new
  refine ⟨other, ?_⟩
  by_contra before
  have changed : Function.update objs session (some .freed) x ≠ objs₀ x := by
    simpa [other.symm, new] using fun eq => before eq.symm
  exact before (sole.released x changed).1

/-- What is made beside the session and freed leaves it the one object in use. -/
theorem sole_update {x : Handle} (sole : Sole objs₀ objs session) (new : objs x = none) :
    Sole objs₀ (Function.update objs x (some .freed)) session := by
  obtain ⟨other, never⟩ := sole_apart sole new
  refine ⟨by simp [other, sole.held], alone_update sole.alone (by simp [Object.madeFrom]), ?_⟩
  rw [Function.update_comm other.symm]
  exact released_update sole.released never

/-- The session is freed, and the command ends. -/
theorem finish_spec (command : Command) (sole : Sole objs₀ objs session) (kept : Kept objs₀ command.forgets (objs, tr))
    (result : Err) :
    wlp libssh.traced (free_session session >>= fun _ => Prog.ret result) (fun _ => Ends objs₀ command.forgets)
      (objs, tr) := by
  refine wlp_seq (free_session_spec command kept sole.held sole.alone) ?_
  rintro _ ⟨_, tr⟩ ⟨rfl, kept⟩
  exact kept_ends kept sole.released

theorem run_in_channel_spec (cmd : Bytes) (fuel : Nat) (sole : Sole objs₀ objs session)
    (kept : Kept objs₀ authFailed (objs, tr)) :
    wlp libssh.traced (run_in_channel cmd fuel session) (fun _ => Ends objs₀ authFailed) (objs, tr) := by
  simp only [run_in_channel, perform_bind, Prog.pure_eq]
  refine wlp_make kept ⟨by simp [uses, sole.held, Object.kind], by simp [frees]⟩ rfl (fun _ => rfl) ?_ ?_
  · rintro (_ | _) tr none kept
    · exact finish_spec (.start_corosync fuel []) sole kept _
    · cases none
  rintro (_ | channel) tr h o made new alone kept
  · cases made
  obtain ⟨rfl, rfl⟩ : channel = h ∧ Object.channel session = o := by simpa [makes] using made
  have other : session ≠ channel := by
    rintro rfl
    simp [sole.held] at new
  have held : Function.update objs channel (some (.channel session)) channel = some (.channel session) := by simp
  have alone : Alone (Function.update objs channel (some (.channel session))) channel :=
    alone_update alone (by simpa [Object.madeFrom] using other)
  have finish : ∀ {tr} (result : Err), Kept objs₀ authFailed (Function.update objs channel (some (.channel session)), tr) →
      wlp libssh.traced (free_channel channel >>= fun _ => free_session session >>= fun _ => Prog.ret result)
        (fun _ => Ends objs₀ authFailed) (Function.update objs channel (some (.channel session)), tr) := by
    intro tr result kept
    refine wlp_seq (free_channel_spec held alone kept) ?_
    rintro _ ⟨_, tr⟩ ⟨rfl, kept⟩
    rw [Function.update_idem] at kept ⊢
    exact finish_spec (.start_corosync fuel []) (sole_update sole new) kept result
  have used : (Function.update objs channel (some (.channel session)) channel).bind Object.kind = some .channel := by
    simp [Object.kind]
  refine wlp_use kept rfl used rfl (fun _ => rfl) (fun _ => rfl) fun rc tr kept => ?_
  rw [wlp_ite]
  refine ⟨fun _ => finish _ kept, fun _ => ?_⟩
  refine wlp_use kept rfl used rfl (fun _ => rfl) (fun _ => rfl) fun rc tr kept => ?_
  rw [wlp_ite]
  refine ⟨fun _ => finish _ kept, fun _ => ?_⟩
  refine wlp_seq (drain_spec fuel held kept) ?_
  rintro _ ⟨_, tr⟩ ⟨rfl, kept⟩
  exact finish _ kept

/-- A session is made and connected, and `next` is what is done on it. -/
theorem connect_spec (command : Command) (addr : Bytes) {unmade refused : Err} {next : Handle → Client Err}
    (connected : ∀ session objs tr, objs₀ session = none → Sole objs₀ objs session → Kept objs₀ command.forgets (objs, tr) →
      wlp libssh.traced (next session) (fun _ => Ends objs₀ command.forgets) (objs, tr)) :
    wlp libssh.traced (do
      let some session ← ssh_new
        | return unmade
      let _ ← ssh_options_set session (.host addr)
      let _ ← ssh_options_set session (.port 22)
      let _ ← ssh_options_set session (.user (ascii "root"))
      let rc ← ssh_connect session
      if rc ≠ SSH_OK then
        free_session session
        return refused
      next session) (fun _ => Ends objs₀ command.forgets) (objs₀, []) := by
  have start : Kept objs₀ command.forgets (objs₀, []) := ⟨trivial, rfl, by simp⟩
  have made : ∀ r, command.forgets ⟨.ssh_new, r⟩ = false := by cases command <;> intro r <;> rfl
  have options : ∀ session option r, command.forgets ⟨.ssh_options_set session option, r⟩ = false := by
    cases command <;> intros <;> rfl
  have asked : ∀ session r, command.forgets ⟨.ssh_connect session, r⟩ = false := by cases command <;> intros <;> rfl
  simp only [perform_bind, Prog.pure_eq]
  refine wlp_make start ⟨by simp [uses], by simp [frees]⟩ rfl made ?_ ?_
  · rintro (_ | _) tr none kept
    · exact kept_ends kept (released_refl objs₀)
    · cases none
  rintro (_ | session) tr h o made new alone kept
  · cases made
  obtain ⟨rfl, rfl⟩ : session = h ∧ Object.session = o := by simpa [makes] using made
  have sole := sole_new new alone
  generalize Function.update objs₀ session (some .session) = objs at kept sole
  have used : (objs session).bind Object.kind = some .session := by simp [sole.held, Object.kind]
  refine wlp_use kept rfl used rfl (fun _ => rfl) (options session _) fun _ tr kept => ?_
  refine wlp_use kept rfl used rfl (fun _ => rfl) (options session _) fun _ tr kept => ?_
  refine wlp_use kept rfl used rfl (fun _ => rfl) (options session _) fun _ tr kept => ?_
  refine wlp_use kept rfl used rfl (fun _ => rfl) (asked session) fun rc tr kept => ?_
  rw [wlp_ite]
  exact ⟨fun _ => finish_spec command sole kept _, fun _ => connected session objs tr new sole kept⟩

theorem remote_command_spec (cmd : Bytes) (fuel : Nat) (addr : Bytes) (objs : Objects) :
    wlp libssh.traced (remote_command cmd fuel addr) (fun _ => Ends objs authFailed) (objs, []) := by
  refine connect_spec (.start_corosync fuel addr) addr fun session objs₁ tr new sole kept => ?_
  have used : (objs₁ session).bind Object.kind = some .session := by simp [sole.held, Object.kind]
  simp only [perform_bind, Prog.pure_eq]
  refine wlp_risk kept rfl used rfl (fun _ => rfl) ?_ ?_
  · -- the session is not freed
    intro rc tr refused current failed
    rw [if_pos (by simpa [Command.forgets, authFailed] using refused)]
    exact forgotten_ends current new sole.held (by simp) failed
  · intro rc tr accepted kept
    rw [if_neg (by simpa [Command.forgets, authFailed] using accepted)]
    exact run_in_channel_spec cmd fuel sole kept

/-! ### The copy of a file -/

/-- A call that concerns no object. -/
theorem wlp_other {c : Call} {next : Reply c → Client α} {Q : α → Objects × List LibEvent → Prop}
    (kept : Kept objs₀ bad (objs, tr)) (unused : uses c = none) (frees : frees c = none) (makes : ∀ r, makes c r = none)
    (harmless : ∀ r, bad ⟨c, r⟩ = false)
    (rest : ∀ r tr', Kept objs₀ bad (objs, tr') → wlp libssh.traced (next r) Q (objs, tr')) :
    wlp libssh.traced (.call c next) Q (objs, tr) := by
  have same : ∀ r, after objs ⟨c, r⟩ = objs := fun r => by simp [after, frees, makes]
  refine wlp_allowed kept ⟨by simp [unused], by simp [frees]⟩ harmless ?_
  intro r tr' _ kept'
  rw [same] at kept' ⊢
  exact rest r tr' kept'

theorem copy_loop_spec {dest sftp : Handle} (source : Handle) (fuel : Nat) (start : CopyState)
    (held : objs dest = some (.file sftp)) (kept : Kept objs₀ initFailed (objs, tr)) :
    wlp libssh.traced (loop (copy_round source dest) fuel start) (fun _ => Leaves objs₀ objs initFailed) (objs, tr) := by
  refine wlp_loop (fun _ => Leaves objs₀ objs initFailed) ?_ fuel start ⟨rfl, kept⟩
  rintro s ⟨objs', tr⟩ ⟨same, kept⟩
  obtain rfl : objs = objs' := same.symm
  have used : (objs dest).bind Object.kind = some .file := by simp [held, Object.kind]
  simp only [copy_round, wlp_ite, perform_bind, Prog.pure_eq]
  constructor
  · intro _
    refine wlp_other kept rfl rfl (fun _ => rfl) (fun _ => rfl) fun got tr kept => ?_
    exact wlp_use kept rfl used rfl (fun _ => rfl) (fun _ => rfl) fun _ tr kept => ⟨rfl, kept⟩
  · intro _
    refine wlp_other kept rfl rfl (fun _ => rfl) (fun _ => rfl) fun got tr kept => ?_
    exact wlp_use kept rfl used rfl (fun _ => rfl) (fun _ => rfl) fun _ tr kept => ⟨rfl, kept⟩

/-- The session is the one object in use again, or the sftp session has been forgotten. -/
def SftpEnd (objs₀ : Objects) (session : Handle) (s : Objects × List LibEvent) : Prop :=
  (Sole objs₀ s.1 session ∧ Kept objs₀ initFailed s) ∨
    ∃ h, h ≠ session ∧ objs₀ h = none ∧ s.1 h = some (.sftp session) ∧ s.2.foldl after objs₀ = s.1 ∧ Occurs initFailed s.2

/-- There is an sftp session on the session, and no other new object in use. -/
structure Sftp (objs₀ objs : Objects) (session sftp : Handle) : Prop where
  held : objs sftp = some (.sftp session)
  alone : Alone objs sftp
  sole : Sole objs₀ (Function.update objs sftp (some .freed)) session

theorem sftp_made {sftp : Handle} (sole : Sole objs₀ objs session) (new : objs sftp = none) (alone : Alone objs sftp) :
    Sftp objs₀ (Function.update objs sftp (some (.sftp session))) session sftp where
  held := by simp
  alone := alone_update alone (by simpa [Object.madeFrom] using (sole_apart sole new).1)
  sole := by
    rw [Function.update_idem]
    exact sole_update sole new

/-- The destination is closed, and then the sftp session is freed. -/
theorem close_spec {sftp dest : Handle} (on : Sftp objs₀ objs session sftp) (new : objs dest = none) (alone : Alone objs dest)
    {tr : List LibEvent} (result : Err) (kept : Kept objs₀ initFailed (Function.update objs dest (some (.file sftp)), tr)) :
    wlp libssh.traced (.call (.sftp_close dest) fun _ => .call (.sftp_free sftp) fun _ => .ret result)
      (fun _ => SftpEnd objs₀ session) (Function.update objs dest (some (.file sftp)), tr) := by
  have apart : sftp ≠ dest := by
    rintro rfl
    simp [on.held] at new
  have alone : Alone (Function.update objs dest (some (.file sftp))) dest :=
    alone_update alone (by simpa [Object.madeFrom] using apart)
  refine wlp_free kept rfl rfl (by simp [Object.kind]) alone (fun _ => rfl) fun _ tr kept => ?_
  rw [Function.update_idem] at kept ⊢
  refine wlp_free kept rfl rfl (by simp [apart, on.held, Object.kind]) (alone_update on.alone (by simp [Object.madeFrom]))
    (fun _ => rfl) fun _ tr kept => .inl ⟨?_, kept⟩
  rw [Function.update_comm apart.symm]
  exact sole_update on.sole (by simp [apart.symm, new])

theorem sftp_conf_spec (fuel : Nat) (st_size : UInt64) (buffer source_file dest_directory : Bytes)
    (sole : Sole objs₀ objs session) (kept : Kept objs₀ initFailed (objs, tr)) :
    wlp libssh.traced (sftp_conf fuel st_size buffer session source_file dest_directory)
      (fun _ => SftpEnd objs₀ session) (objs, tr) := by
  simp only [sftp_conf, perform_bind, Prog.pure_eq]
  refine wlp_other kept rfl rfl (fun _ => rfl) (fun _ => rfl) fun _ tr kept => ?_
  refine wlp_make kept ⟨by simp [uses, sole.held, Object.kind], by simp [frees]⟩ rfl (fun _ => rfl) ?_ ?_
  · rintro (_ | _) tr none kept
    · exact .inl ⟨sole, kept⟩
    · cases none
  rintro (_ | sftp) tr h o made new alone kept
  · cases made
  obtain ⟨rfl, rfl⟩ : sftp = h ∧ Object.sftp session = o := by simpa [makes] using made
  obtain ⟨other, never⟩ := sole_apart sole new
  have on := sftp_made sole new alone
  generalize Function.update objs sftp (some (.sftp session)) = objs at kept on
  have used : (objs sftp).bind Object.kind = some .sftp := by simp [on.held, Object.kind]
  refine wlp_risk kept rfl used rfl (fun _ => rfl) ?_ ?_
  · -- the sftp session is not freed
    intro rc tr failed current occurs
    rw [if_pos (by simpa [initFailed] using failed)]
    exact .inr ⟨sftp, other.symm, never, on.held, current, occurs⟩
  intro rc tr succeeded kept
  rw [if_neg (by simpa [initFailed] using succeeded)]
  refine wlp_make kept ⟨by simp [uses, used], by simp [frees]⟩ rfl (fun _ => rfl) ?_ ?_
  · rintro (_ | _) tr none kept
    · exact wlp_free kept rfl rfl used on.alone (fun _ => rfl) fun _ tr kept => .inl ⟨on.sole, kept⟩
    · cases none
  rintro (_ | dest) tr h o made new alone kept
  · cases made
  obtain ⟨rfl, rfl⟩ : dest = h ∧ Object.file sftp = o := by simpa [makes] using made
  refine wlp_other kept rfl rfl (fun _ => rfl) (fun _ => rfl) ?_
  rintro (_ | source) tr kept
  · exact close_spec on new alone _ kept
  refine wlp_other kept rfl rfl (fun _ => rfl) (fun _ => rfl) fun _ tr kept => ?_
  refine wlp_seq (copy_loop_spec source fuel _ (Function.update_self dest (some (.file sftp)) objs) kept) ?_
  rintro _ ⟨_, tr⟩ ⟨rfl, kept⟩
  exact wlp_other kept rfl rfl (fun _ => rfl) (fun _ => rfl) fun _ tr kept => close_spec on new alone _ kept

/-- A session is freed with an sftp session on it. -/
theorem forgotten_sftp {h : Handle} (other : h ≠ session) (new : objs₀ h = none) (held : objs h = some (.sftp session))
    (current : tr.foldl after objs₀ = objs) (failed : Occurs initFailed tr) (result : Err) :
    wlp libssh.traced (free_session session >>= fun _ => Prog.ret result) (fun _ => Ends objs₀ initFailed) (objs, tr) := by
  simp only [free_session, perform_bind, Prog.call_bind, Prog.ret_bind, wlp_traced_call, wlp_ret]
  refine ⟨trivial, ?_⟩
  rintro _ _ ⟨-, rfl⟩
  refine ⟨trivial, ?_⟩
  rintro _ _ ⟨-, rfl⟩
  refine forgotten_ends (h := h) (o := .sftp session) ?_ new ?_ (by simp) ?_
  · simp only [List.foldl_append, current]
    rfl
  · simpa [after, frees, makes, other] using held
  · simpa [initFailed] using failed

theorem copy_conf_spec (fuel : Nat) (st_size : UInt64) (buffer addr source_file dest_directory : Bytes) (objs : Objects) :
    wlp libssh.traced (copy_conf fuel st_size buffer addr source_file dest_directory) (fun _ => Ends objs initFailed)
      (objs, []) := by
  refine connect_spec (.copy_conf fuel st_size buffer addr source_file dest_directory) addr fun session objs₁ tr new sole kept => ?_
  have used : (objs₁ session).bind Object.kind = some .session := by simp [sole.held, Object.kind]
  have finish : ∀ {objs' tr} (result : Err), Sole objs objs' session → Kept objs initFailed (objs', tr) →
      wlp libssh.traced (free_session session >>= fun _ => Prog.ret result) (fun _ => Ends objs initFailed) (objs', tr) :=
    fun result sole kept => finish_spec (.copy_conf fuel st_size buffer addr source_file dest_directory) sole kept result
  simp only [perform_bind, Prog.pure_eq]
  refine wlp_use kept rfl used rfl (fun _ => rfl) (fun _ => rfl) fun rc tr kept => ?_
  rw [wlp_ite]
  refine ⟨fun _ => finish _ sole kept, fun _ => ?_⟩
  refine wlp_seq (sftp_conf_spec fuel st_size buffer source_file dest_directory sole kept) ?_
  rintro rc ⟨objs₂, tr⟩ (⟨sole, kept⟩ | ⟨h, other, forgotten, held, current, failed⟩)
  · rw [wlp_ite]
    exact ⟨fun _ => finish _ sole kept, fun _ => finish _ sole kept⟩
  · rw [wlp_ite]
    exact ⟨fun _ => forgotten_sftp other forgotten held current failed _, fun _ => forgotten_sftp other forgotten held current failed _⟩

end

theorem command_spec (command : Command) (objs : Objects) :
    wlp libssh.traced command.run (fun _ => Ends objs command.forgets) (objs, []) := by
  cases command with
  | start_corosync fuel addr => exact remote_command_spec _ fuel addr objs
  | stop_corosync fuel addr => exact remote_command_spec _ fuel addr objs
  | kill_conn fuel addr => exact remote_command_spec _ fuel addr objs
  | start_conn fuel addr => exact remote_command_spec _ fuel addr objs
  | copy_conf fuel st_size buffer addr source_file dest_directory =>
    exact copy_conf_spec fuel st_size buffer addr source_file dest_directory objs

/-- In a sequence of commands each is in order, and frees all that it has made, exactly
    when no start, stop, kill or bring-up has its password refused and no copy fails to
    initialise its sftp session. -/
theorem commands_clean_iff {objs objs' : Objects} {done : List (Turn Command Call Reply Objects)}
    (turns : Turns libssh Command.run objs done objs') :
    (∀ turn ∈ done, Clean turn.before turn.trace) ↔ ∀ turn ∈ done, ¬ Occurs turn.op.forgets turn.trace := by
  have each : ∀ turn ∈ done, Ends turn.before turn.op.forgets (turn.after, turn.trace) := by
    refine turns_each ?_ turns
    intro command objs tr a objs' run
    have ends := run_ret_traced (command_spec command objs) run
    exact ends
  exact forall₂_congr each

/-- A start of corosync whose password is refused. -/
def refused : Turn Command Call Reply Objects where
  op := .start_corosync 0 (ascii "11.0.0.2")
  before := fun _ => none
  trace :=
    [⟨.ssh_new, some 1⟩, ⟨.ssh_options_set 1 (.host (ascii "11.0.0.2")), 0⟩, ⟨.ssh_options_set 1 (.port 22), 0⟩,
      ⟨.ssh_options_set 1 (.user (ascii "root")), 0⟩, ⟨.ssh_connect 1, SSH_OK⟩,
      ⟨.ssh_userauth_password 1 (ascii "root"), 1⟩]
  after := Function.update (fun _ => none) 1 (some .session)

theorem refused_turns : Turns libssh Command.run (fun _ => none) [refused] refused.after := by
  refine .cons (a := ClientError.CL_SSH_AUTH_ERR.code) ?_ .nil
  refine .step ⟨?_, rfl⟩ <| .step ⟨?_, rfl⟩ <| .step ⟨?_, rfl⟩ <| .step ⟨?_, rfl⟩ <| .step ⟨?_, rfl⟩ <|
    .step ⟨?_, rfl⟩ .done
  · intro x made
    exact ⟨rfl, fun y o held => by cases held⟩
  all_goals
    intro x made
    cases made

/-- A start whose password is refused returns with its session in use. -/
theorem refused_start_keeps_session :
    ¬ ∀ (done : List (Turn Command Call Reply Objects)) (objs : Objects),
      Turns libssh Command.run (fun _ => none) done objs → ∀ turn ∈ done, Clean turn.before turn.trace := by
  intro clean
  have released := (clean _ _ refused_turns refused (by simp)).2
  have kept : refused.trace.foldl after refused.before = refused.after := rfl
  rw [kept] at released
  have freed := (released 1 (by simp [refused])).2
  simp [refused] at freed

theorem commands_clean_iff_refused :
    (∀ turn ∈ [refused], Clean turn.before turn.trace) ↔
      ∀ turn ∈ [refused], ¬ Occurs turn.op.forgets turn.trace :=
  commands_clean_iff refused_turns

end CorosyncClient.Connections
