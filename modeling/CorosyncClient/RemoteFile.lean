import CorosyncClient.SftpManager
import Mathlib.Tactic.Simps.Basic

/-!
What `copy_conf` does to the destination file when it fails. The file is emptied when it
is opened, and only then is the local source opened: an error leaves the destination as
it was, except where the source cannot be opened.
-/
namespace CorosyncClient.RemoteFile
open CLib Interaction
set_option linter.unusedSimpArgs false

/-- The content of the file `dest` on the remote machine, `none` where there is none.
    Every other outcome of every call is possible. A write appends some part of its buffer. -/
@[simps] def remoteFile (dest : Bytes) : LibWorld (Option Bytes) where
  permits _ _ := True
  answers content c r content' :=
    match c with
    | .sftp_open _ file flags =>
      (r = none ∧ content' = content) ∨
        (r.isSome ∧ content' =
          if file = dest then some (if flags.O_TRUNC then [] else content.getD []) else content)
    | .sftp_write _ buf => ∃ n ≤ buf.length, content' = content.map (· ++ buf.take n)
    | _ => content' = content

/-- A local file could not be opened. -/
def openFailed : LibEvent → Bool
  | ⟨.fopen _, r⟩ => r.isNone
  | _ => false

/-- In some call of the trace a local file could not be opened. -/
abbrev SourceMissing (tr : List LibEvent) : Prop := Occurs openFailed tr

/-- The three ways in which a copy to a file with content `content` ends. -/
def CopyEnd (content : Option Bytes) (result : Err) (s : Option Bytes × List LibEvent) : Prop :=
  (result = CS_OK ∧ ¬ SourceMissing s.2) ∨
    (result ≠ CS_OK ∧ s.1 = content ∧ ¬ SourceMissing s.2) ∨
    (result ≠ CS_OK ∧ s.1 = some [] ∧ SourceMissing s.2)

theorem copyEnd_later {content after : Option Bytes} {result result' : Err} {tr later : List LibEvent}
    (ends : CopyEnd content result (after, tr)) (same : result = CS_OK ↔ result' = CS_OK)
    (found : ¬ SourceMissing later) : CopyEnd content result' (after, tr ++ later) := by
  simpa [CopyEnd, found, ← same] using ends

section
variable (dest : Bytes)

/-- The loop opens no local file. -/
theorem copy_loop_spec (source file : Handle) (fuel : Nat) (start : CopyState) (content : Option Bytes)
    {tr : List LibEvent} (found : ¬ SourceMissing tr) :
    wlp (remoteFile dest).traced (loop (copy_round source file) fuel start) (fun _ t => ¬ SourceMissing t.2)
      (content, tr) := by
  refine wlp_loop (fun _ t => ¬ SourceMissing t.2) ?_ fuel start found
  rintro b ⟨content, tr⟩ found
  simp only [copy_round, wlp_ite, perform_bind, Prog.pure_eq, wlp_traced_call]
  constructor
  · intro last
    refine ⟨trivial, fun got content' _ => ⟨trivial, fun rc content'' _ => ?_⟩⟩
    simpa [openFailed] using found
  · intro more
    refine ⟨trivial, fun got content' _ => ⟨trivial, fun rc content'' _ => ?_⟩⟩
    simpa [openFailed] using found

/-- Before the destination is open nothing has changed; then only the open of the
    source can fail. -/
theorem sftp_conf_spec (fuel : Nat) (st_size : UInt64) (buffer : Bytes) (session : Handle) (source_file : Bytes)
    (content : Option Bytes) {tr : List LibEvent} (found : ¬ SourceMissing tr) :
    wlp (remoteFile dest).traced (sftp_conf fuel st_size buffer session source_file dest) (CopyEnd content)
      (content, tr) := by
  simp only [sftp_conf, perform_bind, Prog.pure_eq, wlp_traced_call, remoteFile_permits, remoteFile_answers,
    true_and, forall_eq]
  rintro ⟨rc, size⟩ (_ | sftp)
  · exact .inr (.inl ⟨by simp, rfl, by simpa [openFailed] using found⟩)
  simp only [wlp_ite, wlp_traced_call, wlp_ret, remoteFile_permits, remoteFile_answers, true_and, forall_eq]
  refine fun rc => ⟨fun _ => .inr (.inl ⟨by simp, rfl, by simpa [openFailed] using found⟩), fun _ => ?_⟩
  rintro (_ | file) content' (⟨opened, same⟩ | ⟨opened, same⟩)
  · subst same
    simp only [wlp_traced_call, wlp_ret, remoteFile_permits, remoteFile_answers, true_and, forall_eq]
    exact fun _ => .inr (.inl ⟨by simp, rfl, by simpa [openFailed] using found⟩)
  · cases opened
  · cases opened
  have emptied : content' = some [] := by simpa using same
  subst emptied
  simp only [wlp_traced_call, remoteFile_permits, remoteFile_answers, true_and, forall_eq]
  rintro (_ | source)
  · -- the source is missing, and the destination is empty by now
    simp only [wlp_traced_call, wlp_ret, remoteFile_permits, remoteFile_answers, true_and, forall_eq]
    exact fun _ _ => .inr (.inr ⟨by simp, rfl, by simp [openFailed]⟩)
  simp only [wlp_traced_call, remoteFile_permits, remoteFile_answers, true_and, forall_eq]
  intro _
  refine wlp_seq (copy_loop_spec dest source file fuel _ _ (by simpa [openFailed] using found)) ?_
  rintro _ ⟨content', tr'⟩ found
  simp only [wlp_traced_call, wlp_ret, remoteFile_permits, remoteFile_answers, true_and, forall_eq]
  exact fun _ _ _ => .inl ⟨rfl, by simpa [openFailed] using found⟩

theorem copy_conf_spec (fuel : Nat) (st_size : UInt64) (buffer addr source_file : Bytes) (content : Option Bytes) :
    wlp (remoteFile dest).traced (copy_conf fuel st_size buffer addr source_file dest) (CopyEnd content)
      (content, []) := by
  simp only [copy_conf, free_session, perform_bind, Prog.pure_eq, wlp_traced_call, remoteFile_permits,
    remoteFile_answers, true_and, forall_eq]
  rintro (_ | session)
  · exact .inr (.inl ⟨by simp, rfl, by simp [openFailed]⟩)
  simp only [wlp_ite, perform_bind, Prog.call_bind, wlp_traced_call, wlp_ret, remoteFile_permits,
    remoteFile_answers, true_and, forall_eq]
  refine fun _ _ _ rc => ⟨fun _ _ _ => .inr (.inl ⟨by simp, rfl, by simp [openFailed]⟩), fun _ rc => ?_⟩
  refine ⟨fun _ _ _ => .inr (.inl ⟨by simp, rfl, by simp [openFailed]⟩), fun _ => ?_⟩
  refine wlp_seq (sftp_conf_spec dest fuel st_size buffer session source_file content (by simp [openFailed])) ?_
  rintro result ⟨after, tr⟩ ends
  simp only [wlp_ite, perform_bind, Prog.call_bind, wlp_traced_call, wlp_ret, remoteFile_permits,
    remoteFile_answers, true_and, forall_eq, List.append_assoc]
  refine ⟨fun failed _ _ => copyEnd_later ends (by simpa using failed) (by simp [openFailed]), fun succeeded _ _ => ?_⟩
  exact copyEnd_later ends (by simpa using succeeded) (by simp [openFailed])

end

/-- A failed `copy_conf` leaves the destination as it was exactly when no local file
    was missing, or the destination was empty already. -/
theorem copy_conf_keeps_iff {dest addr source_file buffer : Bytes} {st_size : UInt64} {fuel : Nat}
    {content after : Option Bytes} {tr : List LibEvent} {result : Err}
    (run : Run (remoteFile dest) (copy_conf fuel st_size buffer addr source_file dest) content tr (.ret result) after) :
    (result ≠ CS_OK → after = content) ↔ (¬ SourceMissing tr ∨ content = some []) := by
  rcases run_ret_traced (copy_conf_spec dest fuel st_size buffer addr source_file content) run with
    ⟨ok, found⟩ | ⟨failed, same, found⟩ | ⟨failed, emptied, missing⟩
  · simp [ok, found]
  · exact ⟨fun _ => .inl found, fun _ _ => same⟩
  · have empty : after = some [] := emptied
    constructor
    · intro kept
      exact .inr ((kept failed).symm.trans empty)
    · rintro (found | wasEmpty) _
      · exact absurd missing found
      · exact empty.trans wasEmpty.symm

/-- Every call succeeds, but there is no local file. -/
def noSource (dest : Bytes) : Handler Call Reply (Option Bytes) := fun content c =>
  match c with
  | .fopen _ => (none, content)
  | .sftp_open _ file flags =>
    (some 1, if file = dest then some (if flags.O_TRUNC then [] else content.getD []) else content)
  | .sftp_write _ buf => (buf.length, content.map (· ++ buf))
  | c => (Reply.success c, content)

theorem noSource_answers (dest : Bytes) (content : Option Bytes) (c : Call) :
    (remoteFile dest).answers content c (noSource dest content c).1 (noSource dest content c).2 := by
  cases c
  case sftp_open => exact .inr ⟨rfl, rfl⟩
  case sftp_write h buf => exact ⟨buf.length, le_refl _, by simp [noSource]⟩
  all_goals rfl

/-- The configuration is copied from a file whose name is mistyped. -/
def mistyped : Client Err :=
  copy_conf 1 0 [] (ascii "11.0.0.2") (ascii "../conf_templates/vm_defualt.conf") corosyncConf

theorem mistyped_run :
    Run (remoteFile corosyncConf) mistyped (some (ascii "totem"))
      (transcript (noSource corosyncConf) mistyped (some (ascii "totem"))) (.ret ClientError.CL_SFTP_ERR.code)
      (some []) :=
  exec_run (fun _ => True) (fun s c _ => ⟨noSource_answers corosyncConf s c, trivial⟩) trivial (by decide)

/-- A mistyped name of the source empties the destination, and is reported as a failure. -/
theorem missing_source_empties_destination :
    ¬ ∀ (tr : List LibEvent) (result : Err) (after : Option Bytes),
      Run (remoteFile corosyncConf) mistyped (some (ascii "totem")) tr (.ret result) after →
      result ≠ CS_OK → after = some (ascii "totem") := by
  intro atomic
  exact absurd (atomic _ _ _ mistyped_run (by decide)) (by decide)

theorem copy_conf_keeps_iff_mistyped :
    (ClientError.CL_SFTP_ERR.code ≠ CS_OK → some [] = some (ascii "totem")) ↔
      (¬ SourceMissing (transcript (noSource corosyncConf) mistyped (some (ascii "totem"))) ∨
        some (ascii "totem") = some []) :=
  copy_conf_keeps_iff mistyped_run

end CorosyncClient.RemoteFile
