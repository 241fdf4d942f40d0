import CorosyncClient.SftpManager
import Mathlib.Tactic.Simps.Basic

/-!
The copy loop of `sftp_conf`: what arrives when every call succeeds, and what is reported
when reads and writes fall short.
-/
namespace CorosyncClient.ConfCopy
open CLib Interaction
set_option linter.unusedSimpArgs false

/-- A transfer: the position in the source, the content of the destination (`none` where
    there is none), the numbers of reads of the one and of writes to the other, and the
    handles under which they are open. -/
structure Transfer where
  pos : Nat
  content : Option Bytes
  reads : Nat
  writes : Nat
  source : Option Handle
  dest : Option Handle

namespace Transfer

def read (t : Transfer) (got : Bytes) : Transfer := { t with pos := t.pos + got.length, reads := t.reads + 1 }

def write (t : Transfer) (sent : Bytes) : Transfer :=
  { t with content := t.content.map (· ++ sent), writes := t.writes + 1 }

/-- The destination is opened. -/
def opened (t : Transfer) (flags : OpenFlags) (handle : Handle) : Transfer :=
  { t with content := some (if flags.O_TRUNC then [] else t.content.getD []), dest := some handle }

def closedSource (t : Transfer) (handle : Handle) : Transfer :=
  { t with source := if t.source = some handle then none else t.source }

def closedDest (t : Transfer) (handle : Handle) : Transfer :=
  { t with dest := if t.dest = some handle then none else t.dest }

@[simp] theorem read_source (t : Transfer) (got : Bytes) : (t.read got).source = t.source := rfl
@[simp] theorem read_dest (t : Transfer) (got : Bytes) : (t.read got).dest = t.dest := rfl
@[simp] theorem write_source (t : Transfer) (sent : Bytes) : (t.write sent).source = t.source := rfl
@[simp] theorem write_dest (t : Transfer) (sent : Bytes) : (t.write sent).dest = t.dest := rfl

end Transfer

/-- The source at `src` holds `file` while it is read, `status` is what `stat` has told of
    it. A read may be short, a write may be short or fail, and every open may fail. Other
    files, and what is done with other handles, leave source and destination as they are. -/
@[simps] def link (status : Int × UInt64) (file src dest : Bytes) : LibWorld Transfer where
  permits _ _ := True
  answers t c r t' :=
    match c with
    | .stat path => (path = src → r = status) ∧ t' = t
    | .sftp_open _ path flags =>
      (r = none ∧ t' = t) ∨ ∃ handle, r = some handle ∧ t' = if path = dest then t.opened flags handle else t
    | .fopen path => t' = if path = src then { t with pos := 0, source := r } else t
    | .fseek handle offset => t' = if t.source = some handle ∧ r = 0 then { t with pos := offset } else t
    | .fread handle size =>
      if t.source = some handle then r <+: file.drop t.pos ∧ r.length ≤ size ∧ t' = t.read r else t' = t
    | .sftp_write handle buf =>
      if t.dest = some handle then ∃ n ≤ buf.length, (0 ≤ r → r = n) ∧ t' = t.write (buf.take n) else t' = t
    | .fclose handle => t' = t.closedSource handle
    | .sftp_close handle => t' = t.closedDest handle
    | _ => t' = t

/-- A full read moves the copied part of the file on. -/
theorem take_full {file got : Bytes} {pos size : Nat} (part : got <+: file.drop pos) (full : got.length = size)
    (inside : pos ≤ file.length) : pos + size ≤ file.length ∧ file.take pos ++ got = file.take (pos + size) := by
  subst full
  have bound := part.length_le
  rw [List.length_drop] at bound
  refine ⟨by omega, ?_⟩
  rw [List.take_add, ← List.prefix_iff_eq_take.mp part]

@[simp] theorem take_fill_buffer (buffer got : Bytes) : (fill_buffer buffer got).take got.length = got := by
  simp [fill_buffer]

/-- After a full read and a full write the destination holds the file up to the position. -/
theorem transfer_full {t : Transfer} {file got buffer : Bytes} {size n : Nat} {rc : Int}
    (content : t.content = some (file.take t.pos)) (inside : t.pos ≤ file.length) (part : got <+: file.drop t.pos)
    (full : got.length = size) (written : rc = ((fill_buffer buffer got).take size).length) (sent : 0 ≤ rc → rc = n) :
    ((t.read got).write (((fill_buffer buffer got).take size).take n)).content = some (file.take (t.pos + size)) ∧
      t.pos + got.length = t.pos + size ∧ t.pos + size ≤ file.length := by
  obtain ⟨bound, joined⟩ := take_full part full inside
  subst full
  rw [take_fill_buffer] at written ⊢
  have all : n = got.length := by omega
  subst all
  exact ⟨by simp [Transfer.write, Transfer.read, content, joined], rfl, bound⟩

/-! ### Every outcome -/

/-- An open, or the start of the sftp session, has failed. -/
def notOpened : LibEvent → Bool
  | ⟨.sftp_new _, r⟩ => r.isNone
  | ⟨.sftp_init _, rc⟩ => decide (rc < 0)
  | ⟨.sftp_open _ _ _, r⟩ => r.isNone
  | ⟨.fopen _, r⟩ => r.isNone
  | _ => false

/-- A read or a write is short, or has failed. -/
def short : LibEvent → Bool
  | ⟨.fread _ size, got⟩ => got.length != size
  | ⟨.sftp_write _ buf, r⟩ => r != buf.length
  | _ => false

abbrev NotOpened (tr : List LibEvent) : Prop := Occurs notOpened tr
abbrev Short (tr : List LibEvent) : Prop := Occurs short tr

theorem le_conf_size {conf_size : UInt64} (more : ¬ 256 > conf_size) : 256 ≤ conf_size.toNat := by
  rw [gt_iff_lt, UInt64.lt_iff_toNat_lt, not_lt] at more
  exact more

theorem sub_conf_size {conf_size : UInt64} (enough : 256 ≤ conf_size.toNat) :
    (conf_size - 256).toNat = conf_size.toNat - 256 :=
  UInt64.toNat_sub_of_le conf_size 256 (UInt64.le_iff_toNat_le.mpr enough)

section
variable {status : Int × UInt64} {file source_file dest_directory : Bytes}

/-- The state of the loop: as long as nothing was short the destination holds what has
    been read, and the rest of `size` is to come. -/
def Copying (file : Bytes) (source dest : Handle) (size : Nat) (b : CopyState) (s : Transfer × List LibEvent) : Prop :=
  (s.1.source = some source ∧ s.1.dest = some dest) ∧ ¬ NotOpened s.2 ∧
    (¬ Short s.2 → s.1.content = some (file.take s.1.pos) ∧ s.1.pos ≤ file.length ∧ s.1.pos + b.conf_size.toNat = size)

/-- What the loop leaves. -/
def Copied (file : Bytes) (size : Nat) (s : Transfer × List LibEvent) : Prop :=
  ¬ NotOpened s.2 ∧ (¬ Short s.2 → s.1.content = some (file.take size) ∧ size ≤ file.length)

theorem copy_round_spec (source dest : Handle) {size : Nat} {b : CopyState} {s : Transfer × List LibEvent}
    (copying : Copying file source dest size b s) :
    wlp (link status file source_file dest_directory).traced (copy_round source dest b)
      (fun out t => Sum.elim (fun again => Copying file source dest size again t) (fun _ => Copied file size t) out) s := by
  obtain ⟨t, tr⟩ := s
  obtain ⟨⟨reads, writes⟩, opened, soFar⟩ := copying
  have reads : t.source = some source := reads
  have writes : t.dest = some dest := writes
  simp only [copy_round, wlp_ite, perform_bind, Prog.pure_eq, wlp_traced_call, wlp_ret, link_permits, link_answers,
    true_and, reads, if_true]
  constructor
  · rintro last got _ ⟨part, -, rfl⟩
    simp only [Transfer.read_dest, writes, if_true]
    rintro rc _ ⟨n, -, sent, rfl⟩
    refine ⟨by simpa [notOpened] using opened, fun whole => ?_⟩
    simp only [occurs_append, occurs_cons, occurs_nil, short, bne_iff_ne, or_false, not_or, not_not] at whole
    obtain ⟨⟨whole, full⟩, written⟩ := whole
    obtain ⟨content, inside, rest⟩ := soFar whole
    obtain ⟨content', -, inside'⟩ := transfer_full content inside part full written sent
    rw [rest] at content' inside'
    exact ⟨content', inside'⟩
  · rintro more got _ ⟨part, -, rfl⟩
    simp only [Transfer.read_dest, writes, if_true]
    rintro rc _ ⟨n, -, sent, rfl⟩
    refine ⟨⟨reads, writes⟩, by simpa [notOpened] using opened, fun whole => ?_⟩
    simp only [occurs_append, occurs_cons, occurs_nil, short, bne_iff_ne, or_false, not_or, not_not] at whole
    obtain ⟨⟨whole, full⟩, written⟩ := whole
    obtain ⟨content, inside, rest⟩ := soFar whole
    have rest : t.pos + b.conf_size.toNat = size := rest
    obtain ⟨content', moved, inside'⟩ := transfer_full content inside part full written sent
    have enough := le_conf_size more
    have pos : ((t.read got).write (((fill_buffer b.buffer got).take 256).take n)).pos = t.pos + 256 := moved
    refine ⟨pos ▸ content', pos ▸ inside', ?_⟩
    rw [pos, sub_conf_size enough]
    omega

theorem sftp_conf_outcomes (fuel : Nat) (st_size : UInt64) (buffer : Bytes) (session : Handle) (start : Transfer) :
    wlp (link status file source_file dest_directory).traced (sftp_conf fuel st_size buffer session source_file dest_directory)
      (fun result s => (result = CS_OK ∧ Copied file (if status.1 = 0 then status.2 else st_size).toNat s) ∨
        (result ≠ CS_OK ∧ NotOpened s.2)) (start, []) := by
  simp only [sftp_conf, perform_bind, Prog.pure_eq, wlp_traced_call, link_permits, link_answers, true_and, forall_const]
  rintro status _ ⟨rfl, rfl⟩
  generalize (if status.1 = 0 then status.2 else st_size) = conf_size
  rintro (_ | sftp) _ rfl
  · exact .inr ⟨by simp, by simp [notOpened]⟩
  simp only [wlp_ite, wlp_traced_call, wlp_ret, link_permits, link_answers, true_and]
  rintro rc _ rfl
  refine ⟨fun failed => .inr ⟨by simp, by simp [notOpened, failed]⟩, fun succeeded => ?_⟩
  rintro _ _ (⟨rfl, rfl⟩ | ⟨dest, rfl, rfl⟩)
  · simp only [wlp_traced_call, wlp_ret, link_permits, link_answers, true_and]
    exact fun _ _ _ => .inr ⟨by simp, by simp [notOpened]⟩
  simp only [wlp_traced_call, link_permits, link_answers, true_and, if_true]
  rintro (_ | source) _ rfl
  · simp only [wlp_traced_call, wlp_ret, link_permits, link_answers, true_and]
    exact fun _ _ _ _ _ _ => .inr ⟨by simp, by simp [notOpened]⟩
  simp only [wlp_traced_call, link_permits, link_answers, true_and]
  rintro rc' _ rfl
  refine wlp_seq (wlp_loop (Copying file source dest conf_size.toNat) (Q := fun _ => Copied file conf_size.toNat)
    (fun b s copying => copy_round_spec source dest copying) fuel _ ?_) ?_
  · refine ⟨?_, by simpa [notOpened] using succeeded, fun _ => ?_⟩
    · split <;> exact ⟨rfl, rfl⟩
    · simp [Transfer.opened]
  · rintro _ ⟨t, tr⟩ ⟨opened, copied⟩
    simp only [wlp_traced_call, wlp_ret, link_permits, link_answers, true_and]
    rintro _ _ rfl _ _ rfl _ _ rfl
    exact .inl ⟨by simpa [notOpened] using opened, fun whole => copied (by simpa [short] using whole)⟩

end

/-- A success means that the destination holds the source as read, with nothing short,
    exactly where something could not be opened, or nothing was short and the size that
    was used is that of the source as read. -/
theorem sftp_conf_honest_iff {status : Int × UInt64} {file source_file dest_directory buffer : Bytes} {st_size : UInt64}
    {session : Handle} {fuel : Nat} {start t : Transfer} {tr : List LibEvent} {result : Err}
    (run : Run (link status file source_file dest_directory) (sftp_conf fuel st_size buffer session source_file dest_directory) start
      tr (.ret result) t) :
    (result = CS_OK → t.content = some file ∧ ¬ Short tr) ↔
      NotOpened tr ∨ (¬ Short tr ∧ (if status.1 = 0 then status.2 else st_size).toNat = file.length) := by
  have ends := run_ret_traced (sftp_conf_outcomes fuel st_size buffer session start) run
  generalize (if status.1 = 0 then status.2 else st_size).toNat = size at ends ⊢
  rcases ends with ⟨ok, opened, copied⟩ | ⟨failed, notOpened⟩
  · constructor
    · intro honest
      obtain ⟨content, whole⟩ := honest ok
      obtain ⟨copy, inside⟩ := copied whole
      have same : some file = some (file.take size) := content.symm.trans copy
      have lengths := congrArg List.length (Option.some.inj same)
      rw [List.length_take] at lengths
      exact .inr ⟨whole, by omega⟩
    · rintro (closed | ⟨whole, same⟩) _
      · exact absurd closed opened
      · have copy : t.content = some (file.take size) := (copied whole).1
        exact ⟨by rw [copy, List.take_of_length_le (by omega)], whole⟩
  · exact iff_of_true (fun ok => absurd ok failed) (.inl notOpened)

/-- The source had three bytes when its size was asked for, and has two when it is read.
    The third byte sent is what the buffer holds. -/
def shrunk : List LibEvent :=
  [⟨.stat (ascii "s"), (0, 3)⟩, ⟨.sftp_new 1, some 2⟩, ⟨.sftp_init 2, 0⟩,
    ⟨.sftp_open 2 (ascii "c") ⟨true, true, true⟩, some 3⟩, ⟨.fopen (ascii "s"), some 4⟩, ⟨.fseek 4 0, 0⟩,
    ⟨.fread 4 3, ascii "ab"⟩, ⟨.sftp_write 3 (ascii "abz"), 3⟩, ⟨.fclose 4, 0⟩, ⟨.sftp_close 3, 0⟩, ⟨.sftp_free 2, ()⟩]

theorem shrunk_run :
    Run (link (0, 3) (ascii "ab") (ascii "s") (ascii "c")) (sftp_conf 1 0 (ascii "xyz") 1 (ascii "s") (ascii "c"))
      ⟨0, none, 0, 0, none, none⟩ shrunk (.ret CS_OK) ⟨2, some (ascii "abz"), 1, 1, none, none⟩ := by
  refine .step ⟨fun _ => rfl, rfl⟩ <| .step rfl <| .step rfl <| .step (.inr ⟨3, rfl, rfl⟩) <| .step rfl <| .step rfl <| ?_
  refine .step ⟨by decide, by decide, rfl⟩ <| .step ⟨3, by decide, fun _ => rfl, rfl⟩ <| .step rfl <| .step rfl <| ?_
  exact .step rfl .done

/-- A short read is reported as success, with a stale byte in the destination. -/
theorem shrunk_source_reported_copied :
    ¬ ∀ (tr : List LibEvent) (result : Err) (t : Transfer),
      Run (link (0, 3) (ascii "ab") (ascii "s") (ascii "c")) (sftp_conf 1 0 (ascii "xyz") 1 (ascii "s") (ascii "c"))
        ⟨0, none, 0, 0, none, none⟩ tr (.ret result) t → result = CS_OK → t.content = some (ascii "ab") := by
  intro honest
  exact absurd (honest _ _ _ shrunk_run rfl) (by decide)

theorem sftp_conf_honest_iff_shrunk :
    (CS_OK = CS_OK → some (ascii "abz") = some (ascii "ab") ∧ ¬ Short shrunk) ↔
      NotOpened shrunk ∨ (¬ Short shrunk ∧ (3 : UInt64).toNat = (ascii "ab").length) :=
  sftp_conf_honest_iff shrunk_run

/-! ### Every call succeeds -/

/-- A file whose length an `off_t` can hold. -/
structure SourceFile where
  bytes : Bytes
  short : bytes.length < 2 ^ 63

/-- The `st_size` of the file. -/
def SourceFile.size (file : SourceFile) : UInt64 := UInt64.ofNat file.bytes.length

theorem SourceFile.size_toNat (file : SourceFile) : file.size.toNat = file.bytes.length := by
  have bound := file.short
  rw [SourceFile.size, UInt64.toNat_ofNat']
  omega

/-- The call has done all that it was asked to do. -/
def InFull : (c : Call) → Reply c → Prop
  | .sftp_new _, r => r.isSome
  | .sftp_init _, rc => 0 ≤ rc
  | .sftp_open _ _ _, r => r.isSome
  | .fopen _, r => r.isSome
  | .fseek _ _, rc => rc = 0
  | .fread _ size, got => got.length = size
  | .sftp_write _ buf, rc => rc = buf.length
  | _, _ => True

/-- A link over which every call succeeds. Reads must be of the source, and not past its
    end, and writes must be to the destination. -/
@[simps] def goodLink (file : SourceFile) (src dest : Bytes) : LibWorld Transfer where
  permits t c :=
    match c with
    | .fread handle size => t.source = some handle ∧ t.pos + size ≤ file.bytes.length
    | .sftp_write handle _ => t.dest = some handle
    | _ => True
  answers t c r t' := InFull c r ∧ (link (0, file.size) file.bytes src dest).answers t c r t'

theorem goodLink_live (file : SourceFile) (src dest : Bytes) (t : Transfer) (c : Call)
    (permitted : (goodLink file src dest).permits t c) : ∃ r t', (goodLink file src dest).answers t c r t' := by
  cases c
  case stat => exact ⟨(0, file.size), t, trivial, fun _ => rfl, rfl⟩
  case sftp_new => exact ⟨some 1, t, rfl, rfl⟩
  case sftp_init => exact ⟨(0 : Int), t, Int.le_refl 0, rfl⟩
  case sftp_open => exact ⟨some 1, _, rfl, .inr ⟨1, rfl, rfl⟩⟩
  case fopen => exact ⟨some 1, _, rfl, rfl⟩
  case fseek => exact ⟨0, _, rfl, rfl⟩
  case fread h size =>
    obtain ⟨source, inside⟩ : t.source = some h ∧ t.pos + size ≤ file.bytes.length := permitted
    have full : ((file.bytes.drop t.pos).take size).length = size := by
      rw [List.length_take, List.length_drop]
      omega
    refine ⟨(file.bytes.drop t.pos).take size, t.read ((file.bytes.drop t.pos).take size), full, ?_⟩
    simp only [link_answers, source, if_true]
    exact ⟨List.take_prefix _ _, full.le, trivial⟩
  case sftp_write h buf =>
    have dest : t.dest = some h := permitted
    refine ⟨buf.length, t.write (buf.take buf.length), rfl, ?_⟩
    simp only [link_answers, dest, if_true]
    exact ⟨buf.length, le_refl _, fun _ => rfl, rfl⟩
  case fclose => exact ⟨Reply.success _, _, trivial, rfl⟩
  case sftp_close => exact ⟨Reply.success _, _, trivial, rfl⟩
  all_goals exact ⟨Reply.success _, t, trivial, rfl⟩

section
variable (file : SourceFile) (source_file dest_directory : Bytes)

/-- The state of the loop after some rounds. -/
structure Progress (file : SourceFile) (source dest : Handle) (b : CopyState) (t : Transfer) : Prop where
  source : t.source = some source
  dest : t.dest = some dest
  content : t.content = some (file.bytes.take t.pos)
  reads : t.pos = 256 * t.reads
  writes : t.writes = t.reads
  rest : t.pos + b.conf_size.toNat = file.bytes.length

/-- What the last round leaves. -/
structure Complete (file : SourceFile) (t : Transfer) : Prop where
  content : t.content = some file.bytes
  reads : t.reads = file.bytes.length / 256 + 1
  writes : t.writes = file.bytes.length / 256 + 1

theorem copy_round_full (source dest : Handle) {b : CopyState} {t : Transfer} (progress : Progress file source dest b t) :
    wp (goodLink file source_file dest_directory) (copy_round source dest b)
      (fun out t' => Sum.elim (fun again => Progress file source dest again t' ∧ t'.reads = t.reads + 1) (fun _ => Complete file t') out)
      t := by
  obtain ⟨reading, writing, content, reads, writes, rest⟩ := progress
  have inside : t.pos ≤ file.bytes.length := by omega
  simp only [copy_round, wp_ite, perform_bind, Prog.pure_eq, wp_call, wp_ret, goodLink_permits, goodLink_answers,
    link_answers, InFull, true_and, reading, if_true]
  constructor
  · intro last
    have small : b.conf_size.toNat < 256 := last
    refine ⟨by omega, ?_⟩
    rintro got _ ⟨full, part, -, rfl⟩
    simp only [Transfer.read_dest, writing, if_true, true_and]
    rintro rc _ ⟨written, n, -, sent, rfl⟩
    obtain ⟨content', -, -⟩ := transfer_full content inside part full written sent
    rw [rest, List.take_length] at content'
    exact ⟨content', by simp only [Transfer.write, Transfer.read]; omega, by simp only [Transfer.write, Transfer.read]; omega⟩
  · intro more
    have enough := le_conf_size more
    refine ⟨by omega, ?_⟩
    rintro got _ ⟨full, part, -, rfl⟩
    simp only [Transfer.read_dest, writing, if_true, true_and]
    rintro rc _ ⟨written, n, -, sent, rfl⟩
    obtain ⟨content', moved, -⟩ := transfer_full content inside part full written sent
    have pos : ((t.read got).write (((fill_buffer b.buffer got).take 256).take n)).pos = t.pos + 256 := moved
    refine ⟨⟨reading, writing, pos ▸ content', ?_, congrArg (· + 1) writes, ?_⟩, rfl⟩
    · rw [pos, reads]
      rfl
    · rw [pos, sub_conf_size enough]
      omega

theorem copy_loop_full (source dest : Handle) (extra : Nat) (buffer : Bytes) :
    wp (goodLink file source_file dest_directory)
      (loop (copy_round source dest) (file.bytes.length / 256 + 1 + extra) { conf_size := file.size, buffer := buffer })
      (fun _ => Complete file) ⟨0, some [], 0, 0, some source, some dest⟩ := by
  refine wp_loop (Progress file source dest) (fun t => file.bytes.length / 256 - t.reads) ?_ (by simp only; omega) ?_
  · intro b t progress
    refine wp_mono (copy_round_full file source_file dest_directory source dest progress) ?_
    rintro (again | _) t' ends
    · obtain ⟨progress', next⟩ := ends
      have reads := progress'.reads
      have rest := progress'.rest
      exact ⟨progress', by omega⟩
    · exact ends
  · exact ⟨rfl, rfl, rfl, rfl, rfl, by simp [file.size_toNat]⟩

theorem sftp_conf_full (st_size : UInt64) (buffer : Bytes) (session : Handle) (content : Option Bytes) (extra : Nat) :
    wp (goodLink file source_file dest_directory)
      (sftp_conf (file.bytes.length / 256 + 1 + extra) st_size buffer session source_file dest_directory)
      (fun result t => result = CS_OK ∧ Complete file t) ⟨0, content, 0, 0, none, none⟩ := by
  simp only [sftp_conf, perform_bind, Prog.pure_eq, wp_call, goodLink_permits, goodLink_answers, link_answers, InFull,
    true_and, forall_const]
  rintro _ _ ⟨rfl, rfl⟩ (_ | sftp) _ ⟨made, rfl⟩
  · cases made
  simp only [wp_ite, wp_call, wp_ret, goodLink_permits, goodLink_answers, link_answers, InFull, true_and]
  rintro rc _ ⟨good, rfl⟩
  refine ⟨fun failed => absurd failed (Int.not_lt.mpr good), fun _ => ?_⟩
  rintro _ _ ⟨made, ⟨rfl, -⟩ | ⟨dest, rfl, rfl⟩⟩
  · cases made
  simp only [wp_call, goodLink_permits, goodLink_answers, link_answers, InFull, true_and, if_true]
  rintro (_ | source) _ ⟨made, rfl⟩
  · cases made
  simp only [wp_call, goodLink_permits, goodLink_answers, link_answers, InFull, true_and, Transfer.opened]
  rintro _ _ ⟨rfl, rfl⟩
  refine wp_seq (copy_loop_full file source_file dest_directory source dest extra buffer) ?_
  intro _ t complete
  simp only [wp_call, wp_ret, goodLink_permits, goodLink_answers, link_answers, InFull, true_and]
  rintro _ _ rfl _ _ rfl _ _ rfl
  exact ⟨complete.content, complete.reads, complete.writes⟩

/-- `conf_size` is the part of the file that the rounds have left. -/
theorem conf_size_falls {source dest : Handle} {buffer : Bytes} {j : Nat} {b : CopyState} {t : Transfer}
    (rounds : Rounds (goodLink file source_file dest_directory) (copy_round source dest)
      { conf_size := file.size, buffer := buffer } ⟨0, some [], 0, 0, some source, some dest⟩ j b t) :
    b.conf_size.toNat + 256 * j = file.bytes.length := by
  have progress : Progress file source dest b t ∧ t.reads = j := by
    refine rounds_invariant (fun j b t => Progress file source dest b t ∧ t.reads = j) ?_ rounds
      ⟨⟨rfl, rfl, rfl, rfl, rfl, by simp [file.size_toNat]⟩, rfl⟩
    rintro j b t ⟨progress, rfl⟩
    refine wlp_mono (wlp_of_wp (copy_round_full file source_file dest_directory source dest progress)) ?_
    rintro (again | _) t' ends
    · exact ends
    · trivial
  obtain ⟨progress, rfl⟩ := progress
  have reads := progress.reads
  have rest := progress.rest
  omega

end

/-- Where every call succeeds, `sftp_conf` reads the source within its length, writes to the
    destination alone, and returns `CS_OK` after `n / 256 + 1` rounds, for a file of `n`
    bytes, with the file in the destination. Every round but the last takes 256 from a
    `conf_size` that is not below it. -/
theorem sftp_conf_copies (file : SourceFile) (st_size : UInt64) (buffer source_file dest_directory : Bytes)
    (session : Handle) (content : Option Bytes) (extra : Nat) :
    Returns (goodLink file source_file dest_directory)
        (sftp_conf (file.bytes.length / 256 + 1 + extra) st_size buffer session source_file dest_directory)
        ⟨0, content, 0, 0, none, none⟩
        (fun result t => result = CS_OK ∧ t.content = some file.bytes ∧ t.reads = file.bytes.length / 256 + 1 ∧
          t.writes = file.bytes.length / 256 + 1) ∧
      ∀ (source dest : Handle) (j : Nat) (b : CopyState) (t : Transfer),
        Rounds (goodLink file source_file dest_directory) (copy_round source dest) { conf_size := file.size, buffer := buffer }
          ⟨0, some [], 0, 0, some source, some dest⟩ j b t → b.conf_size.toNat + 256 * j = file.bytes.length := by
  constructor
  · refine returns_of_wp (goodLink_live file source_file dest_directory) ?_
    refine wp_mono (sftp_conf_full file source_file dest_directory st_size buffer session content extra) ?_
    rintro result t ⟨ok, complete⟩
    exact ⟨ok, complete.content, complete.reads, complete.writes⟩
  · intro source dest j b t rounds
    exact conf_size_falls file source_file dest_directory rounds

end CorosyncClient.ConfCopy
