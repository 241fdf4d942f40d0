import CorosyncClient.SshManager
import Mathlib.Tactic.Simps.Basic

/-!
How the output of a remote command is read to its end. A result of `ssh_channel_read` is
kept in an `unsigned int`, so that the loop takes a negative one for more output.
-/
namespace CorosyncClient.RemoteOutput
open CLib Interaction
set_option linter.unusedSimpArgs false

/-- A connection on which a command has been started. The state is the number of reads,
    and `results` is what they give, one after the other. -/
@[simps] def connected (results : Nat → Int32) : LibWorld Nat where
  permits _ _ := True
  answers reads c r reads' :=
    match c with
    | .ssh_channel_read _ _ => r = results reads ∧ reads' = reads + 1
    | .ssh_new => r.isSome ∧ reads' = reads
    | .ssh_connect _ => r = SSH_OK ∧ reads' = reads
    | .ssh_userauth_password _ _ => r = SSH_AUTH_SUCCESS ∧ reads' = reads
    | .ssh_channel_new _ => r.isSome ∧ reads' = reads
    | .ssh_channel_open_session _ => r = SSH_OK ∧ reads' = reads
    | .ssh_channel_request_exec _ _ => r = SSH_OK ∧ reads' = reads
    | _ => reads' = reads

theorem connected_live (results : Nat → Int32) (reads : Nat) (c : Call) (_ : (connected results).permits reads c) :
    ∃ r reads', (connected results).answers reads c r reads' := by
  cases c
  case ssh_channel_read => exact ⟨_, _, rfl, rfl⟩
  case ssh_new => exact ⟨some 1, reads, rfl, rfl⟩
  case ssh_channel_new => exact ⟨some 1, reads, rfl, rfl⟩
  case ssh_connect => exact ⟨_, reads, rfl, rfl⟩
  case ssh_userauth_password => exact ⟨_, reads, rfl, rfl⟩
  case ssh_channel_open_session => exact ⟨_, reads, rfl, rfl⟩
  case ssh_channel_request_exec => exact ⟨_, reads, rfl, rfl⟩
  all_goals exact ⟨Reply.success _, reads, rfl⟩

theorem unsigned_pos_iff (result : Int32) : result.toUInt32 > 0 ↔ result ≠ 0 := by
  rw [gt_iff_lt, UInt32.pos_iff_ne_zero]
  refine not_congr ⟨fun zero => ?_, fun zero => ?_⟩
  · have back := congrArg UInt32.toInt32 zero
    simpa using back
  · rw [zero]
    rfl

section
variable {results : Nat → Int32}

/-- The state of the loop after some reads: `nbytes` is the last result. -/
def Draining (results : Nat → Int32) (nbytes : UInt32) (reads : Nat) : Prop :=
  0 < reads ∧ nbytes = (results (reads - 1)).toUInt32

/-- The loop is left after a read that has given 0. -/
theorem drain_ends (fuel : Nat) (channel : Handle) :
    wlp (connected results) (drain fuel channel) (fun _ reads => 0 < reads ∧ results (reads - 1) = 0) 0 := by
  simp only [drain, perform_bind, wlp_call, connected_permits, connected_answers, true_and]
  rintro _ _ ⟨rfl, rfl⟩
  refine wlp_loop (Draining results) ?_ fuel _ ⟨by omega, rfl⟩
  rintro nbytes reads ⟨some, rfl⟩
  simp only [drain_round, wlp_ite, perform_bind, Prog.pure_eq, wlp_call, wlp_ret, connected_permits, connected_answers,
    true_and, unsigned_pos_iff]
  constructor
  · rintro _ _ _ ⟨rfl, rfl⟩
    exact ⟨by omega, rfl⟩
  · intro last
    exact ⟨some, not_ne_iff.mp last⟩

/-- Positive results and then 0 are read, and no more. -/
theorem drain_returns {k fuel : Nat} (more : ∀ j < k, 0 < results j) (last : results k = 0) (enough : k < fuel)
    (channel : Handle) : wp (connected results) (drain fuel channel) (fun _ reads => reads = k + 1) 0 := by
  simp only [drain, perform_bind, wp_call, connected_permits, connected_answers, true_and]
  rintro _ _ ⟨rfl, rfl⟩
  refine wp_loop (fun nbytes reads => Draining results nbytes reads ∧ reads ≤ k + 1) (fun reads => k + 1 - reads) ?_
    (by omega) ⟨⟨by omega, rfl⟩, by omega⟩
  rintro nbytes reads ⟨⟨some, rfl⟩, bound⟩
  simp only [drain_round, wp_ite, perform_bind, Prog.pure_eq, wp_call, wp_ret, connected_permits, connected_answers,
    true_and, unsigned_pos_iff]
  constructor
  · rintro another _ _ ⟨rfl, rfl⟩
    have before : reads - 1 ≠ k := by
      rintro rfl
      exact another last
    exact ⟨⟨⟨by omega, rfl⟩, by omega⟩, by omega⟩
  · intro ended
    have zero : results (reads - 1) = 0 := not_ne_iff.mp ended
    by_contra early
    have positive := more (reads - 1) (by simp only [Sum.elim_inr] at early; omega)
    rw [zero] at positive
    exact absurd positive (by decide)

/-- A command on an open connection comes to its drain, and leaves when that does. -/
theorem remote_command_ends (cmd : Bytes) (fuel : Nat) (addr : Bytes) :
    wlp (connected results) (remote_command cmd fuel addr) (fun _ reads => 0 < reads ∧ results (reads - 1) = 0) 0 := by
  simp only [remote_command, run_in_channel, free_session, perform_bind, Prog.pure_eq, wlp_call, connected_permits,
    connected_answers, true_and]
  rintro (_ | session) _ ⟨made, rfl⟩
  · cases made
  simp only [wlp_call, wlp_ite, connected_permits, connected_answers, true_and]
  rintro _ _ rfl _ _ rfl _ _ rfl _ _ ⟨rfl, rfl⟩
  refine ⟨fun failed => absurd rfl failed, fun _ => ?_⟩
  rintro _ _ ⟨rfl, rfl⟩
  refine ⟨fun failed => absurd rfl failed, fun _ => ?_⟩
  rintro (_ | channel) _ ⟨made, rfl⟩
  · cases made
  simp only [wlp_call, wlp_ite, connected_permits, connected_answers, true_and]
  rintro _ _ ⟨rfl, rfl⟩
  refine ⟨fun failed => absurd rfl failed, fun _ => ?_⟩
  rintro _ _ ⟨rfl, rfl⟩
  refine ⟨fun failed => absurd rfl failed, fun _ => wlp_seq (drain_ends fuel channel) ?_⟩
  intro _ reads ends
  simp only [free_channel, perform_bind, Prog.call_bind, Prog.ret_bind, wlp_call, wlp_ret, connected_permits,
    connected_answers, true_and]
  rintro _ _ rfl _ _ rfl _ _ rfl _ _ rfl _ _ rfl
  exact ends

theorem remote_command_returns {k fuel : Nat} (more : ∀ j < k, 0 < results j) (last : results k = 0) (enough : k < fuel)
    (cmd addr : Bytes) : wp (connected results) (remote_command cmd fuel addr) (fun _ reads => reads = k + 1) 0 := by
  simp only [remote_command, run_in_channel, free_session, perform_bind, Prog.pure_eq, wp_call, connected_permits,
    connected_answers, true_and]
  rintro (_ | session) _ ⟨made, rfl⟩
  · cases made
  simp only [wp_call, wp_ite, connected_permits, connected_answers, true_and]
  rintro _ _ rfl _ _ rfl _ _ rfl _ _ ⟨rfl, rfl⟩
  refine ⟨fun failed => absurd rfl failed, fun _ => ?_⟩
  rintro _ _ ⟨rfl, rfl⟩
  refine ⟨fun failed => absurd rfl failed, fun _ => ?_⟩
  rintro (_ | channel) _ ⟨made, rfl⟩
  · cases made
  simp only [wp_call, wp_ite, connected_permits, connected_answers, true_and]
  rintro _ _ ⟨rfl, rfl⟩
  refine ⟨fun failed => absurd rfl failed, fun _ => ?_⟩
  rintro _ _ ⟨rfl, rfl⟩
  refine ⟨fun failed => absurd rfl failed, fun _ => wp_seq (drain_returns more last enough channel) ?_⟩
  intro _ reads ends
  simp only [free_channel, perform_bind, Prog.call_bind, Prog.ret_bind, wp_call, wp_ret, connected_permits,
    connected_answers, true_and]
  rintro _ _ rfl _ _ rfl _ _ rfl _ _ rfl _ _ rfl
  exact ends

end

/-- After `k` positive results each of the four commands makes one more read and returns
    exactly when that read gives 0. -/
theorem command_returns_iff {command : Nat → Bytes → Client Err}
    (known : command ∈ [start_corosync, stop_corosync, kill_conn, start_conn]) (addr : Bytes) {results : Nat → Int32}
    {k : Nat} (more : ∀ j < k, 0 < results j) :
    (∃ fuel, Returns (connected results) (command fuel addr) 0 (fun _ reads => reads = k + 1)) ↔ results k = 0 := by
  obtain ⟨cmd, rfl⟩ : ∃ cmd, command = remote_command cmd := by
    simp only [List.mem_cons, List.not_mem_nil, or_false] at known
    rcases known with rfl | rfl | rfl | rfl <;> exact ⟨_, rfl⟩
  constructor
  · rintro ⟨fuel, returns⟩
    obtain ⟨tr, err, reads, run⟩ := returns.ends
    have last := run_ret (remote_command_ends cmd fuel addr) run
    obtain rfl := returns.result tr err reads run
    simpa using last.2
  · intro last
    exact ⟨k + 1, returns_of_wp (connected_live results) (remote_command_returns more last (by omega) cmd addr)⟩

/-- A connection that breaks when eth1 goes down: each read fails. -/
def broken : Nat → Int32 := fun _ => -1

/-- The connection over which eth1 is brought down breaks, and `kill_conn` does not return. -/
theorem kill_conn_does_not_return :
    ¬ ∃ fuel, Returns (connected broken) (kill_conn fuel (ascii "12.0.0.2")) 0 (fun _ reads => reads = 1) := by
  rintro ⟨fuel, returns⟩
  obtain ⟨tr, err, reads, run⟩ := returns.ends
  have last := run_ret (remote_command_ends _ fuel _) run
  simp [broken] at last

theorem command_returns_iff_broken :
    (∃ fuel, Returns (connected broken) (kill_conn fuel (ascii "12.0.0.2")) 0 (fun _ reads => reads = 0 + 1)) ↔
      broken 0 = 0 :=
  command_returns_iff (by simp) (ascii "12.0.0.2") (by simp)

end CorosyncClient.RemoteOutput
