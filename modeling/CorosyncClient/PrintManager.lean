import CorosyncClient.Cmapctl
import CorosyncClient.QuorumManager

/-!
`print_manager.c`, with `print_time` of `time_manager.c`.
-/
namespace CorosyncClient
open CLib Interaction

/-- What the memory that `print_membership` and its callees read or hand on holds
    before they have written to it. -/
structure Uninit where
  arr_len : Int32
  count_id : Int32
  id : Int32
  key_suffix : Bytes
  entries : Int32 → ClusterMember
  local_nodeid : UInt32
  votes : UInt32

/-- The rounds of `for(i = 0; i < len; i++)`. -/
def forEntries {β : Type} (len : Int32) (body : Int32 → β → Client β) : β → Client β :=
  rounds len.toInt.toNat
where
  rounds : Nat → β → Client β
    | 0, b => return b
    | n + 1, b => do
      let b ← rounds n b
      body (Int32.ofNat n) b

theorem forEntries_wp {σ β : Type} {W : LibWorld σ} (I : Nat → β → σ → Prop) {len : Int32} {body : Int32 → β → Client β}
    (round : ∀ i < len.toInt.toNat, ∀ b s, I i b s → wp W (body (Int32.ofNat i) b) (I (i + 1)) s) {b : β} {s : σ}
    (start : I 0 b s) : wp W (forEntries len body b) (I len.toInt.toNat) s := by
  unfold forEntries
  generalize len.toInt.toNat = n at round
  induction n with
  | zero => exact start
  | succ n ih =>
    refine wp_seq (ih fun i inside => round i (by omega)) ?_
    exact round n (by omega)

theorem makes_forEntries {β : Type} {C : Call → Prop} {len : Int32} {body : Int32 → β → Client β}
    (each : ∀ i < len.toInt.toNat, ∀ b, (body (Int32.ofNat i) b).Makes C) (b : β) : (forEntries len body b).Makes C := by
  unfold forEntries
  generalize len.toInt.toNat = n at each
  induction n with
  | zero => exact makes_ret b
  | succ n ih => exact makes_bind (ih fun i inside => each i (by omega)) (each n (by omega))

/-- One line of the membership; `votes` is what the last successful read has left. -/
def print_member (arr : Int32 → ClusterMember) (arr_len : Int32) (local_nodeid : UInt32) (i : Int32) (votes : UInt32) :
    Client UInt32 := do
  access (.entry i arr_len)
  let (err, votes) ← get_votes (arr i).nodeid.toUInt32 votes
  let _ ← printf (ascii "Node " ++ decimalInt (arr i).nodeid.toInt ++ ascii "\t")
  let _ ← printf (ascii "IP: " ++ cstr (arr i).ip ++ ascii "\t")
  let _ ← printf (ascii "STATUS: " ++ cstr (arr i).status ++ ascii "\t")
  if err = CS_OK then
    let _ ← printf (ascii "VOTES: " ++ decimal votes.toNat ++ ascii "\t")
  if (arr i).nodeid.toUInt32 = local_nodeid then
    let _ ← printf (ascii "(local)")
  let _ ← printf (ascii "\n")
  return votes

/-- The results of `get_local_nodeid` and `get_members` are overwritten. -/
def print_membership (fuel : Nat) (u : Uninit) : Client Err := do
  let (err, arr_len) ← get_member_count fuel u.count_id u.arr_len
  if err ≠ CS_OK then
    return err
  -- `arr[i] = malloc(sizeof(Cluster_Member))`
  forEntries arr_len (fun i _ => access (.entry i arr_len)) ()
  let (_, local_nodeid) ← get_local_nodeid u.local_nodeid
  let (_, arr) ← get_members fuel u.id u.key_suffix u.entries arr_len
  let _ ← printf (ascii "\nMembership information\n")
  let _ ← printf (ascii "----------------------\n")
  let _ ← forEntries arr_len (print_member arr arr_len local_nodeid) u.votes
  return CS_OK

def print_time : Client Unit := do
  let text ← ctime
  let _ ← printf text

def print_quorum : Client Err := do
  let (err, qd) ← get_quorum_info ⟨0, 0, 0, 0⟩
  if err ≠ CS_OK then
    return err
  let _ ← printf (ascii "\nQuorum information\n")
  let _ ← printf (ascii "----------------------\n")
  let _ ← printf (ascii "Quorate: " ++
    (if qd.quorate = VOTEQUORUM_INFO_QUORATE then ascii "yes" else ascii "no (Activity Blocked)") ++ ascii "\n")
  let _ ← printf (ascii "Quorum: " ++ decimalInt qd.quorum.toInt32.toInt ++ ascii "\n")
  let _ ← printf (ascii "Total Votes: " ++ decimalInt qd.total_votes.toInt32.toInt ++ ascii "\n")
  let _ ← printf (ascii "Expected Votes: " ++ decimalInt qd.highest_expected.toInt32.toInt ++ ascii "\n")
  print_time
  return CS_OK

end CorosyncClient
