import CorosyncClient.Calls

/-!
`cluster_manager.c` and `quorum_manager.c`. An out parameter is an argument with what
it holds before the call and a result with what it holds after. Locals that are read
only after a successful call has set them start at 0.
-/
namespace CorosyncClient
open CLib Interaction

def get_local_nodeid (local_nodeid : UInt32) : Client (Err × UInt32) := do
  let (err, cfg_h) ← corosync_cfg_initialize
  if err ≠ .CS_OK then
    return (err.code, local_nodeid)
  let (err, id) ← corosync_cfg_local_get cfg_h
  if err ≠ .CS_OK then
    let _ ← corosync_cfg_finalize cfg_h
    return (err.code, local_nodeid)
  let _ ← corosync_cfg_finalize cfg_h
  return (CS_OK, id)

/-- `Quorum_Details`, less the pointer that no function sets. -/
structure QuorumDetails where
  highest_expected : UInt32
  total_votes : UInt32
  quorum : UInt32
  quorate : UInt32
  deriving DecidableEq

/-- The local id is looked up, and node 1 is asked. -/
def get_quorum_info (qd : QuorumDetails) : Client (Err × QuorumDetails) := do
  let (err, vq_h) ← votequorum_initialize
  if err ≠ .CS_OK then
    return (err.code, qd)
  let _ ← get_local_nodeid 0
  let (err, info) ← votequorum_getinfo vq_h 1
  if err ≠ .CS_OK then
    let _ ← votequorum_finalize vq_h
    return (err.code, qd)
  let qd : QuorumDetails :=
    { highest_expected := info.highest_expected, total_votes := info.total_votes,
      quorum := info.quorum, quorate := info.flags &&& VOTEQUORUM_INFO_QUORATE }
  let _ ← votequorum_finalize vq_h
  return (CS_OK, qd)

def get_votequorum_info (vqi : VotequorumInfo) (id : UInt32) : Client (Err × VotequorumInfo) := do
  let (err, vq_h) ← votequorum_initialize
  if err ≠ .CS_OK then
    return (err.code, vqi)
  let (err, info) ← votequorum_getinfo vq_h id
  if err ≠ .CS_OK then
    let _ ← votequorum_finalize vq_h
    return (err.code, vqi)
  let _ ← votequorum_finalize vq_h
  return (CS_OK, info)

def get_expected_votes (expected_votes : UInt32) : Client (Err × UInt32) := do
  let (err, nodeid) ← get_local_nodeid 0
  if err ≠ CS_OK then
    return (err, expected_votes)
  let (err, vq_h) ← votequorum_initialize
  if err ≠ .CS_OK then
    return (err.code, expected_votes)
  let (err, info) ← votequorum_getinfo vq_h nodeid
  if err ≠ .CS_OK then
    let _ ← votequorum_finalize vq_h
    return (err.code, expected_votes)
  let expected_votes := info.highest_expected.toInt32.toUInt32
  let _ ← votequorum_finalize vq_h
  return (CS_OK, expected_votes)

def set_expected_votes (expected_votes : UInt32) : Client Err := do
  let (err, _) ← get_local_nodeid 0
  if err ≠ CS_OK then
    return err
  let (err, vq_h) ← votequorum_initialize
  if err ≠ .CS_OK then
    return err.code
  let err ← votequorum_setexpected vq_h expected_votes
  if err ≠ .CS_OK then
    let _ ← votequorum_finalize vq_h
    return err.code
  let _ ← votequorum_finalize vq_h
  return CS_OK

/-- The result of the lookup of the local id is overwritten. -/
def get_votes (nodeid votes : UInt32) : Client (Err × UInt32) := do
  let (err, vq_h) ← votequorum_initialize
  if err ≠ .CS_OK then
    return (err.code, votes)
  let _ ← get_local_nodeid 0
  let (err, info) ← votequorum_getinfo vq_h nodeid
  if err ≠ .CS_OK then
    let _ ← votequorum_finalize vq_h
    return (err.code, votes)
  let votes := info.node_votes.toInt32.toUInt32
  let _ ← votequorum_finalize vq_h
  return (CS_OK, votes)

def set_votes_and_adjust (nodeid votes : UInt32) : Client Err := do
  let (err, vq_h) ← votequorum_initialize
  if err ≠ .CS_OK then
    return err.code
  let (err, cur_votes) ← get_votes nodeid 0
  if err ≠ CS_OK then
    let _ ← votequorum_finalize vq_h
    return err
  let (err, expected_votes) ← get_expected_votes 0
  if err ≠ CS_OK then
    let _ ← votequorum_finalize vq_h
    return err
  let err ← votequorum_setvotes vq_h nodeid votes
  if err ≠ .CS_OK then
    let _ ← votequorum_finalize vq_h
    return err.code
  let delta : Int32 := (votes - cur_votes).toInt32
  let expected_votes := expected_votes + delta.toUInt32
  let err ← set_expected_votes expected_votes
  if err ≠ CS_OK then
    let _ ← votequorum_finalize vq_h
    return err
  let _ ← votequorum_finalize vq_h
  return CS_OK

def set_votes (nodeid votes : UInt32) : Client Err := do
  let (err, vq_h) ← votequorum_initialize
  if err ≠ .CS_OK then
    return err.code
  let err ← votequorum_setvotes vq_h nodeid votes
  if err ≠ .CS_OK then
    let _ ← votequorum_finalize vq_h
    return err.code
  let _ ← votequorum_finalize vq_h
  return CS_OK

end CorosyncClient
