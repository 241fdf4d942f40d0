import CorosyncClient.PrintManager

/-!
`monitor.c`: the monitor opens its handles in globals, dispatches events in an endless
loop and prints the quorum and the membership after each of them.
-/
namespace CorosyncClient
open CLib Interaction

/-- The globals that the functions below read. -/
structure Globals where
  cmap_handle : Handle
  q_handle : Handle
  v_handle : Handle
  c_handle : Handle
  q_type : UInt32
  our_nodeid : UInt32

/-- The returned value and the buffer `quorum_type`. -/
def get_quorum_type (g : Globals) (quorum_type : Bytes) (quorum_type_len : Nat) : Client (Int × Bytes) := do
  if g.q_type = QUORUM_FREE then
    return (-1, quorum_type)
  let (err, str) ← cmap_get_string g.cmap_handle (ascii "quorum.provider")
  if err ≠ .CS_OK then
    return (err.code, quorum_type)
  match str with
  | none => return (-1, quorum_type)
  | some str => return (0, strncpy quorum_type str.chars (quorum_type_len - 1))

/-- 1 where votequorum is the provider, 0 where it is not, -1 where that is not known. -/
def using_votequorum (g : Globals) : Client Int := do
  let (failed, quorumtype) ← get_quorum_type g (List.replicate 256 0) 256
  if failed ≠ 0 then
    return -1
  if cstr quorumtype = ascii "corosync_votequorum" then
    return 1
  return 0

def init_all (g : Globals) : Client (Int × Globals) := do
  let g := { g with cmap_handle := 0, q_handle := 0, v_handle := 0, c_handle := 0 }
  let (err, cmap_handle) ← cmap_initialize
  if err ≠ .CS_OK then
    let _ ← eprintf (ascii "Cannot initialize CMAP service\n")
    return (-1, { g with cmap_handle := 0 })
  let g := { g with cmap_handle := cmap_handle }
  let (err, q_handle, q_type) ← quorum_initialize
  if err ≠ .CS_OK then
    let _ ← eprintf (ascii "Cannot initialize QUORUM service\n")
    return (-1, { g with q_handle := 0 })
  let g := { g with q_handle := q_handle, q_type := q_type }
  let (err, c_handle) ← corosync_cfg_initialize
  if err ≠ .CS_OK then
    let _ ← eprintf (ascii "Cannot initialize CFG service\n")
    return (-1, { g with c_handle := 0 })
  let g := { g with c_handle := c_handle }
  let using_vq ← using_votequorum g
  if using_vq ≤ 0 then
    return (0, g)
  let (err, v_handle) ← votequorum_initialize
  if err ≠ .CS_OK then
    let _ ← eprintf (ascii "Cannot initialize VOTEQUORUM service\n")
    return (-1, { g with v_handle := 0 })
  let g := { g with v_handle := v_handle }
  let (err, our_nodeid) ← cmap_get_uint32 g.cmap_handle (ascii "runtime.votequorum.this_node_id")
  if err ≠ .CS_OK then
    let _ ← eprintf (ascii "Unable to retrieve this_node_id\n")
    return (-1, g)
  return (0, { g with our_nodeid := our_nodeid })

def close_all (g : Globals) : Client Unit := do
  if g.cmap_handle ≠ 0 then
    let _ ← cmap_finalize g.cmap_handle
  if g.q_handle ≠ 0 then
    let _ ← quorum_finalize g.q_handle
  if g.c_handle ≠ 0 then
    let _ ← corosync_cfg_finalize g.c_handle
  if g.v_handle ≠ 0 then
    let _ ← votequorum_finalize g.v_handle

/-- One event: `u n` is the uninitialised memory of the `n`th print of the membership. -/
def monitor_round (fuel : Nat) (u : Nat → Uninit) (g : Globals) (n : Nat) : Client (Nat ⊕ Int) := do
  let err ← votequorum_dispatch g.v_handle
  if err ≠ .CS_OK then
    let text ← cs_strerror err
    let _ ← eprintf (ascii "Unable to dispatch quorum status: " ++ text ++ ascii "\n")
    return .inr (-1)
  let err ← print_quorum
  if err ≠ CS_OK then
    return .inr err
  let _ ← print_membership fuel (u n)
  return .inl (n + 1)

def monitor_loop (fuel : Nat) (u : Nat → Uninit) (g : Globals) : Client Int := do
  if g.q_type = QUORUM_FREE then
    let _ ← printf (ascii "\nQuorum is not configured - cannot monitor\n")
    return -1
  let err ← quorum_trackstart g.q_handle CS_TRACK_CHANGES
  if err ≠ .CS_OK then
    let text ← cs_strerror err
    let _ ← eprintf (ascii "Unable to start quorum status tracking: " ++ text ++ ascii "\n")
    return -1
  let using_vq ← using_votequorum g
  if using_vq ≠ 0 then
    let err ← votequorum_trackstart g.v_handle CS_TRACK_CHANGES
    if err ≠ .CS_OK then
      let text ← cs_strerror err
      let _ ← eprintf (ascii "Unable to start votequorum status tracking: " ++ text ++ ascii "\n")
      return -1
  loop (monitor_round fuel u g) fuel 0

/-- The result of `monitor_loop` is dropped. -/
def monitor_status (fuel : Nat) (u : Nat → Uninit) (g : Globals) : Client (Int × Globals) := do
  let (failed, g) ← init_all g
  if failed ≠ 0 then
    close_all g
    return (-1, g)
  let _ ← monitor_loop fuel u g
  close_all g
  return (CS_OK, g)

end CorosyncClient
