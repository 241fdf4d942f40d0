import CorosyncClient.SftpManager

/-!
`ssh_manager.c`: four commands that are run on another machine over an ssh channel. The
functions differ in the command only. `restart_corosync` runs two of them.
-/
namespace CorosyncClient
open CLib Interaction

def free_channel (channel : Handle) : Client Unit := do
  let _ ← ssh_channel_send_eof channel
  let _ ← ssh_channel_close channel
  ssh_channel_free channel

/-- `while (nbytes > 0)`: the result of a read is kept in an `unsigned int`. -/
def drain_round (channel : Handle) (nbytes : UInt32) : Client (UInt32 ⊕ Unit) := do
  if nbytes > 0 then
    let result ← ssh_channel_read channel 1024
    return .inl result.toUInt32
  return .inr ()

/-- The output of the command is read and dropped. -/
def drain (fuel : Nat) (channel : Handle) : Client Unit := do
  let result ← ssh_channel_read channel 1024
  loop (drain_round channel) fuel result.toUInt32

/-- What the four functions do once their password is accepted. -/
def run_in_channel (cmd : Bytes) (fuel : Nat) (session : Handle) : Client Err := do
  let some channel ← ssh_channel_new session
    | do
      free_session session
      return ClientError.CL_SSH_CREATE_CHANNEL_ERR.code
  let rc ← ssh_channel_open_session channel
  if rc ≠ SSH_OK then
    free_channel channel
    free_session session
    return ClientError.CL_SSH_OPEN_CHANNEL_ERR.code
  let rc ← ssh_channel_request_exec channel cmd
  if rc ≠ SSH_OK then
    free_channel channel
    free_session session
    return ClientError.CL_SSH_COMMAND_EXEC_FAIL.code
  drain fuel channel
  free_channel channel
  free_session session
  return CS_OK

/-- The body of the four functions below. -/
def remote_command (cmd : Bytes) (fuel : Nat) (addr : Bytes) : Client Err := do
  let some session ← ssh_new
    | return ClientError.CL_SSH_CONN_ERR.code
  let _ ← ssh_options_set session (.host addr)
  let _ ← ssh_options_set session (.port 22)
  let _ ← ssh_options_set session (.user (ascii "root"))
  let rc ← ssh_connect session
  if rc ≠ SSH_OK then
    free_session session
    return ClientError.CL_SSH_CONN_ERR.code
  let rc ← ssh_userauth_password session (ascii "root")
  if rc ≠ SSH_AUTH_SUCCESS then
    return ClientError.CL_SSH_AUTH_ERR.code
  run_in_channel cmd fuel session

def start_corosync (fuel : Nat) (addr : Bytes) : Client Err := remote_command (ascii "corosync") fuel addr

def stop_corosync (fuel : Nat) (addr : Bytes) : Client Err := remote_command (ascii "corosync-cfgtool -H") fuel addr

def kill_conn (fuel : Nat) (addr : Bytes) : Client Err := remote_command (ascii "ifdown eth1") fuel addr

def start_conn (fuel : Nat) (addr : Bytes) : Client Err := remote_command (ascii "ifup eth1") fuel addr

/-- The `sleep(1)` between the two is left out. -/
def restart_corosync (fuel : Nat) (addr : Bytes) : Client Err := do
  let err ← stop_corosync fuel addr
  if err ≠ CS_OK then
    return err
  let err ← start_corosync fuel addr
  if err ≠ CS_OK then
    return err
  return CS_OK

end CorosyncClient
