import CorosyncClient.Calls

/-!
`sftp_manager.c`, with `free_session` of `ssh_manager.c`: a local configuration file is
copied over an sftp session into a file of another machine.
-/
namespace CorosyncClient
open CLib Interaction

def free_session (session : Handle) : Client Unit := do
  ssh_disconnect session
  ssh_free session

/-- The buffer of 256 bytes once the bytes `got` are read to its start. -/
def fill_buffer (buffer got : Bytes) : Bytes := got ++ buffer.drop got.length

/-- The locals of the copy loop: the bytes left to copy, and the buffer. -/
structure CopyState where
  conf_size : UInt64
  buffer : Bytes

/-- A round with fewer than 256 bytes left is the last. -/
def copy_round (source dest : Handle) (s : CopyState) : Client (CopyState ⊕ Unit) := do
  if 256 > s.conf_size then
    let buffer_size := s.conf_size.toNat
    let got ← fread source buffer_size
    let buffer := fill_buffer s.buffer got
    let _ ← sftp_write dest (buffer.take buffer_size)
    return .inr ()
  let got ← fread source 256
  let buffer := fill_buffer s.buffer got
  let conf_size := s.conf_size - 256
  let _ ← sftp_write dest (buffer.take 256)
  return .inl { conf_size := conf_size, buffer := buffer }

/-- `st_size` and `buffer` are what these locals hold before the call. -/
def sftp_conf (fuel : Nat) (st_size : UInt64) (buffer : Bytes) (session : Handle)
    (source_file dest_directory : Bytes) : Client Err := do
  let flags : OpenFlags := { O_WRONLY := true, O_CREAT := true, O_TRUNC := true }
  let (rc, size) ← stat source_file
  let conf_size := if rc = 0 then size else st_size
  let some sftp ← sftp_new session
    | return ClientError.CL_SFTP_ERR.code
  let rc ← sftp_init sftp
  if rc < 0 then
    return ClientError.CL_SFTP_ERR.code
  let some dest ← sftp_open sftp dest_directory flags
    | do
      sftp_free sftp
      return ClientError.CL_SFTP_ERR.code
  let some source ← fopen source_file
    | do
      let _ ← sftp_close dest
      sftp_free sftp
      return ClientError.CL_SFTP_ERR.code
  let _ ← fseek source 0
  loop (copy_round source dest) fuel { conf_size := conf_size, buffer := buffer }
  let _ ← fclose source
  let _ ← sftp_close dest
  sftp_free sftp
  return CS_OK

def copy_conf (fuel : Nat) (st_size : UInt64) (buffer : Bytes) (addr source_file dest_directory : Bytes) :
    Client Err := do
  let some session ← ssh_new
    | return ClientError.CL_SFTP_ERR.code
  let _ ← ssh_options_set session (.host addr)
  let _ ← ssh_options_set session (.port 22)
  let _ ← ssh_options_set session (.user (ascii "root"))
  let rc ← ssh_connect session
  if rc ≠ SSH_OK then
    free_session session
    return ClientError.CL_SFTP_CONN.code
  let rc ← ssh_userauth_password session (ascii "root")
  if rc ≠ SSH_AUTH_SUCCESS then
    free_session session
    return ClientError.CL_SFTP_AUTH.code
  let rc ← sftp_conf fuel st_size buffer session source_file dest_directory
  if rc ≠ CS_OK then
    free_session session
    return ClientError.CL_SFTP_ERR.code
  free_session session
  return CS_OK

/-- The file that `reset_conf` has copied to a machine. -/
def corosyncConf : Bytes := ascii "/etc/corosync/corosync.conf"

end CorosyncClient
