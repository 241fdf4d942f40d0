import CorosyncClient.CLib.Text

/-!
The error codes of corosync (`corotypes.h`) and of the client (`client_errors.h`).
Functions of the client return both as an `int`.
-/
namespace CorosyncClient
open CLib

/-- `cs_error_t`. -/
inductive CsError where
  | CS_OK | CS_ERR_LIBRARY | CS_ERR_VERSION | CS_ERR_INIT | CS_ERR_TIMEOUT | CS_ERR_TRY_AGAIN
  | CS_ERR_INVALID_PARAM | CS_ERR_NO_MEMORY | CS_ERR_BAD_HANDLE | CS_ERR_BUSY | CS_ERR_ACCESS
  | CS_ERR_NOT_EXIST | CS_ERR_NAME_TOO_LONG | CS_ERR_EXIST | CS_ERR_NO_SPACE | CS_ERR_INTERRUPT
  | CS_ERR_NAME_NOT_FOUND | CS_ERR_NO_RESOURCES | CS_ERR_NOT_SUPPORTED | CS_ERR_BAD_OPERATION
  | CS_ERR_FAILED_OPERATION | CS_ERR_MESSAGE_ERROR | CS_ERR_QUEUE_FULL | CS_ERR_QUEUE_NOT_AVAILABLE
  | CS_ERR_BAD_FLAGS | CS_ERR_TOO_BIG | CS_ERR_NO_SECTIONS | CS_ERR_CONTEXT_NOT_FOUND
  | CS_ERR_TOO_MANY_GROUPS | CS_ERR_SECURITY
  deriving DecidableEq, Repr

/-- `client_error_t`. -/
inductive ClientError where
  | CL_FILE_NOT_FOUND | CL_WRONG_CMAP_TYPE | CL_SSH_CONN_ERR | CL_SSH_AUTH_ERR
  | CL_SSH_CREATE_CHANNEL_ERR | CL_SSH_OPEN_CHANNEL_ERR | CL_SSH_COMMAND_EXEC_FAIL | CL_NODEID_ERR
  | CL_SFTP_ERR | CL_SFTP_AUTH | CL_SFTP_CONN
  deriving DecidableEq, Repr

/-- The `int` that a function of the client returns. -/
abbrev Err := Int

def CsError.code : CsError → Err
  | .CS_OK => 1
  | .CS_ERR_LIBRARY => 2
  | .CS_ERR_VERSION => 3
  | .CS_ERR_INIT => 4
  | .CS_ERR_TIMEOUT => 5
  | .CS_ERR_TRY_AGAIN => 6
  | .CS_ERR_INVALID_PARAM => 7
  | .CS_ERR_NO_MEMORY => 8
  | .CS_ERR_BAD_HANDLE => 9
  | .CS_ERR_BUSY => 10
  | .CS_ERR_ACCESS => 11
  | .CS_ERR_NOT_EXIST => 12
  | .CS_ERR_NAME_TOO_LONG => 13
  | .CS_ERR_EXIST => 14
  | .CS_ERR_NO_SPACE => 15
  | .CS_ERR_INTERRUPT => 16
  | .CS_ERR_NAME_NOT_FOUND => 17
  | .CS_ERR_NO_RESOURCES => 18
  | .CS_ERR_NOT_SUPPORTED => 19
  | .CS_ERR_BAD_OPERATION => 20
  | .CS_ERR_FAILED_OPERATION => 21
  | .CS_ERR_MESSAGE_ERROR => 22
  | .CS_ERR_QUEUE_FULL => 23
  | .CS_ERR_QUEUE_NOT_AVAILABLE => 24
  | .CS_ERR_BAD_FLAGS => 25
  | .CS_ERR_TOO_BIG => 26
  | .CS_ERR_NO_SECTIONS => 27
  | .CS_ERR_CONTEXT_NOT_FOUND => 28
  | .CS_ERR_TOO_MANY_GROUPS => 30
  | .CS_ERR_SECURITY => 100

def ClientError.code : ClientError → Err
  | .CL_FILE_NOT_FOUND => -1
  | .CL_WRONG_CMAP_TYPE => -2
  | .CL_SSH_CONN_ERR => -3
  | .CL_SSH_AUTH_ERR => -4
  | .CL_SSH_CREATE_CHANNEL_ERR => -5
  | .CL_SSH_OPEN_CHANNEL_ERR => -6
  | .CL_SSH_COMMAND_EXEC_FAIL => -7
  | .CL_NODEID_ERR => -8
  | .CL_SFTP_ERR => -9
  | .CL_SFTP_AUTH => -10
  | .CL_SFTP_CONN => -11

/-- What the functions of the client return on success. -/
def CS_OK : Err := CsError.CS_OK.code

@[simp] theorem code_eq_ok (e : CsError) : e.code = CS_OK ↔ e = .CS_OK := by
  cases e <;> decide

@[simp] theorem client_code_ne_ok (e : ClientError) : e.code ≠ CS_OK := by
  cases e <;> decide

/-! ### Texts -/

def CsError.text : CsError → Bytes
  | .CS_OK => ascii "Success"
  | .CS_ERR_LIBRARY => ascii "Library error"
  | .CS_ERR_VERSION => ascii "Version error"
  | .CS_ERR_INIT => ascii "Initialization error"
  | .CS_ERR_TIMEOUT => ascii "Timeout"
  | .CS_ERR_TRY_AGAIN => ascii "Resource temporarily unavailable"
  | .CS_ERR_INVALID_PARAM => ascii "Invalid argument"
  | .CS_ERR_NO_MEMORY => ascii "Not enough memory to completed the requested task"
  | .CS_ERR_BAD_HANDLE => ascii "Bad handle"
  | .CS_ERR_BUSY => ascii "Busy"
  | .CS_ERR_ACCESS => ascii "Permission denied"
  | .CS_ERR_NOT_EXIST => ascii "Not found"
  | .CS_ERR_NAME_TOO_LONG => ascii "Name is too long"
  | .CS_ERR_EXIST => ascii "Already exists"
  | .CS_ERR_NO_SPACE => ascii "Insufficient memory"
  | .CS_ERR_INTERRUPT => ascii "System call inturrupted by a signal"
  | .CS_ERR_NOT_SUPPORTED => ascii "The requested protocol/functuality not supported"
  | .CS_ERR_MESSAGE_ERROR => ascii "Incorrect auth message received"
  | .CS_ERR_NAME_NOT_FOUND => ascii "Name not found"
  | .CS_ERR_NO_RESOURCES => ascii "No resources"
  | .CS_ERR_BAD_OPERATION => ascii "Bad operation"
  | .CS_ERR_FAILED_OPERATION => ascii "Failed operation"
  | .CS_ERR_QUEUE_FULL => ascii "Queue full"
  | .CS_ERR_QUEUE_NOT_AVAILABLE => ascii "Queue not available"
  | .CS_ERR_BAD_FLAGS => ascii "Bad flags"
  | .CS_ERR_TOO_BIG => ascii "Too big"
  | .CS_ERR_NO_SECTIONS => ascii "No sections"
  | .CS_ERR_CONTEXT_NOT_FOUND => ascii "Context not found"
  | .CS_ERR_TOO_MANY_GROUPS => ascii "Too many groups"
  | .CS_ERR_SECURITY => ascii "Security error"

def ClientError.text : ClientError → Bytes
  | .CL_FILE_NOT_FOUND => ascii "Unable to locate a file or directory"
  | .CL_WRONG_CMAP_TYPE => ascii "Incorrect, unsupported, or unknown cmap_value_type_t"
  | .CL_SSH_CONN_ERR => ascii "Error establishing ssh connection"
  | .CL_SSH_AUTH_ERR => ascii "Error authenticating ssh conection"
  | .CL_SSH_CREATE_CHANNEL_ERR => ascii "Error creating ssh channel"
  | .CL_SSH_OPEN_CHANNEL_ERR => ascii "Error opening ssh channel"
  | .CL_SSH_COMMAND_EXEC_FAIL => ascii "command executed via ssh failed"
  | .CL_NODEID_ERR => ascii "Error obtaining/generating node id"
  | .CL_SFTP_ERR => ascii "Unknown error regarding sftp"
  | .CL_SFTP_AUTH => ascii "sftp authentication error"
  | .CL_SFTP_CONN => ascii "sftp connection error"

def csErrors : List CsError :=
  [.CS_OK, .CS_ERR_LIBRARY, .CS_ERR_VERSION, .CS_ERR_INIT, .CS_ERR_TIMEOUT, .CS_ERR_TRY_AGAIN,
   .CS_ERR_INVALID_PARAM, .CS_ERR_NO_MEMORY, .CS_ERR_BAD_HANDLE, .CS_ERR_BUSY, .CS_ERR_ACCESS,
   .CS_ERR_NOT_EXIST, .CS_ERR_NAME_TOO_LONG, .CS_ERR_EXIST, .CS_ERR_NO_SPACE, .CS_ERR_INTERRUPT,
   .CS_ERR_NOT_SUPPORTED, .CS_ERR_MESSAGE_ERROR, .CS_ERR_NAME_NOT_FOUND, .CS_ERR_NO_RESOURCES,
   .CS_ERR_BAD_OPERATION, .CS_ERR_FAILED_OPERATION, .CS_ERR_QUEUE_FULL, .CS_ERR_QUEUE_NOT_AVAILABLE,
   .CS_ERR_BAD_FLAGS, .CS_ERR_TOO_BIG, .CS_ERR_NO_SECTIONS, .CS_ERR_CONTEXT_NOT_FOUND,
   .CS_ERR_TOO_MANY_GROUPS, .CS_ERR_SECURITY]

def clientErrors : List ClientError :=
  [.CL_FILE_NOT_FOUND, .CL_WRONG_CMAP_TYPE, .CL_SSH_CONN_ERR, .CL_SSH_AUTH_ERR, .CL_SSH_CREATE_CHANNEL_ERR,
   .CL_SSH_OPEN_CHANNEL_ERR, .CL_SSH_COMMAND_EXEC_FAIL, .CL_NODEID_ERR, .CL_SFTP_ERR, .CL_SFTP_AUTH,
   .CL_SFTP_CONN]

def get_cs_error (err : Err) : Bytes :=
  ((csErrors.find? fun e => e.code = err).map CsError.text).getD (ascii "Unknown error")

def get_client_error (err : Err) : Bytes :=
  ((clientErrors.find? fun e => e.code = err).map ClientError.text).getD (ascii "Unknown error")

/-- Positive codes are those of corosync. -/
def get_error (err : Err) : Bytes := if err > 0 then get_cs_error err else get_client_error err

theorem find_csErrors (e : CsError) : (csErrors.find? fun x => x.code = e.code) = some e := by
  cases e <;> rfl

theorem find_clientErrors (e : ClientError) : (clientErrors.find? fun x => x.code = e.code) = some e := by
  cases e <;> rfl

/-- Every code of corosync has its text. -/
theorem get_error_cs (e : CsError) : get_error e.code = e.text := by
  have positive : e.code > 0 := by cases e <;> decide
  rw [get_error, if_pos positive, get_cs_error, find_csErrors, Option.map_some, Option.getD_some]

theorem get_error_client (e : ClientError) : get_error e.code = e.text := by
  have negative : ¬ e.code > 0 := by cases e <;> decide
  rw [get_error, if_neg negative, get_client_error, find_clientErrors, Option.map_some, Option.getD_some]

end CorosyncClient
