import CorosyncClient.Interaction.Program
import CorosyncClient.CLib.Memory
import CorosyncClient.Errors

/-!
What the client asks of the libraries it is linked with: the calls of libcmap,
libvotequorum, libquorum, libcfg, libssh and the C library that its functions make,
with their arguments and with what each of them hands back. Accesses to memory whose
bounds matter are calls as well, so that a world can say which of them it permits.
-/
namespace CorosyncClient
open CLib Interaction

/-- A handle, or a pointer to an object of a library. -/
abbrev Handle := UInt64

/-! ### Values of the cmap -/

/-- `cmap_value_types_t`. -/
inductive CmapType where
  | INT8 | UINT8 | INT16 | UINT16 | INT32 | UINT32 | INT64 | UINT64 | FLOAT | DOUBLE | STRING | BINARY
  deriving DecidableEq, Repr

def CmapType.code : CmapType → UInt32
  | .INT8 => 1
  | .UINT8 => 2
  | .INT16 => 3
  | .UINT16 => 4
  | .INT32 => 5
  | .UINT32 => 6
  | .INT64 => 7
  | .UINT64 => 8
  | .FLOAT => 9
  | .DOUBLE => 10
  | .STRING => 11
  | .BINARY => 12

/-- A typed value of the cmap. A `float` or `double` is its bits. -/
inductive CmapValue where
  | int8 (v : Int8)
  | uint8 (v : UInt8)
  | int16 (v : Int16)
  | uint16 (v : UInt16)
  | int32 (v : Int32)
  | uint32 (v : UInt32)
  | int64 (v : Int64)
  | uint64 (v : UInt64)
  | float (bits : UInt32)
  | double (bits : UInt64)
  | string (s : CString)
  | binary (b : Bytes)
  deriving DecidableEq

namespace CmapValue

def type : CmapValue → CmapType
  | int8 _ => .INT8
  | uint8 _ => .UINT8
  | int16 _ => .INT16
  | uint16 _ => .UINT16
  | int32 _ => .INT32
  | uint32 _ => .UINT32
  | int64 _ => .INT64
  | uint64 _ => .UINT64
  | float _ => .FLOAT
  | double _ => .DOUBLE
  | string _ => .STRING
  | binary _ => .BINARY

/-- The bytes that the cmap keeps, the terminator of a string with them. -/
def bytes : CmapValue → Bytes
  | int8 v => storeNat 1 v.toUInt8.toNat
  | uint8 v => storeNat 1 v.toNat
  | int16 v => storeNat 2 v.toUInt16.toNat
  | uint16 v => storeNat 2 v.toNat
  | int32 v => storeNat 4 v.toUInt32.toNat
  | uint32 v => storeNat 4 v.toNat
  | int64 v => storeNat 8 v.toUInt64.toNat
  | uint64 v => storeNat 8 v.toNat
  | float bits => storeNat 4 bits.toNat
  | double bits => storeNat 8 bits.toNat
  | string s => s.chars ++ [0]
  | binary b => b

/-- The length that the cmap reports. -/
def len (v : CmapValue) : Nat := v.bytes.length

end CmapValue

/-! ### Other data of the libraries -/

/-- `struct votequorum_info`. -/
structure VotequorumInfo where
  node_id : UInt32
  node_state : UInt32
  node_votes : UInt32
  node_expected_votes : UInt32
  highest_expected : UInt32
  total_votes : UInt32
  quorum : UInt32
  flags : UInt32
  qdevice_votes : UInt32
  qdevice_name : Bytes
  deriving DecidableEq

def VOTEQUORUM_INFO_QUORATE : UInt32 := 2
def QUORUM_FREE : UInt32 := 0
def CS_TRACK_CHANGES : UInt32 := 2

/-- The options of a session that the client sets. -/
inductive SshOption where
  | host (addr : Bytes)
  | port (port : Nat)
  | user (name : Bytes)
  deriving DecidableEq

def SSH_OK : Int := 0
def SSH_AUTH_SUCCESS : Int := 0

/-- The flags of `sftp_open` that the client uses. -/
structure OpenFlags where
  O_WRONLY : Bool
  O_CREAT : Bool
  O_TRUNC : Bool
  deriving DecidableEq

/-- An access to memory whose bounds matter. -/
inductive Access where
  /-- Entry `i` of an array of `len` entries. -/
  | entry (i len : Int32)
  /-- `size` bytes written to the start of a buffer of `capacity` bytes. -/
  | fill (capacity size : Nat)
  /-- The string at a pointer to a word of the command line; NULL is `none`. -/
  | word (text : Option Bytes)
  deriving DecidableEq

/-! ### The calls -/

inductive Call where
  | cmap_initialize
  | cmap_finalize (handle : Handle)
  | cmap_set (handle : Handle) (key_name : Bytes) (value : CmapValue)
  /-- `value_len` is `none` where the pointer `value` is NULL. -/
  | cmap_get (handle : Handle) (key_name : Bytes) (value_len : Option Nat)
  | cmap_get_string (handle : Handle) (key_name : Bytes)
  | cmap_get_uint32 (handle : Handle) (key_name : Bytes)
  | cmap_delete (handle : Handle) (key_name : Bytes)
  | cmap_iter_init (handle : Handle) (key_start : Bytes)
  | cmap_iter_next (handle iter_handle : Handle)
  | cmap_iter_finalize (handle iter_handle : Handle)
  | votequorum_initialize
  | votequorum_finalize (handle : Handle)
  | votequorum_getinfo (handle : Handle) (nodeid : UInt32)
  | votequorum_setexpected (handle : Handle) (expected_votes : UInt32)
  | votequorum_setvotes (handle : Handle) (nodeid votes : UInt32)
  | votequorum_trackstart (handle : Handle) (flags : UInt32)
  | votequorum_dispatch (handle : Handle)
  | quorum_initialize
  | quorum_finalize (handle : Handle)
  | quorum_trackstart (handle : Handle) (flags : UInt32)
  | corosync_cfg_initialize
  | corosync_cfg_local_get (handle : Handle)
  | corosync_cfg_finalize (handle : Handle)
  | cs_strerror (err : CsError)
  | ssh_new
  | ssh_options_set (session : Handle) (option : SshOption)
  | ssh_connect (session : Handle)
  | ssh_userauth_password (session : Handle) (password : Bytes)
  | ssh_disconnect (session : Handle)
  | ssh_free (session : Handle)
  | ssh_channel_new (session : Handle)
  | ssh_channel_open_session (channel : Handle)
  | ssh_channel_request_exec (channel : Handle) (cmd : Bytes)
  | ssh_channel_read (channel : Handle) (count : Nat)
  | ssh_channel_send_eof (channel : Handle)
  | ssh_channel_close (channel : Handle)
  | ssh_channel_free (channel : Handle)
  | sftp_new (session : Handle)
  | sftp_init (sftp : Handle)
  | sftp_open (sftp : Handle) (file : Bytes) (access : OpenFlags)
  | sftp_write (file : Handle) (buf : Bytes)
  | sftp_close (file : Handle)
  | sftp_free (sftp : Handle)
  | stat (file : Bytes)
  | fopen (file : Bytes)
  | fseek (stream : Handle) (offset : Nat)
  | fread (stream : Handle) (size : Nat)
  | fclose (stream : Handle)
  | printf (text : Bytes)
  | eprintf (text : Bytes)
  | ctime
  | access (a : Access)
  /-- A string read through a pointer that no library call has set to one. -/
  | read_stray

/-- What a call hands back. Where it fails, only the error counts. -/
@[reducible] def Reply : Call → Type
  | Call.cmap_initialize => CsError × Handle
  | .cmap_finalize _ => CsError
  | .cmap_set _ _ _ => CsError
  | .cmap_get _ _ _ => CsError × Nat × CmapType × Bytes
  | .cmap_get_string _ _ => CsError × Option CString
  | .cmap_get_uint32 _ _ => CsError × UInt32
  | .cmap_delete _ _ => CsError
  | .cmap_iter_init _ _ => CsError × Handle
  | .cmap_iter_next _ _ => CsError × Bytes × Nat × CmapType
  | .cmap_iter_finalize _ _ => CsError
  | Call.votequorum_initialize => CsError × Handle
  | .votequorum_finalize _ => CsError
  | .votequorum_getinfo _ _ => CsError × VotequorumInfo
  | .votequorum_setexpected _ _ => CsError
  | .votequorum_setvotes _ _ _ => CsError
  | .votequorum_trackstart _ _ => CsError
  | .votequorum_dispatch _ => CsError
  | Call.quorum_initialize => CsError × Handle × UInt32
  | .quorum_finalize _ => CsError
  | .quorum_trackstart _ _ => CsError
  | Call.corosync_cfg_initialize => CsError × Handle
  | .corosync_cfg_local_get _ => CsError × UInt32
  | .corosync_cfg_finalize _ => CsError
  | .cs_strerror _ => Bytes
  | .ssh_new => Option Handle
  | .ssh_options_set _ _ => Int
  | .ssh_connect _ => Int
  | .ssh_userauth_password _ _ => Int
  | .ssh_disconnect _ => Unit
  | .ssh_free _ => Unit
  | .ssh_channel_new _ => Option Handle
  | .ssh_channel_open_session _ => Int
  | .ssh_channel_request_exec _ _ => Int
  | .ssh_channel_read _ _ => Int32
  | .ssh_channel_send_eof _ => Int
  | .ssh_channel_close _ => Int
  | .ssh_channel_free _ => Unit
  | .sftp_new _ => Option Handle
  | .sftp_init _ => Int
  | .sftp_open _ _ _ => Option Handle
  | .sftp_write _ _ => Int
  | .sftp_close _ => Int
  | .sftp_free _ => Unit
  -- the return value, and `st_size`
  | .stat _ => Int × UInt64
  | .fopen _ => Option Handle
  | .fseek _ _ => Int
  -- the bytes that were read
  | .fread _ _ => Bytes
  | .fclose _ => Int
  | .printf _ => Int
  | .eprintf _ => Int
  | .ctime => Bytes
  | .access _ => Unit
  | .read_stray => Bytes

/-- A reply that tells of success, with handle 1 and no data. An iteration is over. -/
def Reply.success : (c : Call) → Reply c
  | Call.cmap_initialize => (.CS_OK, 1)
  | .cmap_finalize _ => .CS_OK
  | .cmap_set _ _ _ => .CS_OK
  | .cmap_get _ _ _ => (.CS_OK, 1, .UINT8, [0])
  | .cmap_get_string _ _ => (.CS_OK, some ⟨[], by decide⟩)
  | .cmap_get_uint32 _ _ => (.CS_OK, 0)
  | .cmap_delete _ _ => .CS_OK
  | .cmap_iter_init _ _ => (.CS_OK, 1)
  | .cmap_iter_next _ _ => (.CS_ERR_NO_SECTIONS, [], 0, .UINT8)
  | .cmap_iter_finalize _ _ => .CS_OK
  | Call.votequorum_initialize => (.CS_OK, 1)
  | .votequorum_finalize _ => .CS_OK
  | .votequorum_getinfo _ n => (.CS_OK, ⟨n, 1, 1, 1, 1, 1, 1, 0, 0, []⟩)
  | .votequorum_setexpected _ _ => .CS_OK
  | .votequorum_setvotes _ _ _ => .CS_OK
  | .votequorum_trackstart _ _ => .CS_OK
  | .votequorum_dispatch _ => .CS_OK
  | Call.quorum_initialize => (.CS_OK, 1, 1)
  | .quorum_finalize _ => .CS_OK
  | .quorum_trackstart _ _ => .CS_OK
  | Call.corosync_cfg_initialize => (.CS_OK, 1)
  | .corosync_cfg_local_get _ => (.CS_OK, 1)
  | .corosync_cfg_finalize _ => .CS_OK
  | .cs_strerror _ => []
  | .ssh_new => some 1
  | .ssh_options_set _ _ => 0
  | .ssh_connect _ => SSH_OK
  | .ssh_userauth_password _ _ => SSH_AUTH_SUCCESS
  | .ssh_disconnect _ => ()
  | .ssh_free _ => ()
  | .ssh_channel_new _ => some 1
  | .ssh_channel_open_session _ => SSH_OK
  | .ssh_channel_request_exec _ _ => SSH_OK
  | .ssh_channel_read _ _ => 0
  | .ssh_channel_send_eof _ => 0
  | .ssh_channel_close _ => 0
  | .ssh_channel_free _ => ()
  | .sftp_new _ => some 1
  | .sftp_init _ => 0
  | .sftp_open _ _ _ => some 1
  | .sftp_write _ buf => buf.length
  | .sftp_close _ => 0
  | .sftp_free _ => ()
  | .stat _ => (0, 0)
  | .fopen _ => some 1
  | .fseek _ _ => 0
  | .fread _ _ => []
  | .fclose _ => 0
  | .printf text => text.length
  | .eprintf text => text.length
  | .ctime => []
  | .access _ => ()
  | .read_stray => []

/-- A function of the client. -/
abbrev Client := Prog Call Reply

abbrev LibEvent := Event Call Reply
abbrev LibWorld (σ : Type) := World Call Reply σ

/-! ### The calls as functions of the client -/

/-- One call of a library. -/
abbrev Call.do (c : Call) : Client (Reply c) := perform c

abbrev cmap_initialize : Client (CsError × Handle) := Call.do Call.cmap_initialize
abbrev cmap_finalize (handle : Handle) : Client CsError := Call.do (.cmap_finalize handle)
abbrev cmap_set (handle : Handle) (key_name : Bytes) (value : CmapValue) : Client CsError :=
  Call.do (.cmap_set handle key_name value)
abbrev cmap_get (handle : Handle) (key_name : Bytes) (value_len : Option Nat) : Client (CsError × Nat × CmapType × Bytes) :=
  Call.do (.cmap_get handle key_name value_len)
abbrev cmap_get_string (handle : Handle) (key_name : Bytes) : Client (CsError × Option CString) :=
  Call.do (.cmap_get_string handle key_name)
abbrev cmap_get_uint32 (handle : Handle) (key_name : Bytes) : Client (CsError × UInt32) :=
  Call.do (.cmap_get_uint32 handle key_name)
abbrev cmap_delete (handle : Handle) (key_name : Bytes) : Client CsError := Call.do (.cmap_delete handle key_name)
abbrev cmap_iter_init (handle : Handle) (key_start : Bytes) : Client (CsError × Handle) :=
  Call.do (.cmap_iter_init handle key_start)
abbrev cmap_iter_next (handle iter_handle : Handle) : Client (CsError × Bytes × Nat × CmapType) :=
  Call.do (.cmap_iter_next handle iter_handle)
abbrev cmap_iter_finalize (handle iter_handle : Handle) : Client CsError :=
  Call.do (.cmap_iter_finalize handle iter_handle)
abbrev votequorum_initialize : Client (CsError × Handle) := Call.do Call.votequorum_initialize
abbrev votequorum_finalize (handle : Handle) : Client CsError := Call.do (.votequorum_finalize handle)
abbrev votequorum_getinfo (handle : Handle) (nodeid : UInt32) : Client (CsError × VotequorumInfo) :=
  Call.do (.votequorum_getinfo handle nodeid)
abbrev votequorum_setexpected (handle : Handle) (expected_votes : UInt32) : Client CsError :=
  Call.do (.votequorum_setexpected handle expected_votes)
abbrev votequorum_setvotes (handle : Handle) (nodeid votes : UInt32) : Client CsError :=
  Call.do (.votequorum_setvotes handle nodeid votes)
abbrev votequorum_trackstart (handle : Handle) (flags : UInt32) : Client CsError :=
  Call.do (.votequorum_trackstart handle flags)
abbrev votequorum_dispatch (handle : Handle) : Client CsError := Call.do (.votequorum_dispatch handle)
abbrev quorum_initialize : Client (CsError × Handle × UInt32) := Call.do Call.quorum_initialize
abbrev quorum_finalize (handle : Handle) : Client CsError := Call.do (.quorum_finalize handle)
abbrev quorum_trackstart (handle : Handle) (flags : UInt32) : Client CsError :=
  Call.do (.quorum_trackstart handle flags)
abbrev corosync_cfg_initialize : Client (CsError × Handle) := Call.do Call.corosync_cfg_initialize
abbrev corosync_cfg_local_get (handle : Handle) : Client (CsError × UInt32) :=
  Call.do (.corosync_cfg_local_get handle)
abbrev corosync_cfg_finalize (handle : Handle) : Client CsError := Call.do (.corosync_cfg_finalize handle)
abbrev cs_strerror (err : CsError) : Client Bytes := Call.do (.cs_strerror err)
abbrev ssh_new : Client (Option Handle) := Call.do .ssh_new
abbrev ssh_options_set (session : Handle) (option : SshOption) : Client Int :=
  Call.do (.ssh_options_set session option)
abbrev ssh_connect (session : Handle) : Client Int := Call.do (.ssh_connect session)
abbrev ssh_userauth_password (session : Handle) (password : Bytes) : Client Int :=
  Call.do (.ssh_userauth_password session password)
abbrev ssh_disconnect (session : Handle) : Client Unit := Call.do (.ssh_disconnect session)
abbrev ssh_free (session : Handle) : Client Unit := Call.do (.ssh_free session)
abbrev ssh_channel_new (session : Handle) : Client (Option Handle) := Call.do (.ssh_channel_new session)
abbrev ssh_channel_open_session (channel : Handle) : Client Int := Call.do (.ssh_channel_open_session channel)
abbrev ssh_channel_request_exec (channel : Handle) (cmd : Bytes) : Client Int :=
  Call.do (.ssh_channel_request_exec channel cmd)
abbrev ssh_channel_read (channel : Handle) (count : Nat) : Client Int32 := Call.do (.ssh_channel_read channel count)
abbrev ssh_channel_send_eof (channel : Handle) : Client Int := Call.do (.ssh_channel_send_eof channel)
abbrev ssh_channel_close (channel : Handle) : Client Int := Call.do (.ssh_channel_close channel)
abbrev ssh_channel_free (channel : Handle) : Client Unit := Call.do (.ssh_channel_free channel)
abbrev sftp_new (session : Handle) : Client (Option Handle) := Call.do (.sftp_new session)
abbrev sftp_init (sftp : Handle) : Client Int := Call.do (.sftp_init sftp)
abbrev sftp_open (sftp : Handle) (file : Bytes) (access : OpenFlags) : Client (Option Handle) :=
  Call.do (.sftp_open sftp file access)
abbrev sftp_write (file : Handle) (buf : Bytes) : Client Int := Call.do (.sftp_write file buf)
abbrev sftp_close (file : Handle) : Client Int := Call.do (.sftp_close file)
abbrev sftp_free (sftp : Handle) : Client Unit := Call.do (.sftp_free sftp)
abbrev stat (file : Bytes) : Client (Int × UInt64) := Call.do (.stat file)
abbrev fopen (file : Bytes) : Client (Option Handle) := Call.do (.fopen file)
abbrev fseek (stream : Handle) (offset : Nat) : Client Int := Call.do (.fseek stream offset)
abbrev fread (stream : Handle) (size : Nat) : Client Bytes := Call.do (.fread stream size)
abbrev fclose (stream : Handle) : Client Int := Call.do (.fclose stream)
abbrev printf (text : Bytes) : Client Int := Call.do (.printf text)
abbrev eprintf (text : Bytes) : Client Int := Call.do (.eprintf text)
abbrev ctime : Client Bytes := Call.do .ctime
abbrev access (a : Access) : Client Unit := Call.do (.access a)
abbrev read_stray : Client Bytes := Call.do .read_stray

end CorosyncClient
