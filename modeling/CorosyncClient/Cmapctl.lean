import CorosyncClient.Calls
import Mathlib.Logic.Function.Basic

/-!
`client_cmapctl.c`: typed reads, writes and deletes of cmap keys, and the two scans
over the keys below `runtime.totem.pg.mrp.srp.members.`.
-/
namespace CorosyncClient
open CLib Interaction

/-! ### Single keys -/

/-- The value of type `type` that a `void *` argument to the bytes `value` points to,
    for the eleven types that `set_cmap_value` writes. -/
def pointee (type : UInt32) (value : Bytes) : Option CmapValue :=
  match type with
  | 1 => some (.int8 (Int8.ofNat (loadNat 1 value)))
  | 2 => some (.uint8 (UInt8.ofNat (loadNat 1 value)))
  | 3 => some (.int16 (Int16.ofNat (loadNat 2 value)))
  | 4 => some (.uint16 (UInt16.ofNat (loadNat 2 value)))
  | 5 => some (.int32 (Int32.ofNat (loadNat 4 value)))
  | 6 => some (.uint32 (UInt32.ofNat (loadNat 4 value)))
  | 7 => some (.int64 (Int64.ofNat (loadNat 8 value)))
  | 8 => some (.uint64 (UInt64.ofNat (loadNat 8 value)))
  | 9 => some (.float (UInt32.ofNat (loadNat 4 value)))
  | 10 => some (.double (UInt64.ofNat (loadNat 8 value)))
  | 11 => some (.string ⟨cstr value, cstr_nul_free value⟩)
  | _ => none

/-- Each case of the source's `switch` calls the setter of its type and checks the
    result alike. -/
def set_cmap_value (key_name value : Bytes) (type : UInt32) : Client Err := do
  if type < 1 ∨ type > 11 then
    return ClientError.CL_WRONG_CMAP_TYPE.code
  let (cs_err, cmap_handle) ← cmap_initialize
  if cs_err ≠ .CS_OK then
    return cs_err.code
  match pointee type value with
  | some v =>
    let cs_err ← cmap_set cmap_handle key_name v
    if cs_err ≠ .CS_OK then
      let _ ← cmap_finalize cmap_handle
      return cs_err.code
    let _ ← cmap_finalize cmap_handle
    return CS_OK
  | none =>
    let _ ← cmap_finalize cmap_handle
    return ClientError.CL_WRONG_CMAP_TYPE.code

/-- What is stored through a non-NULL `value` pointer: the pointer to a new string,
    or the bytes of a value. -/
inductive Fetched where
  | string (str : Option CString)
  | raw (bytes : Bytes)
  deriving DecidableEq

/-- The fetch that `get_cmap_value` and `delete_cmap_value` share: it is chosen by the
    type that the probe found, and the copying one sets the type again. -/
def fetch_value (cmap_handle : Handle) (key_name : Bytes) (len : Nat) (type : CmapType) :
    Client (CsError × CmapType × Fetched) := do
  if type = .STRING then
    let (cs_err, str) ← cmap_get_string cmap_handle key_name
    return (cs_err, type, .string str)
  else
    let (cs_err, _, found, bytes) ← cmap_get cmap_handle key_name (some len)
    return (cs_err, if cs_err = .CS_OK then found else type, .raw bytes)

/-- `value` says whether the pointer is not NULL. The result is the error, `*type` and
    what was stored through `value`. -/
def get_cmap_value (key_name : Bytes) (value : Bool) (type : CmapType) :
    Client (Err × CmapType × Option Fetched) := do
  let (cs_err, cmap_handle) ← cmap_initialize
  if cs_err ≠ .CS_OK then
    return (cs_err.code, type, none)
  let (cs_err, len, found, _) ← cmap_get cmap_handle key_name none
  if cs_err ≠ .CS_OK then
    let _ ← cmap_finalize cmap_handle
    return (cs_err.code, type, none)
  if !value then
    let _ ← cmap_finalize cmap_handle
    return (cs_err.code, found, none)
  let (cs_err, found, fetched) ← fetch_value cmap_handle key_name len found
  if cs_err ≠ .CS_OK then
    let _ ← cmap_finalize cmap_handle
    return (cs_err.code, found, none)
  let _ ← cmap_finalize cmap_handle
  return (CS_OK, found, some fetched)

/-- In `delete_cmap_value` the value is fetched only for a caller that asks for it. -/
def fetch_if_asked (cmap_handle : Handle) (key_name : Bytes) (value : Bool) (cs_err : CsError) (len : Nat)
    (type : CmapType) : Client (CsError × CmapType × Option Fetched) := do
  if value then
    let (cs_err, found, fetched) ← fetch_value cmap_handle key_name len type
    return (cs_err, found, some fetched)
  else
    return (cs_err, type, none)

/-- As `get_cmap_value`, and the key is deleted at the end. -/
def delete_cmap_value (key_name : Bytes) (value : Bool) (type : CmapType) :
    Client (Err × CmapType × Option Fetched) := do
  let (cs_err, cmap_handle) ← cmap_initialize
  if cs_err ≠ .CS_OK then
    return (cs_err.code, type, none)
  let (cs_err, len, found, _) ← cmap_get cmap_handle key_name none
  if cs_err ≠ .CS_OK then
    let _ ← cmap_finalize cmap_handle
    return (cs_err.code, type, none)
  let (cs_err, found, fetched) ← fetch_if_asked cmap_handle key_name value cs_err len found
  if cs_err ≠ .CS_OK then
    let _ ← cmap_finalize cmap_handle
    return (cs_err.code, found, none)
  let cs_err ← cmap_delete cmap_handle key_name
  if cs_err ≠ .CS_OK then
    let _ ← cmap_finalize cmap_handle
    return (cs_err.code, found, fetched)
  let _ ← cmap_finalize cmap_handle
  return (CS_OK, found, fetched)

/-! ### Scans over the members -/

def generic_key_prefix : Bytes := ascii "runtime.totem.pg.mrp.srp.members."

/-- The pattern of `get_member_count`, the prefix followed by `%d`. -/
def scan_id (key_name : Bytes) : Option Int32 :=
  ((scanLiteral generic_key_prefix key_name).bind scanInt).map Prod.fst

/-- The pattern of `get_members`, the prefix followed by `%d.%s`: what is assigned to
    `id`, and what is written to `key_suffix`. -/
def scan_member (key_name : Bytes) : Option Int32 × Option Bytes :=
  match (scanLiteral generic_key_prefix key_name).bind scanInt with
  | none => (none, none)
  | some (id, rest) => (some id, (scanLiteral (ascii ".") rest).bind scanWord)

/-- The locals of the loop of `get_member_count`. -/
structure CountState where
  id : Int32
  prev : Int32
  total : Int32

def count_round (cmap_handle iter_handle : Handle) (s : CountState) : Client (CountState ⊕ Int32) := do
  let (err, key_name, _, _) ← cmap_iter_next cmap_handle iter_handle
  if err ≠ .CS_OK then
    return .inr s.total
  let id := (scan_id key_name).getD s.id
  if id ≠ s.prev then
    return .inl { id := id, prev := id, total := s.total + 1 }
  return .inl { s with id := id }

/-- `id` and `count` are what the local and `*count` hold before the call. -/
def get_member_count (fuel : Nat) (id count : Int32) : Client (Err × Int32) := do
  let (err, cmap_handle) ← cmap_initialize
  if err ≠ .CS_OK then
    return (err.code, count)
  let (err, iter_handle) ← cmap_iter_init cmap_handle generic_key_prefix
  if err ≠ .CS_OK then
    let _ ← cmap_finalize cmap_handle
    return (err.code, count)
  let total ← loop (count_round cmap_handle iter_handle) fuel { id := id, prev := -1, total := 0 }
  let _ ← cmap_iter_finalize cmap_handle iter_handle
  let _ ← cmap_finalize cmap_handle
  return (CS_OK, total)

def INET6_ADDRSTRLEN : Nat := 46

/-- The buffers are the memory from their first byte on. -/
structure ClusterMember where
  nodeid : Int32
  ip : Bytes
  status : Bytes
  deriving DecidableEq

/-- The string at `*str`. -/
def deref : Option Fetched → Client Bytes
  | some (.string (some s)) => return s.chars
  | _ => read_stray

/-- How `ip` and `status` are read into their buffer of `capacity` bytes. The fill of
    the buffer comes first, with its length and its byte exchanged. -/
def read_string (key_name : Bytes) (type : CmapType) (capacity : Nat) (buffer : Bytes) : Client Bytes := do
  let buffer := memset buffer capacity.toUInt8 0
  let (err, _, str) ← get_cmap_value key_name true type
  if err = CS_OK then
    let text ← deref str
    access (.fill capacity (text.length + 1))
    return strcpy buffer text
  return buffer

/-- The locals of the loop of `get_members`, and the array behind its argument. -/
structure MembersState where
  id : Int32
  prev : Int32
  i : Int32
  key_suffix : Bytes
  array : Int32 → ClusterMember

/-- What `sscanf` does to `key_suffix`. -/
def store_suffix (key_suffix : Bytes) : Option Bytes → Client Bytes
  | some word => do
    access (.fill 64 (word.length + 1))
    return strcpy key_suffix word
  | none => return key_suffix

/-- The part of a round that begins a new entry when the id has changed. -/
def begin_entry (array_len id : Int32) (s : MembersState) : Client MembersState := do
  if id ≠ s.prev then
    let i := s.i + 1
    access (.entry i array_len)
    return { s with id := id, prev := id, i := i,
                    array := Function.update s.array i { s.array i with nodeid := id } }
  return { s with id := id }

def members_round (cmap_handle iter_handle : Handle) (array_len : Int32) (s : MembersState) :
    Client (MembersState ⊕ (Int32 → ClusterMember)) := do
  let (err, key_name, _, type) ← cmap_iter_next cmap_handle iter_handle
  if err ≠ .CS_OK then
    return .inr s.array
  let scanned := scan_member key_name
  let key_suffix ← store_suffix (memset s.key_suffix 64 0) scanned.2
  let s ← begin_entry array_len (scanned.1.getD s.id) { s with key_suffix := key_suffix }
  if cstr key_suffix = ascii "ip" then
    access (.entry s.i array_len)
    let ip ← read_string key_name type INET6_ADDRSTRLEN (s.array s.i).ip
    return .inl { s with array := Function.update s.array s.i { s.array s.i with ip := ip } }
  else if cstr key_suffix = ascii "status" then
    access (.entry s.i array_len)
    let status ← read_string key_name type 32 (s.array s.i).status
    return .inl { s with array := Function.update s.array s.i { s.array s.i with status := status } }
  return .inl s

/-- `id`, `key_suffix` and `array` are what the locals and the entries hold before the
    call; `array_len` is not used to stop the loop. -/
def get_members (fuel : Nat) (id : Int32) (key_suffix : Bytes) (array : Int32 → ClusterMember) (array_len : Int32) :
    Client (Err × (Int32 → ClusterMember)) := do
  let (err, cmap_handle) ← cmap_initialize
  if err ≠ .CS_OK then
    return (err.code, array)
  let (err, iter_handle) ← cmap_iter_init cmap_handle generic_key_prefix
  if err ≠ .CS_OK then
    let _ ← cmap_finalize cmap_handle
    return (err.code, array)
  let array ← loop (members_round cmap_handle iter_handle array_len) fuel
    { id := id, prev := -1, i := -1, key_suffix := key_suffix, array := array }
  let _ ← cmap_iter_finalize cmap_handle iter_handle
  let _ ← cmap_finalize cmap_handle
  return (CS_OK, array)

/-! ### Keys -/

/-- What `generate_nodelist_key` and `generate_members_key` leave in `key_buffer`. The
    fill covers the size of a pointer; the number is printed where `key_start` ends. -/
def generate_key (key_start key_buffer : Bytes) (id : UInt32) (key_suffix : Bytes) : Bytes :=
  let key_buffer := memset key_buffer 0 8
  let key_buffer := strcpy key_buffer key_start
  let key_buffer := strcat key_buffer (decimal id.toNat ++ ascii ".")
  strcat key_buffer key_suffix

def generate_nodelist_key (key_buffer : Bytes) (id : UInt32) (key_suffix : Bytes) : Bytes :=
  generate_key (ascii "nodelist.node.") key_buffer id key_suffix

def generate_members_key (key_buffer : Bytes) (id : UInt32) (key_suffix : Bytes) : Bytes :=
  generate_key (ascii "runtime.totem.pg.mrp.srp.members.") key_buffer id key_suffix

end CorosyncClient
