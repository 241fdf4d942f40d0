import CorosyncClient.MemberScan

/-!
The keys that the client builds, and the patterns by which it takes the keys of members
apart again.
-/
namespace CorosyncClient.MemberKeys
open CLib Interaction CorosyncClient.Membership

/-- What may stand behind the id of a key: a word that fits the buffer of `get_members`. -/
@[ext] structure Suffix where
  chars : Bytes
  nonempty : chars ≠ []
  solid : ∀ b ∈ chars, isspace b = false
  nul_free : 0 ∉ chars
  short : chars.length < 64

theorem number_nul_free (id : UInt32) : 0 ∉ decimal id.toNat ++ ascii "." := by
  rw [List.mem_append, not_or]
  exact ⟨decimal_nul_free _, by decide⟩

/-- A key has three parts, whatever the buffer held. -/
theorem cstr_generate_key {start : Bytes} (nulFree : 0 ∉ start) (key_buffer : Bytes) (id : UInt32)
    {key_suffix : Bytes} (nulFree' : 0 ∉ key_suffix) :
    cstr (generate_key start key_buffer id key_suffix) = start ++ (decimal id.toNat ++ ascii ".") ++ key_suffix := by
  rw [generate_key, cstr_strcat _ nulFree', cstr_strcat _ (number_nul_free id), cstr_strcpy _ nulFree]

theorem cstr_members_key (key_buffer : Bytes) (id : UInt32) (s : Suffix) :
    cstr (generate_members_key key_buffer id s.chars) = nodePrefix id ++ s.chars := by
  rw [generate_members_key, cstr_generate_key (by decide) key_buffer id s.nul_free]
  rfl

/-- In a buffer with room for the key and a terminator, nothing is written behind its end. -/
theorem generate_key_length {start : Bytes} (nulFree : 0 ∉ start) (long : 8 ≤ start.length) {key_buffer : Bytes}
    {id : UInt32} {key_suffix : Bytes}
    (enough : (start ++ (decimal id.toNat ++ ascii ".") ++ key_suffix).length < key_buffer.length) :
    (generate_key start key_buffer id key_suffix).length = key_buffer.length := by
  simp only [List.length_append] at enough
  have cleared : (memset key_buffer 0 8).length = key_buffer.length := by
    rw [memset, List.length_append, List.length_replicate, List.length_drop]
    omega
  have first : (strcpy (memset key_buffer 0 8) start).length = key_buffer.length := by
    rw [strcpy_length (by omega), cleared]
  have second : (strcat (strcpy (memset key_buffer 0 8) start) (decimal id.toNat ++ ascii ".")).length = key_buffer.length := by
    have room : (cstr (strcpy (memset key_buffer 0 8) start)).length + (decimal id.toNat ++ ascii ".").length <
        (strcpy (memset key_buffer 0 8) start).length := by
      rw [cstr_strcpy _ nulFree, first, List.length_append]
      omega
    rw [strcat_length room, first]
  have room : (cstr (strcat (strcpy (memset key_buffer 0 8) start) (decimal id.toNat ++ ascii "."))).length +
      key_suffix.length < (strcat (strcpy (memset key_buffer 0 8) start) (decimal id.toNat ++ ascii ".")).length := by
    rw [cstr_strcat _ (number_nul_free id), cstr_strcpy _ nulFree, second, List.length_append, List.length_append]
    omega
  rw [generate_key, strcat_length room, second]

/-! ### The two keys -/

theorem empty_nul_free : 0 ∉ ([] : Bytes) := List.not_mem_nil

/-- The key as a key of the cmap. -/
def Suffix.member (s : Suffix) (id : UInt32) : Member where
  id := id
  suffix := s.chars
  value := .string ⟨[], empty_nul_free⟩
  nonempty := s.nonempty
  solid := s.solid
  nul_free := s.nul_free

/-- Keys of different nodes or with different suffixes differ. -/
def Distinguishes (generate : Bytes → UInt32 → Bytes → Bytes) : Prop :=
  ∀ (key_buffer key_buffer' : Bytes) (a b : UInt32) (s t : Suffix),
    cstr (generate key_buffer a s.chars) = cstr (generate key_buffer' b t.chars) → a = b ∧ s = t

theorem generate_key_distinguishes {start : Bytes} (nulFree : 0 ∉ start) :
    Distinguishes (generate_key start) := by
  intro key_buffer key_buffer' a b s t same
  rw [cstr_generate_key nulFree _ _ s.nul_free, cstr_generate_key nulFree _ _ t.nul_free] at same
  obtain ⟨ids, suffixes⟩ := key_parts_inj same
  exact ⟨ids, Suffix.ext suffixes⟩

theorem members_key_distinguishes : Distinguishes generate_members_key := by
  have nulFree : 0 ∉ ascii "runtime.totem.pg.mrp.srp.members." := by decide
  exact generate_key_distinguishes nulFree

theorem nodelist_key_distinguishes : Distinguishes generate_nodelist_key := by
  have nulFree : 0 ∉ ascii "nodelist.node." := by decide
  exact generate_key_distinguishes nulFree

section
variable (id : UInt32) (s : Suffix) (key_buffer : Bytes)

/-- The pattern of `get_members` gives the parts back. -/
theorem scan_member_generated :
    scan_member (cstr (generate_members_key key_buffer id s.chars)) = (some id.toInt32, some s.chars) := by
  rw [cstr_members_key]
  exact scan_member_key (s.member id)

theorem scan_id_generated : scan_id (cstr (generate_members_key key_buffer id s.chars)) = some id.toInt32 := by
  rw [cstr_members_key]
  exact scan_id_key (s.member id)

/-- The suffix is stored in the buffer of `get_members`, which it does not overrun. -/
theorem store_suffix_stores (mayFail : Prop) (votes : UInt32 → UInt32) (local_nodeid : UInt32) (key_suffix : Bytes) (t : Scan) :
    wp (members mayFail votes local_nodeid) (store_suffix key_suffix (some s.chars))
      (fun stored t' => t' = t ∧ cstr stored = s.chars) t := by
  have fits : (s.member 0).Fits :=
    { suffix := s.short
      ip := fun _ => show 0 < INET6_ADDRSTRLEN by decide
      status := fun _ => show 0 < 32 by decide }
  exact store_suffix_spec fits key_suffix t

/-- The key of a member does not depend on what the buffer held; the two patterns give its
    id, as an `int` that stands for it, and its suffix; and different ids or suffixes make
    different keys, below both prefixes. -/
theorem members_key_round_trip :
    (∀ key_buffer', cstr (generate_members_key key_buffer' id s.chars) = cstr (generate_members_key key_buffer id s.chars)) ∧
      (∃ scanned : Int32, scan_member (cstr (generate_members_key key_buffer id s.chars)) = (some scanned, some s.chars) ∧
        scan_id (cstr (generate_members_key key_buffer id s.chars)) = some scanned ∧ scanned.toUInt32 = id) ∧
      (∀ mayFail votes local_nodeid key_suffix t, wp (members mayFail votes local_nodeid)
        (store_suffix key_suffix (some s.chars)) (fun stored t' => t' = t ∧ cstr stored = s.chars) t) ∧
      Distinguishes generate_members_key ∧ Distinguishes generate_nodelist_key := by
  refine ⟨?_, ⟨id.toInt32, ?_, ?_, ?_⟩, ?_, members_key_distinguishes, nodelist_key_distinguishes⟩
  · intro key_buffer'
    rw [cstr_members_key, cstr_members_key]
  · exact scan_member_generated id s key_buffer
  · exact scan_id_generated id s key_buffer
  · simp
  · intro mayFail votes local_nodeid key_suffix t
    exact store_suffix_stores s mayFail votes local_nodeid key_suffix t

end

end CorosyncClient.MemberKeys
