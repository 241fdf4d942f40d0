import CorosyncClient.CLib.Text

/-!
The argz vectors of glibc: words in one block of memory, each followed by its terminator.
An entry is the position of the first byte of a word; NULL is `none`.
-/
namespace CLib

/-- The vector once a word is appended to it. -/
def argz_add (argz : Bytes) (str : CString) : Bytes := argz ++ str.chars ++ [0]

/-- The number of words, found by going from terminator to terminator. -/
def argz_count (argz : Bytes) : Nat := count argz.length argz
where
  count : Nat → Bytes → Nat
    | 0, _ => 0
    | len + 1, argz => if argz = [] then 0 else count len (argz.drop ((cstr argz).length + 1)) + 1

/-- The entry behind `entry`, or the first one behind NULL. -/
def argz_next (argz : Bytes) : Option Nat → Option Nat
  | some entry =>
    let entry := if entry < argz.length then entry + (cstr (argz.drop entry)).length + 1 else entry
    if entry ≥ argz.length then none else some entry
  | none => if argz.length > 0 then some 0 else none

/-- The string at an entry. -/
def argz_string (argz : Bytes) (entry : Option Nat) : Option Bytes := entry.map fun i => cstr (argz.drop i)

@[simp] theorem argz_string_none (argz : Bytes) : argz_string argz none = none := rfl

/-! ### The vector of some words -/

def argzOf (words : List CString) : Bytes := words.flatMap fun w => w.chars ++ [0]

@[simp] theorem argzOf_nil : argzOf [] = [] := rfl
@[simp] theorem argzOf_cons (w : CString) (words : List CString) :
    argzOf (w :: words) = w.chars ++ 0 :: argzOf words := by
  simp [argzOf]
@[simp] theorem argzOf_append (first rest : List CString) : argzOf (first ++ rest) = argzOf first ++ argzOf rest :=
  List.flatMap_append

/-- Appending word by word gives the vector of the words. -/
theorem foldl_argz_add (before words : List CString) : words.foldl argz_add (argzOf before) = argzOf (before ++ words) := by
  induction words generalizing before with
  | nil => simp
  | cons w words ih =>
    have next : argz_add (argzOf before) w = argzOf (before ++ [w]) := by simp [argz_add]
    rw [List.foldl_cons, next, ih]
    simp

theorem cstr_argzOf (w : CString) (words : List CString) : cstr (argzOf (w :: words)) = w.chars := by
  rw [argzOf_cons, cstr_append_zero, cstr_eq_self w.nul_free]

theorem argz_count_argzOf (words : List CString) : argz_count (argzOf words) = words.length := by
  have counted : ∀ len, (argzOf words).length ≤ len → argz_count.count len (argzOf words) = words.length := by
    induction words with
    | nil =>
      intro len _
      cases len with
      | zero => rfl
      | succ len => rfl
    | cons w words ih =>
      intro len enough
      rw [argzOf_cons, List.length_append, List.length_cons] at enough
      cases len with
      | zero => omega
      | succ len =>
        have rest : (argzOf (w :: words)).drop (w.chars.length + 1) = argzOf words := by
          rw [argzOf_cons, List.drop_append]
          simp
        have full : argzOf (w :: words) ≠ [] := by simp
        rw [argz_count.count, if_neg full, cstr_argzOf, rest, ih len (by omega), List.length_cons]
  exact counted _ le_rfl

/-! ### Entries -/

/-- The position behind the words `before`. -/
def position (before : List CString) : Nat := (argzOf before).length

theorem drop_position (before words : List CString) : (argzOf (before ++ words)).drop (position before) = argzOf words := by
  rw [argzOf_append, position, List.drop_left]

@[simp] theorem argz_string_position (before : List CString) (w : CString) (after : List CString) :
    argz_string (argzOf (before ++ w :: after)) (some (position before)) = some w.chars := by
  rw [argz_string, Option.map_some, drop_position, cstr_argzOf]

theorem argz_next_first (w : CString) (words : List CString) : argz_next (argzOf (w :: words)) none = some (position []) := by
  simp [argz_next, position]

/-- The next entry is found for every word but the last. -/
theorem argz_next_position (before : List CString) (w : CString) (after : List CString) :
    argz_next (argzOf (before ++ w :: after)) (some (position before)) =
      if after = [] then none else some (position (before ++ [w])) := by
  have length : (argzOf (before ++ w :: after)).length = position (before ++ [w]) + (argzOf after).length := by
    simp [position]
    omega
  have behind : position (before ++ [w]) = position before + w.chars.length + 1 := by
    simp [position]
    omega
  have next : argz_next (argzOf (before ++ w :: after)) (some (position before)) =
      if (argzOf after).length = 0 then none else some (position (before ++ [w])) := by
    have inside : position before < (argzOf (before ++ w :: after)).length := by omega
    simp only [argz_next, drop_position, cstr_argzOf, if_pos inside, ← behind]
    by_cases last : (argzOf after).length = 0
    · rw [if_pos last, if_pos (by omega)]
    · rw [if_neg last, if_neg (by omega)]
  rw [next]
  cases after with
  | nil => rfl
  | cons a after => simp

theorem argz_next_last (before : List CString) (w : CString) :
    argz_next (argzOf (before ++ [w])) (some (position before)) = none := by
  rw [argz_next_position, if_pos rfl]

theorem argz_next_next (before : List CString) (w a : CString) (after : List CString) :
    argz_next (argzOf (before ++ w :: a :: after)) (some (position before)) = some (position (before ++ [w])) := by
  rw [argz_next_position, if_neg (by simp)]

end CLib
