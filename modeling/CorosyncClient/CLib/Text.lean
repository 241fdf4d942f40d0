import Mathlib.Algebra.Ring.Int.Defs
import Mathlib.Algebra.Ring.Nat
import Mathlib.Data.List.TakeWhile
import Mathlib.Data.List.Infix

/-!
C strings as lists of bytes, and the parts of the C library that read and write
them: copying into a buffer, decimal printing, and the number and word scans of
`scanf` and `strtol` as glibc does them where `long` has 64 bits.
-/
namespace CLib

abbrev Byte := UInt8
abbrev Bytes := List UInt8

/-- The bytes of a literal of the source. -/
def ascii (text : String) : Bytes := text.toList.map (fun c => c.toNat.toUInt8)

/-- A string value: no byte of it is the terminator. -/
structure CString where
  chars : Bytes
  nul_free : 0 ∉ chars
  deriving DecidableEq

/-! ### Buffers -/

/-- The string that a reader of the buffer finds, up to the first terminator. -/
def cstr (buffer : Bytes) : Bytes := buffer.takeWhile (· ≠ 0)

theorem cstr_nul_free (buffer : Bytes) : 0 ∉ cstr buffer := by
  intro member
  simpa using List.mem_takeWhile_imp member

/-- The buffer once `text` and a terminator are copied to its start. -/
def strcpy (buffer text : Bytes) : Bytes := text ++ 0 :: buffer.drop (text.length + 1)

/-- The buffer once `text` and a terminator are written where its string ends. -/
def strcat (buffer text : Bytes) : Bytes :=
  buffer.take (cstr buffer).length ++ strcpy (buffer.drop (cstr buffer).length) text

/-- The buffer once `text`, cut to `n` bytes or filled up with terminators, is written
    to its start. -/
def strncpy (buffer text : Bytes) (n : Nat) : Bytes :=
  text.take n ++ List.replicate (n - text.length) 0 ++ buffer.drop n

/-- The buffer once its first `n` bytes are set to `c`. -/
def memset (buffer : Bytes) (c : Byte) (n : Nat) : Bytes := List.replicate n c ++ buffer.drop n

/-- A fill of length 0 changes nothing. -/
@[simp] theorem memset_zero (buffer : Bytes) (c : Byte) : memset buffer c 0 = buffer := by
  simp [memset]

theorem cstr_eq_self {text : Bytes} (nulFree : 0 ∉ text) : cstr text = text := by
  refine List.takeWhile_eq_self_iff.mpr fun b member => ?_
  rw [decide_eq_true_eq]
  rintro rfl
  exact nulFree member

/-- A reader stops at a terminator. -/
theorem cstr_append_zero (text rest : Bytes) : cstr (text ++ 0 :: rest) = cstr text := by
  induction text with
  | nil => simp [cstr]
  | cons b text ih =>
    by_cases zero : b = 0
    · simp [cstr, zero]
    · simpa [cstr, zero] using ih

theorem cstr_strcpy_eq (buffer text : Bytes) : cstr (strcpy buffer text) = cstr text := cstr_append_zero text _

theorem cstr_strcpy (buffer : Bytes) {text : Bytes} (nulFree : 0 ∉ text) : cstr (strcpy buffer text) = text :=
  (cstr_strcpy_eq buffer text).trans (cstr_eq_self nulFree)

/-- What is appended follows the string of the buffer. -/
theorem cstr_strcat (buffer : Bytes) {text : Bytes} (nulFree : 0 ∉ text) : cstr (strcat buffer text) = cstr buffer ++ text := by
  have front : buffer.take (cstr buffer).length = cstr buffer :=
    (List.prefix_iff_eq_take.mp (List.takeWhile_prefix _)).symm
  have both : 0 ∉ cstr buffer ++ text := by
    rw [List.mem_append, not_or]
    exact ⟨cstr_nul_free buffer, nulFree⟩
  rw [strcat, front, strcpy, ← List.append_assoc, cstr_append_zero, cstr_eq_self both]

theorem strcpy_length {buffer text : Bytes} (fits : text.length < buffer.length) : (strcpy buffer text).length = buffer.length := by
  simp only [strcpy, List.length_append, List.length_cons, List.length_drop]
  omega

theorem strcat_length {buffer text : Bytes} (fits : (cstr buffer).length + text.length < buffer.length) :
    (strcat buffer text).length = buffer.length := by
  have rest : text.length < (buffer.drop (cstr buffer).length).length := by
    rw [List.length_drop]
    omega
  rw [strcat, List.length_append, strcpy_length rest, ← List.length_append, List.take_append_drop]

/-- A string copied into a cleared buffer with room for it and a terminator is read back,
    cut to the room. -/
theorem cstr_strncpy {text : Bytes} (nulFree : 0 ∉ text) (n size : Nat) :
    cstr (strncpy (List.replicate size 0) text n) = text.take n := by
  have whole : ∀ b ∈ text.take n, decide (b ≠ 0) = true := by
    intro b member
    rw [decide_eq_true_eq]
    rintro rfl
    exact nulFree (List.mem_of_mem_take member)
  have rest : ∀ k, (List.replicate k (0 : Byte)).takeWhile (· ≠ 0) = [] := by
    intro k
    cases k <;> simp [List.replicate_succ]
  rw [cstr, strncpy, List.append_assoc, List.takeWhile_append_of_pos whole, List.drop_replicate, List.replicate_append_replicate,
    rest, List.append_nil]

/-! ### Numbers -/

def isspace (b : Byte) : Bool := b = 32 || (9 ≤ b && b ≤ 13)
def isdigit (b : Byte) : Bool := 48 ≤ b && b ≤ 57

/-- What `%u` prints. -/
def decimal (n : Nat) : Bytes := (Nat.toDigits 10 n).map (fun c => c.toNat.toUInt8)

/-- What `%d` prints. -/
def decimalInt (z : Int) : Bytes :=
  if z < 0 then ascii "-" ++ decimal z.natAbs else decimal z.natAbs

/-- The value of a word of digits. -/
def digitsValue (digits : Bytes) : Nat := digits.foldl (fun value b => 10 * value + (b.toNat - 48)) 0

/-- A value outside the range of a 64-bit `long` becomes the nearer end of it. -/
def clampLong (value : Int) : Int := max (-2 ^ 63) (min (2 ^ 63 - 1) value)

/-- The optional sign before a number: whether it is a minus, and what follows. -/
def takeSign : Bytes → Bool × Bytes
  | 43 :: rest => (false, rest)
  | 45 :: rest => (true, rest)
  | rest => (false, rest)

/-- `strtol` in base 10: the value and the unread rest, or `none` without digits. -/
def strtol (text : Bytes) : Option (Int × Bytes) :=
  let (negative, body) := takeSign (text.dropWhile isspace)
  let digits := body.takeWhile isdigit
  if digits = [] then none
  else
    let value : Int := digitsValue digits
    some (clampLong (if negative then -value else value), body.dropWhile isdigit)

/-- The `%d` of `scanf`: the number is cut to the 32 bits of an `int`. -/
def scanInt (text : Bytes) : Option (Int32 × Bytes) :=
  (strtol text).map (fun scanned => (Int32.ofInt scanned.1, scanned.2))

/-- The `%s` of `scanf`: the first word, if there is one. -/
def scanWord (text : Bytes) : Option Bytes :=
  let word := (text.dropWhile isspace).takeWhile (fun b => !isspace b)
  if word = [] then none else some word

/-- The literal part of a `scanf` pattern. -/
def scanLiteral (literal text : Bytes) : Option Bytes :=
  if literal <+: text then some (text.drop literal.length) else none

@[simp] theorem scanLiteral_append (literal rest : Bytes) : scanLiteral literal (literal ++ rest) = some rest := by
  simp [scanLiteral]

private theorem digit_toNat {c : Char} (digit : c.isDigit) :
    48 ≤ c.toNat ∧ c.toNat ≤ 57 ∧ c.toNat.toUInt8.toNat = c.toNat := by
  simp only [Char.isDigit, Bool.and_eq_true, decide_eq_true_eq] at digit
  obtain ⟨low, high⟩ := digit
  have low' : 48 ≤ c.toNat := low
  have high' : c.toNat ≤ 57 := high
  refine ⟨low', high', ?_⟩
  simp only [Nat.toUInt8, UInt8.toNat_ofNat']
  omega

theorem decimal_ne_nil (n : Nat) : decimal n ≠ [] := by
  simp [decimal]

theorem decimal_isdigit (n : Nat) {b : Byte} (member : b ∈ decimal n) : isdigit b = true := by
  obtain ⟨c, inDigits, rfl⟩ := List.mem_map.mp member
  obtain ⟨low, high, value⟩ := digit_toNat (Nat.isDigit_of_mem_toDigits (by decide) (by decide) inDigits)
  simp only [isdigit, Bool.and_eq_true, decide_eq_true_eq, UInt8.le_iff_toNat_le, value]
  exact ⟨low, high⟩

theorem decimal_nul_free (n : Nat) : 0 ∉ decimal n := by
  intro member
  have digit := decimal_isdigit n member
  exact absurd digit (by decide)

/-- The digits that print a number have that number as their value. -/
theorem digitsValue_decimal (n : Nat) : digitsValue (decimal n) = n := by
  have agree : ∀ (cs : List Char) (start : Nat), (∀ c ∈ cs, c.isDigit) →
      (cs.map (fun c => c.toNat.toUInt8)).foldl (fun value b => 10 * value + (b.toNat - 48)) start =
        Nat.ofDigitChars 10 cs start := by
    intro cs
    induction cs with
    | nil => intro start _; simp
    | cons c rest ih =>
      intro start digits
      have value := (digit_toNat (digits c (by simp))).2.2
      rw [List.map_cons, List.foldl_cons, Nat.ofDigitChars_cons, value]
      exact ih _ (fun d member => digits d (by simp [member]))
  have digits : ∀ c ∈ Nat.toDigits 10 n, c.isDigit :=
    fun c member => Nat.isDigit_of_mem_toDigits (by decide) (by decide) member
  rw [digitsValue, decimal, agree _ 0 digits, Nat.ofDigitChars_ten_toDigits]

private theorem isdigit_not_space {b : Byte} (digit : isdigit b = true) : isspace b = false := by
  simp only [isdigit, Bool.and_eq_true, decide_eq_true_eq, UInt8.le_iff_toNat_le, UInt8.reduceToNat] at digit
  simp only [isspace, Bool.or_eq_false_iff, Bool.and_eq_false_iff, decide_eq_false_iff_not,
    UInt8.le_iff_toNat_le, UInt8.reduceToNat]
  refine ⟨?_, by omega⟩
  rintro rfl
  simp at digit

/-- The sign before a number. -/
inductive Sign where
  | none | plus | minus

def Sign.text : Sign → Bytes
  | .none => []
  | .plus => [43]
  | .minus => [45]

def Sign.value : Sign → Nat → Int
  | .minus, n => -n
  | _, n => n

/-- A text that begins with a number as `strtol` reads it: blanks, a sign, digits, and a
    rest that begins with no digit. -/
inductive Number : Bytes → Int → Bytes → Prop
  | mk {blank digits rest : Bytes} (sign : Sign) (spaces : ∀ b ∈ blank, isspace b = true) (nonempty : digits ≠ [])
      (all : ∀ b ∈ digits, isdigit b = true) (ends : ∀ b ∈ rest.head?, isdigit b = false) :
      Number (blank ++ (sign.text ++ (digits ++ rest))) (sign.value (digitsValue digits)) rest

private theorem takeSign_digit {b : Byte} (rest : Bytes) (digit : isdigit b = true) :
    takeSign (b :: rest) = (false, b :: rest) := by
  unfold takeSign
  split
  · simp_all [isdigit]
  · simp_all [isdigit]
  · rfl

/-- The sign is taken off the digits, and is no blank. -/
private theorem takeSign_sign (sign : Sign) {b : Byte} (rest : Bytes) (digit : isdigit b = true) :
    ∃ negative, takeSign (sign.text ++ b :: rest) = (negative, b :: rest) ∧
      (∀ n : Nat, (if negative then -(n : Int) else n) = sign.value n) ∧
      (sign.text ++ b :: rest).dropWhile isspace = sign.text ++ b :: rest := by
  cases sign with
  | none =>
    refine ⟨false, takeSign_digit rest digit, fun n => rfl, ?_⟩
    exact List.dropWhile_cons_of_neg (by simp [isdigit_not_space digit])
  | plus => exact ⟨false, rfl, fun n => rfl, rfl⟩
  | minus => exact ⟨true, rfl, fun n => rfl, rfl⟩

theorem strtol_number {text rest : Bytes} {value : Int} (number : Number text value rest) :
    strtol text = some (clampLong value, rest) := by
  obtain ⟨sign, spaces, nonempty, all, ends⟩ := number
  rename_i blank digits
  have stop : rest.takeWhile isdigit = [] ∧ rest.dropWhile isdigit = rest := by
    cases rest with
    | nil => simp
    | cons b more =>
      have no : isdigit b = false := ends b (by simp)
      simp [no]
  obtain ⟨first, more, rfl⟩ := List.exists_cons_of_ne_nil nonempty
  obtain ⟨negative, taken, value, start⟩ := takeSign_sign sign (more ++ rest) (all first (by simp))
  rw [← List.cons_append] at taken start
  simp only [strtol, List.dropWhile_append_of_pos spaces, start, taken, List.takeWhile_append_of_pos all,
    List.dropWhile_append_of_pos all, stop.1, stop.2, List.append_nil, nonempty, if_false, value]

private theorem takeSign_cases (text : Bytes) :
    ∃ sign : Sign, text = sign.text ++ (takeSign text).2 ∧ ∀ n : Nat, (if (takeSign text).1 then -(n : Int) else n) = sign.value n := by
  unfold takeSign
  split
  · exact ⟨.plus, rfl, fun n => rfl⟩
  · exact ⟨.minus, rfl, fun n => rfl⟩
  · exact ⟨.none, rfl, fun n => rfl⟩

/-- `strtol` gives the numbers at the start of texts, and those only. -/
theorem strtol_eq_some {text rest : Bytes} {z : Int} :
    strtol text = some (z, rest) ↔ ∃ value, Number text value rest ∧ z = clampLong value := by
  constructor
  · intro scanned
    obtain ⟨sign, split, value⟩ := takeSign_cases (text.dropWhile isspace)
    simp only [strtol] at scanned
    split at scanned
    · simp at scanned
    · rename_i nonempty
      rw [value, Option.some.injEq, Prod.mk.injEq] at scanned
      obtain ⟨rfl, rfl⟩ := scanned
      generalize (takeSign (text.dropWhile isspace)).2 = body at split nonempty
      have ends : ∀ b ∈ (body.dropWhile isdigit).head?, isdigit b = false := by
        intro b first
        have stops := List.head?_dropWhile_not isdigit body
        rw [Option.mem_def.mp first] at stops
        exact stops
      have spaces : ∀ b ∈ text.takeWhile isspace, isspace b = true := fun b => List.mem_takeWhile_imp
      have digits : ∀ b ∈ body.takeWhile isdigit, isdigit b = true := fun b => List.mem_takeWhile_imp
      have number := Number.mk sign spaces nonempty digits ends
      rw [List.takeWhile_append_dropWhile, ← split, List.takeWhile_append_dropWhile] at number
      exact ⟨_, number, rfl⟩
  · rintro ⟨value, number, rfl⟩
    exact strtol_number number

/-- A printed number is read back up to the first byte that is no digit. -/
theorem strtol_decimal {n : Nat} (fits : n < 2 ^ 63) {rest : Bytes} (ends : ∀ b ∈ rest.head?, isdigit b = false) :
    strtol (decimal n ++ rest) = some ((n : Int), rest) := by
  have number : Number ([] ++ (Sign.none.text ++ (decimal n ++ rest))) (Sign.none.value (digitsValue (decimal n))) rest :=
    .mk .none (by simp) (decimal_ne_nil n) (fun b => decimal_isdigit n) ends
  simp only [digitsValue_decimal, List.nil_append, Sign.text, Sign.value] at number
  have value : clampLong (n : Int) = n := by unfold clampLong; omega
  rw [strtol_number number, value]

/-- What `%d` prints is a number. -/
theorem number_decimalInt (z : Int) : Number (decimalInt z) z [] := by
  have digits : ∀ b ∈ decimal z.natAbs, isdigit b = true := fun b => decimal_isdigit _
  have number : ∀ sign : Sign, Number ([] ++ (sign.text ++ (decimal z.natAbs ++ []))) (sign.value (digitsValue (decimal z.natAbs))) [] :=
    fun sign => .mk sign (by simp) (decimal_ne_nil _) digits (by simp)
  simp only [digitsValue_decimal, List.nil_append, List.append_nil] at number
  by_cases negative : z < 0
  · have value : Sign.minus.value z.natAbs = z := by
      rw [Sign.value]
      omega
    have number := number .minus
    rw [value] at number
    rwa [decimalInt, if_pos negative]
  · have value : Sign.none.value z.natAbs = z := Int.natAbs_of_nonneg (by omega)
    have number := number .none
    rw [value] at number
    rwa [decimalInt, if_neg negative]

/-- A word without white space is scanned whole. -/
theorem scanWord_eq {word : Bytes} (nonempty : word ≠ []) (solid : ∀ b ∈ word, isspace b = false) :
    scanWord word = some word := by
  obtain ⟨first, more, same⟩ := List.exists_cons_of_ne_nil nonempty
  have start : word.dropWhile isspace = word := by
    rw [same, List.dropWhile_cons_of_neg (by simp [solid first (by simp [same])])]
  have whole : word.takeWhile (fun b => !isspace b) = word :=
    List.takeWhile_eq_self_iff.mpr (fun b member => by simp [solid b member])
  simp [scanWord, start, whole, nonempty]

end CLib
