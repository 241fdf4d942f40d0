import CorosyncClient.CLib.Text

/-!
Unsigned numbers in memory, least byte first, as an x86-64 stores them.
-/
namespace CLib

/-- The number in the first `n` bytes. -/
def loadNat : Nat → Bytes → Nat
  | 0, _ => 0
  | n + 1, memory => (memory.headD 0).toNat + 256 * loadNat n memory.tail

/-- The `n` bytes that hold `value`. -/
def storeNat : Nat → Nat → Bytes
  | 0, _ => []
  | n + 1, value => value.toUInt8 :: storeNat n (value / 256)

@[simp] theorem storeNat_length (n value : Nat) : (storeNat n value).length = n := by
  induction n generalizing value with
  | zero => rfl
  | succ n ih => simp [storeNat, ih]

theorem loadNat_lt (n : Nat) (memory : Bytes) : loadNat n memory < 256 ^ n := by
  induction n generalizing memory with
  | zero => simp [loadNat]
  | succ n ih =>
    have tail := ih memory.tail
    have head := (memory.headD 0).toNat_lt
    rw [loadNat, Nat.pow_succ]
    omega

/-- Storing what was loaded gives the bytes back. -/
theorem storeNat_loadNat {n : Nat} {memory : Bytes} (whole : n ≤ memory.length) :
    storeNat n (loadNat n memory) = memory.take n := by
  induction n generalizing memory with
  | zero => rfl
  | succ n ih =>
    cases memory with
    | nil => simp at whole
    | cons b rest =>
      have small := b.toNat_lt
      have low : (b.toNat + 256 * loadNat n rest).toUInt8 = b := by
        apply UInt8.toNat_inj.mp
        simp only [Nat.toUInt8, UInt8.toNat_ofNat']
        omega
      have high : (b.toNat + 256 * loadNat n rest) / 256 = loadNat n rest := by omega
      simp only [loadNat, storeNat, List.headD_cons, List.tail_cons, List.take_succ_cons, low, high]
      rw [ih (by simpa using whole)]

/-- The stored bytes determine the number. -/
theorem storeNat_inj {n a b : Nat} (same : storeNat n a = storeNat n b) (low : a < 256 ^ n) (high : b < 256 ^ n) :
    a = b := by
  induction n generalizing a b with
  | zero =>
    rw [Nat.pow_zero] at low high
    omega
  | succ n ih =>
    rw [Nat.pow_succ] at low high
    simp only [storeNat, List.cons.injEq] at same
    obtain ⟨first, rest⟩ := same
    have quotient := ih rest (by omega) (by omega)
    have remainder := congrArg UInt8.toNat first
    simp only [Nat.toUInt8, UInt8.toNat_ofNat'] at remainder
    omega

end CLib
