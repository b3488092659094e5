import Mathlib.Data.Nat.Notation
import Mathlib.Tactic.Ring

/-! Words in bytes, the least significant byte first. -/

namespace DummyDrivers.LittleEndian

def leWord (bytes : List UInt8) : ℕ :=
  bytes.foldr (fun byte rest => byte.toNat + 256 * rest) 0

def leBytes : ℕ → ℕ → List UInt8
  | 0, _ => []
  | count + 1, word => UInt8.ofNat word :: leBytes count (word / 256)

@[simp] theorem leWord_nil : leWord [] = 0 := rfl

@[simp] theorem leWord_cons (byte : UInt8) (bytes : List UInt8)
    : leWord (byte :: bytes) = byte.toNat + 256 * leWord bytes := rfl

@[simp] theorem leBytes_length (count word : ℕ) : (leBytes count word).length = count := by
  induction count generalizing word with
  | zero => rfl
  | succ count ih => simp [leBytes, ih]

theorem leWord_lt (bytes : List UInt8) : leWord bytes < 256 ^ bytes.length := by
  induction bytes with
  | nil => simp
  | cons byte bytes ih =>
      have small := byte.toNat_lt
      rw [leWord_cons, List.length_cons, pow_succ]
      omega

theorem leWord_lt_of_length_le {bytes : List UInt8} {count : ℕ} (short : bytes.length ≤ count)
    : leWord bytes < 256 ^ count :=
  (leWord_lt bytes).trans_le (Nat.pow_le_pow_right (by omega) short)

/-- The last byte is the most significant one. -/
theorem leWord_concat (bytes : List UInt8) (byte : UInt8)
    : leWord (bytes ++ [byte]) = leWord bytes ||| byte.toNat <<< (8 * bytes.length) := by
  have small : leWord bytes < 2 ^ (8 * bytes.length) := by
    rw [pow_mul]
    exact leWord_lt bytes
  have sum : leWord (bytes ++ [byte]) = leWord bytes + byte.toNat * 2 ^ (8 * bytes.length) := by
    clear small
    induction bytes with
    | nil => simp
    | cons first bytes ih =>
        rw [List.cons_append, leWord_cons, ih, leWord_cons, List.length_cons, Nat.mul_succ,
          pow_add]
        ring
  rw [sum, Nat.or_comm, ← Nat.shiftLeft_add_eq_or_of_lt small, Nat.shiftLeft_eq, Nat.add_comm]

/-- A word survives its bytes as far as they reach, by induction on their number. -/
theorem leWord_leBytes (count word : ℕ) : leWord (leBytes count word) = word % 256 ^ count := by
  induction count generalizing word with
  | zero => simp [leBytes, Nat.mod_one]
  | succ count ih =>
      have byte : (UInt8.ofNat word).toNat = word % 256 := UInt8.toNat_ofNat'
      rw [leBytes, leWord_cons, ih, byte, pow_succ', Nat.mod_mul]

end DummyDrivers.LittleEndian
