import Mathlib.Algebra.Order.Ring.Nat
import Mathlib.Data.UInt
import Mathlib.Tactic.Ring

/-!
# Numbers as bytes

The bytes of a number in a fixed width, the most significant one first, and the number of bytes it takes. They
are read back as the number (`ofBigEndian_bigEndian`), and a number fits a width exactly when it takes no more
bytes (`lt_pow_iff_byteLength_le`).
-/

namespace Custos

abbrev Bytes := List UInt8

/-- The last bytes of a number, the most significant one first. -/
def bigEndian : ℕ → ℕ → Bytes
  | 0, _ => []
  | width + 1, n => bigEndian width (n / 256) ++ [UInt8.ofNat n]

def ofBigEndian (bs : Bytes) : ℕ := bs.foldl (fun n b => 256 * n + b.toNat) 0

/-- The number of binary digits. -/
def bitLength (n : ℕ) : ℕ := if n = 0 then 0 else n.log2 + 1

/-- The number of bytes. -/
def byteLength (n : ℕ) : ℕ := (bitLength n + 7) / 8

/-- The octets are as many as asked for. -/
@[simp] lemma length_bigEndian (width n : ℕ) : (bigEndian width n).length = width := by
  induction width generalizing n with
  | zero => rfl
  | succ width ih => rw [bigEndian, List.length_append, ih, List.length_singleton]

@[simp] lemma ofBigEndian_nil : ofBigEndian [] = 0 := rfl

/-- The last octet is the least. -/
lemma ofBigEndian_snoc (bs : Bytes) (b : UInt8) :
    ofBigEndian (bs ++ [b]) = 256 * ofBigEndian bs + b.toNat := by
  simp [ofBigEndian]

/-- Octets hold a number up to what they are too few for. -/
lemma ofBigEndian_bigEndian (width n : ℕ) : ofBigEndian (bigEndian width n) = n % 256 ^ width := by
  induction width generalizing n with
  | zero => rw [pow_zero, Nat.mod_one]; rfl
  | succ width ih =>
    have byte : n % 2 ^ 8 = n % 256 := rfl
    rw [bigEndian, ofBigEndian_snoc, ih, UInt8.toNat_ofNat', byte, pow_succ', Nat.mod_mul, Nat.add_comm]

/-- Octets are below the power of their number. -/
lemma ofBigEndian_lt (bs : Bytes) : ofBigEndian bs < 256 ^ bs.length := by
  induction bs using List.reverseRecOn with
  | nil => exact Nat.one_pos
  | append_singleton bs b ih =>
    have byte := b.toNat_lt
    rw [ofBigEndian_snoc, List.length_append, List.length_singleton, pow_succ']
    omega

/-- The first byte is what is above the others. -/
lemma bigEndian_succ (width n : ℕ) :
    bigEndian (width + 1) n = UInt8.ofNat (n / 256 ^ width) :: bigEndian width n := by
  induction width generalizing n with
  | zero => simp [bigEndian]
  | succ width ih =>
    rw [bigEndian, ih, bigEndian, Nat.div_div_eq_div_mul, ← pow_succ']
    rfl

/-! ## Lengths -/

/-- The length in bits of a number below a power. -/
lemma bitLength_le_iff {n k : ℕ} : bitLength n ≤ k ↔ n < 2 ^ k := by
  unfold bitLength
  by_cases zero : n = 0
  · rw [if_pos zero, zero]
    exact iff_of_true (Nat.zero_le _) (Nat.two_pow_pos k)
  · rw [if_neg zero, Nat.succ_le_iff, Nat.log2_lt zero]

lemma pow_256 (k : ℕ) : 256 ^ k = 2 ^ (8 * k) := by
  rw [pow_mul]
  rfl

/-- A number fits a width when it takes no more bytes. -/
lemma lt_pow_iff_byteLength_le {n k : ℕ} : n < 256 ^ k ↔ byteLength n ≤ k := by
  rw [pow_256, ← bitLength_le_iff]
  unfold byteLength
  omega

lemma lt_pow_byteLength (n : ℕ) : n < 256 ^ byteLength n := lt_pow_iff_byteLength_le.2 le_rfl

@[simp] lemma ofBigEndian_byteLength (n : ℕ) : ofBigEndian (bigEndian (byteLength n) n) = n := by
  rw [ofBigEndian_bigEndian, Nat.mod_eq_of_lt (lt_pow_byteLength n)]

/-- A number above zero has an octet. -/
lemma byteLength_pos {n : ℕ} (pos : 0 < n) : 0 < byteLength n := by
  by_contra zero
  have small : n < 256 ^ 0 := lt_pow_iff_byteLength_le.2 (Nat.not_lt.1 zero)
  rw [pow_zero] at small
  omega

end Custos
