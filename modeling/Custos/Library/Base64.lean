import Custos.Library.Bytes

/-!
# URL-safe Base64

Bytes in the URL-safe alphabet, three in four digits, and without padding. What was written is read back
(`Base64.decode_encode`), so that different bytes are written differently.
-/

namespace Custos

namespace Base64

/-- The digits in the order of their values. -/
def alphabet : List Char := "ABCDEFGHIJKLMNOPQRSTUVWXYZabcdefghijklmnopqrstuvwxyz0123456789-_".toList

def digit (n : ℕ) : Char := alphabet.getD n 'A'

def value (c : Char) : Option ℕ := alphabet.idxOf? c

/-- A digit has its value. -/
lemma value_digit {n : ℕ} (lt : n < 64) : value (digit n) = some n := by
  have all : ∀ n ∈ List.range 64, value (digit n) = some n := by decide +kernel
  exact all n (List.mem_range.2 lt)

/-- The digits of bytes. -/
def encode : Bytes → List Char
  | [] => []
  | [a] => [digit (a.toNat / 4), digit (a.toNat % 4 * 16)]
  | [a, b] => [digit (a.toNat / 4), digit (a.toNat % 4 * 16 + b.toNat / 16), digit (b.toNat % 16 * 4)]
  | a :: b :: c :: rest =>
    digit (a.toNat / 4) :: digit (a.toNat % 4 * 16 + b.toNat / 16) :: digit (b.toNat % 16 * 4 + c.toNat / 64) ::
      digit (c.toNat % 64) :: encode rest

/-- The bytes digits stand for. -/
def decode : List Char → Option Bytes
  | [] => some []
  | [_] => none
  | [w, x] => do
    let w ← value w
    let x ← value x
    return [UInt8.ofNat (w * 4 + x / 16)]
  | [w, x, y] => do
    let w ← value w
    let x ← value x
    let y ← value y
    return [UInt8.ofNat (w * 4 + x / 16), UInt8.ofNat (x % 16 * 16 + y / 4)]
  | w :: x :: y :: z :: rest => do
    let w ← value w
    let x ← value x
    let y ← value y
    let z ← value z
    let rest ← decode rest
    return UInt8.ofNat (w * 4 + x / 16) :: UInt8.ofNat (x % 16 * 16 + y / 4) :: UInt8.ofNat (y % 4 * 64 + z) :: rest

lemma byte_of_parts {a : UInt8} {n : ℕ} (eq : n = a.toNat) : UInt8.ofNat n = a := by
  rw [eq, UInt8.ofNat_toNat]

/-- What was written is read back. -/
theorem decode_encode (bs : Bytes) : decode (encode bs) = some bs := by
  induction bs using encode.induct with
  | case1 => rfl
  | case2 a =>
    have lt := a.toNat_lt
    rw [encode, decode, value_digit (by omega), value_digit (by omega)]
    exact congrArg (fun a => some [a]) (byte_of_parts (by omega))
  | case3 a b =>
    have lt := a.toNat_lt
    have lt' := b.toNat_lt
    rw [encode, decode, value_digit (by omega), value_digit (by omega), value_digit (by omega)]
    exact congrArg₂ (fun a b => some [a, b]) (byte_of_parts (by omega)) (byte_of_parts (by omega))
  | case4 a b c rest ih =>
    have lt := a.toNat_lt
    have lt' := b.toNat_lt
    have lt'' := c.toNat_lt
    rw [encode, decode, value_digit (by omega), value_digit (by omega), value_digit (by omega),
      value_digit (by omega), ih]
    show some (_ :: _ :: _ :: rest) = _
    rw [byte_of_parts (a := a) (by omega), byte_of_parts (a := b) (by omega), byte_of_parts (a := c) (by omega)]

/-- A number by its bytes. -/
def encodeNat (n : ℕ) : String := .ofList (encode (bigEndian (byteLength n) n))

/-- The number a text stands for. -/
def decodeNat (s : String) : Option ℕ := (decode s.toList).map ofBigEndian

@[simp] lemma decodeNat_encodeNat (n : ℕ) : decodeNat (encodeNat n) = some n := by
  rw [decodeNat, encodeNat, String.toList_ofList, decode_encode, Option.map_some, ofBigEndian_byteLength]

end Base64

end Custos
