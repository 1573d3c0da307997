import Custos.Library.Bytes
import Mathlib.Data.List.Basic
import Mathlib.Tactic.Positivity

/-!
# Distinguished encoding rules

Values framed by a tag byte and their length, as ASN.1's distinguished rules frame them: the length in one
byte below 128, else behind a byte that gives the number of its own bytes, and in the fewest bytes there are
for it (`lengthOctets_length_le`). The reader takes back what was framed and leaves what follows
(`readTlv_encode`), so framed values in a row are read in one way (`flatMap_encode_injOn`).

A count of length bytes of 127 is reserved, so lengths from `lengthLimit` on have no encoding.
-/

namespace Custos.Der

/-- The bound of the lengths that 126 bytes can hold. -/
def lengthLimit : ℕ := 256 ^ 126

/-! ## Framing -/

/-- The length octets of a length. -/
def lengthOctets (n : ℕ) : Bytes :=
  if n < 0x80 then [UInt8.ofNat n]
  else UInt8.ofNat (0x80 + byteLength n) :: bigEndian (byteLength n) n

/-- A value behind its tag and its length. -/
def encode (tag : UInt8) (value : Bytes) : Bytes := tag :: (lengthOctets value.length ++ value)

/-- Reads a definite length, in few bytes or in many. -/
def readLength : Bytes → Option (ℕ × Bytes)
  | [] => none
  | b :: rest =>
    if b.toNat < 0x80 then some (b.toNat, rest)
    -- an indefinite length, and the reserved count
    else if b.toNat = 0x80 ∨ b.toNat = 0xff then none
    else
      let count := b.toNat - 0x80
      if rest.length < count then none else some (ofBigEndian (rest.take count), rest.drop count)

/-- Reads a framed value whose length is given in the fewest bytes: the tag, the value, and what follows. -/
def readTlv : Bytes → Option (UInt8 × Bytes × Bytes)
  | [] => none
  | tag :: rest =>
    match readLength rest with
    | none => none
    | some (n, content) =>
      if rest.length ≠ (lengthOctets n).length + content.length ∨ content.length < n then none
      else some (tag, content.take n, content.drop n)

/-- Reads a framed value with this tag: the value, and what follows. -/
def readTagged (tag : UInt8) (bs : Bytes) : Option (Bytes × Bytes) :=
  match readTlv bs with
  | some (found, value, rest) => if found = tag then some (value, rest) else none
  | none => none

/-- Reads a framed value with this tag that nothing follows. -/
def readWhole (tag : UInt8) (bs : Bytes) : Option Bytes :=
  match readTagged tag bs with
  | some (value, []) => some value
  | _ => none

/-- Reads framed values in a row. The fuel is the number of bytes. -/
def readFrom : ℕ → Bytes → Option (List (UInt8 × Bytes))
  | _, [] => some []
  | 0, _ :: _ => none
  | fuel + 1, bs =>
    match readTlv bs with
    | none => none
    | some (tag, value, rest) => (readFrom fuel rest).map ((tag, value) :: ·)

def readAll (bs : Bytes) : Option (List (UInt8 × Bytes)) := readFrom bs.length bs

/-! ## Primitive values -/

/-- An INTEGER: two's complement, and the first nine bits not all alike. -/
def readInteger : Bytes → Option ℤ
  | [] => none
  | b :: rest =>
    if b.toNat = 0 ∧ rest.head?.any (·.toNat < 0x80) ∨ b.toNat = 0xff ∧ rest.head?.any (0x80 ≤ ·.toNat) then
      none
    else if b.toNat < 0x80 then some (ofBigEndian (b :: rest))
    else some (ofBigEndian (b :: rest) - 256 ^ (rest.length + 1))

/-- A BOOLEAN: one byte, with all its bits set or none. -/
def readBoolean : Bytes → Option Bool
  | [b] => if b.toNat = 0xff then some true else if b.toNat = 0 then some false else none
  | _ => none

/-- The numbers of an OBJECT IDENTIFIER, in base 128 with the top bit set in all digits but the last. -/
def readArcs : Option ℕ → Bytes → Option (List ℕ)
  | none, [] => some []
  | some _, [] => none
  | higher, b :: rest =>
    -- no leading zeros
    if higher = none ∧ b.toNat = 0x80 then none
    else
      let n := 128 * higher.getD 0 + b.toNat % 128
      if 0x80 ≤ b.toNat then readArcs (some n) rest else (readArcs none rest).map (n :: ·)

/-- An OBJECT IDENTIFIER: the first number stands for two arcs. -/
def readOid (bs : Bytes) : Option (List ℕ) :=
  match readArcs none bs with
  | some (first :: arcs) =>
    some (if first < 40 then 0 :: first :: arcs
      else if first < 80 then 1 :: (first - 40) :: arcs
      else 2 :: (first - 80) :: arcs)
  | _ => none

/-! ## Lengths -/

lemma lengthOctets_short {n : ℕ} (short : n < 0x80) : lengthOctets n = [UInt8.ofNat n] := if_pos short

lemma lengthOctets_long {n : ℕ} (long : ¬ n < 0x80) :
    lengthOctets n = UInt8.ofNat (0x80 + byteLength n) :: bigEndian (byteLength n) n := if_neg long

/-- The octets of a length. -/
lemma length_lengthOctets (n : ℕ) :
    (lengthOctets n).length = if n < 0x80 then 1 else 1 + byteLength n := by
  unfold lengthOctets
  split
  · rfl
  · rw [List.length_cons, length_bigEndian, Nat.add_comm]

/-- A value is framed by its tag and its length. -/
lemma length_encode (tag : UInt8) (value : Bytes) :
    (encode tag value).length = 1 + (lengthOctets value.length).length + value.length := by
  rw [encode, List.length_cons, List.length_append]
  omega

lemma byteLength_le_of_lt_limit {n : ℕ} (h : n < lengthLimit) : byteLength n ≤ 126 :=
  lt_pow_iff_byteLength_le.1 h

/-! ## Reading what was framed -/

/-- A length is read back. -/
lemma readLength_lengthOctets {n : ℕ} (h : n < lengthLimit) (rest : Bytes) :
    readLength (lengthOctets n ++ rest) = some (n, rest) := by
  by_cases short : n < 0x80
  · have byte : (UInt8.ofNat n).toNat = n := UInt8.toNat_ofNat_of_lt' (short.trans (by decide))
    rw [lengthOctets_short short, List.singleton_append, readLength, byte, if_pos short]
  · have bound := byteLength_le_of_lt_limit h
    have pos : 0 < byteLength n := byteLength_pos (by omega)
    have byte : (UInt8.ofNat (0x80 + byteLength n)).toNat = 0x80 + byteLength n :=
      UInt8.toNat_ofNat_of_lt' (show 0x80 + byteLength n < 256 by omega)
    have count : 0x80 + byteLength n - 0x80 = (bigEndian (byteLength n) n).length := by
      rw [length_bigEndian, Nat.add_sub_cancel_left]
    rw [lengthOctets_long short, List.cons_append, readLength, byte, if_neg (by omega), if_neg (by omega)]
    dsimp only
    rw [count, if_neg (by simp), List.take_left, List.drop_left, ofBigEndian_byteLength]

/-- A framed value is read back, whatever follows it. -/
theorem readTlv_encode {tag : UInt8} {value : Bytes} (h : value.length < lengthLimit) (rest : Bytes) :
    readTlv (encode tag value ++ rest) = some (tag, value, rest) := by
  have split : encode tag value ++ rest = tag :: (lengthOctets value.length ++ (value ++ rest)) := by
    rw [encode, List.cons_append, List.append_assoc]
  have whole : ¬ ((lengthOctets value.length ++ (value ++ rest)).length ≠
      (lengthOctets value.length).length + (value ++ rest).length ∨
        (value ++ rest).length < value.length) := by simp
  rw [split, readTlv, readLength_lengthOctets h]
  dsimp only
  rw [if_neg whole, List.take_left, List.drop_left]

/-- What is read as a length: one byte below 128, or a byte with the number of the bytes behind it. -/
lemma readLength_cases {bs rest : Bytes} {n : ℕ} (read : readLength bs = some (n, rest)) :
    (∃ b, bs = b :: rest ∧ n = b.toNat ∧ n < 0x80) ∨
      ∃ b more, bs = b :: (more ++ rest) ∧ more.length ≤ 126 ∧ n = ofBigEndian more := by
  cases bs with
  | nil => cases read
  | cons b following =>
    have byte := b.toNat_lt
    unfold readLength at read
    dsimp only at read
    split at read
    · rename_i short
      obtain ⟨rfl, rfl⟩ := Prod.mk.inj (Option.some.inj read)
      exact .inl ⟨b, rfl, rfl, short⟩
    · split at read
      · cases read
      · split at read
        · cases read
        · rename_i special enough
          obtain ⟨rfl, rfl⟩ := Prod.mk.inj (Option.some.inj read)
          refine .inr ⟨b, following.take (b.toNat - 0x80), by rw [List.take_append_drop], ?_, rfl⟩
          rw [List.length_take]
          omega

/-- A length that is read is below the limit. -/
lemma lt_limit_of_readLength {bs rest : Bytes} {n : ℕ} (read : readLength bs = some (n, rest)) :
    n < lengthLimit := by
  rcases readLength_cases read with ⟨-, -, -, short⟩ | ⟨b, more, -, few, rfl⟩
  · exact short.trans (by decide)
  · exact (ofBigEndian_lt more).trans_le (Nat.pow_le_pow_right (by decide) few)

/-- A value is read back behind its tag. -/
lemma readTagged_encode {tag : UInt8} {value : Bytes} (h : value.length < lengthLimit) (rest : Bytes) :
    readTagged tag (encode tag value ++ rest) = some (value, rest) := by
  rw [readTagged, readTlv_encode h]
  exact if_pos rfl

lemma readWhole_encode {tag : UInt8} {value : Bytes} (h : value.length < lengthLimit) :
    readWhole tag (encode tag value) = some value := by
  have read : readTagged tag (encode tag value ++ []) = some (value, []) := readTagged_encode h []
  rw [List.append_nil] at read
  rw [readWhole, read]

/-- No octets that are read as the length are fewer. -/
theorem lengthOctets_length_le {n : ℕ} {octets rest : Bytes}
    (read : readLength (octets ++ rest) = some (n, rest)) :
    (lengthOctets n).length ≤ octets.length := by
  rw [length_lengthOctets]
  rcases readLength_cases read with ⟨b, eq, -, short⟩ | ⟨b, more, eq, -, rfl⟩
  · have one : octets = [b] := List.append_cancel_right (eq.trans List.singleton_append.symm)
    rw [if_pos short, one]
    exact le_rfl
  · have all : octets = b :: more := List.append_cancel_right (eq.trans List.cons_append.symm)
    have fits : byteLength (ofBigEndian more) ≤ more.length :=
      lt_pow_iff_byteLength_le.1 (ofBigEndian_lt more)
    rw [all, List.length_cons]
    split <;> omega

/-- Nothing that is read to its end is longer than a framed value can be. -/
lemma length_lt_of_readTlv {bs value : Bytes} {tag : UInt8} (read : readTlv bs = some (tag, value, [])) :
    bs.length < lengthLimit + 128 := by
  cases bs with
  | nil => cases read
  | cons b rest =>
    unfold readTlv at read
    dsimp only at read
    cases lengths : readLength rest with
    | none =>
      rw [lengths] at read
      cases read
    | some found =>
      obtain ⟨n, content⟩ := found
      rw [lengths] at read
      dsimp only at read
      split at read
      · cases read
      · rename_i whole
        have bound := lt_limit_of_readLength lengths
        have octets : (lengthOctets n).length ≤ 127 := by
          have few := byteLength_le_of_lt_limit bound
          rw [length_lengthOctets]
          split <;> omega
        have ended := congrArg List.length (Prod.mk.inj (Prod.mk.inj (Option.some.inj read)).2).2
        rw [List.length_drop, List.length_nil] at ended
        rw [List.length_cons]
        omega

/-- What is read whole is not much longer than the limit. -/
lemma length_lt_of_readWhole {bs value : Bytes} {tag : UInt8} (read : readWhole tag bs = some value) :
    bs.length < lengthLimit + 128 := by
  unfold readWhole readTagged at read
  cases framed : readTlv bs with
  | none =>
    rw [framed] at read
    cases read
  | some found =>
    obtain ⟨tag', value', rest⟩ := found
    rw [framed] at read
    dsimp only at read
    cases rest with
    | nil => exact length_lt_of_readTlv framed
    | cons b rest =>
      split at read
      · rename_i same
        split at same <;> cases same
      · cases read

/-- Framed values in a row are read back. -/
theorem readAll_flatMap {vs : List (UInt8 × Bytes)} (h : ∀ v ∈ vs, v.2.length < lengthLimit) :
    readAll (vs.flatMap fun v => encode v.1 v.2) = some vs := by
  have fueled : ∀ fuel, (vs.flatMap fun v => encode v.1 v.2).length ≤ fuel →
      readFrom fuel (vs.flatMap fun v => encode v.1 v.2) = some vs := by
    induction vs with
    | nil => intro fuel _; cases fuel <;> rfl
    | cons v vs ih =>
      intro fuel enough
      obtain ⟨first, others⟩ := List.forall_mem_cons.1 h
      rw [List.flatMap_cons] at enough ⊢
      rw [List.length_append, length_encode] at enough
      cases fuel with
      | zero => omega
      | succ fuel =>
        have read : readTlv (encode v.1 v.2 ++ vs.flatMap fun v => encode v.1 v.2) =
            some (v.1, v.2, vs.flatMap fun v => encode v.1 v.2) := readTlv_encode first _
        rw [encode, List.cons_append] at read ⊢
        rw [readFrom, read]
        · dsimp only
          rw [ih others fuel (by omega)]
          rfl
        · exact List.cons_ne_nil _ _
  exact fueled _ le_rfl

/-- Values in a row are framed in one way. -/
theorem flatMap_encode_injOn {vs ws : List (UInt8 × Bytes)} (hv : ∀ v ∈ vs, v.2.length < lengthLimit)
    (hw : ∀ w ∈ ws, w.2.length < lengthLimit)
    (same : (vs.flatMap fun v => encode v.1 v.2) = ws.flatMap fun w => encode w.1 w.2) : vs = ws := by
  apply Option.some.inj
  rw [← readAll_flatMap hv, same, readAll_flatMap hw]

/-- The bytes of a natural number are read as that number exactly where the top bit of the first is clear. -/
theorem readInteger_bigEndian_iff (n : ℕ) :
    readInteger (bigEndian (max 1 (byteLength n)) n) = some (n : ℤ) ↔ n = 0 ∨ bitLength n % 8 ≠ 0 := by
  rcases Nat.eq_zero_or_pos n with rfl | pos
  · exact iff_of_true rfl (.inl rfl)
  obtain ⟨v, width⟩ : ∃ v, byteLength n = v + 1 := ⟨byteLength n - 1, by have := byteLength_pos pos; omega⟩
  have above : 256 ^ v ≤ n := by
    by_contra below
    have := lt_pow_iff_byteLength_le.1 (Nat.lt_of_not_le below)
    omega
  have top : n / 256 ^ v < 256 := by
    rw [Nat.div_lt_iff_lt_mul (by positivity), ← pow_succ', ← width]
    exact lt_pow_byteLength n
  have first : 0 < n / 256 ^ v := Nat.div_pos above (by positivity)
  have byte : (UInt8.ofNat (n / 256 ^ v)).toNat = n / 256 ^ v := UInt8.toNat_ofNat_of_lt' top
  -- the top bit of the first byte tells whether the bits fill the bytes
  have clear : n / 256 ^ v < 128 ↔ bitLength n % 8 ≠ 0 := by
    have bits : n / 256 ^ v < 128 ↔ bitLength n ≤ 8 * v + 7 := by
      rw [Nat.div_lt_iff_lt_mul (by positivity), bitLength_le_iff, pow_256, Nat.add_comm, pow_add]
      rfl
    have bytes : (bitLength n + 7) / 8 = v + 1 := width
    rw [bits]
    omega
  have value : ofBigEndian (UInt8.ofNat (n / 256 ^ v) :: bigEndian v n) = n := by
    rw [← bigEndian_succ, ← width, ofBigEndian_byteLength]
  rw [width, max_eq_right (by omega), bigEndian_succ, readInteger, byte, value, length_bigEndian,
    or_iff_right pos.ne', ← clear]
  by_cases small : n / 256 ^ v < 128
  · rw [if_neg (by omega), if_pos small]
    exact iff_of_true rfl small
  · refine iff_of_false (fun read => ?_) small
    split at read
    · cases read
    · have same := Option.some.inj read
      have power : (0 : ℤ) < 256 ^ (v + 1) := by positivity
      omega

end Custos.Der
