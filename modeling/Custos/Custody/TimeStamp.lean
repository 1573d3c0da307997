import Custos.Library.Der
import Custos.Platform

/-!
# Time-stamp requests

The request that `custos/custody.py` sends to a time-stamping authority: `_der_len`, `_der_tlv` and
`build_tsa_request`. The framing is that of the distinguished rules for every value they can frame
(`derTlv_framing`). The request is not what it is meant to be for half of the nonces: the nonce is written as its
bytes, without the zero byte that keeps a set top bit from being its sign (`buildTsaRequest_iff`).
-/

namespace Custos

/-- The digests of SHA-256. -/
abbrev Digest := {bs : Bytes // bs.length = 32}

/-- `hashlib.sha256(data).digest()`. -/
class Sha256 where
  digest : Bytes → Digest

/-- `bytes([n])`. -/
def byte (n : ℕ) : Except Exn UInt8 :=
  if n < 256 then .ok (UInt8.ofNat n) else .error (.ValueError "bytes must be in range(0, 256)")

/-- `n.to_bytes(length, "big")`. -/
def toBytes (n length : ℕ) : Except Exn Bytes :=
  if n < 256 ^ length then .ok (bigEndian length n)
  else .error (.Other "OverflowError" "int too big to convert")

/-- `_der_len`. -/
def derLen (n : ℕ) : Except Exn Bytes := do
  if n < 0x80 then return [← byte n]
  let raw ← toBytes n ((bitLength n + 7) / 8)
  return (← byte (0x80 ||| raw.length)) :: raw

/-- `_der_tlv`. -/
def derTlv (tag : UInt8) (value : Bytes) : Except Exn Bytes := do
  return tag :: ((← derLen value.length) ++ value)

def OID_SHA256 : Bytes := [0x06, 0x09, 0x60, 0x86, 0x48, 0x01, 0x65, 0x03, 0x04, 0x02, 0x01]

/-- `build_tsa_request`. -/
def buildTsaRequest [Sha256] (data : Bytes) (nonce : ℕ) : Except Exn Bytes := do
  let digest := (Sha256.digest data).1
  let algorithmId ← derTlv 0x30 (OID_SHA256 ++ (← derTlv 0x05 []))
  let messageImprint ← derTlv 0x30 (algorithmId ++ (← derTlv 0x04 digest))
  let version ← derTlv 0x02 [0x01]
  let nonce ← derTlv 0x02 (← toBytes nonce (max 1 ((bitLength nonce + 7) / 8)))
  let certReq ← derTlv 0x01 [0xff]
  derTlv 0x30 (version ++ messageImprint ++ nonce ++ certReq)

/-! ## What an authority reads -/

/-- What is to be stamped: a digest and how it was made. -/
structure MessageImprint where
  hashAlgorithm : List ℕ
  hashedMessage : Bytes
  deriving DecidableEq

/-- A time-stamp request with a nonce, and without a policy or extensions. -/
structure TimeStampReq where
  version : ℤ
  messageImprint : MessageImprint
  nonce : ℤ
  certReq : Bool
  deriving DecidableEq

/-- Reads an imprint by the distinguished rules, to its end. The algorithm has no parameters. -/
def readMessageImprint (bs : Bytes) : Option MessageImprint := do
  let (algorithm, hashed) ← Der.readTagged 0x30 bs
  let hashedMessage ← Der.readWhole 0x04 hashed
  let (oid, parameters) ← Der.readTagged 0x06 algorithm
  let null ← Der.readWhole 0x05 parameters
  guard (null = [])
  return { hashAlgorithm := ← Der.readOid oid, hashedMessage }

/-- Reads a request by the distinguished rules, to its end. -/
def readTimeStampReq (bs : Bytes) : Option TimeStampReq := do
  let body ← Der.readWhole 0x30 bs
  let (version, body) ← Der.readTagged 0x02 body
  let (messageImprint, body) ← Der.readTagged 0x30 body
  let (nonce, body) ← Der.readTagged 0x02 body
  let certReq ← Der.readWhole 0x01 body
  return {
    version := ← Der.readInteger version
    messageImprint := ← readMessageImprint messageImprint
    nonce := ← Der.readInteger nonce
    certReq := ← Der.readBoolean certReq }

/-- `id-sha256`. -/
def SHA256_ARCS : List ℕ := [2, 16, 840, 1, 101, 3, 4, 2, 1]

/-- The request for a time stamp of the data. -/
def requestFor [Sha256] (data : Bytes) (nonce : ℕ) : TimeStampReq where
  version := 1
  messageImprint := { hashAlgorithm := SHA256_ARCS, hashedMessage := (Sha256.digest data).1 }
  nonce := nonce
  certReq := true

/-! ## Framing -/

lemma byte_of_lt {n : ℕ} (h : n < 256) : byte n = .ok (UInt8.ofNat n) := if_pos h

lemma toBytes_byteLength (n : ℕ) : toBytes n (byteLength n) = .ok (bigEndian (byteLength n) n) :=
  if_pos (lt_pow_byteLength n)

/-- A length below 128 is one octet. -/
lemma derLen_short {n : ℕ} (short : n < 0x80) : derLen n = .ok [UInt8.ofNat n] := by
  rw [derLen, if_pos short, byte_of_lt (by omega)]
  rfl

/-- Any other is preceded by its number of octets. -/
lemma derLen_long {n : ℕ} (long : ¬ n < 0x80) :
    derLen n = (byte (0x80 ||| byteLength n)).map (· :: bigEndian (byteLength n) n) := by
  have raw : toBytes n ((bitLength n + 7) / 8) = .ok (bigEndian (byteLength n) n) := toBytes_byteLength n
  rw [derLen, if_neg long, raw, ok_bind, length_bigEndian]
  rfl

/-- The lengths the rules can express are written as they ask. -/
lemma derLen_of_lt {n : ℕ} (h : n < Der.lengthLimit) : derLen n = .ok (Der.lengthOctets n) := by
  by_cases short : n < 0x80
  · rw [derLen_short short, Der.lengthOctets_short short]
  · have few := Der.byteLength_le_of_lt_limit h
    have count : 0x80 ||| byteLength n = 0x80 + byteLength n :=
      (Nat.two_pow_add_eq_or_of_lt (i := 7) (by omega) 1).symm
    rw [derLen_long short, Der.lengthOctets_long short, count, byte_of_lt (by omega)]
    rfl

/-- A value that is not too long is framed. -/
lemma derTlv_of_lt {value : Bytes} (tag : UInt8) (h : value.length < Der.lengthLimit) :
    derTlv tag value = .ok (Der.encode tag value) := by
  rw [derTlv, derLen_of_lt h]
  rfl

/-- What is written for a longer value is longer than any value the rules frame. -/
lemma length_of_derTlv {tag : UInt8} {value out : Bytes} (h : ¬ value.length < Der.lengthLimit)
    (ok : derTlv tag value = .ok out) : Der.lengthLimit + 128 ≤ out.length := by
  have many : 127 ≤ byteLength value.length := by
    by_contra few
    exact h (lt_pow_iff_byteLength_le.2 (by omega))
  have long : ¬ value.length < 0x80 := fun short => h (short.trans (by decide))
  rw [derTlv, derLen_long long] at ok
  cases first : byte (0x80 ||| byteLength value.length) with
  | error e =>
    rw [first] at ok
    cases ok
  | ok b =>
    rw [first] at ok
    cases ok
    rw [List.length_cons, List.cons_append, List.length_cons, List.length_append, length_bigEndian]
    omega

/-- The limit of DER's lengths. -/
lemma two_pow_eq_lengthLimit : 2 ^ 1008 = Der.lengthLimit := by
  have bytes : 1008 = 8 * 126 := rfl
  rw [bytes, ← pow_256]
  rfl

lemma small_lt_limit {n : ℕ} (small : n < 256) : n < Der.lengthLimit :=
  small.trans_le (Nat.pow_le_pow_right (n := 256) (by decide) (show 1 ≤ 126 by decide))

/-- Values framed in a row. -/
def derConcat (vs : List (UInt8 × Bytes)) : Except Exn Bytes :=
  (vs.mapM fun v => derTlv v.1 v.2).map List.flatten

/-- Values that are not too long are framed one behind the other. -/
lemma derConcat_of_lt {vs : List (UInt8 × Bytes)} (h : ∀ v ∈ vs, v.2.length < Der.lengthLimit) :
    derConcat vs = .ok (vs.flatMap fun v => Der.encode v.1 v.2) := by
  have framed : vs.mapM (fun v => derTlv v.1 v.2) = .ok (vs.map fun v => Der.encode v.1 v.2) := by
    induction vs with
    | nil => rfl
    | cons v vs ih =>
      obtain ⟨first, others⟩ := List.forall_mem_cons.1 h
      rw [List.mapM_cons, derTlv_of_lt v.1 first, ih others]
      rfl
  rw [derConcat, framed]
  rfl

/-- The framing of `_der_tlv`, of contents shorter than 2^1008 bytes: it does not raise, a reader finds the tag
and the content and leaves what follows, and no length octets are fewer; and values framed in a row are read
back, so that they are the framing of no others. -/
theorem derTlv_framing :
    (∀ (tag : UInt8) (value : Bytes), value.length < 2 ^ 1008 → ∃ octets,
      derLen value.length = .ok octets ∧ derTlv tag value = .ok (tag :: (octets ++ value)) ∧
      (∀ trailing, Der.readTlv (tag :: (octets ++ value) ++ trailing) = some (tag, value, trailing)) ∧
      ∀ other rest, Der.readLength (other ++ rest) = some (value.length, rest) →
        octets.length ≤ other.length) ∧
    (∀ vs : List (UInt8 × Bytes), (∀ v ∈ vs, v.2.length < 2 ^ 1008) →
      ∃ framed, derConcat vs = .ok framed ∧ Der.readAll framed = some vs) ∧
    ∀ vs ws : List (UInt8 × Bytes), (∀ v ∈ vs, v.2.length < 2 ^ 1008) →
      (∀ w ∈ ws, w.2.length < 2 ^ 1008) → derConcat vs = derConcat ws → vs = ws := by
  rw [two_pow_eq_lengthLimit]
  refine ⟨fun tag value small => ?_, fun vs h => ?_, fun vs ws hv hw same => ?_⟩
  · refine ⟨Der.lengthOctets value.length, derLen_of_lt small, derTlv_of_lt tag small, ?_, ?_⟩
    · intro trailing
      exact Der.readTlv_encode small trailing
    · intro other rest read
      exact Der.lengthOctets_length_le read
  · exact ⟨_, derConcat_of_lt h, Der.readAll_flatMap h⟩
  · rw [derConcat_of_lt hv, derConcat_of_lt hw] at same
    exact Der.flatMap_encode_injOn hv hw (Except.ok.inj same)

section Sample

/-- A value of the first length that takes a second octet, and two values in a row. -/
theorem derTlv_framing_sample :
    (∃ octets, derTlv 0x04 (List.replicate 128 0) = .ok (0x04 :: (octets ++ List.replicate 128 0)) ∧
      Der.readTlv (0x04 :: (octets ++ List.replicate 128 0) ++ [0x05]) =
        some (0x04, List.replicate 128 0, [0x05])) ∧
    ∃ framed, derConcat [(0x05, []), (0x01, [0xff])] = .ok framed ∧
      Der.readAll framed = some [(0x05, []), (0x01, [0xff])] := by
  have small : ∀ {n : ℕ}, n < 256 → n < 2 ^ 1008 := fun h =>
    (small_lt_limit h).trans_eq two_pow_eq_lengthLimit.symm
  constructor
  · obtain ⟨octets, -, framed, read, -⟩ := derTlv_framing.1 0x04 (List.replicate 128 0)
      (small (by rw [List.length_replicate]; decide))
    exact ⟨octets, framed, read [0x05]⟩
  · refine derTlv_framing.2.1 _ ?_
    rw [List.forall_mem_cons, List.forall_mem_singleton]
    exact ⟨small (n := 0) (by decide), small (n := 1) (by decide)⟩

end Sample

/-! ## The request -/

section

variable [Sha256]

/-- The nonce's bytes, as `build_tsa_request` writes them. -/
def nonceBytes (nonce : ℕ) : Bytes := bigEndian (max 1 (byteLength nonce)) nonce

/-- `message_imprint`, unframed. -/
def imprint (data : Bytes) : Bytes :=
  Der.encode 0x30 (OID_SHA256 ++ Der.encode 0x05 []) ++ Der.encode 0x04 (Sha256.digest data).1

/-- What the request frames, around its framed nonce. -/
def requestBody (data framedNonce : Bytes) : Bytes :=
  Der.encode 0x02 [0x01] ++ Der.encode 0x30 (imprint data) ++ framedNonce ++ Der.encode 0x01 [0xff]

omit [Sha256] in
/-- A short value is framed by two octets. -/
lemma length_encode_short {tag : UInt8} {value : Bytes} (short : value.length < 128) :
    (Der.encode tag value).length = 2 + value.length := by
  rw [Der.length_encode, Der.length_lengthOctets, if_pos short]

omit [Sha256] in
/-- The nonce fits the octets it is given. -/
lemma nonce_toBytes (nonce : ℕ) :
    toBytes nonce (max 1 ((bitLength nonce + 7) / 8)) = .ok (nonceBytes nonce) :=
  if_pos (lt_pow_iff_byteLength_le.2 (le_max_right 1 (byteLength nonce)))

omit [Sha256] in
lemma length_algorithm : (OID_SHA256 ++ Der.encode 0x05 []).length = 13 := by decide

/-- The imprint has 49 octets. -/
lemma length_imprint (data : Bytes) : (imprint data).length = 49 := by
  have digest := (Sha256.digest data).2
  rw [imprint, List.length_append, length_encode_short (by rw [length_algorithm]; decide), length_algorithm,
    length_encode_short (by rw [digest]; decide), digest]

lemma length_requestBody (data framedNonce : Bytes) :
    (requestBody data framedNonce).length = 57 + framedNonce.length := by
  have version : (Der.encode 0x02 [0x01]).length = 3 := by decide
  have certReq : (Der.encode 0x01 [0xff]).length = 3 := by decide
  have framed : (Der.encode 0x30 (imprint data)).length = 51 := by
    rw [length_encode_short (by rw [length_imprint]; decide), length_imprint]
  rw [requestBody, List.length_append, List.length_append, List.length_append, version, certReq, framed]
  omega

/-- The request, with the frame of its nonce taken out. -/
lemma buildTsaRequest_eq (data : Bytes) (nonce : ℕ) :
    buildTsaRequest data nonce =
      derTlv 0x02 (nonceBytes nonce) >>= fun framedNonce => derTlv 0x30 (requestBody data framedNonce) := by
  have digest := (Sha256.digest data).2
  have small : ∀ (tag : UInt8) {value : Bytes}, value.length < 256 → derTlv tag value =
      .ok (Der.encode tag value) := fun tag _ short => derTlv_of_lt tag (small_lt_limit short)
  have framed : derTlv 0x30 (Der.encode 0x30 (OID_SHA256 ++ Der.encode 0x05 []) ++
      Der.encode 0x04 (Sha256.digest data).1) = .ok (Der.encode 0x30 (imprint data)) :=
    small 0x30 (by rw [← imprint, length_imprint]; decide)
  have version : derTlv 0x02 [0x01] = .ok (Der.encode 0x02 [0x01]) := small 0x02 (by decide)
  unfold buildTsaRequest requestBody
  dsimp only
  rw [nonce_toBytes, small 0x05 (by decide), small 0x04 (by rw [digest]; decide), version,
    small 0x01 (by decide), ok_bind,
    small 0x30 (by rw [length_algorithm]; decide), ok_bind, ok_bind, framed, ok_bind, ok_bind, ok_bind]
  simp only [ok_bind]

/-- The imprint is read back as the digest of the data. -/
lemma readMessageImprint_imprint (data : Bytes) :
    readMessageImprint (imprint data) =
      some { hashAlgorithm := SHA256_ARCS, hashedMessage := (Sha256.digest data).1 } := by
  have digest := (Sha256.digest data).2
  have oid : OID_SHA256 = Der.encode 0x06 [0x60, 0x86, 0x48, 0x01, 0x65, 0x03, 0x04, 0x02, 0x01] := by decide
  have arcs : Der.readOid [0x60, 0x86, 0x48, 0x01, 0x65, 0x03, 0x04, 0x02, 0x01] = some SHA256_ARCS := by decide
  have algorithm : Der.readTagged 0x30 (imprint data) =
      some (OID_SHA256 ++ Der.encode 0x05 [], Der.encode 0x04 (Sha256.digest data).1) :=
    Der.readTagged_encode (small_lt_limit (by rw [length_algorithm]; decide)) _
  have hashed : Der.readWhole 0x04 (Der.encode 0x04 (Sha256.digest data).1) = some (Sha256.digest data).1 :=
    Der.readWhole_encode (small_lt_limit (by rw [digest]; decide))
  have parameters : Der.readTagged 0x06 (OID_SHA256 ++ Der.encode 0x05 []) =
      some ([0x60, 0x86, 0x48, 0x01, 0x65, 0x03, 0x04, 0x02, 0x01], Der.encode 0x05 []) := by
    rw [oid]
    exact Der.readTagged_encode (small_lt_limit (by decide)) _
  have null : Der.readWhole 0x05 (Der.encode 0x05 []) = some [] := Der.readWhole_encode (small_lt_limit (by decide))
  unfold readMessageImprint
  rw [algorithm, Option.bind_eq_bind, Option.bind_some]
  dsimp only
  rw [hashed, Option.bind_eq_bind, Option.bind_some, parameters, Option.bind_eq_bind, Option.bind_some]
  dsimp only
  rw [null, arcs]
  rfl

/-- Of a request that can be framed, everything but the nonce is read as it is meant. -/
lemma readTimeStampReq_encode {data : Bytes} {nonce : ℕ} (short : (nonceBytes nonce).length < Der.lengthLimit)
    (h : (requestBody data (Der.encode 0x02 (nonceBytes nonce))).length < Der.lengthLimit) :
    readTimeStampReq (Der.encode 0x30 (requestBody data (Der.encode 0x02 (nonceBytes nonce)))) =
      (Der.readInteger (nonceBytes nonce)).map fun n => { requestFor data nonce with nonce := n } := by
  have body : Der.readWhole 0x30 (Der.encode 0x30 (requestBody data (Der.encode 0x02 (nonceBytes nonce)))) =
      some (Der.encode 0x02 [0x01] ++ (Der.encode 0x30 (imprint data) ++
        (Der.encode 0x02 (nonceBytes nonce) ++ Der.encode 0x01 [0xff]))) := by
    rw [Der.readWhole_encode h, requestBody, List.append_assoc, List.append_assoc]
  have imprintShort : (imprint data).length < Der.lengthLimit :=
    small_lt_limit (by rw [length_imprint]; decide)
  have version : ∀ rest, Der.readTagged 0x02 (Der.encode 0x02 [0x01] ++ rest) = some ([0x01], rest) :=
    fun rest => Der.readTagged_encode (small_lt_limit (by decide)) rest
  have certReq : Der.readWhole 0x01 (Der.encode 0x01 [0xff]) = some [0xff] :=
    Der.readWhole_encode (small_lt_limit (by decide))
  unfold readTimeStampReq
  rw [body, Option.bind_eq_bind, Option.bind_some, version, Option.bind_eq_bind, Option.bind_some]
  dsimp only
  rw [Der.readTagged_encode imprintShort, Option.bind_eq_bind, Option.bind_some]
  dsimp only
  rw [Der.readTagged_encode short, Option.bind_eq_bind, Option.bind_some]
  dsimp only
  rw [certReq, readMessageImprint_imprint]
  cases Der.readInteger (nonceBytes nonce) <;> rfl

omit [Sha256] in
/-- The nonce is read back where its first octet has its high bit unset. -/
lemma readInteger_nonceBytes_iff (nonce : ℕ) :
    Der.readInteger (nonceBytes nonce) = some (nonce : ℤ) ↔ nonce = 0 ∨ bitLength nonce % 8 ≠ 0 :=
  Der.readInteger_bigEndian_iff nonce

omit [Sha256] in
lemma length_nonceBytes (nonce : ℕ) : (nonceBytes nonce).length = max 1 (byteLength nonce) :=
  length_bigEndian _ _

omit [Sha256] in
/-- The whole can be framed as far as the nonce leaves room for what stands around it. -/
lemma room_iff {k : ℕ} : 58 + (Der.lengthOctets (max 1 k)).length + max 1 k < Der.lengthLimit ↔
    k + 185 < Der.lengthLimit := by
  have limit : Der.lengthLimit = 256 * 256 ^ 125 := by rw [← pow_succ']; rfl
  have large : 256 ≤ 256 ^ 125 := Nat.le_self_pow (by decide) 256
  rw [Der.length_lengthOctets]
  by_cases many : max 1 k < 256 ^ 125
  · have few := lt_pow_iff_byteLength_le.1 many
    generalize 256 ^ 125 = p at *
    split <;> omega
  · have count : 126 ≤ byteLength (max 1 k) := by
      by_contra fewer
      exact many (lt_pow_iff_byteLength_le.2 (by omega))
    have bound : max 1 k < Der.lengthLimit → byteLength (max 1 k) = 126 := fun h =>
      le_antisymm (Der.byteLength_le_of_lt_limit h) count
    generalize 256 ^ 125 = p at *
    rw [if_neg (by omega)]
    by_cases h : max 1 k < Der.lengthLimit
    · rw [bound h]
      omega
    · omega

omit [Sha256] in
/-- What is too long to be framed is not read. -/
lemma length_lt_of_readTimeStampReq {body request : Bytes} {r : TimeStampReq}
    (framed : derTlv 0x30 body = .ok request) (read : readTimeStampReq request = some r) :
    body.length < Der.lengthLimit := by
  by_contra long
  have longer := length_of_derTlv long framed
  cases found : Der.readWhole 0x30 request with
  | none =>
    unfold readTimeStampReq at read
    rw [found] at read
    cases read
  | some value =>
    have shorter := Der.length_lt_of_readWhole found
    omega

/-- A request is well formed and says what it is meant to exactly where its nonce is zero or does not fill its
bytes, and is short enough for its length to be written. -/
theorem buildTsaRequest_iff (data : Bytes) (nonce : ℕ) :
    (∃ request, buildTsaRequest data nonce = .ok request ∧
      readTimeStampReq request = some (requestFor data nonce)) ↔
      (nonce = 0 ∨ bitLength nonce % 8 ≠ 0) ∧ byteLength nonce + 185 < 2 ^ 1008 := by
  rw [two_pow_eq_lengthLimit, ← readInteger_nonceBytes_iff, ← room_iff, ← length_nonceBytes,
    buildTsaRequest_eq]
  by_cases short : (nonceBytes nonce).length < Der.lengthLimit
  · rw [derTlv_of_lt 0x02 short, ok_bind]
    have size : (requestBody data (Der.encode 0x02 (nonceBytes nonce))).length =
        58 + (Der.lengthOctets (nonceBytes nonce).length).length + (nonceBytes nonce).length := by
      rw [length_requestBody, Der.length_encode]
      omega
    rw [← size]
    constructor
    · rintro ⟨request, framed, read⟩
      have room := length_lt_of_readTimeStampReq framed read
      refine ⟨?_, room⟩
      rw [derTlv_of_lt 0x30 room] at framed
      rw [← Except.ok.inj framed, readTimeStampReq_encode short room] at read
      obtain ⟨n, integer, same⟩ := Option.map_eq_some_iff.1 read
      have value : n = nonce := congrArg TimeStampReq.nonce same
      rw [integer, value]
    · rintro ⟨integer, room⟩
      refine ⟨Der.encode 0x30 (requestBody data (Der.encode 0x02 (nonceBytes nonce))), ?_, ?_⟩
      · exact derTlv_of_lt 0x30 room
      · rw [readTimeStampReq_encode short room, integer]
        rfl
  · refine iff_of_false ?_ fun h => short (by omega)
    rintro ⟨request, built, read⟩
    cases framed : derTlv 0x02 (nonceBytes nonce) with
    | error e =>
      rw [framed] at built
      cases built
    | ok framedNonce =>
      rw [framed, ok_bind] at built
      have longer := length_of_derTlv short framed
      have room := length_lt_of_readTimeStampReq built read
      rw [length_requestBody] at room
      omega

end

section Sample

/-- SHA-256 of no data. -/
local instance emptySha256 : Sha256 where
  digest _ := ⟨[0xe3, 0xb0, 0xc4, 0x42, 0x98, 0xfc, 0x1c, 0x14, 0x9a, 0xfb, 0xf4, 0xc8, 0x99, 0x6f, 0xb9, 0x24,
    0x27, 0xae, 0x41, 0xe4, 0x64, 0x9b, 0x93, 0x4c, 0xa4, 0x95, 0x99, 0x1b, 0x78, 0x52, 0xb8, 0x55], rfl⟩

/-- The nonce 128 is read as -128. -/
theorem nonce_reads_negative :
    ¬ ∃ request, buildTsaRequest [] 0x80 = .ok request ∧
      readTimeStampReq request = some (requestFor [] 0x80) := by
  rintro ⟨request, built, read⟩
  have negative : (buildTsaRequest [] 0x80).toOption.bind readTimeStampReq =
      some { requestFor [] 0x80 with nonce := -128 } := by decide +kernel
  have asRead : (buildTsaRequest [] 0x80).toOption.bind readTimeStampReq = readTimeStampReq request := by
    rw [built]
    rfl
  rw [asRead, read] at negative
  cases congrArg TimeStampReq.nonce (Option.some.inj negative)

end Sample

end Custos
