import Custos.Library.Linked
import Custos.Platform
import Mathlib.Tactic.IntervalCases

/-!
# Audit records

`custos/audit.py`, the record and its hash: `AuditRecord`, `bound_evidence_required`, `preimage_fields`
and `compute_record_hash`. The same `preimage_fields` serves the emitter, the internal verifier and the
external re-walk, which is why the facts about it stand here on their own: what each key of the preimage
looks up to (`PreimageOf`), that the preimage therefore determines everything it binds
(`preimageFields_inj`), and the same for the hash over it (`computeRecordHash_inj`).
-/

namespace Custos

/-- Current record-binding version (`RECORD_BINDING_CURRENT`). -/
def RECORD_BINDING_CURRENT : Int := 2

def COMMITMENT_NONE : String := "none"
def COMMITMENT_UNSALTED_V0 : String := "unsalted-v0"
def COMMITMENT_SALTED_V1 : String := "salted-v1"
def COMMITMENT_PURGED_V1 : String := "purged-v1"

def COMMITMENT_FORMS : List String :=
  [COMMITMENT_NONE, COMMITMENT_UNSALTED_V0, COMMITMENT_SALTED_V1, COMMITMENT_PURGED_V1]

lemma none_mem_forms : COMMITMENT_NONE ∈ COMMITMENT_FORMS := by decide

lemma purged_mem_forms : COMMITMENT_PURGED_V1 ∈ COMMITMENT_FORMS := by decide

/-- `AuditChain.GENESIS_HASH`, sixty-four zeros. -/
def GENESIS_HASH : String := .ofList (List.replicate 64 '0')

/-- An audit record, or its `to_dict()` form: a field that a dict may lack or hold `None` in is an
option. -/
structure AuditRecord where
  timestamp : ℚ
  clientId : String
  action : String
  triggeredRule : Option String
  reason : String
  contentHash : String
  recordHash : String := ""
  previousHash : String := ""
  traceId : Option String := none
  policyDigest : Option String := none
  tenantId : Option String := none
  bindingVersion : Option Int := some 0
  commitment : Option String := some COMMITMENT_NONE
  deriving DecidableEq

/-- Whether a record must carry a policy citation and a correlation id. -/
def boundEvidenceRequired (environ : Environ) : Bool :=
  (strip ((environ "CUSTOS_AUDIT_REQUIRE_BOUND").getD "")).toLower ∈ ["1", "true", "yes", "on"] ||
    (strip ((environ "CUSTOS_ENV").getD "")).toLower = "production"

/-- `fields[key] = value` when the value is true in a condition. -/
def optField (key : String) (value : Option String) : List (String × Json) :=
  (present value).toList.map fun s => (key, .str s)

/-- The refusal of a version this build does not implement. -/
def unknownBindingVersion (v : Int) : Exn :=
  .UnknownBindingVersion
    ("this record claims binding version " ++ toString v ++ "; this build " ++
     "implements up to " ++ toString RECORD_BINDING_CURRENT ++ ". Recomputing it here would " ++
     "produce a mismatch that looks like tampering, so it is refused instead.")

/-- Canonical record-hash preimage, in the order the keys are inserted. -/
def preimageFields (r : AuditRecord) (previousHash : String) :
    Except Exn (List (String × Json)) :=
  let v := r.bindingVersion.getD 0
  if v > RECORD_BINDING_CURRENT then
    .error (unknownBindingVersion v)
  else
    .ok <|
      [("timestamp", .float r.timestamp),
       ("client_id", .str r.clientId),
       ("action", .str r.action),
       ("triggered_rule", .ofOption r.triggeredRule),
       ("reason", .str r.reason),
       ("content_hash", .str r.contentHash),
       ("previous_hash", .str previousHash)] ++
      optField "policy_digest" r.policyDigest ++
      optField "tenant_id" r.tenantId ++
      (if 1 ≤ v then ("binding", .str ("v" ++ toString v)) :: optField "trace_id" r.traceId else []) ++
      (if 2 ≤ v then [("commitment", .str (orElse r.commitment COMMITMENT_NONE))] else [])

/-- `compute_record_hash`: SHA-256 over the preimage as JSON with sorted keys. -/
def computeRecordHash [Platform] (r : AuditRecord) (previousHash : String) : Except Exn String :=
  (preimageFields r previousHash).map fun fields => sha256 (dumpsSorted (.obj fields))

/-! ## What the preimage holds -/

/-- This build implements the record's binding version. -/
def AuditRecord.Implemented (r : AuditRecord) : Prop :=
  r.bindingVersion.getD 0 ≤ RECORD_BINDING_CURRENT

instance (r : AuditRecord) : Decidable r.Implemented :=
  inferInstanceAs (Decidable (_ ≤ _))

/-- The preimage exists exactly for the implemented versions. -/
lemma preimageFields_isOk {r : AuditRecord} {p : String} :
    (∃ f, preimageFields r p = .ok f) ↔ r.Implemented := by
  unfold preimageFields AuditRecord.Implemented
  by_cases h : r.bindingVersion.getD 0 > RECORD_BINDING_CURRENT
  · simp [h]
  · simp [h, not_lt.1 h]

/-- A record of an implemented version has a hash. -/
lemma computeRecordHash_ok [Platform] {r : AuditRecord} (impl : r.Implemented) (p : String) :
    ∃ h, computeRecordHash r p = .ok h := by
  obtain ⟨f, hf⟩ := preimageFields_isOk (p := p).2 impl
  exact ⟨_, by rw [computeRecordHash, hf]; rfl⟩

lemma computeRecordHash_eq_ok [Platform] {r : AuditRecord} {p h : String} :
    computeRecordHash r p = .ok h ↔
      ∃ f, preimageFields r p = .ok f ∧ sha256 (dumpsSorted (.obj f)) = h := by
  unfold computeRecordHash
  cases preimageFields r p <;> simp [Except.map]

/-- The version a preimage is written for: negative and missing versions read as 0. -/
def AuditRecord.version (r : AuditRecord) : Nat := (r.bindingVersion.getD 0).toNat

/-- What every key of a preimage looks up to. -/
structure PreimageOf (r : AuditRecord) (p : String) (f : List (String × Json)) : Prop where
  timestamp : f.lookup "timestamp" = some (.float r.timestamp)
  clientId : f.lookup "client_id" = some (.str r.clientId)
  action : f.lookup "action" = some (.str r.action)
  triggeredRule : f.lookup "triggered_rule" = some (.ofOption r.triggeredRule)
  reason : f.lookup "reason" = some (.str r.reason)
  contentHash : f.lookup "content_hash" = some (.str r.contentHash)
  previousHash : f.lookup "previous_hash" = some (.str p)
  policyDigest : f.lookup "policy_digest" = (present r.policyDigest).map .str
  tenantId : f.lookup "tenant_id" = (present r.tenantId).map .str
  binding : f.lookup "binding" =
    if 1 ≤ r.version then some (.str ("v" ++ toString (r.version : Int))) else none
  traceId : f.lookup "trace_id" = if 1 ≤ r.version then (present r.traceId).map .str else none
  commitment : f.lookup "commitment" =
    if 2 ≤ r.version then some (.str (orElse r.commitment COMMITMENT_NONE)) else none

/-- A field is there where its value is present. -/
lemma lookup_optField (k k' : String) (o : Option String) :
    (optField k o).lookup k' = if k' = k then (present o).map .str else none := by
  cases h : present o with
  | none => simp [optField, h]
  | some s =>
    by_cases e : k' = k
    · simp [optField, h, e]
    · have hb : (k' == k) = false := by simpa using e
      simp [optField, h, e, List.lookup_cons, hb]

/-- Every preimage is one of its record's. -/
lemma preimageOf {r : AuditRecord} {p : String} {f : List (String × Json)}
    (e : preimageFields r p = .ok f) : PreimageOf r p f := by
  unfold preimageFields at e
  by_cases gt : r.bindingVersion.getD 0 > RECORD_BINDING_CURRENT
  · simp [gt] at e
  · simp only [gt, if_false, Except.ok.injEq] at e
    subst e
    have v1 : (1 ≤ r.bindingVersion.getD 0) ↔ 1 ≤ r.version := by
      unfold AuditRecord.version; omega
    have v2 : (2 ≤ r.bindingVersion.getD 0) ↔ 2 ≤ r.version := by
      unfold AuditRecord.version; omega
    have v : 1 ≤ r.version → r.bindingVersion.getD 0 = (r.version : Int) := by
      unfold AuditRecord.version; omega
    simp only [v1, v2]
    by_cases h1 : 1 ≤ r.version
    · rw [v h1]
      by_cases h2 : 2 ≤ r.version <;>
        constructor <;> simp [h1, h2, List.lookup_append, lookup_optField, List.lookup_cons]
    · have h2 : ¬ 2 ≤ r.version := by omega
      constructor <;> simp [h1, h2, List.lookup_append, lookup_optField, List.lookup_cons]

/-- The keys of a preimage are distinct. -/
lemma preimageFields_nodup {r : AuditRecord} {p : String} {f : List (String × Json)}
    (e : preimageFields r p = .ok f) : (f.map Prod.fst).Nodup := by
  unfold preimageFields at e
  by_cases gt : r.bindingVersion.getD 0 > RECORD_BINDING_CURRENT
  · simp [gt] at e
  · simp only [gt, if_false, Except.ok.injEq] at e
    subst e
    cases hd : present r.policyDigest <;> cases ht : present r.tenantId <;>
      cases hc : present r.traceId <;> simp only [optField, hd, ht, hc] <;>
      split <;> split <;> simp

/-- The values of a preimage are no arrays and no objects. -/
lemma preimageFields_scalar {r : AuditRecord} {p : String} {f : List (String × Json)}
    (e : preimageFields r p = .ok f) : ∀ kv ∈ f, kv.2.IsScalar := by
  have opt : ∀ {k o} {kv : String × Json}, kv ∈ optField k o → kv.2.IsScalar := by
    intro k o kv h
    simp only [optField, List.mem_map] at h
    obtain ⟨s, -, rfl⟩ := h
    trivial
  unfold preimageFields at e
  by_cases gt : r.bindingVersion.getD 0 > RECORD_BINDING_CURRENT
  · simp [gt] at e
  · simp only [gt, if_false, Except.ok.injEq] at e
    subst e
    intro kv h
    simp only [List.mem_append, List.mem_cons, List.not_mem_nil, or_false] at h
    rcases h with (((h | h) | h) | h) | h
    · rcases h with rfl | rfl | rfl | rfl | rfl | rfl | rfl
      all_goals first | trivial | exact Json.isScalar_ofOption _
    · exact opt h
    · exact opt h
    · split at h
      · rcases List.mem_cons.1 h with rfl | h
        · trivial
        · exact opt h
      · simp at h
    · split at h
      · simp only [List.mem_singleton] at h
        subst h
        trivial
      · simp at h

/-- The records agree on everything the preimage binds: an empty optional field reads as absent, and
`trace_id` and the commitment form count only from the version that binds them. -/
structure BindSame (r r' : AuditRecord) : Prop where
  version : r.version = r'.version
  timestamp : r.timestamp = r'.timestamp
  clientId : r.clientId = r'.clientId
  action : r.action = r'.action
  triggeredRule : r.triggeredRule = r'.triggeredRule
  reason : r.reason = r'.reason
  contentHash : r.contentHash = r'.contentHash
  policyDigest : present r.policyDigest = present r'.policyDigest
  tenantId : present r.tenantId = present r'.tenantId
  traceId : 1 ≤ r.version → present r.traceId = present r'.traceId
  commitment : 2 ≤ r.version →
    orElse r.commitment COMMITMENT_NONE = orElse r'.commitment COMMITMENT_NONE

/-- Records that agree on what is bound have the same preimage. -/
lemma BindSame.preimageFields_eq {r r' : AuditRecord} (same : BindSame r r') (p : String) :
    preimageFields r p = preimageFields r' p := by
  have ver := same.version
  unfold AuditRecord.version at ver
  have gt : r.bindingVersion.getD 0 > RECORD_BINDING_CURRENT ↔
      r'.bindingVersion.getD 0 > RECORD_BINDING_CURRENT := by
    unfold RECORD_BINDING_CURRENT; omega
  have ge1 : 1 ≤ r.bindingVersion.getD 0 ↔ 1 ≤ r'.bindingVersion.getD 0 := by omega
  have ge2 : 2 ≤ r.bindingVersion.getD 0 ↔ 2 ≤ r'.bindingVersion.getD 0 := by omega
  have eqv : 1 ≤ r.bindingVersion.getD 0 → r.bindingVersion.getD 0 = r'.bindingVersion.getD 0 := by
    omega
  -- the fields a version adds stand in two lists, each compared under its own bound
  have bind : (if 1 ≤ r.bindingVersion.getD 0 then
        ("binding", Json.str ("v" ++ toString (r.bindingVersion.getD 0))) ::
          optField "trace_id" r.traceId else []) =
      (if 1 ≤ r'.bindingVersion.getD 0 then
        ("binding", Json.str ("v" ++ toString (r'.bindingVersion.getD 0))) ::
          optField "trace_id" r'.traceId else []) := by
    by_cases h1 : 1 ≤ r.bindingVersion.getD 0
    · have tr := same.traceId (by unfold AuditRecord.version; omega)
      simp only [if_pos (ge1.1 h1), eqv h1, optField, tr]
    · simp only [if_neg h1, if_neg (mt ge1.2 h1)]
  have comm : (if 2 ≤ r.bindingVersion.getD 0 then
        [("commitment", Json.str (orElse r.commitment COMMITMENT_NONE))] else []) =
      (if 2 ≤ r'.bindingVersion.getD 0 then
        [("commitment", Json.str (orElse r'.commitment COMMITMENT_NONE))] else []) := by
    by_cases h2 : 2 ≤ r.bindingVersion.getD 0
    · have cm := same.commitment (by unfold AuditRecord.version; omega)
      simp only [if_pos h2, if_pos (ge2.1 h2), cm]
    · simp only [if_neg h2, if_neg (mt ge2.2 h2)]
  unfold preimageFields
  by_cases h : r.bindingVersion.getD 0 > RECORD_BINDING_CURRENT
  · have : r.bindingVersion.getD 0 = r'.bindingVersion.getD 0 :=
      eqv (by unfold RECORD_BINDING_CURRENT at h; omega)
    simp only [this]
    rw [if_pos (gt.1 h), if_pos (gt.1 h)]
  · rw [if_neg h, if_neg (mt gt.2 h), bind, comm]
    simp only [optField, same.timestamp, same.clientId, same.action, same.triggeredRule, same.reason,
      same.contentHash, same.policyDigest, same.tenantId]

/-- A preimage determines the predecessor's hash and everything it binds. -/
lemma preimageFields_inj {r r' : AuditRecord} {p p' : String} {f f' : List (String × Json)}
    (e : preimageFields r p = .ok f) (e' : preimageFields r' p' = .ok f')
    (h : ∀ k, f.lookup k = f'.lookup k) : p = p' ∧ BindSame r r' := by
  have of := preimageOf e
  have of' := preimageOf e'
  have str : ∀ {o o' : Option String}, o.map Json.str = o'.map Json.str → o = o' := by
    intro o o' eo
    exact Option.map_injective (fun _ _ => Json.str.inj) eo
  have le : r.version ≤ 2 := by
    have := preimageFields_isOk.1 ⟨f, e⟩
    unfold AuditRecord.Implemented RECORD_BINDING_CURRENT at this
    unfold AuditRecord.version
    omega
  have le' : r'.version ≤ 2 := by
    have := preimageFields_isOk.1 ⟨f', e'⟩
    unfold AuditRecord.Implemented RECORD_BINDING_CURRENT at this
    unfold AuditRecord.version
    omega
  -- the marker separates the versions 0, 1 and 2
  have ver : r.version = r'.version := by
    have hb := h "binding"
    rw [of.binding, of'.binding] at hb
    generalize r.version = v at le hb
    generalize r'.version = v' at le' hb
    have names : ("v" ++ toString (1 : Int) : String) ≠ "v" ++ toString (2 : Int) := by decide
    interval_cases v <;> interval_cases v'
    all_goals first
      | rfl
      | exact absurd (Json.str.inj (Option.some.inj hb)) names
      | exact absurd (Json.str.inj (Option.some.inj hb)) names.symm
      | simp at hb
  refine ⟨?_, ver, ?_, ?_, ?_, ?_, ?_, ?_, ?_, ?_, ?_, ?_⟩
  · simpa [of.previousHash, of'.previousHash] using h "previous_hash"
  · simpa [of.timestamp, of'.timestamp] using h "timestamp"
  · simpa [of.clientId, of'.clientId] using h "client_id"
  · simpa [of.action, of'.action] using h "action"
  · have := h "triggered_rule"
    rw [of.triggeredRule, of'.triggeredRule] at this
    exact Json.ofOption_injective (Option.some.inj this)
  · simpa [of.reason, of'.reason] using h "reason"
  · simpa [of.contentHash, of'.contentHash] using h "content_hash"
  · have := h "policy_digest"
    rw [of.policyDigest, of'.policyDigest] at this
    exact str this
  · have := h "tenant_id"
    rw [of.tenantId, of'.tenantId] at this
    exact str this
  · intro h1
    have := h "trace_id"
    rw [of.traceId, of'.traceId, if_pos h1, if_pos (ver ▸ h1)] at this
    exact str this
  · intro h2
    have := h "commitment"
    rw [of.commitment, of'.commitment, if_pos h2, if_pos (ver ▸ h2)] at this
    simpa using this

/-- A record hash determines the predecessor's hash and everything the record binds. -/
theorem computeRecordHash_inj [Platform] (cf : CollisionFree) {r r' : AuditRecord} {p p' h : String}
    (e : computeRecordHash r p = .ok h) (e' : computeRecordHash r' p' = .ok h) :
    p = p' ∧ BindSame r r' := by
  obtain ⟨f, hf, rfl⟩ := computeRecordHash_eq_ok.1 e
  obtain ⟨f', hf', eq⟩ := computeRecordHash_eq_ok.1 e'
  have sorted : (Json.obj f).sortKeys = (Json.obj f').sortKeys := (cf.dumps (cf.sha256 eq)).symm
  exact preimageFields_inj hf hf' fun k =>
    Json.lookup_eq_of_scalar (preimageFields_nodup hf) (preimageFields_scalar hf)
      (preimageFields_scalar hf') (preimageFields_nodup hf') sorted k

/-- Two preimages hold the same under every key, as two dicts that are equal do. -/
def SamePreimage (r : AuditRecord) (p : String) (r' : AuditRecord) (p' : String) : Prop :=
  ∃ f f', preimageFields r p = .ok f ∧ preimageFields r' p' = .ok f' ∧ ∀ k, f.lookup k = f'.lookup k

/-- Records with one preimage agree on what it covers. -/
lemma samePreimage_of_eq {r r' : AuditRecord} {p p' : String} (impl : r.Implemented)
    (same : preimageFields r p = preimageFields r' p') : SamePreimage r p r' p' := by
  obtain ⟨f, hf⟩ := preimageFields_isOk.2 impl
  exact ⟨f, f, hf, same ▸ hf, fun _ => rfl⟩

/-- For an implemented version a preimage says the version, the predecessor's hash and everything the version
binds, and no more: as a dict, in the order of its keys, and through the hash over it. -/
theorem preimage_injective {r : AuditRecord} (impl : r.Implemented) (r' : AuditRecord) (p p' : String) :
    (SamePreimage r p r' p' ↔ p = p' ∧ BindSame r r') ∧
    (preimageFields r p = preimageFields r' p' ↔ p = p' ∧ BindSame r r') ∧
    (r.version ≠ r'.version → ¬ SamePreimage r p r' p') ∧
    ∀ [Platform], CollisionFree →
      (computeRecordHash r p = computeRecordHash r' p' ↔ p = p' ∧ BindSame r r') := by
  have agree : SamePreimage r p r' p' → p = p' ∧ BindSame r r' := by
    rintro ⟨f, f', hf, hf', same⟩
    exact preimageFields_inj hf hf' same
  have same : p = p' ∧ BindSame r r' → preimageFields r p = preimageFields r' p' := by
    rintro ⟨rfl, bound⟩
    exact bound.preimageFields_eq p
  refine ⟨⟨agree, fun bound => samePreimage_of_eq impl (same bound)⟩,
    ⟨fun eq => agree (samePreimage_of_eq impl eq), same⟩, fun versions eq => versions (agree eq).2.version, ?_⟩
  intro _ cf
  constructor
  · intro hashes
    obtain ⟨h, ok⟩ := computeRecordHash_ok impl p
    exact computeRecordHash_inj cf ok (hashes ▸ ok)
  · intro bound
    unfold computeRecordHash
    rw [same bound]

/-- A record under the label of any version. -/
def relabelledRecord (version : Int) : AuditRecord :=
  { timestamp := 0, clientId := "acme", action := "allow", triggeredRule := none, reason := "", contentHash := ""
    bindingVersion := some version }

/-- A label that is changed changes the preimage. -/
theorem preimage_injective_sample :
    ¬ SamePreimage (relabelledRecord 1) GENESIS_HASH (relabelledRecord 2) GENESIS_HASH := by
  have impl : (relabelledRecord 1).Implemented := by decide
  have versions : (relabelledRecord 1).version ≠ (relabelledRecord 2).version := by decide
  exact (preimage_injective impl (relabelledRecord 2) GENESIS_HASH GENESIS_HASH).2.2.1 versions

/-- How audit records are linked: each stores the hash of its predecessor. -/
def recordLink [Platform] : LinkSpec AuditRecord String where
  prev := AuditRecord.previousHash
  own := AuditRecord.recordHash
  hash r p := (computeRecordHash r p).toOption

end Custos
