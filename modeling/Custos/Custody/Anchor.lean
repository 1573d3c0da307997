import Custos.Library.Linked
import Custos.Platform

/-!
# Anchor records

`custos/custody.py`, the two records a custody sink holds: the anchor of a chain head and the anchored
commitment of a policy. An anchor log is a list of their `to_dict()` forms (`AnchorDict`), told apart by
`kind`. Anchors are hash-linked among themselves by `prev_anchor_hash` (`anchorLink`).
-/

namespace Custos

/-- `GENESIS_ANCHOR_HASH`, sixty-four zeros. -/
def GENESIS_ANCHOR_HASH : String := .ofList (List.replicate 64 '0')

/-- A per-tenant snapshot of the audit chain head. `gap` is a JSON object, or `null` for `None`. -/
structure AnchorRecord where
  tenantId : String
  epoch : Int
  chainLength : Int
  headHash : String
  anchoredAtUtc : String
  prevAnchorHash : String
  gap : Json := .null
  anchorHash : String := ""

/-- An anchored policy-commit citation object: `headHash` is the digest and `canonicalJson` the bytes it
was computed from. -/
structure PolicyCommitRecord extends AnchorRecord where
  kind : String := "policy_commit"
  canonicalJson : String := ""

/-- The `to_dict()` form of either record. -/
structure AnchorDict extends AnchorRecord where
  kind : Option String := none
  canonicalJson : Option String := none

def AnchorRecord.toDict (a : AnchorRecord) : AnchorDict := { a with }

def PolicyCommitRecord.toDict (p : PolicyCommitRecord) : AnchorDict :=
  { p.toAnchorRecord with kind := some p.kind, canonicalJson := some p.canonicalJson }

/-- `AnchorRecord.from_dict`. -/
def AnchorRecord.fromDict (d : AnchorDict) : AnchorRecord := d.toAnchorRecord

/-- `PolicyCommitRecord.from_dict`, which reads no gap. -/
def PolicyCommitRecord.fromDict (d : AnchorDict) : PolicyCommitRecord :=
  { d.toAnchorRecord with
    gap := .null
    kind := d.kind.getD "policy_commit"
    canonicalJson := d.canonicalJson.getD "" }

/-- The dict is a policy commit, not the anchor of a head. -/
def AnchorDict.isPolicyCommit (d : AnchorDict) : Bool := d.kind = some "policy_commit"

@[simp] lemma AnchorRecord.fromDict_toDict (a : AnchorRecord) : .fromDict a.toDict = a := rfl

@[simp] lemma AnchorRecord.isPolicyCommit_toDict (a : AnchorRecord) :
    a.toDict.isPolicyCommit = false := rfl

variable [Platform]

/-- `AnchorRecord.compute_hash`. -/
def AnchorRecord.computeHash (a : AnchorRecord) : String :=
  sha256 <| dumpsSorted <| .obj
    [("tenant_id", .str a.tenantId),
     ("epoch", .int a.epoch),
     ("chain_length", .int a.chainLength),
     ("head_hash", .str a.headHash),
     ("anchored_at_utc", .str a.anchoredAtUtc),
     ("prev_anchor_hash", .str a.prevAnchorHash),
     ("gap", a.gap)]

/-- `PolicyCommitRecord.compute_hash`. -/
def PolicyCommitRecord.computeHash (p : PolicyCommitRecord) : String :=
  sha256 <| dumpsSorted <| .obj
    [("tenant_id", .str p.tenantId),
     ("epoch", .int p.epoch),
     ("head_hash", .str p.headHash),
     ("anchored_at_utc", .str p.anchoredAtUtc),
     ("prev_anchor_hash", .str p.prevAnchorHash),
     ("kind", .str p.kind),
     ("canonical_json", .str p.canonicalJson)]

/-- The record with its own hash in place, as the emitter finishes it. -/
def AnchorRecord.sealed (a : AnchorRecord) : AnchorRecord := { a with anchorHash := a.computeHash }

def PolicyCommitRecord.sealed (p : PolicyCommitRecord) : PolicyCommitRecord :=
  { p with anchorHash := p.computeHash }

/-- The anchor `_emit` builds of a chain's head. -/
def AnchorRecord.ofHead (tenantId : String) (epoch : Int) (head : Nat × String)
    (now prevAnchorHash : String) (gap : Json) : AnchorRecord :=
  AnchorRecord.sealed
    { tenantId, epoch, chainLength := head.1, headHash := head.2, anchoredAtUtc := now,
      prevAnchorHash, gap }

/-- The commit `_emit_policy_commit` builds of a digest. -/
def PolicyCommitRecord.ofDigest (tenantId : String) (epoch : Int) (digest now prevAnchorHash : String)
    (canonicalJson : String) : PolicyCommitRecord :=
  PolicyCommitRecord.sealed
    { tenantId, epoch, chainLength := 0, headHash := digest, anchoredAtUtc := now, prevAnchorHash,
      kind := "policy_commit", canonicalJson }

/-- The stored hash is the one recomputed from the other fields. -/
def AnchorRecord.IsSealed (a : AnchorRecord) : Prop := a.anchorHash = a.computeHash

lemma AnchorRecord.sealed_isSealed (a : AnchorRecord) : a.sealed.IsSealed := rfl

/-- How anchors are linked: each stores the hash of its predecessor. -/
def anchorLink : LinkSpec AnchorRecord String where
  prev := AnchorRecord.prevAnchorHash
  own := AnchorRecord.anchorHash
  hash a p := some ({ a with prevAnchorHash := p }.computeHash)

/-- An anchor hash determines every other field, the gap up to the order of its keys. -/
theorem AnchorRecord.computeHash_inj (cf : CollisionFree) {a b : AnchorRecord}
    (e : a.computeHash = b.computeHash) :
    { a with gap := a.gap.sortKeys, anchorHash := "" } =
      ({ b with gap := b.gap.sortKeys, anchorHash := "" } : AnchorRecord) := by
  have sorted := cf.dumps (cf.sha256 e)
  have look := Json.lookup_eq_of_sortKeys_eq (by simp) sorted
  have tenant := look "tenant_id"
  have epoch := look "epoch"
  have length := look "chain_length"
  have head := look "head_hash"
  have utc := look "anchored_at_utc"
  have prev := look "prev_anchor_hash"
  have gap := look "gap"
  simp [List.lookup_cons, Json.sortKeys] at tenant epoch length head utc prev gap
  simp [tenant, epoch, length, head, utc, prev, gap]

end Custos
