import Custos.Audit.Writers
import Custos.Custody.Verify
import Custos.Library.JsonRead

/-!
# Rewrites under an anchor

A list of records is presented against anchors emitted over an honest chain. Where P1 and P2 are
established, the list agrees with the chain record by record up to the longest anchored length: P1 makes
both lists hash-linked, P2 makes their heads at that length the same, and a hash determines what it is
computed over (`Linked.agree`). So any other list is contradicted by P1 or by P2.
-/

namespace Custos

section

variable [Platform]

/-- One call of `record` on a chain and its store. -/
def recordStep (s : AuditChain × AuditTable) (call : RecordEnv × RecordArgs) :
    AuditChain × AuditTable :=
  (s.1.record s.2 call.1 call.2).2

/-- The records of a chain after a run of `record` calls from empty. -/
def builtRecords (b : Backend) (tenantId : Option String) (calls : List (RecordEnv × RecordArgs)) :
    List AuditRecord :=
  (run recordStep ({ records := [], tenantId, backend := b }, .empty) calls).1.records

/-- A call of `record` keeps a linked chain linked. -/
lemma recordStep_linked {s : AuditChain × AuditTable} {call : RecordEnv × RecordArgs}
    (lk : recordLink.Linked GENESIS_HASH s.1.records) :
    recordLink.Linked GENESIS_HASH (recordStep s call).1.records := by
  unfold recordStep
  rcases s.1.record_cases s.2 call.1 call.2 with ⟨e, he⟩ | ⟨r, t', -, ent, -, he⟩
  · rw [he]
    exact lk
  · rw [he]
    exact ent.linked lk

/-- A run of calls builds a linked chain. -/
lemma builtRecords_linked (b : Backend) (tenantId : Option String)
    (calls : List (RecordEnv × RecordArgs)) :
    recordLink.Linked GENESIS_HASH (builtRecords b tenantId calls) :=
  run_invariant recordStep (I := fun s => recordLink.Linked GENESIS_HASH s.1.records)
    (recordLink.linked_nil _)
    (fun _ _ lk => recordStep_linked lk) calls

/-- The anchor was emitted over the head of a chain that held a prefix of the records. -/
def EmittedOver (records : List AuditRecord) (d : AnchorDict) : Prop :=
  ∃ c : AuditChain, c.records <+: records ∧
    ∃ tenantId epoch now prev gap, d = (AnchorRecord.ofHead tenantId epoch c.head now prev gap).toDict

/-- Two records agree on the whole preimage, on the previous hash and on the hash. -/
structure Agree (x y : AuditRecord) : Prop where
  preimage : preimageFields x x.previousHash = preimageFields y y.previousHash
  previousHash : x.previousHash = y.previousHash
  recordHash : x.recordHash = y.recordHash

/-- Both lists have `n` records, and the first `n` agree. -/
def AgreeUpTo (n : Nat) (xs ys : List AuditRecord) : Prop :=
  n ≤ xs.length ∧ n ≤ ys.length ∧ List.Forall₂ Agree (xs.take n) (ys.take n)

omit [Platform] in
/-- The head anchors are those of the dicts that are no commits. -/
lemma mem_headAnchors {anchors : List AnchorDict} {a : AnchorRecord} :
    a ∈ headAnchors anchors ↔ ∃ d ∈ anchors, d.isPolicyCommit = false ∧ .fromDict d = a := by
  unfold headAnchors
  rw [(List.perm_insertionSort _ _).mem_iff]
  simp [and_assoc]

/-- Two linked lists that reach one hash at one length agree up to there. -/
lemma agreeUpTo_of_head (cf : CollisionFree) {xs ys : List AuditRecord} {n : Nat}
    (lkx : recordLink.Linked GENESIS_HASH xs) (lky : recordLink.Linked GENESIS_HASH ys)
    (lex : n ≤ xs.length) (ley : n ≤ ys.length)
    (hd : recordLink.head GENESIS_HASH (xs.take n) = recordLink.head GENESIS_HASH (ys.take n)) :
    AgreeUpTo n xs ys := by
  have inj : ∀ {x y p q h}, recordLink.hash x p = some h → recordLink.hash y q = some h →
      p = q ∧ BindSame x y := fun hx hy =>
    computeRecordHash_inj cf (AuditChain.recordLink_hash.1 hx) (AuditChain.recordLink_hash.1 hy)
  have all := LinkSpec.Linked.agree inj (lkx.of_prefix (List.take_prefix n xs))
    (lky.of_prefix (List.take_prefix n ys)) (by simp [lex, ley]) fun _ => hd
  refine ⟨lex, ley, all.imp fun x y h => ?_⟩
  obtain ⟨same, prev, own⟩ := h
  have prev' : x.previousHash = y.previousHash := prev
  exact ⟨by rw [prev', same.preimageFields_eq], prev', own⟩

/-- A list with P1 and P2 established agrees with the honest chain up to the longest anchor. -/
lemma agree_of_established (cf : CollisionFree) {honest records : List AuditRecord}
    {anchors : List AnchorDict} (lk : recordLink.Linked GENESIS_HASH honest)
    (emitted : ∀ d ∈ anchors, d.isPolicyCommit = false → EmittedOver honest d)
    (p1 : recordLink.Linked GENESIS_HASH records) (ne : headAnchors anchors ≠ [])
    (p2 : ∀ a ∈ headAnchors anchors, Matches (records.map (·.recordHash)) a) :
    AgreeUpTo (maxChainLength (headAnchors anchors)).toNat honest records := by
  obtain ⟨a, mem, longest⟩ := exists_maxChainLength ne
  obtain ⟨d, hd, kind, rfl⟩ := mem_headAnchors.1 mem
  obtain ⟨c, pf, id, epoch, now, prev, gap, rfl⟩ := emitted d hd kind
  obtain ⟨pos, le, head⟩ := p2 _ mem
  simp only [AnchorRecord.fromDict_toDict] at longest pos le head
  have length : (AnchorRecord.ofHead id epoch c.head now prev gap).chainLength = c.records.length := rfl
  have anchored : (AnchorRecord.ofHead id epoch c.head now prev gap).headHash = c.latestHash := rfl
  rw [length] at longest pos le head
  rw [anchored] at head
  rw [← longest, Int.toNat_natCast]
  have pos' : 0 < c.records.length := by omega
  have le' : c.records.length ≤ records.length := by simpa using le
  refine agreeUpTo_of_head cf lk p1 pf.length_le le' ?_
  have honestTake : honest.take c.records.length = c.records :=
    (List.prefix_iff_eq_take.1 pf).symm
  have index : ((c.records.length : Int) - 1).toNat = c.records.length - 1 := by omega
  rw [honestTake, ← AuditChain.latestHash_eq, ← head, index, recordLink.head_take (d := "") pos' le']
  rfl

/-- A list of records that is presented against head anchors emitted over an honest chain, and passes P1
and P2, agrees with the chain up to the longest anchor; so one that does not agree, where its versions
are implemented, is contradicted by P1 or P2. -/
theorem rewrite_detected (cf : CollisionFree) (b : Backend) (tenantId : Option String)
    (calls : List (RecordEnv × RecordArgs)) {anchors : List AnchorDict}
    (emitted : ∀ d ∈ anchors, d.isPolicyCommit = false →
      EmittedOver (builtRecords b tenantId calls) d)
    (records : List AuditRecord) :
    let n := (maxChainLength (headAnchors anchors)).toNat
    (∀ rep, verifyCustody records anchors = .ok rep → rep.p1 = .ESTABLISHED →
      rep.p2 = .ESTABLISHED → AgreeUpTo n (builtRecords b tenantId calls) records) ∧
    ((∀ r ∈ records, r.Implemented) → ¬ AgreeUpTo n (builtRecords b tenantId calls) records →
      ∃ rep, verifyCustody records anchors = .ok rep ∧
        (rep.p1 = .CONTRADICTION ∨ rep.p2 = .CONTRADICTION)) := by
  intro n
  have lk := builtRecords_linked b tenantId calls
  refine ⟨fun rep e h1 h2 => ?_, fun impl differs => ?_⟩
  · have spec := verifyCustody_spec e
    obtain ⟨-, p1⟩ := spec.p1.established.1 h1
    obtain ⟨ne, p2⟩ := (spec.p2 p1).established.1 h2
    exact agree_of_established cf lk emitted p1 ne p2
  · obtain ⟨rep, e, spec⟩ := verifyCustody_returns anchors impl
    refine ⟨rep, e, ?_⟩
    -- a list that is not linked fails P1; a linked one that differs cannot have passed P2
    by_cases p1 : recordLink.Linked GENESIS_HASH records
    · right
      have ne : headAnchors anchors ≠ [] := by
        intro none
        refine differs ⟨?_, ?_, ?_⟩ <;> simp [n, none, maxChainLength]
      rw [(spec.p2 p1).contradiction]
      exact ⟨ne, fun p2 => differs (agree_of_established cf lk emitted p1 ne p2)⟩
    · left
      exact spec.p1.contradiction.2 ⟨trivial, p1⟩

end

section Sample

/-- The digests of the sample chain and of an anchor over its first record. -/
def sampleAnchorDigests : DigestTable where
  entries := sampleDigests.entries ++
    [("\x7b\"anchored_at_utc\": \"2023-11-14T22:13:20Z\", \"chain_length\": 1, \"epoch\": 1, " ++
      "\"gap\": null, " ++
      "\"head_hash\": \"29bebed3c4ccc5d7a01d5781f84b868d2d8a87c8fd742b19e0a5824182f3140b\", " ++
      "\"prev_anchor_hash\": \"0000000000000000000000000000000000000000000000000000000000000000\", " ++
      "\"tenant_id\": \"acme\"\x7d",
      "8a970088810e3431e992729363fc4f1aa679bb35f1f3611e1e4f78584266194d")]
  distinct := by decide +kernel
  plain := by decide +kernel

local instance sampleAnchorPlatform : Platform := .reference sampleAnchorDigests

/-- A chain of one record. -/
def sampleChain : AuditChain :=
  (recordStep ({ records := [], tenantId := some "acme", backend := .SQLiteBackend }, .empty)
    (sampleEnv, sampleArgs)).1

end Sample

section Sample

local instance rewritePlatform : Platform := .reference .empty

/-- The calls a chain of two records is built by, and the same with another decision in the first. -/
def sampleCalls : List (RecordEnv × RecordArgs) :=
  [(sampleEnv, sampleArgs), (sampleEnv, { sampleArgs with content := "bye" })]

def editedCalls : List (RecordEnv × RecordArgs) :=
  [(sampleEnv, { sampleArgs with action := "DENY" }), (sampleEnv, { sampleArgs with content := "bye" })]

/-- The anchor of the chain's head. -/
def sampleAnchor : AnchorRecord :=
  .ofHead "acme" 1
    (run recordStep ({ records := [], tenantId := some "acme", backend := .InMemoryBackend }, .empty) sampleCalls).1.head
    "2023-11-14T22:13:20Z" GENESIS_ANCHOR_HASH .null

/-- The first record of the chain is edited, and both are hashed again. -/
theorem rewrite_detected_sample :
    ∃ rep, verifyCustody (builtRecords .InMemoryBackend (some "acme") editedCalls) [sampleAnchor.toDict] = .ok rep ∧
      (rep.p1 = .CONTRADICTION ∨ rep.p2 = .CONTRADICTION) := by
  have emitted : ∀ d ∈ [sampleAnchor.toDict], d.isPolicyCommit = false →
      EmittedOver (builtRecords .InMemoryBackend (some "acme") sampleCalls) d := by
    intro d hd _
    rw [List.mem_singleton.1 hd]
    exact ⟨_, List.prefix_refl _, _, _, _, _, _, rfl⟩
  have implemented : ∀ r ∈ builtRecords .InMemoryBackend (some "acme") editedCalls, r.Implemented := by decide +kernel
  refine (rewrite_detected (collisionFree_reference _) .InMemoryBackend (some "acme") sampleCalls emitted _).2
    implemented ?_
  rintro ⟨-, -, agree⟩
  have two : maxChainLength (headAnchors [sampleAnchor.toDict]) = 2 := by decide +kernel
  rw [two] at agree
  -- the first records differ in what their hashes are taken over
  let allows : AuditRecord → Bool := fun r =>
    ((preimageFields r r.previousHash).toOption.bind (·.lookup "action")).any (·.IsStr "ALLOW")
  have actions : ((builtRecords .InMemoryBackend (some "acme") sampleCalls).take 2).map allows =
      ((builtRecords .InMemoryBackend (some "acme") editedCalls).take 2).map allows := by
    rw [← List.forall₂_eq_eq_eq, List.forall₂_map_left_iff, List.forall₂_map_right_iff]
    refine agree.imp fun x y same => ?_
    dsimp only [allows]
    rw [same.preimage]
  exact absurd actions (by decide +kernel)

end Sample

end Custos
