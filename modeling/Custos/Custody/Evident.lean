import Custos.Custody.Gaps
import Custos.Reference

/-!
# The anchor chain is tamper evident

An honest log is what one sink has accepted for a tenant in a run of the manager, through any outages
(`HonestLog`); it is one intact chain. A list of anchors that P3 establishes and that ends in the same
anchor hash is the same chain, because the hash determines an anchor and its predecessor's hash
(`Linked.agree_of_head`). So a list with another anchor in it, or with one missing, is a contradiction
(`anchor_log_evident`).
-/

namespace Custos

/-- An anchor as its hash covers it, with that hash: a gap is a dict, so the order of its keys does not
count. -/
def AnchorRecord.hashed (a : AnchorRecord) : AnchorRecord := { a with gap := a.gap.sortKeys }

/-- The last anchor by epoch, as `verify_custody` sorts them. -/
def lastByEpoch (anchors : List AnchorRecord) : Option AnchorRecord :=
  (anchors.insertionSort (·.epoch ≤ ·.epoch)).getLast?

/-- The head anchors are the anchors by epoch. -/
lemma headAnchors_map_toDict (anchors : List AnchorRecord) :
    headAnchors (anchors.map AnchorRecord.toDict) = anchors.insertionSort (·.epoch ≤ ·.epoch) := by
  have all : (anchors.map AnchorRecord.toDict).filter (!·.isPolicyCommit) =
      anchors.map AnchorRecord.toDict := by
    rw [List.filter_eq_self]
    intro d mem
    obtain ⟨a, -, rfl⟩ := List.mem_map.1 mem
    rfl
  have read : (anchors.map AnchorRecord.toDict).map AnchorRecord.fromDict = anchors := by
    rw [List.map_map]
    exact List.map_id _
  unfold headAnchors
  rw [all, read]

section

variable [Platform]

/-! ## Honest logs -/

/-- The tenant's anchors in the logs of the manager's sinks. -/
def AnchorManager.tenantLog (m : AnchorManager) (id : String) : List AnchorRecord :=
  (m.sinks.flatMap (·.readHeads m.gaps)).filter (·.tenantId = id)

/-- What a sink has accepted for the tenant, from an empty log on. -/
def HonestLog (id : String) (anchors : List AnchorRecord) : Prop :=
  ∃ name byReference anchorN attempts, anchors =
    (run attemptStep (.init [{ name, byReference }] [] anchorN) attempts).tenantLog id

/-- One attempt keeps the tenant's log in step with its counters. -/
lemma synced_attemptStep {history : List Attempt} {m : AnchorManager} (acc : Accounted history m) (a : Attempt)
    {id : String} (sync : Synced (m.state id) (m.tenantLog id)) :
    Synced ((attemptStep m a).state id) ((attemptStep m a).tenantLog id) := by
  have attempt := acc.attempt a
  by_cases refused : a.Refused
  · obtain ⟨sinks, reads, epoch, -, hash⟩ := attempt.refused refused
    have log : (attemptStep m a).tenantLog id = m.tenantLog id := by
      obtain ⟨sink, one⟩ := acc.one
      unfold AnchorManager.tenantLog Sink.readHeads
      rw [sinks, one]
      simp only [List.flatMap_cons, List.flatMap_nil, reads sink (one ▸ .head _)]
    rw [log]
    by_cases own : id = a.tenantId
    · subst own
      exact ⟨sync.intact, sync.epoch.trans epoch.symm, sync.hash.trans hash.symm⟩
    · rw [attempt.others id own]
      exact sync
  · obtain ⟨sink, sink', anchor, one, one', reads, tenant, epoch, -, prev, -, sld, state⟩ :=
      attempt.accepted refused
    have log : (attemptStep m a).tenantLog id =
        m.tenantLog id ++ if anchor.tenantId = id then [anchor] else [] := by
      unfold AnchorManager.tenantLog Sink.readHeads
      rw [one, one']
      simp only [List.flatMap_cons, List.flatMap_nil, List.append_nil, reads, heads_append, heads_singleton,
        List.filter_append]
      split <;> simp_all
    rw [log, tenant]
    by_cases own : a.tenantId = id
    · subst own
      rw [if_pos rfl, state]
      exact sync.snoc epoch prev sld rfl rfl
    · rw [if_neg own, List.append_nil, attempt.others id (Ne.symm own)]
      exact sync

/-- And so does every run from an empty log. -/
lemma synced_run (name : String) (byReference : Bool) (anchorN : Int) (attempts : List Attempt) (id : String) :
    let m := run attemptStep (.init [{ name, byReference }] [] anchorN) attempts
    Synced (m.state id) (m.tenantLog id) := by
  induction attempts using List.reverseRecOn with
  | nil => exact .nil rfl rfl
  | append_singleton attempts a ih =>
    rw [run_snoc]
    exact synced_attemptStep (accounted_run ⟨{ name, byReference }, [], nofun⟩ anchorN attempts) a ih

/-- An honest log is an intact chain. -/
lemma HonestLog.intact {id : String} {anchors : List AnchorRecord} (honest : HonestLog id anchors) :
    AnchorsIntact GENESIS_ANCHOR_HASH 0 anchors := by
  obtain ⟨name, byReference, anchorN, attempts, rfl⟩ := honest
  exact (synced_run name byReference anchorN attempts id).intact

/-! ## One last hash, one chain -/

/-- An anchor's link determines its predecessor's hash and every other field it covers. -/
lemma anchorLink_inj (cf : CollisionFree) {a b : AnchorRecord} {p q h : String}
    (ha : anchorLink.hash a p = some h) (hb : anchorLink.hash b q = some h) :
    p = q ∧ { a with prevAnchorHash := "", gap := a.gap.sortKeys, anchorHash := "" } =
      ({ b with prevAnchorHash := "", gap := b.gap.sortKeys, anchorHash := "" } : AnchorRecord) := by
  have same := AnchorRecord.computeHash_inj cf ((Option.some.inj ha).trans (Option.some.inj hb).symm)
  exact ⟨congrArg AnchorRecord.prevAnchorHash same,
    congrArg (fun c : AnchorRecord => { c with prevAnchorHash := "" }) same⟩

/-- Two intact chains with one last hash agree on everything their hashes cover. -/
lemma AnchorsIntact.hashed_eq (cf : CollisionFree) (nonzero : ∀ s, sha256 s ≠ GENESIS_ANCHOR_HASH)
    {e e' : Int} {as bs : List AnchorRecord} (ha : AnchorsIntact GENESIS_ANCHOR_HASH e as)
    (hb : AnchorsIntact GENESIS_ANCHOR_HASH e' bs)
    (last : as.getLast?.map (·.anchorHash) = bs.getLast?.map (·.anchorHash)) :
    as.map (·.hashed) = bs.map (·.hashed) := by
  have heads : anchorLink.head GENESIS_ANCHOR_HASH as = anchorLink.head GENESIS_ANCHOR_HASH bs :=
    congrArg (·.getD GENESIS_ANCHOR_HASH) last
  have agree := LinkSpec.Linked.agree_of_head (anchorLink_inj cf)
    (fun x p => fun eq => nonzero _ (Option.some.inj eq)) ha.linked hb.linked heads
  have fields : List.Forall₂ (fun a b : AnchorRecord => a.hashed = b.hashed) as bs := by
    refine agree.imp fun a b ⟨covered, prev, own⟩ => ?_
    have prev : a.prevAnchorHash = b.prevAnchorHash := prev
    have own : a.anchorHash = b.anchorHash := own
    have at_prev := congrArg (fun c : AnchorRecord =>
      { c with prevAnchorHash := a.prevAnchorHash, anchorHash := a.anchorHash }) covered
    rw [AnchorRecord.hashed, AnchorRecord.hashed]
    exact at_prev.trans (by rw [prev, own])
  rw [← List.forall₂_eq_eq_eq, List.forall₂_map_left_iff, List.forall₂_map_right_iff]
  exact fields

/-- With the last anchor hash kept, P3 is established only on the honest anchors, in whatever order they are
given; on any others it is a contradiction. And there is a report wherever the records' versions are implemented. -/
theorem anchor_log_evident (cf : CollisionFree) (nonzero : ∀ s, sha256 s ≠ GENESIS_ANCHOR_HASH) {id : String}
    {honest : List AnchorRecord} (log : HonestLog id honest) {anchors : List AnchorRecord}
    (last : (lastByEpoch anchors).map (·.anchorHash) = honest.getLast?.map (·.anchorHash))
    (records : List AuditRecord) :
    (∀ rep, verifyCustody records (anchors.map AnchorRecord.toDict) = .ok rep →
      (rep.p3 = .ESTABLISHED → (anchors.map (·.hashed)).Perm (honest.map (·.hashed))) ∧
        (¬ (anchors.map (·.hashed)).Perm (honest.map (·.hashed)) → rep.p3 = .CONTRADICTION)) ∧
    ((∀ r ∈ records, r.Implemented) →
      ∃ rep, verifyCustody records (anchors.map AnchorRecord.toDict) = .ok rep) := by
  refine ⟨fun rep returned => ?_, fun impl => ?_⟩
  swap
  · obtain ⟨rep, returned, -⟩ := verifyCustody_returns (anchors.map AnchorRecord.toDict) impl
    exact ⟨rep, returned⟩
  have p3 := (verifyCustody_spec returned).p3
  rw [headAnchors_map_toDict] at p3
  have sorts := List.perm_insertionSort (fun a b : AnchorRecord => a.epoch ≤ b.epoch) anchors
  have same : rep.p3 = .ESTABLISHED → (anchors.map (·.hashed)).Perm (honest.map (·.hashed)) := by
    intro established
    rw [← (p3.established.1 established).2.hashed_eq cf nonzero log.intact last]
    exact (sorts.map _).symm
  refine ⟨same, fun other => ?_⟩
  cases verdict : rep.p3 with
  | ESTABLISHED => exact absurd (same verdict) other
  | CONTRADICTION => rfl
  | CANNOT_ESTABLISH =>
    -- there are no anchors at all, and then there are no honest ones
    exfalso
    rw [verdict] at p3
    have none : anchors.insertionSort (·.epoch ≤ ·.epoch) = [] := not_not.1 p3
    have empty : anchors = [] := List.perm_nil.1 (none ▸ sorts.symm)
    rw [lastByEpoch, none, List.getLast?_nil, Option.map_none, eq_comm, Option.map_eq_none_iff,
      List.getLast?_eq_none_iff] at last
    exact other (by rw [empty, last])

end

section Sample

local instance evidentPlatform : Platform := .reference .empty

/-- A head is anchored after an outage. -/
def evidentAttempts : List Attempt :=
  [⟨"acme", (2, "h2"), { sampleEmitEnv with raises := fun _ => some "down" }⟩, ⟨"acme", (2, "h2"), sampleEmitEnv⟩]

def evidentLog : List AnchorRecord :=
  (run attemptStep (.init [{ name := "git" }] [] 50) evidentAttempts).tenantLog "acme"

/-- The log with an anchor put before it. -/
def insertedLog : List AnchorRecord :=
  .ofHead "acme" 0 (1, "h1") "2023-11-14T22:13:20Z" GENESIS_ANCHOR_HASH .null :: evidentLog

/-- An anchor is put before an honest log. -/
theorem anchor_log_evident_sample :
    ∃ rep, verifyCustody [] (insertedLog.map AnchorRecord.toDict) = .ok rep ∧ rep.p3 = .CONTRADICTION := by
  have honest : HonestLog "acme" evidentLog := ⟨"git", false, 50, evidentAttempts, rfl⟩
  have nonzero : ∀ s, sha256 s ≠ GENESIS_ANCHOR_HASH :=
    DigestTable.empty.digest_ne List.not_mem_nil (by decide)
  have last : (lastByEpoch insertedLog).map (·.anchorHash) = evidentLog.getLast?.map (·.anchorHash) := by
    obtain ⟨a, one, epoch⟩ : ∃ a, evidentLog = [a] ∧ a.epoch = 1 := ⟨_, rfl, rfl⟩
    rw [insertedLog, one, lastByEpoch]
    simp [List.insertionSort, AnchorRecord.ofHead, AnchorRecord.sealed, epoch]
  have other : ¬ (insertedLog.map (·.hashed)).Perm (evidentLog.map (·.hashed)) := by
    intro perm
    have lengths := perm.length_eq
    simp [insertedLog] at lengths
  obtain ⟨verdicts, reports⟩ := anchor_log_evident (collisionFree_reference .empty) nonzero honest last []
  obtain ⟨rep, returned⟩ := reports (List.forall_mem_nil _)
  exact ⟨rep, returned, (verdicts rep returned).2 other⟩

end Sample

end Custos
