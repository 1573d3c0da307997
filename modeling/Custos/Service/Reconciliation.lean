import Custos.Service.Purges

/-!
# Reconciliation

`reconcile` of `custos/retention.py`: what the chain's records say of content, compared with what the
content store holds. `reconcile_ok_iff` says when it finds nothing, and `Effect` what a call on a tenant's
store and chain can do to the two sides.
-/

namespace Custos

def FINDING_BODY_MISSING : String := "body-missing"
def FINDING_UNATTESTED_PURGE : String := "unattested-purge"
def FINDING_UNEFFECTED_PURGE : String := "uneffected-purge"

structure Finding where
  kind : String
  contentHash : String
  detail : String
  recordIndexes : List Nat := []
  deriving DecidableEq

structure Reconciliation where
  findings : List Finding
  recordsRead : Nat
  digestsExamined : Nat

/-- `ok`. -/
def Reconciliation.ok (report : Reconciliation) : Bool := report.findings.isEmpty

/-! ## What the records say -/

/-- The record says that its content is stored. -/
def AuditRecord.Claims (r : AuditRecord) : Prop :=
  r.commitment = some COMMITMENT_SALTED_V1 ∨ r.commitment = some COMMITMENT_UNSALTED_V0
  deriving Decidable

/-- The record says that its content was purged. -/
def AuditRecord.AttestsPurge (r : AuditRecord) : Prop := r.commitment = some COMMITMENT_PURGED_V1
  deriving Decidable

/-- What the loop over the records collects: the digests attested as purged, and the digests claimed as
stored with the indexes of the records that claim them. -/
structure Tally where
  attested : List String := []
  claims : List (String × List Nat) := []

/-- `claims.setdefault(content_hash, []).append(index)`. -/
def addClaim (contentHash : String) (index : Nat) : List (String × List Nat) → List (String × List Nat)
  | [] => [(contentHash, [index])]
  | (d, indexes) :: rest =>
    if d = contentHash then (d, indexes ++ [index]) :: rest
    else (d, indexes) :: addClaim contentHash index rest

def Tally.add (t : Tally) : AuditRecord × Nat → Tally
  | (r, index) =>
    if r.AttestsPurge then
      { t with attested := if r.contentHash ∈ t.attested then t.attested else t.attested ++ [r.contentHash] }
    else if r.Claims then { t with claims := addClaim r.contentHash index t.claims }
    else t

/-- What a claim is found to be. -/
def claimFinding (s : ContentStore) (attested : List String) : String × List Nat → Option Finding
  | (contentHash, recordIndexes) =>
    match s.status contentHash with
    | .STATUS_PURGED =>
      if contentHash ∈ attested then none
      else some
        { kind := FINDING_UNATTESTED_PURGE, contentHash, recordIndexes
          detail := "the store says this digest was purged and no record " ++
            "attests the purge; the deletion is invisible in the chain" }
    | .STATUS_UNKNOWN => some
      { kind := FINDING_BODY_MISSING, contentHash, recordIndexes
        detail := "a record claims a stored form and the store holds neither " ++
          "the body nor a purge record" }
    | .STATUS_PRESENT => none

/-- What an attestation is found to be. -/
def attestedFinding (s : ContentStore) (contentHash : String) : Option Finding :=
  match s.status contentHash with
  | .STATUS_PRESENT => some
    { kind := FINDING_UNEFFECTED_PURGE, contentHash
      detail := "the chain attests a purge and the store still holds the " ++
        "body; the attestation does not describe this store" }
  | _ => none

/-- `reconcile`. The attestations are a set in the source; here they stand in the order they were read. -/
def reconcile (records : List AuditRecord) (s : ContentStore) : Reconciliation :=
  let t := records.zipIdx.foldl Tally.add {}
  { findings := t.claims.filterMap (claimFinding s t.attested) ++ t.attested.filterMap (attestedFinding s)
    recordsRead := records.length
    digestsExamined := t.claims.length +
      (t.attested.filter fun d => d ∉ t.claims.map (·.1)).length }

/-- A record says that the digest's content is stored. -/
def Claimed (records : List AuditRecord) (d : String) : Prop := ∃ r ∈ records, r.contentHash = d ∧ r.Claims

/-- A record attests the purge of the digest's content. -/
def Attested (records : List AuditRecord) (d : String) : Prop :=
  ∃ r ∈ records, r.contentHash = d ∧ r.AttestsPurge

/-- What is claimed in a longer log is claimed in one of its parts. -/
lemma claimed_append_iff {records new : List AuditRecord} {d : String} :
    Claimed (records ++ new) d ↔ Claimed records d ∨ Claimed new d := by
  simp only [Claimed, List.mem_append, or_and_right, exists_or]

/-- A claim that is entered has its digest among the others. -/
lemma mem_keys_addClaim {contentHash d : String} {index : Nat} (claims : List (String × List Nat)) :
    d ∈ (addClaim contentHash index claims).map (·.1) ↔ d = contentHash ∨ d ∈ claims.map (·.1) := by
  induction claims with
  | nil => simp [addClaim]
  | cons claim rest ih =>
    obtain ⟨d', indexes⟩ := claim
    unfold addClaim
    split
    · rename_i same
      simp [same]
    · rw [List.map_cons, List.mem_cons, ih, List.map_cons, List.mem_cons]
      exact or_left_comm

/-- No record both claims and attests. -/
lemma AuditRecord.AttestsPurge.not_claims {r : AuditRecord} (attests : r.AttestsPurge) : ¬ r.Claims := by
  unfold AuditRecord.AttestsPurge at attests
  unfold AuditRecord.Claims
  rw [attests]
  decide

/-- A record that attests a purge has its digest among the attested. -/
lemma mem_attested_add (t : Tally) (r : AuditRecord) (index : Nat) (d : String) :
    d ∈ (t.add (r, index)).attested ↔ d ∈ t.attested ∨ r.contentHash = d ∧ r.AttestsPurge := by
  dsimp only [Tally.add]
  split
  · rename_i attests
    dsimp only
    split
    · rename_i there
      refine ⟨.inl, ?_⟩
      rintro (mem | ⟨rfl, -⟩)
      · exact mem
      · exact there
    · rw [List.mem_append, List.mem_singleton, eq_comm, and_iff_left attests]
  · rename_i other
    split <;> simp [other]

/-- A record that claims a body has its digest among the claimed. -/
lemma mem_claims_add (t : Tally) (r : AuditRecord) (index : Nat) (d : String) :
    d ∈ (t.add (r, index)).claims.map (·.1) ↔
      d ∈ t.claims.map (·.1) ∨ r.contentHash = d ∧ r.Claims := by
  dsimp only [Tally.add]
  split
  · rename_i attests
    simp [attests.not_claims]
  · split
    · rename_i claims
      rw [mem_keys_addClaim, or_comm, eq_comm, and_iff_left claims]
    · rename_i other
      simp [other]

/-- The loop collects exactly the digests the records attest and claim. -/
lemma mem_tally (records : List AuditRecord) (n : Nat) (t : Tally) (d : String) :
    (d ∈ ((records.zipIdx n).foldl Tally.add t).attested ↔ d ∈ t.attested ∨ Attested records d) ∧
      (d ∈ ((records.zipIdx n).foldl Tally.add t).claims.map (·.1) ↔
        d ∈ t.claims.map (·.1) ∨ Claimed records d) := by
  induction records generalizing n t with
  | nil => simp [Attested, Claimed]
  | cons r rest ih =>
    have attested : Attested (r :: rest) d ↔ r.contentHash = d ∧ r.AttestsPurge ∨ Attested rest d := by
      simp [Attested]
    have claimed : Claimed (r :: rest) d ↔ r.contentHash = d ∧ r.Claims ∨ Claimed rest d := by
      simp [Claimed]
    obtain ⟨ihAttested, ihClaimed⟩ := ih (n + 1) (t.add (r, n))
    rw [List.zipIdx_cons, List.foldl_cons, attested, claimed, ihAttested, ihClaimed, mem_attested_add,
      mem_claims_add, or_assoc, or_assoc]
    exact ⟨Iff.rfl, Iff.rfl⟩

/-- The three statuses, by what the store holds. -/
lemma mem_status_cases (s : ContentStore) (d : String) :
    s.status d = .STATUS_PRESENT ∧ (s.bodies d).isSome ∨
      s.status d = .STATUS_PURGED ∧ s.bodies d = none ∧ (s.purges d).isSome ∨
      s.status d = .STATUS_UNKNOWN ∧ s.bodies d = none ∧ s.purges d = none := by
  unfold ContentStore.status
  cases s.bodies d with
  | some row => simp
  | none => cases s.purges d <;> simp

/-- `reconcile` finds nothing exactly when every claimed digest is stored, or purged and attested, and no
attested digest is stored. -/
theorem reconcile_ok_iff (records : List AuditRecord) (s : ContentStore) :
    (reconcile records s).ok = true ↔
      (∀ d, Claimed records d → (s.bodies d).isSome ∨ (s.purges d).isSome ∧ Attested records d) ∧
        ∀ d, Attested records d → s.bodies d = none := by
  have mem := fun d => mem_tally records 0 {} d
  generalize tally : (records.zipIdx 0).foldl Tally.add {} = t at mem
  have attested : ∀ d, d ∈ t.attested ↔ Attested records d := fun d => by simp [(mem d).1]
  have claimed : ∀ d, d ∈ t.claims.map (·.1) ↔ Claimed records d := fun d => by simp [(mem d).2]
  have found : (reconcile records s).ok = true ↔
      (∀ claim ∈ t.claims, claimFinding s t.attested claim = none) ∧
        ∀ d ∈ t.attested, attestedFinding s d = none := by
    unfold Reconciliation.ok reconcile
    rw [tally, List.isEmpty_iff, List.append_eq_nil_iff, List.filterMap_eq_nil_iff,
      List.filterMap_eq_nil_iff]
  -- each claim and each attestation is looked up in the store on its own
  have ofClaim : ∀ claim : String × List Nat, claimFinding s t.attested claim = none ↔
      (s.bodies claim.1).isSome ∨ (s.purges claim.1).isSome ∧ Attested records claim.1 := by
    rintro ⟨d, indexes⟩
    dsimp only [claimFinding]
    rcases mem_status_cases s d with ⟨status, body⟩ | ⟨status, body, purged⟩ | ⟨status, body, purged⟩
    · rw [status]
      exact iff_of_true rfl (.inl body)
    · rw [status, body, ← attested d]
      dsimp only
      split
      · rename_i there
        exact iff_of_true rfl (.inr ⟨purged, there⟩)
      · rename_i missing
        refine iff_of_false nofun ?_
        rintro (held | ⟨-, there⟩)
        · cases held
        · exact missing there
    · rw [status, body, purged]
      refine iff_of_false nofun ?_
      rintro (held | ⟨held, -⟩) <;> cases held
  have ofAttested : ∀ d, attestedFinding s d = none ↔ s.bodies d = none := by
    intro d
    dsimp only [attestedFinding]
    rcases mem_status_cases s d with ⟨status, body⟩ | ⟨status, body, -⟩ | ⟨status, body, -⟩
    · rw [status]
      exact iff_of_false nofun (Option.isSome_iff_ne_none.1 body)
    · rw [status]
      exact iff_of_true rfl body
    · rw [status]
      exact iff_of_true rfl body
  rw [found]
  refine and_congr ⟨fun all d claims => ?_, fun all claim mem => ?_⟩ ?_
  · obtain ⟨claim, mem, rfl⟩ := List.mem_map.1 ((claimed d).2 claims)
    exact (ofClaim claim).1 (all claim mem)
  · exact (ofClaim claim).2 (all _ ((claimed _).1 (List.mem_map_of_mem mem)))
  · exact forall_congr' fun d => by rw [attested, ofAttested]

/-! ## What a call does to both sides -/

/-- A further record attests by itself. -/
lemma attested_append {records : List AuditRecord} {r : AuditRecord} {d : String} :
    Attested (records ++ [r]) d ↔ Attested records d ∨ r.contentHash = d ∧ r.AttestsPurge := by
  simp [Attested, or_and_right, exists_or]

lemma claimed_append {records : List AuditRecord} {r : AuditRecord} {d : String} :
    Claimed (records ++ [r]) d ↔ Claimed records d ∨ r.contentHash = d ∧ r.Claims := by
  simp [Claimed, or_and_right, exists_or]

/-- A body that the call offers as legacy content. -/
def ContentOp.legacyBody : ContentOp → Option String
  | .putLegacy _ body => some body
  | .putAndRecord _ a true => some a.content
  | _ => none

section

variable [Platform]

/-- Every row stands under the digest of its body, with one of the two markers. -/
def ContentStore.Keyed (s : ContentStore) : Prop :=
  ∀ d row, s.bodies d = some row → sha256 row.body = d ∧ ∃ legacy, row.marker = ContentStore.legacyMarker legacy

/-- The form of a stored body is a stored form. -/
lemma ContentStore.Keyed.form {s : ContentStore} (keyed : s.Keyed) {d : String}
    (held : (s.bodies d).isSome) :
    s.commitmentForm d = COMMITMENT_SALTED_V1 ∨ s.commitmentForm d = COMMITMENT_UNSALTED_V0 := by
  obtain ⟨row, body⟩ := Option.isSome_iff_exists.1 held
  obtain ⟨-, legacy, marker⟩ := keyed d row body
  unfold ContentStore.commitmentForm ContentStore.marker
  rw [body]
  dsimp only
  rw [marker]
  cases legacy with
  | false => exact .inl rfl
  | true => exact .inr rfl

/-- A deletion leaves every body under its digest. -/
lemma ContentStore.Keyed.erase {s : ContentStore} (keyed : s.Keyed) (d : String) (prior : PurgeRow) :
    (s.erase d prior).Keyed := by
  intro d' row at_d'
  by_cases e : d' = d
  · rw [e, ContentStore.erase_bodies_self] at at_d'
    cases at_d'
  · rw [ContentStore.erase_bodies_of_ne e] at at_d'
    exact keyed d' row at_d'

lemma Stored.keyed {s s' : ContentStore} {legacy : Bool} {body : String}
    (stored : Stored s legacy body s') (keyed : s.Keyed) : s'.Keyed := by
  cases stored with
  | there _ => exact keyed
  | new _ _ =>
    intro d row at_d
    by_cases e : d = sha256 body
    · rw [e, ContentStore.insert_bodies_self] at at_d
      cases at_d
      exact ⟨e.symm, legacy, rfl⟩
    · rw [ContentStore.insert_bodies_of_ne e] at at_d
      exact keyed d row at_d

/-- What is held stays held where a body is stored. -/
lemma Stored.mono {s s' : ContentStore} {legacy : Bool} {body d : String}
    (stored : Stored s legacy body s') (held : (s.bodies d).isSome) : (s'.bodies d).isSome := by
  cases stored with
  | there _ => exact held
  | new _ _ =>
    by_cases e : d = sha256 body
    · rw [e, ContentStore.insert_bodies_self]
      rfl
    · rw [ContentStore.insert_bodies_of_ne e]
      exact held

namespace Keeping

variable {s s' : ContentStore} {records records' : List AuditRecord} {legacy : Bool} {body : String}

/-- What is kept leaves every body under its digest. -/
lemma keyed (keeping : Keeping s records legacy body s' records') (keyed : s.Keyed) : s'.Keyed := by
  rcases keeping.stored_or_same with rfl | stored
  · exact keyed
  · exact stored.keyed keyed

/-- What is kept purges nothing. -/
lemma purges (keeping : Keeping s records legacy body s' records') : s'.purges = s.purges := by
  rcases keeping.stored_or_same with rfl | stored
  · rfl
  · exact stored.purges

lemma mono (keeping : Keeping s records legacy body s' records') {d : String}
    (held : (s.bodies d).isSome) : (s'.bodies d).isSome := by
  rcases keeping.stored_or_same with rfl | stored
  · exact held
  · exact stored.mono held

/-- A kept body is never recorded as purged. -/
lemma attested_iff (keeping : Keeping s records legacy body s' records') (keyed : s.Keyed) (d : String) :
    Attested records' d ↔ Attested records d := by
  have other : ∀ r : AuditRecord, ¬ r.AttestsPurge →
      (Attested (records ++ [r]) d ↔ Attested records d) := fun r no => by
    rw [attested_append, or_iff_left fun h => no h.2]
  cases keeping with
  | idle => exact Iff.rfl
  | stored _ _ => exact Iff.rfl
  | plain r _ form =>
    refine other r fun attests => ?_
    rw [AuditRecord.AttestsPurge, form] at attests
    revert attests
    decide
  | recorded s' r stored _ form =>
    refine other r fun attests => ?_
    rw [AuditRecord.AttestsPurge, form] at attests
    revert attests
    rcases (stored.keyed keyed).form stored.holds with salted | unsalted
    · rw [salted]
      decide
    · rw [unsalted]
      decide

/-- What is recorded as stored is stored. -/
lemma claimed (keeping : Keeping s records legacy body s' records') {d : String}
    (claimed : Claimed records' d) : Claimed records d ∨ (s'.bodies d).isSome := by
  cases keeping with
  | idle => exact .inl claimed
  | stored _ _ => exact .inl claimed
  | plain r _ form =>
    rw [claimed_append] at claimed
    refine claimed.imp_right fun h => ?_
    have no : ¬ r.Claims := by
      rw [AuditRecord.Claims, form]
      decide
    exact absurd h.2 no
  | recorded s' r stored hash _ =>
    rw [claimed_append] at claimed
    refine claimed.imp_right fun h => ?_
    rw [← h.1, hash]
    exact stored.holds

end Keeping

/-- The decisions are kept in the store at the path, or in none. -/
def Concerns (path tenantId : String) : ContentOp → Prop
  | .recordDecision env a => ∀ path', contentStoreFor env.environ env.openFault (orElse a.tenantId tenantId) =
      .ok (some path') → path' = path
  | _ => True

/-- The chain refuses what a purge would record of a body it deleted. -/
def ContentOp.Unattested (w : Keeper) : ContentOp → String → Prop
  | .purge env _ clientId reason traceId policyDigest => fun body =>
    RefusesPurge w.ctx.auditChain w.stores.audit env.toRecordEnv clientId reason traceId policyDigest body
  | _ => fun _ => False

/-- The purge of a digest, with an engine that lets it delete. -/
def ContentOp.Purges (d : String) : ContentOp → Prop
  | .purge env d' _ _ _ _ => d' = d ∧ env.deleteFault = none
  | _ => False

/-- What a call comes to for the store, the chain and the digests deleted. -/
inductive Effect (path : String) (w : Keeper) (op : ContentOp) (w' : Keeper) : Prop
  | kept (legacy : Bool) (body : String) : (legacy = true → op.legacyBody = some body) →
      (∀ d row, op.Purges d → (w.store path).bodies d = some row → (w.store path).purges d ≠ none) →
      Keeping (w.store path) w.records legacy body (w'.store path) w'.records →
      w'.deleted = w.deleted → Effect path w op w'
  | purged (d : String) (row : ContentBody) (prior : PurgeRow) : op.Purges d →
      (w.store path).bodies d = some row → (w.store path).purges d = none →
      w'.store path = (w.store path).erase d prior → w'.deleted = d :: w.deleted →
      (op.Unattested w row.body ∧ w'.records = w.records ∨
        ¬ op.Unattested w row.body ∧ ∃ r, w'.records = w.records ++ [r] ∧
          r.contentHash = sha256 row.body ∧ r.AttestsPurge) → Effect path w op w'

/-- What a call does to the chain and the store. -/
lemma Keeper.step_effect {path : String} {w : Keeper} {op : ContentOp}
    (concerns : Concerns path w.ctx.tenantId op) : Effect path w op (w.step path op) := by
  cases op with
  | put fault body =>
    refine .kept false body nofun nofun ?_ rfl
    show Keeping _ _ _ _ ((w.stores.setContent path ((w.store path).put fault body).2).contents path) _
    rw [setContent_contents]
    exact store_keeping (w.store path) w.records false fault body
  | putLegacy fault body =>
    refine .kept true body (fun _ => rfl) nofun ?_ rfl
    show Keeping _ _ _ _ ((w.stores.setContent path ((w.store path).putLegacy fault body).2).contents path) _
    rw [setContent_contents]
    exact store_keeping (w.store path) w.records true fault body
  | putAndRecord env a legacy =>
    refine .kept legacy a.content ?_ nofun (putAndRecord_keeping path w.ctx.auditChain w.stores env a legacy) rfl
    rintro rfl
    rfl
  | recordDecision env a =>
    exact .kept false a.content nofun nofun (recordDecision_keeping path w.ctx w.stores env a concerns) rfl
  | purge env d clientId reason traceId policyDigest =>
    obtain ⟨w', goes, purging⟩ := w.step_purge path env d clientId reason traceId policyDigest
    have store := Keeper.markDeleted_store w w' path d path
    have records := Keeper.markDeleted_records w w' path d
    rw [goes]
    -- what the purge came to is spoken of through its two sides alone
    generalize storeEq : w'.store path = s' at store purging
    generalize recordsEq : w'.records = records' at records purging
    cases purging with
    | refused stands =>
      refine .kept false "" nofun ?_ ?_ (Keeper.markDeleted_of_same storeEq)
      · rintro _ row ⟨rfl, clean⟩ body
        exact stands clean row body
      rw [store, records]
      exact .idle
    | unattested row prior clean body purged refuses =>
      refine .purged d row prior ⟨rfl, clean⟩ body purged store
        (Keeper.markDeleted_of_erased body storeEq) (.inl ⟨refuses, records⟩)
    | attested row prior r clean body purged attests hash form =>
      refine .purged d row prior ⟨rfl, clean⟩ body purged store
        (Keeper.markDeleted_of_erased body storeEq) (.inr ⟨attests, r, records, hash, form⟩)

end

end Custos
