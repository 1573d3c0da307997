import Custos.Audit.Store
import Mathlib.Data.List.Dedup

/-!
# The audit chain

`custos/audit.py`, `AuditChain`: opening a chain over a store, `record`, `append_reconciliation` and
`verify`. `record_cases` is the one place `record` is opened: a call either raises and changes neither
the chain's list nor the table, or appends one entry (`IsEntry`) to both. `verify_iff_linked` identifies
what `verify` accepts with the hash-linked lists of `Library/Linked.lean`.
-/

namespace Custos

variable [Platform]

/-- `AuditChain`: the records in memory, the tenant the chain is scoped to, and the backend. -/
structure AuditChain where
  records : List AuditRecord
  tenantId : Option String
  backend : Backend
  deriving DecidableEq

/-- The arguments of `record`. -/
structure RecordArgs where
  clientId : String
  action : String
  reason : String
  content : String
  triggeredRule : Option String := none
  traceId : Option String := none
  policyDigest : Option String := none
  tenantId : Option String := none
  commitment : String := COMMITMENT_NONE

/-- What a call of `record` meets outside: the clock, the environment and the storage engine. -/
structure RecordEnv where
  now : ℚ
  environ : Environ
  fault : Option StoreExc := none

namespace AuditChain

/-- `AuditChain.__init__` over a table. An unscoped chain over several tenants' records is refused. -/
def init (backend : Backend) (tenantId : Option String) (t : AuditTable) : Except Exn AuditChain :=
  let records := backend.loadAll tenantId t
  let scopes := (records.map fun r => orElse r.tenantId "").dedup
  if tenantId = none ∧ 1 < scopes.length then
    .error (.ChainForkError
      ("this store holds records for more than one tenant (" ++
       ", ".intercalate (scopes.insertionSort (· ≤ ·)) ++ "), so it cannot be opened as a " ++
       "single chain. Open it with tenant_id set to the tenant whose " ++
       "chain you mean, or use one store per tenant."))
  else .ok { records, tenantId, backend }

/-- `latest_hash`: the last record's hash, GENESIS on an empty chain. -/
def latestHash (c : AuditChain) : String :=
  match c.records.getLast? with
  | some r => r.recordHash
  | none => GENESIS_HASH

/-- `head`: the length of the chain and its latest hash. -/
def head (c : AuditChain) : Nat × String := (c.records.length, c.latestHash)

/-- The tenant a record is written for: the chain's own, unless the argument names another. -/
def resolveTenant (c : AuditChain) (tenantId : Option String) : Except Exn (Option String) :=
  match tenantId with
  | none => .ok c.tenantId
  | some id =>
    match c.tenantId with
    | none => .ok (some id)
    | some own =>
      if id ≠ own then
        .error (.ValueError
          ("this chain is scoped to tenant " ++ pyRepr own ++ " and cannot record for tenant " ++
           pyRepr id ++ "; open the other tenant's chain"))
      else .ok (some id)

/-- The record `record` builds, before its hash is set. -/
def entry (c : AuditChain) (now : ℚ) (a : RecordArgs) (tenantId : Option String) : AuditRecord where
  timestamp := now
  clientId := a.clientId
  action := a.action
  triggeredRule := a.triggeredRule
  reason := a.reason
  contentHash := sha256 a.content
  previousHash := c.latestHash
  traceId := a.traceId
  policyDigest := a.policyDigest
  tenantId := tenantId
  bindingVersion := some RECORD_BINDING_CURRENT
  commitment := some a.commitment

/-- The evidence fields the arguments leave empty. -/
def missingEvidence (a : RecordArgs) : List String :=
  (if truthy a.policyDigest then [] else ["policy_digest"]) ++
  (if truthy a.traceId then [] else ["trace_id"])

/-- `record`: what it returns or raises, the chain after it and the table after it. -/
def record (c : AuditChain) (t : AuditTable) (env : RecordEnv) (a : RecordArgs) :
    Except Exn AuditRecord × AuditChain × AuditTable :=
  if a.commitment ∉ COMMITMENT_FORMS then
    (.error (.ValueError
      ("unknown commitment form " ++ pyRepr a.commitment ++ "; expected one of " ++
       ", ".intercalate COMMITMENT_FORMS)), c, t)
  else
    match c.resolveTenant a.tenantId with
    | .error e => (.error e, c, t)
    | .ok tenantId =>
      if boundEvidenceRequired env.environ ∧ missingEvidence a ≠ [] then
        (.error (.ValueError
          ("CUSTOS_AUDIT_REQUIRE_BOUND is set but the record is missing " ++
           ", ".intercalate (missingEvidence a) ++
           " -- the preimage would carry an unbound record")), c, t)
      else
        match computeRecordHash (c.entry env.now a tenantId) c.latestHash with
        | .error e => (.error e, c, t)
        | .ok hash =>
          let r := { c.entry env.now a tenantId with recordHash := hash }
          -- persist before appending: a failed write leaves the list where the store is
          match c.backend.save env.fault t r with
          | (.error e, t') => (.error e, c, t')
          | (.ok (), t') => (.ok r, { c with records := c.records ++ [r] }, t')

/-- `append_reconciliation`: a corrective DENY, which needs a trace and a rule. -/
def appendReconciliation (c : AuditChain) (t : AuditTable) (env : RecordEnv)
    (clientId traceId rule content reason : String) (policyDigest tenantId : Option String) :
    Except Exn AuditRecord × AuditChain × AuditTable :=
  if traceId = "" then
    (.error (.ValueError "a reconciliation record needs the trace_id it reconciles"), c, t)
  else if rule = "" then
    (.error (.ValueError "a reconciliation record needs the rule that identifies it"), c, t)
  else
    c.record t env
      { clientId, action := "DENY", reason, content, triggeredRule := some rule,
        traceId := some traceId, policyDigest, tenantId }

/-- The loop of `verify`, from record `i` on. -/
def verifyFrom : Nat → String → List AuditRecord → Except Exn (Bool × String)
  | _, _, [] => .ok (true, "OK")
  | i, previousHash, r :: rs =>
    if r.previousHash ≠ previousHash then
      .ok (false, "Chain broken at record " ++ toString i ++ ": previous_hash mismatch")
    else if r.bindingVersion.getD 0 > RECORD_BINDING_CURRENT then
      let version := toString (r.bindingVersion.getD 0)
      .ok (false, "Record " ++ toString i ++ " claims binding version " ++ version ++
        ", which this build does not implement (up to " ++ toString RECORD_BINDING_CURRENT ++ "). " ++
        "This is not a tampering finding: verify with a build that implements version " ++
        version ++ ".")
    else do
      let expected ← computeRecordHash r previousHash
      if r.recordHash ≠ expected then
        .ok (false, "Record " ++ toString i ++ " hash invalid -- tampering detected")
      else verifyFrom (i + 1) r.recordHash rs

/-- `verify`. -/
def verify (c : AuditChain) : Except Exn (Bool × String) :=
  if c.records = [] then .ok (true, "Empty chain -- OK")
  else verifyFrom 0 GENESIS_HASH c.records

/-- `verify` returns True. -/
def Verified (c : AuditChain) : Prop := ∃ msg, c.verify = .ok (true, msg)

/-! ## What `verify` accepts -/

/-- The latest hash is the head of the chain. -/
lemma latestHash_eq (c : AuditChain) : c.latestHash = recordLink.head GENESIS_HASH c.records := by
  unfold latestHash LinkSpec.head
  cases c.records.getLast? <;> rfl

/-- A record's link is its hash. -/
lemma recordLink_hash {r : AuditRecord} {p h : String} :
    recordLink.hash r p = some h ↔ computeRecordHash r p = .ok h := by
  show (computeRecordHash r p).toOption = some h ↔ _
  cases computeRecordHash r p <;> simp [Except.toOption]

/-- The loop accepts where the records are linked. -/
lemma verifyFrom_iff {i : Nat} {p : String} {rs : List AuditRecord} :
    (∃ msg, verifyFrom i p rs = .ok (true, msg)) ↔ recordLink.Linked p rs := by
  induction rs generalizing i p with
  | nil => simp [verifyFrom]
  | cons r rs ih =>
    unfold verifyFrom LinkSpec.Linked
    by_cases hp : r.previousHash = p
    · by_cases hv : r.bindingVersion.getD 0 > RECORD_BINDING_CURRENT
      · -- an unimplemented version has no hash, so the list is not linked either
        have none : ∀ h, ¬ computeRecordHash r p = .ok h := by
          intro h e
          obtain ⟨f, hf, -⟩ := computeRecordHash_eq_ok.1 e
          exact absurd (preimageFields_isOk.1 ⟨f, hf⟩) (not_le.2 hv)
        simp [hp, hv, recordLink_hash, none]
      · obtain ⟨h, e⟩ := computeRecordHash_ok (r := r) (not_lt.1 hv) p
        have own : recordLink.own r = r.recordHash := rfl
        have prev : recordLink.prev r = r.previousHash := rfl
        by_cases hh : r.recordHash = h
        · simp [hp, hv, e, own, prev, hh, recordLink_hash, ← ih (i := i + 1), bind, Except.bind]
        · simp [hp, hv, e, own, prev, hh, Ne.symm hh, recordLink_hash, bind, Except.bind]
    · have prev : recordLink.prev r = r.previousHash := rfl
      simp [hp, prev]

/-- `verify` accepts exactly the lists linked from GENESIS. -/
theorem verified_iff_linked {c : AuditChain} :
    c.Verified ↔ recordLink.Linked GENESIS_HASH c.records := by
  unfold Verified verify
  by_cases e : c.records = []
  · simp [e]
  · simp only [e, if_false]
    exact verifyFrom_iff

/-! ## What `record` appends -/

/-- The entry a call of `record` appends: the arguments, the clock and the head of the chain, under the
hash recomputed from them. -/
structure IsEntry (c : AuditChain) (now : ℚ) (a : RecordArgs) (r : AuditRecord) : Prop where
  eq : ∃ tenantId, c.resolveTenant a.tenantId = .ok tenantId ∧
    r = { c.entry now a tenantId with recordHash := r.recordHash }
  hash : computeRecordHash r c.latestHash = .ok r.recordHash

/-- A new entry is linked to the head. -/
lemma IsEntry.previousHash {c : AuditChain} {now : ℚ} {a : RecordArgs} {r : AuditRecord}
    (ent : IsEntry c now a r) : r.previousHash = c.latestHash := by
  obtain ⟨id, -, e⟩ := ent.eq
  rw [e]; rfl

omit [Platform] in
/-- A scoped chain writes for its own tenant. -/
lemma resolveTenant_scoped {c : AuditChain} {own : String} (sc : c.tenantId = some own)
    {o id : Option String} (e : c.resolveTenant o = .ok id) : id = some own := by
  unfold resolveTenant at e
  cases o with
  | none =>
    simp only [sc, Except.ok.injEq] at e
    exact e.symm
  | some o =>
    simp only [sc] at e
    split at e
    · cases e
    · rename_i h
      simp only [Except.ok.injEq] at e
      rw [← e, not_not.1 h]

lemma IsEntry.tenantId {c : AuditChain} {now : ℚ} {a : RecordArgs} {r : AuditRecord}
    (ent : IsEntry c now a r) {own : String} (sc : c.tenantId = some own) :
    r.tenantId = some own := by
  obtain ⟨id, hid, e⟩ := ent.eq
  rw [e, resolveTenant_scoped sc hid]
  rfl

/-- Appending an entry keeps a linked chain linked. -/
lemma IsEntry.linked {c : AuditChain} {now : ℚ} {a : RecordArgs} {r : AuditRecord}
    (ent : IsEntry c now a r) (lk : recordLink.Linked GENESIS_HASH c.records) :
    recordLink.Linked GENESIS_HASH (c.records ++ [r]) := by
  refine lk.snoc ?_ ?_
  · rw [← latestHash_eq]; exact ent.previousHash
  · rw [← latestHash_eq]; exact recordLink_hash.2 ent.hash

/-- The arguments pass every check `record` makes before it saves. -/
structure Admissible (c : AuditChain) (environ : Environ) (a : RecordArgs) : Prop where
  commitment : a.commitment ∈ COMMITMENT_FORMS
  tenant : ∃ tenantId, c.resolveTenant a.tenantId = .ok tenantId
  evidence : boundEvidenceRequired environ → missingEvidence a = []

omit [Platform] in
/-- No evidence is missing where there are a digest and a trace. -/
lemma missingEvidence_eq_nil {a : RecordArgs} :
    missingEvidence a = [] ↔ truthy a.policyDigest = true ∧ truthy a.traceId = true := by
  unfold missingEvidence
  split_ifs <;> simp_all

/-- The entry `record` builds is hashed, whatever the arguments: its version is this build's. -/
lemma exists_isEntry (c : AuditChain) (now : ℚ) {a : RecordArgs} {id : Option String}
    (hid : c.resolveTenant a.tenantId = .ok id) :
    ∃ r, IsEntry c now a r ∧ computeRecordHash (c.entry now a id) c.latestHash = .ok r.recordHash ∧
      r = { c.entry now a id with recordHash := r.recordHash } := by
  obtain ⟨h, e⟩ := computeRecordHash_ok (r := c.entry now a id) (le_refl RECORD_BINDING_CURRENT)
    c.latestHash
  exact ⟨{ c.entry now a id with recordHash := h }, ⟨⟨id, hid, rfl⟩, e⟩, e, rfl⟩

/-- A call that fails a check raises and changes nothing. -/
lemma record_of_not_admissible {c : AuditChain} {t : AuditTable} {env : RecordEnv} {a : RecordArgs}
    (no : ¬ c.Admissible env.environ a) : ∃ e, c.record t env a = (.error e, c, t) := by
  unfold record
  by_cases hc : a.commitment ∈ COMMITMENT_FORMS
  · cases hid : c.resolveTenant a.tenantId with
    | error e => exact ⟨e, by simp [hc]⟩
    | ok id =>
      have hev : boundEvidenceRequired env.environ ∧ missingEvidence a ≠ [] := by
        by_contra h
        exact no ⟨hc, ⟨id, hid⟩, fun hb => by_contra fun hm => h ⟨hb, hm⟩⟩
      exact ⟨_, by simp only [hc, not_true_eq_false, if_false]; rw [if_pos hev]⟩
  · exact ⟨_, by rw [if_pos hc]⟩

/-- A call that passes the checks comes down to the save of its entry. -/
lemma record_of_admissible {c : AuditChain} {env : RecordEnv} {a : RecordArgs}
    (adm : c.Admissible env.environ a) :
    ∃ r, IsEntry c env.now a r ∧ ∀ t, c.record t env a =
      match c.backend.save env.fault t r with
      | (.error e, t') => (.error e, c, t')
      | (.ok (), t') => (.ok r, { c with records := c.records ++ [r] }, t') := by
  obtain ⟨id, hid⟩ := adm.tenant
  obtain ⟨r, ent, hash, e⟩ := c.exists_isEntry env.now hid
  refine ⟨r, ent, fun t => ?_⟩
  have hev : ¬ (boundEvidenceRequired env.environ ∧ missingEvidence a ≠ []) :=
    fun h => h.2 (adm.evidence h.1)
  unfold record
  simp only [adm.commitment, not_true_eq_false, if_false, hid, if_neg hev, hash, ← e]

omit [Platform] in
/-- A save that raises leaves the table as it was. -/
lemma save_error {b : Backend} {fault : Option StoreExc} {t t' : AuditTable} {r : AuditRecord}
    {e : Exn} (h : b.save fault t r = (.error e, t')) : t' = t := by
  by_cases dur : b.Durable
  · rcases save_cases dur fault t r with ⟨e', he⟩ | ⟨t'', -, -, he⟩
    · rw [he] at h
      exact (Prod.mk.inj h).2.symm
    · rw [he] at h
      cases (Prod.mk.inj h).1
  · have : b = .InMemoryBackend := not_not.1 dur
    subst this
    cases (Prod.mk.inj h).1

/-- What `record` can do: raise and change neither the list nor the table, or append one entry that the
backend has saved. -/
theorem record_cases (c : AuditChain) (t : AuditTable) (env : RecordEnv) (a : RecordArgs) :
    (∃ e, c.record t env a = (.error e, c, t)) ∨
    (∃ r t', c.Admissible env.environ a ∧ IsEntry c env.now a r ∧
      c.backend.save env.fault t r = (.ok (), t') ∧
      c.record t env a = (.ok r, { c with records := c.records ++ [r] }, t')) := by
  by_cases adm : c.Admissible env.environ a
  · obtain ⟨r, ent, eq⟩ := record_of_admissible adm
    rw [eq t]
    rcases h : c.backend.save env.fault t r with ⟨e | ⟨⟩, t'⟩
    · exact .inl ⟨e, by rw [save_error h]⟩
    · exact .inr ⟨r, t', adm, ent, h, rfl⟩
  · exact .inl (record_of_not_admissible adm)

/-- The backend takes the chain's next entry: its engine does not fail, and no row is chained to the
head. -/
def Takes (c : AuditChain) (t : AuditTable) (env : RecordEnv) : Prop :=
  c.backend.Durable → env.fault = none ∧
    ∀ r ∈ t.rows, r.indexKey ≠ (c.tenantId.getD "", c.latestHash)

/-- A call for the chain's own tenant whose arguments pass the checks returns exactly when the backend takes
the entry. -/
lemma record_ok_iff_of_own {c : AuditChain} {t : AuditTable} {env : RecordEnv} {a : RecordArgs}
    (own : c.resolveTenant a.tenantId = .ok c.tenantId) (adm : c.Admissible env.environ a) :
    (∃ r, (c.record t env a).1 = .ok r) ↔ c.Takes t env := by
  obtain ⟨r, ent, eq⟩ := record_of_admissible adm
  have tenant : r.tenantId = c.tenantId := by
    obtain ⟨id, hid, e⟩ := ent.eq
    rw [own] at hid
    rw [e, ← Except.ok.inj hid]
    rfl
  have key : r.indexKey = (c.tenantId.getD "", c.latestHash) := by
    rw [AuditRecord.indexKey, tenant, ent.previousHash]
  rw [eq t]
  unfold Takes
  rw [← key]
  by_cases dur : c.backend.Durable
  · rcases save_cases dur env.fault t r with ⟨e, he⟩ | ⟨t', clean, ins, he⟩
    · rw [he]
      refine ⟨nofun, fun takes => ?_⟩
      obtain ⟨clean, free⟩ := takes dur
      -- without a fault only a row under the same key refuses the entry
      rcases save_of_no_fault dur t r with ⟨t', -, ok⟩ | ⟨taken, -⟩
      · rw [clean, ok] at he
        cases he
      · obtain ⟨r', mem, same⟩ := AuditTable.insert_eq_none.1 taken
        exact absurd same (free r' mem)
    · rw [he]
      refine ⟨fun _ _ => ⟨clean, fun r' mem same => ?_⟩, fun _ => ⟨r, rfl⟩⟩
      exact (AuditTable.insert_eq_some ins).1 (List.mem_map.2 ⟨r', mem, same⟩)
  · have memory : c.backend = .InMemoryBackend := not_not.1 dur
    rw [memory]
    exact ⟨fun _ dur => absurd rfl dur, fun _ => ⟨r, rfl⟩⟩

/-- A scoped chain records for no other tenant. -/
lemma record_ok_iff {c : AuditChain} {own : String} (sc : c.tenantId = some own) {t : AuditTable}
    {env : RecordEnv} {a : RecordArgs} (adm : c.Admissible env.environ a) :
    (∃ r, (c.record t env a).1 = .ok r) ↔ c.Takes t env := by
  obtain ⟨id, hid⟩ := adm.tenant
  refine record_ok_iff_of_own ?_ adm
  rw [hid, sc, resolveTenant_scoped sc hid]

end AuditChain

end Custos
