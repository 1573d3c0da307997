import Custos.Library.Path
import Custos.Service.Administration
import Custos.Service.Agreement
import Custos.Service.Findings

/-!
# Erasure

The two retention endpoints of `main.py` over runs of the whole API, with retention on: `/v1/retention/purge` deletes a
body and has the tenant's chain attest it, `/v1/retention/status` compares what the tenant's log says of content with
what its store holds, and decisions go on being recorded and kept between the two.

What is deleted stays deleted (`Erased`), whatever is served later, and through a deletion and a new registration of
the tenant. What the log says of the store is true but for one thing (`TrueToStore`): a body may have been deleted and no
record say so. That, and nothing else, is what the status endpoint reports.
-/

namespace Custos

variable {γ : Type}

/-! ## The status endpoint -/

structure RetentionStatusResponse where
  tenantId : String
  contentRetention : String
  storeFile : String
  recordsRead : Nat
  digestsExamined : Nat
  ok : Bool
  findings : List Finding

namespace Main

/-- `/v1/retention/status`. The store is asked only where there is a digest to ask it for. -/
def retentionStatus [Platform] (s : Service γ) (env : RequestEnv) (tenantId : String) :
    Except Failure RetentionStatusResponse :=
  match requireRetentionAdmin env with
  | .error e => .error e
  | .ok () =>
    match s.tenants.getStrict tenantId with
    | none => .error (unknownTenant tenantId)
    | some ctx =>
      match contentStoreFor env.environ env.openFault tenantId with
      | .error e => .error (.raised e)
      | .ok none =>
        .error (.raised (.Other "AttributeError" "'NoneType' object has no attribute 'status'"))
      | .ok (some path) =>
        let report := reconcile (ctx.auditChain.getRecords none) (s.stores.contents path)
        match env.statusFault.filter fun _ => report.digestsExamined ≠ 0 with
        | some exc => .error (.raised (.Store exc))
        | none =>
          match contentRetentionMode env.environ with
          | .error e => .error (.raised e)
          | .ok contentRetention => .ok
            { tenantId, contentRetention
              storeFile := .ofList (Path.basename
                (storePathFor ((storeDirectory env.environ).getD "") tenantId).toList)
              recordsRead := report.recordsRead
              digestsExamined := report.digestsExamined
              ok := report.ok
              findings := report.findings }

end Main

section

variable [Platform]

section

variable {s : Service γ} {env : RequestEnv}

end

/-! ## What the log says of the store -/

/-- The log is true of the store, but for deletions that no record attests. -/
structure TrueToStore (s : ContentStore) (records : List AuditRecord) : Prop where
  keyed : s.Keyed
  held : ∀ d, Claimed records d → (s.bodies d).isSome ∨ (s.purges d).isSome
  attested : ∀ d, Attested records d → (s.purges d).isSome
  gone : ∀ d, (s.purges d).isSome → s.bodies d = none

/-- Of an empty store, a log that says nothing of content is true. -/
lemma TrueToStore.of_silent {records : List AuditRecord} (silent : ∀ r ∈ records, ¬ r.Claims ∧ ¬ r.AttestsPurge) :
    TrueToStore {} records where
  keyed d row held := by cases held
  held d claimed := by
    obtain ⟨r, mem, -, claims⟩ := claimed
    exact absurd claims (silent r mem).1
  attested d attested := by
    obtain ⟨r, mem, -, attests⟩ := attested
    exact absurd attests (silent r mem).2
  gone d purged := by cases purged

namespace TrueToStore

variable {s : ContentStore} {records : List AuditRecord}

/-- Nothing is found but deletions that no record attests. -/
lemma unattested (truth : TrueToStore s records) {f : Finding} (mem : f ∈ (reconcile records s).findings) :
    f.kind = FINDING_UNATTESTED_PURGE ∧ Claimed records f.contentHash ∧ (s.purges f.contentHash).isSome ∧
      ¬ Attested records f.contentHash := by
  rcases found_iff.1 ⟨f, mem, rfl, rfl⟩ with
    ⟨kind, claimed, status, missing⟩ | ⟨-, claimed, status⟩ | ⟨-, attested, status⟩
  · rcases mem_status_cases s f.contentHash with ⟨other, -⟩ | ⟨-, -, purged⟩ | ⟨other, -, -⟩
    · cases other.symm.trans status
    · exact ⟨kind, claimed, purged, missing⟩
    · cases other.symm.trans status
  · -- what is claimed is held or was purged
    rcases mem_status_cases s f.contentHash with ⟨other, -⟩ | ⟨other, -, -⟩ | ⟨-, body, purged⟩
    · cases other.symm.trans status
    · cases other.symm.trans status
    · rcases truth.held _ claimed with held | held
      · rw [body] at held
        cases held
      · rw [purged] at held
        cases held
  · -- what is attested is purged, and what is purged is gone
    have gone := truth.gone _ (truth.attested _ attested)
    rcases mem_status_cases s f.contentHash with ⟨-, body⟩ | ⟨other, -, -⟩ | ⟨other, -, -⟩
    · rw [gone] at body
      cases body
    · cases other.symm.trans status
    · cases other.symm.trans status

/-- Each deletion of content that the log claims and no record attests is found, once, and nothing else. -/
lemma findings (truth : TrueToStore s records) :
    (∀ f ∈ (reconcile records s).findings, f.kind = FINDING_UNATTESTED_PURGE) ∧
      ((reconcile records s).findings.map (·.contentHash)).Nodup ∧
      ∀ d, d ∈ (reconcile records s).findings.map (·.contentHash) ↔
        Claimed records d ∧ (s.purges d).isSome ∧ ¬ Attested records d := by
  refine ⟨fun f mem => (truth.unattested mem).1, ?_, fun d => ⟨?_, ?_⟩⟩
  · have pairs : (reconcile records s).findings.map (fun f => (f.kind, f.contentHash)) =
        ((reconcile records s).findings.map (·.contentHash)).map (FINDING_UNATTESTED_PURGE, ·) := by
      rw [List.map_map]
      exact List.map_congr_left fun f mem => congrArg (·, f.contentHash) (truth.unattested mem).1
    exact List.Nodup.of_map _ (pairs ▸ nodup_findings records s)
  · intro mem
    obtain ⟨f, found, rfl⟩ := List.mem_map.1 mem
    exact (truth.unattested found).2
  · rintro ⟨claimed, purged, missing⟩
    have status : s.status d = .STATUS_PURGED := by
      rcases mem_status_cases s d with ⟨-, body⟩ | ⟨status, -, -⟩ | ⟨-, -, none⟩
      · rw [truth.gone d purged] at body
        cases body
      · exact status
      · rw [none] at purged
        cases purged
    obtain ⟨f, mem, -, rfl⟩ := found_iff.2 (.inl ⟨rfl, claimed, status, missing⟩)
    exact List.mem_map_of_mem mem

/-- The body goes and its row comes, and of the two the log says no more than that it was purged. -/
lemma erase (truth : TrueToStore s records) (d : String) (prior : PurgeRow) {records' : List AuditRecord}
    (claimed : ∀ d', Claimed records' d' → Claimed records d')
    (attested : ∀ d', Attested records' d' → Attested records d' ∨ d' = d) : TrueToStore (s.erase d prior) records' := by
  refine ⟨truth.keyed.erase d prior, fun d' claims => ?_, fun d' attests => ?_, fun d' purged => ?_⟩
  · by_cases e : d' = d
    · rw [e, ContentStore.erase_purges_self]
      exact .inr rfl
    · rw [ContentStore.erase_bodies_of_ne e, ContentStore.erase_purges_of_ne e]
      exact truth.held d' (claimed d' claims)
  · by_cases e : d' = d
    · rw [e, ContentStore.erase_purges_self]
      rfl
    · rw [ContentStore.erase_purges_of_ne e]
      exact truth.attested d' ((attested d' attests).resolve_right e)
  · by_cases e : d' = d
    · rw [e, ContentStore.erase_bodies_self]
    · rw [ContentStore.erase_purges_of_ne e] at purged
      rw [ContentStore.erase_bodies_of_ne e]
      exact truth.gone d' purged

end TrueToStore

/-- The digest's body was deleted as `prior` says and is not kept again, and no record that was written after the
records `before` claims that it is. -/
structure Erased (d : String) (prior : PurgeRow) (before : List AuditRecord) (s : ContentStore)
    (records : List AuditRecord) : Prop where
  row : ∃ row, s.purges d = some row ∧ row.purgedAt = prior.purgedAt ∧ row.reason = prior.reason
  gone : s.bodies d = none
  unclaimed : ∃ since, records = before ++ since ∧ ¬ Claimed since d

omit [Platform] in
/-- What is erased has its row of the deletion. -/
lemma Erased.isSome {d : String} {prior : PurgeRow} {before : List AuditRecord} {s : ContentStore}
    {records : List AuditRecord} (erased : Erased d prior before s records) : (s.purges d).isSome := by
  obtain ⟨row, purged, -⟩ := erased.row
  rw [purged]
  rfl

/-! ## Keeping a body -/

namespace Keeping

variable {s s' : ContentStore} {records records' : List AuditRecord} {body : String}

/-- What is kept brings no deleted body back. -/
lemma gone (keeping : Keeping s records false body s' records') {d : String} (purged : (s.purges d).isSome)
    (gone : s.bodies d = none) : s'.bodies d = none := by
  rcases keeping.stored_or_same with rfl | stored
  · exact gone
  · obtain ⟨row, purged⟩ := Option.isSome_iff_exists.1 purged
    refine stored.gone purged gone fun legacy => ?_
    cases legacy

/-- What is kept leaves the records true to the store. -/
lemma trueToStore (keeping : Keeping s records false body s' records') (truth : TrueToStore s records) : TrueToStore s' records' where
  keyed := keeping.keyed truth.keyed
  held d claimed := by
    rcases keeping.claimed claimed with old | held
    · rw [keeping.purges]
      exact (truth.held d old).imp_left keeping.mono
    · exact .inl held
  attested d attested := by
    rw [keeping.purges]
    exact truth.attested d ((keeping.attested_iff truth.keyed d).1 attested)
  gone d purged := by
    rw [keeping.purges] at purged
    exact keeping.gone purged (truth.gone d purged)

/-- What is erased stays so, whatever is kept. -/
lemma erased (keeping : Keeping s records false body s' records') {d : String} {prior : PurgeRow}
    {before : List AuditRecord} (erased : Erased d prior before s records) : Erased d prior before s' records' where
  row := by
    rw [keeping.purges]
    exact erased.row
  gone := keeping.gone erased.isSome erased.gone
  unclaimed := by
    obtain ⟨since, rfl, no⟩ := erased.unclaimed
    obtain ⟨new, rfl, alone⟩ := keeping.grown
    refine ⟨since ++ new, List.append_assoc .., fun claimed => ?_⟩
    rcases claimed_append_iff.1 claimed with old | claimed
    · exact no old
    · -- what is claimed anew is kept, and the body is gone
      rcases alone.claimed claimed with ⟨r, mem, -⟩ | held
      · cases mem
      · rw [keeping.gone erased.isSome erased.gone] at held
        cases held

end Keeping

/-! ## Deleting one -/

/-- What a purge comes to, beside what it returns: nothing, a deletion whose record was refused, or one that a record
attests, for which it takes evidence (`evident`). -/
inductive Deletion (s : ContentStore) (records : List AuditRecord) (d clientId : String) (evident : Prop) :
    Except Exn String → ContentStore → List AuditRecord → Prop
  | refused (e : Exn) : Deletion s records d clientId evident (.error e) s records
  | unattested (row : ContentBody) (prior : PurgeRow) (e : Exn) : s.bodies d = some row → s.purges d = none →
      Deletion s records d clientId evident (.error e) (s.erase d prior) records
  | attested (row : ContentBody) (prior : PurgeRow) (r : AuditRecord) (res : Except Exn String) :
      s.bodies d = some row → s.purges d = none → evident → r.contentHash = sha256 row.body → r.AttestsPurge →
      r.clientId = clientId → Deletion s records d clientId evident res (s.erase d prior) (records ++ [r])

/-- A call of `record` raises, or appends the entry of its arguments, which pass the checks. -/
lemma recordIn_entry (c : AuditChain) (s : Stores) (env : RecordEnv) (a : RecordArgs) :
    (∃ e s', c.recordIn s env a = (.error e, c, s') ∧ s'.contents = s.contents) ∨
      ∃ r s', c.recordIn s env a = (.ok r, { c with records := c.records ++ [r] }, s') ∧
        s'.contents = s.contents ∧ c.Admissible env.environ a ∧ c.IsEntry env.now a r := by
  unfold AuditChain.recordIn
  rcases c.record_cases s.audit env a with ⟨e, he⟩ | ⟨r, t', adm, ent, -, he⟩
  · rw [he]
    exact .inl ⟨e, _, rfl, rfl⟩
  · rw [he]
    exact .inr ⟨r, _, rfl, rfl, adm, ent⟩

/-- A call of `purge` deletes the body and attests it, deletes it without a record, or changes nothing. -/
lemma purge_deletion (path : String) (c : AuditChain) (s : Stores) (env : PurgeEnv) (d clientId reason : String)
    (traceId policyDigest : Option String) :
    Deletion (s.contents path) c.records d clientId
      (boundEvidenceRequired env.environ = true → truthy traceId = true)
      (purge path c s env d clientId reason traceId policyDigest).1
      ((purge path c s env d clientId reason traceId policyDigest).2.2.contents path)
      (purge path c s env d clientId reason traceId policyDigest).2.1.records := by
  unfold purge
  rcases deleteBody_deleted (s.contents path) env.deleteFault env.purgedAt d reason with
    ⟨⟨e, eq⟩, -⟩ | ⟨row, -, body, purged, eq⟩
  · rw [eq]
    dsimp only
    rw [setContent_contents]
    exact .refused e
  · rw [eq]
    dsimp only
    let store := (s.contents path).erase d { purgedAt := env.purgedAt, reason }
    rcases recordIn_entry c (s.setContent path store) env.toRecordEnv
        (purgeArgs clientId reason traceId policyDigest row.body) with
      ⟨e, s', res, kept⟩ | ⟨r, s', res, kept, adm, ent⟩
    · rw [purgeArgs] at res
      rw [res]
      dsimp only
      rw [kept, setContent_contents]
      exact .unattested row _ e body purged
    · obtain ⟨id, -, entry⟩ := ent.eq
      have hash : r.contentHash = sha256 row.body := by
        rw [entry]
        rfl
      have form : r.AttestsPurge := by
        rw [entry]
        rfl
      have client : r.clientId = clientId := by
        rw [entry]
        rfl
      have evident : boundEvidenceRequired env.environ = true → truthy traceId = true := fun bound =>
        (AuditChain.missingEvidence_eq_nil.1 (adm.evidence bound)).2
      rw [purgeArgs] at res
      rw [res]
      dsimp only
      split
      · rw [kept, setContent_contents]
        exact .attested row _ r _ body purged evident hash form client
      · cases env.attestFault with
        | some exc =>
          dsimp only
          rw [kept, setContent_contents]
          exact .attested row _ r _ body purged evident hash form client
        | none =>
          dsimp only
          rw [setContent_contents, kept, setContent_contents, ContentStore.attest_erase]
          exact .attested row _ r _ body purged evident hash form client

namespace Deletion

variable {s s' : ContentStore} {records records' : List AuditRecord} {d clientId : String} {evident : Prop}
  {res : Except Exn String}

lemma trueToStore (deletion : Deletion s records d clientId evident res s' records') (truth : TrueToStore s records) :
    TrueToStore s' records' := by
  cases deletion with
  | refused e => exact truth
  | unattested row prior e _ _ => exact truth.erase d prior (fun _ claims => claims) fun _ attests => .inl attests
  | attested row prior r _ body _ _ hash form _ =>
    have own : r.contentHash = d := hash.trans (truth.keyed d row body).1
    refine truth.erase d prior (fun d' claims => ?_) fun d' attests => ?_
    · rw [claimed_append] at claims
      exact claims.resolve_right fun h => form.not_claims h.2
    · rw [attested_append] at attests
      exact attests.imp_right fun h => h.1.symm.trans own

lemma erased (deletion : Deletion s records d clientId evident res s' records') {d' : String} {prior : PurgeRow}
    {before : List AuditRecord} (erased : Erased d' prior before s records) : Erased d' prior before s' records' := by
  obtain ⟨row, purged, same⟩ := erased.row
  have other : s.purges d = none → d' ≠ d := by
    rintro none rfl
    cases purged.symm.trans none
  cases deletion with
  | refused e => exact erased
  | unattested _ _ e _ none =>
    refine ⟨⟨row, ?_, same⟩, ?_, erased.unclaimed⟩
    · rw [ContentStore.erase_purges_of_ne (other none)]
      exact purged
    · rw [ContentStore.erase_bodies_of_ne (other none)]
      exact erased.gone
  | attested _ _ r _ _ none _ _ form _ =>
    obtain ⟨since, rfl, no⟩ := erased.unclaimed
    refine ⟨⟨row, ?_, same⟩, ?_, since ++ [r], List.append_assoc .., fun claims => ?_⟩
    · rw [ContentStore.erase_purges_of_ne (other none)]
      exact purged
    · rw [ContentStore.erase_bodies_of_ne (other none)]
      exact erased.gone
    · rw [claimed_append] at claims
      exact no (claims.resolve_right fun h => form.not_claims h.2)

end Deletion

/-! ## What a request writes -/

/-- The retention of content is on, in this directory. -/
structure Retains (environ : Environ) (directory : String) : Prop where
  mode : contentRetentionMode environ = .ok MODE_STORE
  directory : storeDirectory environ = some directory

/-- With retention on a tenant's content is in the file of its own. -/
lemma Retains.contentStoreFor {environ : Environ} {directory : String} (retains : Retains environ directory)
    (openFault : Option StoreExc) (id : String) :
    Custos.contentStoreFor environ openFault id =
      match openFault with
      | some exc => .error (.Store exc)
      | none => .ok (some (storePathFor directory id)) := by
  unfold Custos.contentStoreFor
  rw [retains.mode]
  simp only [bind, Except.bind, retains.directory]
  rw [if_neg (by decide)]
  cases openFault <;> rfl

/-- The file that is selected is the tenant's own. -/
lemma Retains.selects {environ : Environ} {directory : String} (retains : Retains environ directory)
    {openFault : Option StoreExc} {id path : String}
    (selected : Custos.contentStoreFor environ openFault id = .ok (some path)) : path = storePathFor directory id := by
  rw [retains.contentStoreFor] at selected
  cases openFault with
  | some exc => cases selected
  | none =>
    cases selected
    rfl

/-- What a request other than a purge does to the stores and to its tenant's chain. -/
inductive Writes (environ : Environ) (id : String) (s : Stores) (c : AuditChain) : Stores → AuditChain → Prop
  | idle : Writes environ id s c s c
  | decision (ctx : TenantContext) (env : DecisionEnv) (a : RecordArgs) : ctx.auditChain = c → env.environ = environ →
      orElse a.tenantId ctx.tenantId = id →
      Writes environ id s c (recordDecision ctx s env a).2.2 (recordDecision ctx s env a).2.1.auditChain
  | plain (env : RecordEnv) (a : RecordArgs) : a.commitment = COMMITMENT_NONE →
      Writes environ id s c (c.recordIn s env a).2.2 (c.recordIn s env a).2.1

namespace Writes

variable {environ : Environ} {id directory : String} {s s' : Stores} {c c' : AuditChain}

/-- In any store a body may be new, and no other row changes. -/
lemma store (writes : Writes environ id s c s' c') (path : String) :
    s'.contents path = s.contents path ∨ ∃ body, Stored (s.contents path) false body (s'.contents path) := by
  cases writes with
  | idle => exact .inl rfl
  | decision ctx env a _ _ _ => exact (recordDecision_store path ctx s env a).imp_right fun stored => ⟨_, stored⟩
  | plain env a _ => exact .inl rfl

/-- In the tenant's store the body of what is recorded is kept. -/
lemma keeping (retains : Retains environ directory) (writes : Writes environ id s c s' c') :
    ∃ body, Keeping (s.contents (storePathFor directory id)) c.records false body
      (s'.contents (storePathFor directory id)) c'.records := by
  cases writes with
  | idle => exact ⟨"", .idle⟩
  | decision ctx env a chain same own =>
    subst chain
    refine ⟨a.content, recordDecision_keeping _ ctx s env a fun path select => ?_⟩
    rw [same, own] at select
    exact retains.selects select
  | plain env a none =>
    rcases recordIn_appends c s env a with ⟨e, s', eq, kept⟩ | ⟨r, s', eq, kept, hash, form⟩
    · rw [eq, kept]
      exact ⟨"", .idle⟩
    · rw [eq, kept]
      exact ⟨a.content, .plain r hash (form.trans (congrArg some none))⟩

end Writes

/-- A request on the tenant leaves the tenant its name. -/
def WritesFor (environ : Environ) (id : String) (ctx : TenantContext) (s s' : Service γ) : Prop :=
  ∃ ctx', s'.tenants = s.tenants.setContext id ctx' ∧ ctx'.tenantId = ctx.tenantId ∧
    Writes environ id s.stores ctx.auditChain s'.stores ctx'.auditChain

omit [Platform] in
/-- Each tenant's context bears the name it is found under. -/
def TenantManager.SelfNamed (tm : TenantManager) : Prop := ∀ id ctx, tm.tenants id = some ctx → ctx.tenantId = id

section

variable {s s' : Service γ} {env : RequestEnv} {id : String} {ctx : TenantContext}

/-- A call that changes neither the tenants nor the stores writes nothing. -/
lemma WritesFor.idle {environ : Environ} (known : s.tenants.getStrict id = some ctx) (tenants : s'.tenants = s.tenants)
    (stores : s'.stores = s.stores) : WritesFor environ id ctx s s' := by
  refine ⟨ctx, ?_, rfl, ?_⟩
  · rw [tenants]
    exact (setContext_self known).symm
  · rw [stores]
    exact .idle

/-- `/v1/evaluate` writes for the tenant it is asked for. -/
lemma evaluate_writes [Regex] (named : s.tenants.SelfNamed) {req : EvaluateRequest}
    (known : s.tenants.getStrict req.tenantId = some ctx) :
    WritesFor env.environ req.tenantId ctx s (Main.evaluate s env req).2 := by
  have own : ctx.tenantId = req.tenantId := named _ _ known
  unfold Main.evaluate
  split
  · exact .idle known rfl rfl
  · cases InputValidator.validateRequest req.clientId req.content req.tokenCount with
    | some error => exact .idle known rfl rfl
    | none =>
      dsimp only
      rw [known]
      dsimp only
      split
      · exact ⟨_, rfl, rfl, .decision { ctx with rateLimiter := (Main.consume env ctx req).2.2 } _ _ rfl rfl own⟩
      · cases ctx.policyEngine.evaluate env.remote req.content with
        | error e => exact ⟨_, rfl, rfl, .idle⟩
        | ok d =>
          exact ⟨_, rfl, rfl, .decision { ctx with rateLimiter := (Main.consume env ctx req).2.2 } _ _ rfl rfl own⟩

/-- Whatever the gate decides, it records. -/
lemma settle_writes (named : s.tenants.SelfNamed) (known : s.tenants.getStrict id = some ctx) (env : DecisionEnv)
    (clientId : String) (traceId : Option String) (d : PolicyResult) (blob : String) (cited : Option String) :
    WritesFor env.environ id ctx s (s.settle env id ctx clientId traceId d blob cited).2 := by
  have own : ctx.tenantId = id := named _ _ known
  have left : (s.settle env id ctx clientId traceId d blob cited).2 =
      (s.record env id ctx clientId traceId d blob cited).2 := by
    unfold Service.settle
    dsimp only
    split <;> rfl
  rw [left]
  refine ⟨_, rfl, rfl, .decision ctx env (Service.gateArgs id clientId traceId d blob cited) rfl rfl ?_⟩
  show orElse (some id) ctx.tenantId = id
  rw [own]
  simp only [orElse, present, Option.filter]
  split <;> rfl

lemma evaluateAction_writes [Regex] (hooks : CustodyHooks γ) (named : s.tenants.SelfNamed)
    (known : s.tenants.getStrict id = some ctx) (env : GateEnv) (action : ActionRequest) (clientId : String)
    (traceId : Option String) :
    WritesFor env.environ id ctx s (s.evaluateAction hooks env id action clientId traceId).2 := by
  unfold Service.evaluateAction
  rw [known]
  dsimp only
  generalize (s.gate.citedPolicyDigest env.environ id ctx.policyEngine).1 = cited
  generalize ActionGate.maybeAnchorPolicyCommit .. = gate
  have settles := fun d => settle_writes (s := { s with gate }) named known env.toDecisionEnv clientId traceId d
    action.serialize cited
  split
  · exact settles _
  · cases DANGEROUS_COMMAND_RULES.find? (·.Hits action.serialize) with
    | some rule => exact settles _
    | none =>
      dsimp only
      cases ctx.policyEngine.evaluate env.remote action.serialize with
      | error e =>
        show WritesFor _ _ _ _ { s with gate }
        exact .idle known rfl rfl
      | ok d => exact settles d

/-- A request other than a purge writes for its tenant. -/
lemma serve_writes [Regex] (hooks : CustodyHooks γ) (named : s.tenants.SelfNamed) {req : Request}
    (known : s.tenants.getStrict req.tenantId = some ctx) (other : ∀ purge, req ≠ .retentionPurge purge) :
    WritesFor env.environ req.tenantId ctx s (serve hooks s env req) := by
  cases req with
  | evaluate req => exact evaluate_writes named known
  | evaluateAction req =>
    show WritesFor _ _ _ _ (Main.evaluateAction hooks s env req).2
    unfold Main.evaluateAction
    split
    · exact .idle known rfl rfl
    · exact evaluateAction_writes hooks named known env.toGateEnv req.action req.clientId none
  | retentionPurge req => exact absurd rfl (other req)
  | replay req =>
    show WritesFor _ _ _ _ (Main.replay s env req).2
    unfold Main.replay
    have known : s.tenants.getStrict req.tenantId = some ctx := known
    rw [known]
    dsimp only
    split
    · exact .idle known rfl rfl
    · exact .idle known rfl rfl
    · exact ⟨_, rfl, rfl, .plain env.toRecordEnv (Main.replayArgs req) rfl⟩
  | mediate call =>
    exact evaluateAction_writes hooks named known env.toGateEnv (CustosGateAdapter.action call) call.clientId
      (some call.traceId)
  | recordDenial d =>
    show WritesFor _ _ _ _ (CustosGateAdapter.recordDenial s env d).2
    unfold CustosGateAdapter.recordDenial Service.recordReconciliation
    have known : s.tenants.getStrict d.tenantId = some ctx := known
    rw [known]
    dsimp only
    by_cases denotes : d.traceId ≠ "" ∧ d.rule ≠ ""
    · rw [reconcileIn_of_named denotes.1 denotes.2]
      let cited := (s.gate.citedPolicyDigest env.environ d.tenantId ctx.policyEngine).1
      exact ⟨_, rfl, rfl, .plain env.toRecordEnv (d.args cited) rfl⟩
    · have no : d.traceId = "" ∨ d.rule = "" := by
        rwa [not_and_or, not_not, not_not] at denotes
      obtain ⟨e, refused⟩ := reconcileIn_of_unnamed no ctx.auditChain s.stores env.toRecordEnv d.clientId
        (d.rule ++ " tool=" ++ d.tool) d.reason
        (s.gate.citedPolicyDigest env.environ d.tenantId ctx.policyEngine).1 (some d.tenantId)
      rw [refused]
      exact ⟨ctx, rfl, rfl, .idle⟩
  | startupBinding payload =>
    show WritesFor _ _ _ _ (establishStartupBinding s env payload).2
    unfold establishStartupBinding Service.citedPolicyDigest
    have known : s.tenants.getStrict BINDING_TENANT = some ctx := known
    rw [known]
    dsimp only
    cases payload with
    | error msg => exact .idle known rfl rfl
    | ok asked =>
      cases asked with
      | none => exact .idle known rfl rfl
      | some payload =>
        let cited := (s.gate.citedPolicyDigest env.environ BINDING_TENANT ctx.policyEngine).1
        exact ⟨_, rfl, rfl, .plain env.toRecordEnv (bindingArgs env payload cited) rfl⟩

end

/-! ## What an erasure does -/

/-- A purge touches the one store. -/
lemma purge_elsewhere {path other : String} (ne : path ≠ other) (c : AuditChain) (s : Stores) (env : PurgeEnv)
    (d clientId reason : String) (traceId policyDigest : Option String) :
    (purge path c s env d clientId reason traceId policyDigest).2.2.contents other = s.contents other := by
  have kept : ∀ (s : Stores) store, (s.setContent path store).contents other = s.contents other := fun s store =>
    Function.update_of_ne (Ne.symm ne) ..
  unfold purge
  rcases (s.contents path).deleteBody env.deleteFault env.purgedAt d reason with ⟨e | body, store⟩
  · exact kept s store
  · dsimp only
    have recorded := fun a => kept s store |>.symm.trans
      (show _ = (c.recordIn (s.setContent path store) env.toRecordEnv a).2.2.contents other from rfl) |>.symm
    specialize recorded (purgeArgs clientId reason traceId policyDigest body)
    rw [purgeArgs] at recorded
    generalize c.recordIn (s.setContent path store) env.toRecordEnv _ = out at recorded ⊢
    obtain ⟨e | record, chain, stores⟩ := out
    · exact recorded
    · dsimp only
      split
      · exact recorded
      · cases env.attestFault with
        | some exc => exact recorded
        | none => exact (kept stores _).trans recorded

/-- The endpoint refuses and changes nothing, or comes to what the purge of the tenant's store comes to. -/
lemma retentionPurge_cases (s : Service γ) (env : RequestEnv) (req : RetentionPurgeRequest) :
    (∃ e, Main.retentionPurge s env req = (.error e, s)) ∨
      ∃ ctx path, s.tenants.getStrict req.tenantId = some ctx ∧
        contentStoreFor env.environ env.openFault req.tenantId = .ok (some path) ∧
        let out := purge path ctx.auditChain s.stores env.toPurgeEnv req.contentHash "retention-admin" req.reason none
          (contentEngineDigest env.environ ctx.policyEngine)
        (Main.retentionPurge s env req).2 =
            { s with
              tenants := s.tenants.setContext req.tenantId { ctx with auditChain := out.2.1 }, stores := out.2.2 } ∧
          ∀ resp, (Main.retentionPurge s env req).1 = .ok resp →
            resp.contentHash = req.contentHash ∧ ∃ attestation, out.1 = .ok attestation := by
  unfold Main.retentionPurge
  cases Main.requireRetentionAdmin env with
  | error e => exact .inl ⟨e, rfl⟩
  | ok =>
    dsimp only
    cases known : s.tenants.getStrict req.tenantId with
    | none => exact .inl ⟨_, rfl⟩
    | some ctx =>
      dsimp only
      cases select : contentStoreFor env.environ env.openFault req.tenantId with
      | error e => exact .inl ⟨_, rfl⟩
      | ok selected =>
        cases selected with
        | none => exact .inl ⟨_, rfl⟩
        | some path =>
          dsimp only
          cases env.statusFault with
          | some exc => exact .inl ⟨_, rfl⟩
          | none =>
            cases (s.stores.contents path).status req.contentHash with
            | STATUS_UNKNOWN => exact .inl ⟨_, rfl⟩
            | STATUS_PURGED => exact .inl ⟨_, rfl⟩
            | STATUS_PRESENT =>
              refine .inr ⟨ctx, path, rfl, rfl, rfl, fun resp answered => ?_⟩
              dsimp only at answered
              generalize (purge path ctx.auditChain s.stores env.toPurgeEnv req.contentHash "retention-admin"
                req.reason none (contentEngineDigest env.environ ctx.policyEngine)) = out at answered ⊢
              obtain ⟨e | attestation, chain, stores⟩ := out
              · cases e <;> cases answered
              · cases answered
                exact ⟨rfl, attestation, rfl⟩

/-! ## The tenants' names -/

namespace TenantManager

variable {tm tm' : TenantManager}

omit [Platform] in
/-- A context that bears the name it is put under leaves each under its own. -/
lemma SelfNamed.update (named : tm.SelfNamed) {id : String} {ctx : Option TenantContext}
    (same : tm'.tenants = Function.update tm.tenants id ctx) (own : ∀ c, ctx = some c → c.tenantId = id) :
    tm'.SelfNamed := by
  intro other c known
  rw [same] at known
  by_cases e : other = id
  · rw [e, Function.update_self] at known
    rw [e]
    exact own c known
  · rw [Function.update_of_ne e] at known
    exact named other c known

omit [Platform] in
/-- A context that is put back leaves each under its own name. -/
lemma SelfNamed.setContext (named : tm.SelfNamed) {id : String} {ctx ctx' : TenantContext}
    (known : tm.getStrict id = some ctx) (same : ctx'.tenantId = ctx.tenantId) : (tm.setContext id ctx').SelfNamed := by
  refine named.update rfl fun c is => ?_
  cases is
  exact same.trans (named id ctx known)

omit [Platform] in
/-- A tenant is registered under its own name. -/
lemma SelfNamed.register (named : tm.SelfNamed) (environ : Environ) (now : ℚ) (audit : AuditTable) (id : String)
    (quota : QuotaConfig) : (tm.register environ now audit id quota).2.SelfNamed := by
  unfold TenantManager.register
  dsimp only
  rw [init_scoped]
  refine named.update rfl fun c is => ?_
  cases is
  rfl

omit [Platform] in
lemma SelfNamed.registerFaulty (named : tm.SelfNamed) (fault : Option RegisterFault) (environ : Environ) (now : ℚ)
    (audit : AuditTable) (id : String) (quota : QuotaConfig) :
    (tm.registerFaulty fault environ now audit id quota).2.SelfNamed := by
  unfold TenantManager.registerFaulty
  cases fault with
  | none => exact named.register environ now audit id quota
  | some fault =>
    cases fault with
    | load exc => exact named
    | chain exc => exact named

omit [Platform] in
/-- A deletion leaves each under its own name. -/
lemma SelfNamed.unregister (named : tm.SelfNamed) (fault : Option StoreExc) (id : String) :
    (tm.unregister fault id).2.SelfNamed := by
  rcases tm.unregister_cases fault id with eq | eq
  · rw [eq]
    exact named
  · rw [eq]
    refine named.update rfl fun c is => ?_
    cases is

omit [Platform] in
/-- A further rule leaves each under its own name. -/
lemma SelfNamed.addPolicyRule (named : tm.SelfNamed) (fault : Option StoreExc) (id : String) (rule : PolicyRule) :
    (tm.addPolicyRule fault id rule).2.SelfNamed := by
  cases key : tm.getOrDefault id with
  | error e =>
    unfold TenantManager.addPolicyRule
    rw [key]
    exact named
  | ok found =>
    obtain ⟨key', ctx⟩ := found
    rw [addPolicyRule_of_found key]
    refine named.update rfl fun c is => ?_
    cases is
    exact named key' ctx (getStrict_of_getOrDefault key)

omit [Platform] in
/-- The stored tenants are registered each under its own name. -/
lemma SelfNamed.registerStored {environ : Environ} {now : ℚ} {audit : AuditTable} {ids : List String}
    (named : tm.SelfNamed) (booted : tm.registerStored environ now audit ids = .ok tm') : tm'.SelfNamed := by
  induction ids generalizing tm with
  | nil =>
    cases booted
    exact named
  | cons id ids ih =>
    unfold TenantManager.registerStored at booted
    cases known : tm.getStrict id with
    | some ctx =>
      rw [known] at booted
      exact ih named booted
    | none =>
      rw [known] at booted
      obtain ⟨ctx, -, registered⟩ := tm.register_eq environ now audit id DEFAULT_QUOTA
      have named := named.register environ now audit id DEFAULT_QUOTA
      rw [registered] at named booted
      exact ih named booted

omit [Platform] in
/-- A manager that has come up has each context under its own name. -/
lemma selfNamed_of_boot {backend : Backend} {policyStore : PolicyStore} {environ : Environ} {now : ℚ}
    {audit : AuditTable} (booted : boot backend policyStore environ now audit = .ok tm) : tm.SelfNamed := by
  have empty : SelfNamed { backend, policyStore } := by
    intro id ctx known
    cases known
  obtain ⟨ctx, -, registered⟩ := register_eq { backend, policyStore } environ now audit "default" DEFAULT_QUOTA
  have named := empty.register environ now audit "default" DEFAULT_QUOTA
  unfold boot at booted
  rw [registered] at named booted
  exact named.registerStored booted

end TenantManager

/-! ## One call -/

/-- A tenant's store in the directory. -/
def Service.content (s : Service γ) (directory id : String) : ContentStore :=
  s.stores.contents (storePathFor directory id)

/-- The digest whose erasure for the tenant was answered as done. -/
def erasesOf (id : String) (s : Service γ) : ApiCall → Option String
  | .request env (.retentionPurge req) =>
    if req.tenantId = id then
      match (Main.retentionPurge s env req).1 with
      | .ok resp => some resp.contentHash
      | .error _ => none
    else none
  | _ => none

omit [Platform] in
/-- The call is served in the environment. -/
def ApiCall.Under (environ : Environ) : ApiCall → Prop
  | .request env _ => env.environ = environ
  | _ => True

/-- What a call comes to for a tenant's store and log, beside what it was answered. -/
inductive Tends (environ : Environ) (s : ContentStore) (records : List AuditRecord) :
    ContentStore → List AuditRecord → Option String → Prop
  | kept (body : String) (s' : ContentStore) (records' : List AuditRecord) : Keeping s records false body s' records' →
      Tends environ s records s' records' none
  | deleted (d : String) (res : Except Exn String) (s' : ContentStore) (records' : List AuditRecord) :
      Deletion s records d "retention-admin" (boundEvidenceRequired environ = false) res s' records' →
      Tends environ s records s' records' none
  | answered (d attestation : String) (s' : ContentStore) (records' : List AuditRecord) :
      Deletion s records d "retention-admin" (boundEvidenceRequired environ = false) (.ok attestation) s' records' →
      Tends environ s records s' records' (some d)

/-- What a purge does to a store is, for a log it does not write to, a deletion without a record. -/
lemma Deletion.forget {s s' : ContentStore} {records records' : List AuditRecord} {d clientId : String}
    {evident evident' : Prop} {res : Except Exn String}
    (deletion : Deletion s records d clientId evident res s' records') (other : List AuditRecord) (e : Exn) :
    Deletion s other d clientId evident' (.error e) s' other := by
  cases deletion with
  | refused _ => exact .refused e
  | unattested row prior _ body purged => exact .unattested row prior e body purged
  | attested row prior r _ body purged _ _ _ _ => exact .unattested row prior e body purged

omit [Platform] in
/-- A chain in step with the table lists the tenant's history. -/
lemma Kept.records {s : Service γ} (kept : Kept s) {id : String} {ctx : TenantContext}
    (known : s.tenants.getStrict id = some ctx) : ctx.auditChain.records = s.history id := by
  rw [kept.opened id ctx known]
  rfl

section

variable {s : Service γ} {environ : Environ} {directory : String}

/-- The purge endpoint tends every tenant's content. -/
lemma retentionPurge_tends [Regex] (hooks : CustodyHooks γ) (retains : Retains environ directory) (kept : Kept s)
    {env : RequestEnv} (under : env.environ = environ) (req : RetentionPurgeRequest) (id : String) :
    Tends environ (s.content directory id) (s.history id) ((Main.retentionPurge s env req).2.content directory id)
      ((Main.retentionPurge s env req).2.history id) (erasesOf id s (.request env (.retentionPurge req))) := by
  obtain ⟨new, grows⟩ := serve_grows hooks kept env (.retentionPurge req)
  change Grows req.tenantId new s (Main.retentionPurge s env req).2 at grows
  rcases retentionPurge_cases s env req with ⟨e, refused⟩ | ⟨ctx, path, known, select, left, answered⟩
  · have quiet : erasesOf id s (.request env (.retentionPurge req)) = none := by
      dsimp only [erasesOf]
      rw [refused]
      exact ite_self none
    rw [quiet, refused]
    exact .kept "" _ _ .idle
  · have place : path = storePathFor directory req.tenantId := by
      rw [under] at select
      exact retains.selects select
    have deletion := purge_deletion path ctx.auditChain s.stores env.toPurgeEnv req.contentHash "retention-admin"
      req.reason none (contentEngineDigest env.environ ctx.policyEngine)
    have elsewhere := fun (other : String) (ne : path ≠ other) => purge_elsewhere ne ctx.auditChain s.stores
      env.toPurgeEnv req.contentHash "retention-admin" req.reason none (contentEngineDigest env.environ ctx.policyEngine)
    generalize purge path ctx.auditChain s.stores env.toPurgeEnv req.contentHash "retention-admin" req.reason none
      (contentEngineDigest env.environ ctx.policyEngine) = out at deletion elsewhere left answered
    have stores : (Main.retentionPurge s env req).2.stores = out.2.2 := by rw [left]
    by_cases own : req.tenantId = id
    · subst own
      have before := kept.records known
      have after : out.2.1.records = (Main.retentionPurge s env req).2.history req.tenantId := by
        have found : (Main.retentionPurge s env req).2.tenants.getStrict req.tenantId =
            some { ctx with auditChain := out.2.1 } := by
          rw [left]
          exact Function.update_self ..
        exact grows.kept.records found
      rw [before, after, place, ← stores, under] at deletion
      have evident : (boundEvidenceRequired environ = true → truthy none = true) ↔
          boundEvidenceRequired environ = false := by
        simp [truthy]
      rw [evident] at deletion
      dsimp only [erasesOf]
      rw [if_pos rfl]
      cases answer : (Main.retentionPurge s env req).1 with
      | error e => exact .deleted _ _ _ _ deletion
      | ok resp =>
        obtain ⟨same, attestation, ok⟩ := answered resp answer
        rw [ok] at deletion
        dsimp only
        rw [same]
        exact .answered _ attestation _ _ deletion
    · have quiet : erasesOf id s (.request env (.retentionPurge req)) = none := if_neg own
      have rows := grows.rows id
      rw [if_neg (Ne.symm own), List.append_nil] at rows
      rw [quiet, rows]
      unfold Service.content
      rw [stores]
      by_cases met : path = storePathFor directory id
      · rw [← met]
        exact .deleted _ _ _ _ (deletion.forget _ (.RuntimeError ""))
      · rw [elsewhere _ met]
        exact .kept "" _ _ .idle

/-- A request tends its tenant's store and log, and other tenants' stores at most. -/
lemma serve_tends [Regex] (hooks : CustodyHooks γ) (retains : Retains environ directory) (kept : Kept s)
    (named : s.tenants.SelfNamed) {env : RequestEnv} (under : env.environ = environ) (req : Request) (id : String) :
    Tends environ (s.content directory id) (s.history id) ((serve hooks s env req).content directory id)
      ((serve hooks s env req).history id) (erasesOf id s (.request env req)) := by
  by_cases purges : ∃ purge, req = .retentionPurge purge
  · obtain ⟨purge, rfl⟩ := purges
    exact retentionPurge_tends hooks retains kept under purge id
  · have other : ∀ purge, req ≠ .retentionPurge purge := fun purge is => purges ⟨purge, is⟩
    have quiet : erasesOf id s (.request env req) = none := by
      cases req with
      | retentionPurge purge => exact absurd rfl (other purge)
      | _ => rfl
    rw [quiet]
    obtain ⟨new, grows⟩ := serve_grows hooks kept env req
    cases known : s.tenants.getStrict req.tenantId with
    | none =>
      cases serve_served hooks s env req with
      | known _ _ _ _ found => cases known.symm.trans found
      | unknown _ tenants stores =>
        unfold Service.content Service.history
        rw [tenants, stores]
        exact .kept "" _ _ .idle
    | some ctx =>
      have written : WritesFor env.environ req.tenantId ctx s (serve hooks s env req) :=
        serve_writes hooks named known other
      obtain ⟨ctx', tenants, -, writes⟩ := written
      by_cases own : req.tenantId = id
      · subst own
        obtain ⟨body, keeping⟩ := writes.keeping (under.symm ▸ retains)
        have found : (serve hooks s env req).tenants.getStrict req.tenantId = some ctx' := by
          rw [tenants]
          exact Function.update_self ..
        rw [kept.records known, grows.kept.records found] at keeping
        exact .kept body _ _ keeping
      · have rows := grows.rows id
        rw [if_neg (Ne.symm own), List.append_nil] at rows
        rw [rows]
        unfold Service.content
        rcases writes.store (storePathFor directory id) with same | ⟨body, stored⟩
        · rw [same]
          exact .kept "" _ _ .idle
        · exact .kept body _ _ (.stored _ stored)

/-- A request leaves each context under its own name. -/
lemma serve_selfNamed [Regex] (hooks : CustodyHooks γ) (named : s.tenants.SelfNamed) (env : RequestEnv) (req : Request) :
    (serve hooks s env req).tenants.SelfNamed := by
  cases known : s.tenants.getStrict req.tenantId with
  | none =>
    cases serve_served hooks s env req with
    | known _ _ _ _ found => cases known.symm.trans found
    | unknown _ tenants _ =>
      rw [tenants]
      exact named
  | some ctx =>
    cases serve_served hooks s env req with
    | unknown none _ _ => cases known.symm.trans none
    | known ctx' _ _ _ found tenants _ _ _ _ =>
      rw [tenants]
      exact named.setContext found rfl

/-- A call that is no request leaves the stores alone. -/
lemma apiStep_idles [Regex] (hooks : CustodyHooks γ) (named : s.tenants.SelfNamed) {call : ApiCall}
    (other : ∀ env req, call ≠ .request env req) :
    (apiStep hooks s call).stores = s.stores ∧ (apiStep hooks s call).tenants.backend = s.tenants.backend ∧
      (apiStep hooks s call).tenants.SelfNamed := by
  cases call with
  | request env req => exact absurd rfl (other env req)
  | registerTools tenantId tools => exact ⟨rfl, rfl, named⟩
  | addTenantPolicyRule fault tenantId req =>
    dsimp only [apiStep, Main.addTenantPolicyRule]
    cases Main.ACTION_MAP.lookup req.action with
    | none => exact ⟨rfl, rfl, named⟩
    | some action => exact ⟨rfl, (s.tenants.addPolicyRule_keeps fault tenantId _).backend,
        named.addPolicyRule fault tenantId _⟩
  | registerTenant fault environ now req =>
    dsimp only [apiStep, Main.registerTenant]
    split
    · exact ⟨rfl, rfl, named⟩
    · cases s.tenants.getStrict req.tenantId with
      | some ctx => exact ⟨rfl, rfl, named⟩
      | none =>
        exact ⟨rfl, (s.tenants.registerFaulty_keeps fault environ now _ req.tenantId _).backend,
          named.registerFaulty fault environ now _ req.tenantId _⟩
  | deleteTenant fault tenantId =>
    dsimp only [apiStep, Main.deleteTenant]
    split
    · exact ⟨rfl, rfl, named⟩
    · rename_i ne
      exact ⟨rfl, (s.tenants.unregister_keeps fault ne).backend, named.unregister fault tenantId⟩

lemma apiStep_selfNamed [Regex] (hooks : CustodyHooks γ) (named : s.tenants.SelfNamed) (call : ApiCall) :
    (apiStep hooks s call).tenants.SelfNamed := by
  cases call with
  | request env req => exact serve_selfNamed hooks named env req
  | _ => exact (apiStep_idles hooks named (by rintro _ _ ⟨⟩)).2.2

/-- Every call tends a tenant's store and log. -/
lemma apiStep_tends [Regex] (hooks : CustodyHooks γ) (retains : Retains environ directory) (kept : Kept s)
    (named : s.tenants.SelfNamed) {call : ApiCall} (under : call.Under environ) (id : String) :
    Tends environ (s.content directory id) (s.history id) ((apiStep hooks s call).content directory id)
      ((apiStep hooks s call).history id) (erasesOf id s call) := by
  have idle : (∀ env req, call ≠ .request env req) → erasesOf id s call = none →
      Tends environ (s.content directory id) (s.history id) ((apiStep hooks s call).content directory id)
        ((apiStep hooks s call).history id) (erasesOf id s call) := by
    intro other quiet
    obtain ⟨stores, backend, -⟩ := apiStep_idles hooks named other
    rw [quiet]
    unfold Service.content Service.history
    rw [stores, backend]
    exact .kept "" _ _ .idle
  cases call with
  | request env req => exact serve_tends hooks retains kept named under req id
  | _ => exact idle (by rintro _ _ ⟨⟩) rfl

end

/-! ## Runs -/

omit [Platform] in
/-- The records that attest a purge. -/
def attestations (records : List AuditRecord) : List AuditRecord := records.filter fun r => r.AttestsPurge

namespace Tends

variable {environ : Environ} {s s' : ContentStore} {records records' : List AuditRecord} {done : Option String}

lemma trueToStore (tends : Tends environ s records s' records' done) (truth : TrueToStore s records) :
    TrueToStore s' records' := by
  cases tends with
  | kept body _ _ keeping => exact keeping.trueToStore truth
  | deleted d res _ _ deletion => exact deletion.trueToStore truth
  | answered d attestation _ _ deletion => exact deletion.trueToStore truth

lemma erased (tends : Tends environ s records s' records' done) {d : String} {prior : PurgeRow}
    {before : List AuditRecord} (erased : Erased d prior before s records) : Erased d prior before s' records' := by
  cases tends with
  | kept body _ _ keeping => exact keeping.erased erased
  | deleted d res _ _ deletion => exact deletion.erased erased
  | answered d attestation _ _ deletion => exact deletion.erased erased

/-- An erasure that is answered as done has left its attestation in the log. -/
lemma gains (tends : Tends environ s records s' records' done) (keyed : s.Keyed) :
    ∃ new, records' = records ++ new ∧ done.toList.Sublist ((attestations new).map (·.contentHash)) := by
  cases tends with
  | kept body _ _ keeping =>
    cases keeping with
    | idle => exact ⟨[], (List.append_nil _).symm, List.nil_sublist _⟩
    | stored _ _ => exact ⟨[], (List.append_nil _).symm, List.nil_sublist _⟩
    | plain r _ _ => exact ⟨[r], rfl, List.nil_sublist _⟩
    | recorded _ r _ _ _ => exact ⟨[r], rfl, List.nil_sublist _⟩
  | deleted d res _ _ deletion =>
    cases deletion with
    | refused _ => exact ⟨[], (List.append_nil _).symm, List.nil_sublist _⟩
    | unattested _ _ _ _ _ => exact ⟨[], (List.append_nil _).symm, List.nil_sublist _⟩
    | attested _ _ r _ _ _ _ _ _ _ => exact ⟨[r], rfl, List.nil_sublist _⟩
  | answered d attestation _ _ deletion =>
    cases deletion with
    | attested row prior r _ body _ _ hash form _ =>
      have own : r.contentHash = d := hash.trans (keyed d row body).1
      have one : attestations [r] = [r] := List.filter_eq_self.2 fun r' mem => by
        rw [List.mem_singleton.1 mem]
        exact decide_eq_true form
      refine ⟨[r], rfl, ?_⟩
      rw [one, List.map_singleton, own]
      exact List.Sublist.refl _

/-- Without a trace no erasure is attested where the evidence is required. -/
lemma bound (tends : Tends environ s records s' records' done) (required : boundEvidenceRequired environ = true) :
    done = none := by
  cases tends with
  | kept body _ _ _ => rfl
  | deleted d res _ _ _ => rfl
  | answered d attestation _ _ deletion =>
    cases deletion with
    | attested _ _ _ _ _ _ evident _ _ _ => cases required.symm.trans evident

/-- Where every deletion is answered as done, every deletion is attested. -/
lemma whole (tends : Tends environ s records s' records' done) (truth : TrueToStore s records)
    (answered : done.isSome ∨ s'.purges = s.purges) (all : ∀ d, (s.purges d).isSome → Attested records d) (d : String)
    (purged : (s'.purges d).isSome) : Attested records' d := by
  have old : (s.purges d).isSome → Attested records' d := by
    intro before
    obtain ⟨new, grown, -⟩ := tends.gains truth.keyed
    obtain ⟨r, mem, attests⟩ := all d before
    rw [grown]
    exact ⟨r, List.mem_append_left _ mem, attests⟩
  rcases answered with some | same
  · cases tends with
    | kept _ _ _ _ => cases some
    | deleted _ _ _ _ _ => cases some
    | answered d' attestation _ _ deletion =>
      cases deletion with
      | attested row prior r _ body _ _ hash form _ =>
        by_cases e : d = d'
        · rw [attested_append, e]
          exact .inr ⟨hash.trans (truth.keyed d' row body).1, form⟩
        · rw [ContentStore.erase_purges_of_ne e] at purged
          exact old purged
  · rw [same] at purged
    exact old purged

end Tends

omit [Platform] in
/-- A call that the retention endpoints let through, and that their stores answer. -/
structure LetThrough (environ : Environ) (env : RequestEnv) : Prop where
  under : env.environ = environ
  admin : Main.requireRetentionAdmin env = .ok ()
  opens : env.openFault = none
  reads : env.statusFault = none

section

variable {s : Service γ} {environ : Environ} {directory id : String} {env : RequestEnv}

/-- An erasure of what is erased is refused, and the service stays as it was. -/
lemma retentionPurge_again (retains : Retains environ directory) (letThrough : LetThrough environ env)
    {req : RetentionPurgeRequest} (known : (s.tenants.getStrict req.tenantId).isSome)
    (truth : TrueToStore (s.content directory req.tenantId) (s.history req.tenantId))
    (purged : ((s.content directory req.tenantId).purges req.contentHash).isSome) :
    ∃ detail, Main.retentionPurge s env req = (.error (.http 409 detail), s) := by
  obtain ⟨ctx, known⟩ := Option.isSome_iff_exists.1 known
  have status : (s.stores.contents (storePathFor directory req.tenantId)).status req.contentHash = .STATUS_PURGED := by
    unfold ContentStore.status
    rw [show (s.stores.contents (storePathFor directory req.tenantId)).bodies req.contentHash = none from
      truth.gone _ purged, if_neg (by simp)]
    exact if_pos purged
  unfold Main.retentionPurge
  rw [letThrough.admin]
  dsimp only
  rw [known]
  dsimp only
  rw [letThrough.under, letThrough.opens, retains.contentStoreFor]
  dsimp only
  rw [letThrough.reads, status]
  exact ⟨_, rfl⟩

/-- The status endpoint reports of the tenant's log and store: the deletions of claimed content that no record attests,
each once, and nothing else. -/
lemma retentionStatus_reports (retains : Retains environ directory) (letThrough : LetThrough environ env)
    (kept : Kept s) (known : (s.tenants.getStrict id).isSome)
    (truth : TrueToStore (s.content directory id) (s.history id)) :
    ∃ resp, Main.retentionStatus s env id = .ok resp ∧ (resp.ok = true ↔ resp.findings = []) ∧
      (∀ f ∈ resp.findings, f.kind = FINDING_UNATTESTED_PURGE) ∧ (resp.findings.map (·.contentHash)).Nodup ∧
        ∀ d, d ∈ resp.findings.map (·.contentHash) ↔
          Claimed (s.history id) d ∧ ((s.content directory id).purges d).isSome ∧ ¬ Attested (s.history id) d := by
  obtain ⟨ctx, known⟩ := Option.isSome_iff_exists.1 known
  have records : ctx.auditChain.getRecords none = s.history id := kept.records known
  unfold Main.retentionStatus
  rw [letThrough.admin]
  dsimp only
  rw [known]
  dsimp only
  rw [letThrough.under, letThrough.opens, retains.contentStoreFor]
  dsimp only
  rw [letThrough.reads, records]
  dsimp only [Option.filter]
  rw [retains.mode]
  exact ⟨_, rfl, List.isEmpty_iff, truth.findings⟩

end

/-- What holds of a tenant's content throughout. -/
structure Tended (directory id : String) (s : Service γ) : Prop where
  kept : Kept s
  named : s.tenants.SelfNamed
  truth : TrueToStore (s.content directory id) (s.history id)

/-- A call of the API keeps what holds of a tenant's content throughout. -/
lemma Tended.step [Regex] (hooks : CustodyHooks γ) {environ : Environ} {directory id : String} {s : Service γ}
    (tended : Tended directory id s) (retains : Retains environ directory) {call : ApiCall}
    (under : call.Under environ) : Tended directory id (apiStep hooks s call) where
  kept := tended.kept.step hooks call
  named := apiStep_selfNamed hooks tended.named call
  truth := (apiStep_tends hooks retains tended.kept tended.named under id).trueToStore tended.truth

/-- What the retention of a tenant's content has come to in a state `s` some time after `mid`, with the erasures
answered as done since the start. -/
structure Erasures (environ : Environ) (directory id : String) (start mid s : Service γ) (done : List String)
    (answered : Prop) : Prop where
  truth : TrueToStore (s.content directory id) (s.history id)
  final (d : String) (prior : PurgeRow) : (mid.content directory id).purges d = some prior →
    Erased d prior (mid.history id) (s.content directory id) (s.history id)
  attested : ∃ new, attestations (s.history id) = attestations (start.history id) ++ new ∧
    done.Sublist (new.map (·.contentHash))
  again (env : RequestEnv) (req : RetentionPurgeRequest) : LetThrough environ env → req.tenantId = id →
    (s.tenants.getStrict id).isSome → ((s.content directory id).purges req.contentHash).isSome →
      ∃ detail, Main.retentionPurge s env req = (.error (.http 409 detail), s)
  status (env : RequestEnv) : LetThrough environ env → (s.tenants.getStrict id).isSome →
    ∃ resp, Main.retentionStatus s env id = .ok resp ∧ (resp.ok = true ↔ resp.findings = []) ∧
      (∀ f ∈ resp.findings, f.kind = FINDING_UNATTESTED_PURGE) ∧ (resp.findings.map (·.contentHash)).Nodup ∧
        ∀ d, d ∈ resp.findings.map (·.contentHash) ↔
          Claimed (s.history id) d ∧ ((s.content directory id).purges d).isSome ∧ ¬ Attested (s.history id) d
  whole : answered → (∀ d, ((start.content directory id).purges d).isSome → Attested (start.history id) d) →
    ∀ d, ((s.content directory id).purges d).isSome → Attested (s.history id) d
  bound : boundEvidenceRequired environ = true → done = []

/-- With retention on, over every run of the API: what is erased of a tenant's content is not readable again, no record
that is written later claims it, and a second erasure is refused; the erasures that were answered as done are attested
in the tenant's log, each by a record of its own, in their order; the status endpoint reports the deletions of claimed
content that no record attests, each once, and nothing else, so nothing where every deletion was answered as done; and
where evidence is required, no erasure is ever answered as done. -/
theorem erased_for_good [Regex] (hooks : CustodyHooks γ) {environ : Environ} {directory : String}
    (retains : Retains environ directory) {backend : Backend} (dur : backend.Durable) {policyStore : PolicyStore}
    {now : ℚ} (stores : Stores) {tm : TenantManager}
    (booted : TenantManager.boot backend policyStore environ now stores.audit = .ok tm) (gate : ActionGate γ)
    (id : String)
    (truth : TrueToStore (stores.contents (storePathFor directory id)) (backend.loadAll (some id) stores.audit))
    (calls later : List ApiCall) (under : ∀ call ∈ calls ++ later, call.Under environ) :
    let start : Service γ := { tenants := tm, gate, stores }
    let mid := run (apiStep hooks) start calls
    Erasures environ directory id start mid (run (apiStep hooks) mid later)
      (outputs (apiStep hooks) (erasesOf id) start (calls ++ later))
      (Steps (apiStep hooks) (fun s call => (erasesOf id s call).isSome ∨
        ((apiStep hooks s call).content directory id).purges = (s.content directory id).purges) start
        (calls ++ later)) := by
  intro start mid
  have init : Tended directory id start := by
    refine ⟨Kept.of_boot dur booted gate, TenantManager.selfNamed_of_boot booted, ?_⟩
    unfold Service.history
    rw [(TenantManager.opened_of_boot booted).2.1]
    exact truth
  have keep : ∀ (s : Service γ) (call : ApiCall), Tended directory id s → call.Under environ →
      Tended directory id (apiStep hooks s call) := fun s call tended under => tended.step hooks retains under
  have tends := fun (s : Service γ) (call : ApiCall) (tended : Tended directory id s) (under : call.Under environ) =>
    apiStep_tends hooks retains tended.kept tended.named under id
  have all : Steps (apiStep hooks) (fun _ call => call.Under environ) start (calls ++ later) := steps_of_forall under
  obtain ⟨before, after⟩ := (steps_append (apiStep hooks)).1 all
  have midway : Tended directory id mid := run_invariant_of_steps (apiStep hooks) init keep before
  have there : Tended directory id (run (apiStep hooks) mid later) :=
    run_invariant_of_steps (apiStep hooks) midway keep after
  have whole : run (apiStep hooks) start (calls ++ later) = run (apiStep hooks) mid later := run_append ..
  refine ⟨there.truth, fun d prior purged => ?_, ?_, fun env req letThrough own known purged => ?_,
    fun env letThrough known => ?_, fun answered attested => ?_, fun required => ?_⟩
  · have silent : ¬ Claimed [] d := by
      rintro ⟨r, mem, -⟩
      cases mem
    have erased : Erased d prior (mid.history id) (mid.content directory id) (mid.history id) :=
      ⟨⟨prior, purged, rfl, rfl⟩, midway.truth.gone d (by rw [purged]; rfl), [], (List.append_nil _).symm, silent⟩
    have stays := run_invariant_of_steps (apiStep hooks)
      (I := fun s => Tended directory id s ∧
        Erased d prior (mid.history id) (s.content directory id) (s.history id))
      ⟨midway, erased⟩ (fun s call inv under =>
        ⟨keep s call inv.1 under, (tends s call inv.1 under).erased inv.2⟩) after
    exact stays.2
  · rw [← whole]
    refine outputs_sublist_of_steps (fun s : Service γ => attestations (s.history id)) keep
      (fun s call tended under => ?_) init all
    obtain ⟨new, grown, put⟩ := (tends s call tended under).gains tended.truth.keyed
    exact ⟨attestations new, by rw [grown, attestations, List.filter_append]; rfl, put⟩
  · subst own
    exact retentionPurge_again retains letThrough known there.truth purged
  · exact retentionStatus_reports retains letThrough there.kept known there.truth
  · have stays := run_invariant_of_steps (apiStep hooks)
      (I := fun s => Tended directory id s ∧
        ∀ d, ((s.content directory id).purges d).isSome → Attested (s.history id) d)
      ⟨init, attested⟩ (fun s call inv met =>
        ⟨keep s call inv.1 met.1, (tends s call inv.1 met.1).whole inv.1.truth met.2 inv.2⟩) (all.and answered)
    rw [whole] at stays
    exact stays.2
  · have quiet : ∃ new : List String, ([] : List String) = [] ++ new ∧
        (outputs (apiStep hooks) (erasesOf id) start (calls ++ later)).Sublist (new.map fun d => d) := by
      refine outputs_sublist_of_steps (fun _ => []) keep (fun s call tended under => ⟨[], rfl, ?_⟩) init all
      rw [(tends s call tended under).bound required]
      exact List.nil_sublist _
    obtain ⟨new, none, put⟩ := quiet
    obtain rfl : new = [] := none.symm
    exact List.sublist_nil.1 put

end

section Sample

local instance erasurePlatform : Platform := .reference purgeDigests

/-- A text none of the patterns matches. -/
local instance erasureRegex : Regex where
  invalid _ := none
  finditer _ _ := []

def retentionEnviron : Environ := fun name =>
  if name = MODE_ENV then some "store"
  else if name = STORE_DIR_ENV then some "/var/custos"
  else if name = ADMIN_TOKEN_ENV then some "t"
  else none

def erasureEnv : RequestEnv :=
  { administrationEnv with environ := retentionEnviron, retentionToken := some "t" }

/-- The digest of `x`. -/
def erasureRequest : RetentionPurgeRequest where
  tenantId := "acme"
  contentHash := "2d711642b726b04401627ca9fbac32f5c8530fb1903cc4db02258717921a4881"
  reason := "erasure"

def keptCalls : List ApiCall :=
  [ .registerTenant none retentionEnviron 0 registeredRequest,
    .request erasureEnv (.evaluate { clientId := "agent", tenantId := "acme", content := "x" }),
    .request erasureEnv (.retentionPurge erasureRequest)]

/-- What was erased is decided on again, and the tenant is deleted. -/
def laterCalls : List ApiCall :=
  [ .request erasureEnv (.evaluate { clientId := "agent", tenantId := "acme", content := "x" }),
    .deleteTenant none "acme"]

/-- The sample's configuration keeps content. -/
lemma retentionEnviron_retains : Retains retentionEnviron "/var/custos" where
  mode := by decide +kernel
  directory := by decide +kernel

/-- Content is decided on, erased, decided on again, and its tenant deleted. -/
theorem erased_for_good_sample :
    ∃ tm, TenantManager.boot .SQLiteBackend {} retentionEnviron 0 .empty = .ok tm ∧
      let start : Service Unit := { tenants := tm, gate := {}, stores := { audit := .empty } }
      let mid := run (apiStep raisingHooks) start keptCalls
      Erasures retentionEnviron "/var/custos" "acme" start mid (run (apiStep raisingHooks) mid laterCalls)
        (outputs (apiStep raisingHooks) (erasesOf "acme") start (keptCalls ++ laterCalls))
        (Steps (apiStep raisingHooks) (fun s call => (erasesOf "acme" s call).isSome ∨
          ((apiStep raisingHooks s call).content "/var/custos" "acme").purges =
            (s.content "/var/custos" "acme").purges) start (keptCalls ++ laterCalls)) := by
  obtain ⟨tm, booted, -⟩ := TenantManager.boot_spec .SQLiteBackend {} retentionEnviron 0 .empty
  refine ⟨tm, booted, ?_⟩
  refine erased_for_good raisingHooks retentionEnviron_retains (by decide) { audit := .empty } booted {} "acme"
    (.of_silent (List.forall_mem_nil _)) keptCalls laterCalls ?_
  simp [keptCalls, laterCalls, ApiCall.Under, erasureEnv]

end Sample

end Custos
