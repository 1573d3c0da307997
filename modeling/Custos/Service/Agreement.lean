import Custos.Service.Reconciliation

/-!
# Agreement of the chain and the content store

The chain and the content store have no transaction in common. `chain_store_agree_iff` says in which runs
they agree: a purge deletes first and attests second, and when the chain refuses the attestation of a body
that is gone, no later call attests it (`Keeper.unattested_forever`).
-/

namespace Custos

section

variable [Platform]

namespace Keeper

/-- The chain and the store agree. -/
def Agrees (path : String) (w : Keeper) : Prop := (reconcile w.records (w.store path)).ok = true

/-- What holds in every run: the rows stand under their digests, and a digest has a purge's row exactly when
its body was deleted. -/
structure Grounded (path tenantId : String) (w : Keeper) : Prop where
  tenant : w.ctx.tenantId = tenantId
  keyed : (w.store path).Keyed
  marked : w.Marked path

/-- What holds while every deletion is attested and stays. -/
structure Coherent (path tenantId : String) (w : Keeper) : Prop extends Grounded path tenantId w where
  held : ∀ d, Claimed w.records d → ((w.store path).bodies d).isSome ∨ d ∈ w.deleted
  attested : ∀ d, Attested w.records d ↔ d ∈ w.deleted
  gone : ∀ d ∈ w.deleted, (w.store path).bodies d = none

/-- A coherent chain and store agree. -/
lemma Coherent.agrees {path tenantId : String} {w : Keeper} (coherent : w.Coherent path tenantId) :
    w.Agrees path := by
  refine (reconcile_ok_iff _ _).2 ⟨fun d claimed => ?_, fun d attested => ?_⟩
  · refine (coherent.held d claimed).imp_right fun deleted => ?_
    exact ⟨(coherent.marked d).1 deleted, (coherent.attested d).2 deleted⟩
  · exact coherent.gone d ((coherent.attested d).1 attested)

/-- A digest whose body is gone and whose deletion no record attests. -/
structure Lost (d : String) (w : Keeper) : Prop where
  deleted : d ∈ w.deleted
  unattested : ¬ Attested w.records d

omit [Platform] in
/-- Content that the chain says is purged and the store holds. -/
lemma not_agrees_of_present {path : String} {w : Keeper} {d : String} (attested : Attested w.records d)
    (present : ((w.store path).bodies d).isSome) : ¬ w.Agrees path := by
  intro agrees
  rw [((reconcile_ok_iff _ _).1 agrees).2 d attested] at present
  cases present

end Keeper

/-- What a call does leaves the claims grounded. -/
lemma Effect.grounded {path tenantId : String} {w w' : Keeper} {op : ContentOp}
    (effect : Effect path w op w') (tenant : w'.ctx.tenantId = tenantId)
    (grounded : w.Grounded path tenantId) : w'.Grounded path tenantId := by
  refine ⟨tenant, ?_, fun d => ?_⟩
  · cases effect with
    | kept legacy body _ _ keeping _ => exact keeping.keyed grounded.keyed
    | purged d row prior _ _ _ store _ _ =>
      rw [store]
      exact grounded.keyed.erase d prior
  · cases effect with
    | kept legacy body _ _ keeping deleted =>
      rw [deleted, keeping.purges]
      exact grounded.marked d
    | purged d' row prior _ _ _ store deleted _ =>
      rw [store, deleted, List.mem_cons]
      by_cases e : d = d'
      · simp [e]
      · rw [ContentStore.erase_purges_of_ne e, or_iff_right e]
        exact grounded.marked d

/-- No call attests a deletion that was not attested when it was made. -/
lemma Effect.lost {path tenantId d : String} {w w' : Keeper} {op : ContentOp}
    (effect : Effect path w op w') (grounded : w.Grounded path tenantId) (lost : w.Lost d) :
    w'.Lost d := by
  cases effect with
  | kept legacy body _ _ keeping deleted =>
    refine ⟨deleted ▸ lost.deleted, fun attested => lost.unattested ?_⟩
    exact (keeping.attested_iff grounded.keyed d).1 attested
  | purged d' row prior _ body purged _ deleted records =>
    refine ⟨deleted ▸ .tail _ lost.deleted, fun attested => ?_⟩
    rcases records with ⟨-, same⟩ | ⟨-, r, appended, hash, -⟩
    · exact lost.unattested (same ▸ attested)
    · rw [appended, attested_append] at attested
      rcases attested with old | ⟨own, -⟩
      · exact lost.unattested old
      · -- the row of the earlier purge stands under this digest
        have same : d' = d := (grounded.keyed d' row body).1.symm.trans (hash.symm.trans own)
        rw [same] at purged
        have mark := (grounded.marked d).1 lost.deleted
        rw [purged] at mark
        cases mark

/-- The chain would take a record of these arguments: no evidence is missing, the engine does not fail, and no
row is chained to the head. -/
structure AuditChain.Accepts (c : AuditChain) (audit : AuditTable) (env : RecordEnv) (a : RecordArgs) :
    Prop where
  evidence : boundEvidenceRequired env.environ → AuditChain.missingEvidence a = []
  takes : ∀ tenantId, c.resolveTenant a.tenantId = .ok tenantId → c.backend.Durable →
    env.fault = none ∧ ∀ r ∈ audit.rows, r.indexKey ≠ (tenantId.getD "", c.latestHash)

/-- A purge's record is refused exactly when the chain would not take it. -/
lemma refusesPurge_iff {c : AuditChain} {audit : AuditTable} {env : RecordEnv}
    {clientId reason body : String} {traceId policyDigest : Option String} :
    RefusesPurge c audit env clientId reason traceId policyDigest body ↔
      ¬ c.Accepts audit env (purgeArgs clientId reason traceId policyDigest body) := by
  have own : c.resolveTenant none = .ok c.tenantId := rfl
  unfold RefusesPurge
  by_cases evidence : boundEvidenceRequired env.environ →
      AuditChain.missingEvidence (purgeArgs clientId reason traceId policyDigest body) = []
  · have adm : c.Admissible env.environ (purgeArgs clientId reason traceId policyDigest body) :=
      ⟨purged_mem_forms, ⟨_, own⟩, evidence⟩
    have ok := AuditChain.record_ok_iff_of_own (t := audit) own adm
    have takes : c.Takes audit env ↔
        c.Accepts audit env (purgeArgs clientId reason traceId policyDigest body) := by
      refine ⟨fun takes => ⟨evidence, fun id hid => ?_⟩, fun accepts => accepts.takes _ own⟩
      cases own.symm.trans hid
      exact takes
    rw [← takes, ← ok]
    cases (c.record audit env (purgeArgs clientId reason traceId policyDigest body)).1 <;> simp
  · refine iff_of_true ?_ fun accepts => evidence accepts.evidence
    have refused : ¬ c.Admissible env.environ (purgeArgs clientId reason traceId policyDigest body) :=
      fun adm => evidence adm.evidence
    obtain ⟨e, eq⟩ := AuditChain.record_of_not_admissible refused
    exact ⟨e, by rw [eq]⟩

/-- The call brings no purged content back as legacy content, and the chain would take the record of a body
it deletes. -/
def KeepsAgreement (path : String) (w : Keeper) : ContentOp → Prop
  | .putLegacy _ body => sha256 body ∉ w.deleted
  | .putAndRecord _ a legacy => legacy = true → sha256 a.content ∉ w.deleted
  | .purge env d clientId reason traceId policyDigest =>
    env.deleteFault = none → ∀ row, (w.store path).bodies d = some row →
      w.ctx.auditChain.Accepts w.stores.audit env.toRecordEnv
        (purgeArgs clientId reason traceId policyDigest row.body)
  | _ => True

namespace KeepsAgreement

variable {path : String} {w : Keeper} {op : ContentOp}

/-- Content that is kept to has no legacy body that was deleted. -/
lemma legacy (keeps : KeepsAgreement path w op) {body : String} (offers : op.legacyBody = some body) :
    sha256 body ∉ w.deleted := by
  cases op with
  | putLegacy fault body' =>
    cases offers
    exact keeps
  | putAndRecord env a legacy =>
    cases legacy with
    | true =>
      cases offers
      exact keeps rfl
    | false => cases offers
  | put _ _ => cases offers
  | recordDecision _ _ => cases offers
  | purge _ _ _ _ _ _ => cases offers

lemma attests (keeps : KeepsAgreement path w op) {d : String} {row : ContentBody} (deletes : op.Purges d)
    (body : (w.store path).bodies d = some row) : ¬ op.Unattested w row.body := by
  cases op with
  | purge env d' clientId reason traceId policyDigest =>
    obtain ⟨rfl, clean⟩ := deletes
    exact fun refuses => refusesPurge_iff.1 refuses (keeps clean row body)
  | put _ _ => cases deletes
  | putLegacy _ _ => cases deletes
  | putAndRecord _ _ _ => cases deletes
  | recordDecision _ _ => cases deletes

end KeepsAgreement

/-- What a call does keeps chain and store coherent, where it keeps the agreement. -/
lemma Effect.coherent {path tenantId : String} {w w' : Keeper} {op : ContentOp}
    (effect : Effect path w op w') (tenant : w'.ctx.tenantId = tenantId)
    (coherent : w.Coherent path tenantId) (keeps : KeepsAgreement path w op) :
    w'.Coherent path tenantId := by
  have grounded := effect.grounded tenant coherent.toGrounded
  cases effect with
  | kept legacy body isLegacy _ keeping deleted =>
    refine ⟨grounded, fun d claimed => ?_, fun d => ?_, fun d mem => ?_⟩
    · rw [deleted]
      rcases keeping.claimed claimed with old | held
      · exact (coherent.held d old).imp_left keeping.mono
      · exact .inl held
    · rw [deleted, keeping.attested_iff coherent.keyed]
      exact coherent.attested d
    · rw [deleted] at mem
      have gone := coherent.gone d mem
      -- only a legacy import could bring deleted content back, and this one does not
      rcases keeping.stored_or_same with same | stored
      · rw [same]
        exact gone
      · obtain ⟨prior, purged⟩ := Option.isSome_iff_exists.1 ((coherent.marked d).1 mem)
        refine stored.gone purged gone fun yes e => ?_
        exact keeps.legacy (isLegacy yes) (e ▸ mem)
  | purged d row prior deletes body purged store deleted records =>
    have attests := keeps.attests deletes body
    obtain ⟨r, appended, hash, form⟩ := (records.resolve_left fun h => attests h.1).2
    have own : r.contentHash = d := hash.trans (coherent.keyed d row body).1
    refine ⟨grounded, fun d' claimed => ?_, fun d' => ?_, fun d' mem => ?_⟩
    · rw [appended, claimed_append, or_iff_left fun h => form.not_claims h.2] at claimed
      rw [deleted, List.mem_cons, store]
      by_cases e : d' = d
      · exact .inr (.inl e)
      · rw [ContentStore.erase_bodies_of_ne e, or_iff_right e]
        exact coherent.held d' claimed
    · rw [appended, attested_append, deleted, List.mem_cons, own, and_iff_left form, coherent.attested,
        or_comm, eq_comm]
    · rw [store]
      by_cases e : d' = d
      · rw [e, ContentStore.erase_bodies_self]
      · rw [ContentStore.erase_bodies_of_ne e]
        rw [deleted, List.mem_cons, or_iff_right e] at mem
        exact coherent.gone d' mem

/-! ## Runs -/

/-- The same call again, with whatever evidence. -/
inductive Again : ContentOp → ContentOp → Prop
  | put (fault fault' : Option StoreExc) (body : String) : Again (.put fault body) (.put fault' body)
  | putLegacy (fault fault' : Option StoreExc) (body : String) :
      Again (.putLegacy fault body) (.putLegacy fault' body)
  | putAndRecord (env env' : DecisionEnv) (a : RecordArgs) (legacy : Bool)
      (traceId policyDigest : Option String) :
      Again (.putAndRecord env a legacy) (.putAndRecord env' { a with traceId, policyDigest } legacy)
  | recordDecision (env env' : DecisionEnv) (a : RecordArgs) (traceId policyDigest : Option String) :
      Again (.recordDecision env a) (.recordDecision env' { a with traceId, policyDigest })
  | purge (env env' : PurgeEnv) (contentHash clientId reason : String)
      (traceId policyDigest traceId' policyDigest' : Option String) :
      Again (.purge env contentHash clientId reason traceId policyDigest)
        (.purge env' contentHash clientId reason traceId' policyDigest')

namespace Keeper

omit [Platform] in
def withAudit (w : Keeper) (audit : AuditTable) : Keeper := { w with stores := { w.stores with audit } }

/-- No engine fails, and the chain would take the call's record. -/
def Accepts (w : Keeper) : ContentOp → Prop
  | .put fault _ => fault = none
  | .putLegacy fault _ => fault = none
  | .putAndRecord env a _ => env.putFault = none ∧ env.formFault = none ∧
      w.ctx.auditChain.Accepts w.stores.audit env.toRecordEnv a
  | .recordDecision env a => env.openFault = none ∧ env.putFault = none ∧ env.formFault = none ∧
      w.ctx.auditChain.Accepts w.stores.audit env.toRecordEnv a
  | .purge env _ clientId reason traceId policyDigest => env.deleteFault = none ∧ env.attestFault = none ∧
      ∀ body, w.ctx.auditChain.Accepts w.stores.audit env.toRecordEnv
        (purgeArgs clientId reason traceId policyDigest body)

/-- After a call that returned, chain and store agree; after a call that raised they do once the call is
repeated and accepted, whatever the table has come to; and every body deleted is attested by some later
calls. -/
structure Agreement (path tenantId : String) (w : Keeper) (op : ContentOp) : Prop where
  returned : (w.call path op).1 = none → (w.step path op).Agrees path
  repeated : (w.call path op).1 ≠ none → ∀ op' audit, Again op op' → Concerns path tenantId op' →
    ((w.step path op).withAudit audit).Accepts op' →
      (((w.step path op).withAudit audit).step path op').Agrees path
  attestable : ∀ d ∈ (w.step path op).deleted, ∃ audit ops, (∀ op ∈ ops, Concerns path tenantId op) ∧
    Attested (run (Keeper.step path) ((w.step path op).withAudit audit) ops).records d

/-- A call leaves the tenant's name. -/
lemma step_tenant (path : String) (w : Keeper) (op : ContentOp) :
    (w.step path op).ctx.tenantId = w.ctx.tenantId := by
  cases op with
  | put _ _ => rfl
  | putLegacy _ _ => rfl
  | putAndRecord _ _ _ => rfl
  | recordDecision _ _ => rfl
  | purge _ _ _ _ _ _ =>
    dsimp only [step, call]
    rw [markDeleted_ctx]

/-- A call leaves the claims grounded. -/
lemma Grounded.step {path tenantId : String} {w : Keeper} (grounded : w.Grounded path tenantId)
    {op : ContentOp} (concerns : Concerns path tenantId op) : (w.step path op).Grounded path tenantId := by
  have tenant := (w.step_tenant path op).trans grounded.tenant
  rw [← grounded.tenant] at concerns
  exact (step_effect concerns).grounded tenant grounded

/-- A call that keeps the agreement keeps chain and store coherent. -/
lemma Coherent.step {path tenantId : String} {w : Keeper} (coherent : w.Coherent path tenantId)
    {op : ContentOp} (concerns : Concerns path tenantId op) (keeps : KeepsAgreement path w op) :
    (w.step path op).Coherent path tenantId := by
  have tenant := (w.step_tenant path op).trans coherent.tenant
  rw [← coherent.tenant] at concerns
  exact (step_effect concerns).coherent tenant coherent keeps

/-- The others' rows of the table leave the claims grounded. -/
lemma Grounded.withAudit {path tenantId : String} {w : Keeper}
    (grounded : w.Grounded path tenantId) (audit : AuditTable) :
    (w.withAudit audit).Grounded path tenantId :=
  ⟨grounded.tenant, grounded.keyed, grounded.marked⟩

lemma Coherent.withAudit {path tenantId : String} {w : Keeper} (coherent : w.Coherent path tenantId)
    (audit : AuditTable) : (w.withAudit audit).Coherent path tenantId :=
  ⟨coherent.toGrounded.withAudit audit, coherent.held, coherent.attested, coherent.gone⟩

/-- A deletion that is not attested is attested by no later calls. -/
theorem unattested_forever {path tenantId d : String} {w : Keeper} (grounded : w.Grounded path tenantId)
    (lost : w.Lost d) (audit : AuditTable) {ops : List ContentOp}
    (concerns : ∀ op ∈ ops, Concerns path tenantId op) :
    ¬ Attested (run (Keeper.step path) (w.withAudit audit) ops).records d := by
  have start : (w.withAudit audit).Grounded path tenantId ∧ (w.withAudit audit).Lost d :=
    ⟨grounded.withAudit audit, lost.deleted, lost.unattested⟩
  have keep : ∀ (w : Keeper) op, w.Grounded path tenantId ∧ w.Lost d → Concerns path tenantId op →
      (w.step path op).Grounded path tenantId ∧ (w.step path op).Lost d := by
    rintro w op ⟨grounded, lost⟩ concerns
    refine ⟨grounded.step concerns, ?_⟩
    rw [← grounded.tenant] at concerns
    exact (step_effect concerns).lost grounded lost
  have concern : Steps (Keeper.step path) (fun _ op => Concerns path tenantId op) (w.withAudit audit) ops :=
    steps_of_forall concerns
  have stays := run_invariant_of_steps (Keeper.step path)
    (I := fun w : Keeper => w.Grounded path tenantId ∧ w.Lost d) start keep concern
  exact stays.2.unattested

/-! ### Calls that break the agreement -/

/-- A legacy import deletes nothing and attests nothing. -/
lemma step_legacy {path tenantId body : String} {w : Keeper} {op : ContentOp}
    (grounded : w.Grounded path tenantId) (offers : op.legacyBody = some body) :
    (w.step path op).Grounded path tenantId ∧ (w.step path op).deleted = w.deleted ∧
      ∀ d, Attested (w.step path op).records d ↔ Attested w.records d := by
  have concerns : ∀ tenantId, Concerns path tenantId op := by
    cases op with
    | recordDecision _ _ => cases offers
    | _ => exact fun _ => trivial
  refine ⟨grounded.step (concerns tenantId), ?_⟩
  cases step_effect (w := w) (concerns _) with
  | kept legacy body _ _ keeping deleted =>
    exact ⟨deleted, fun d => keeping.attested_iff grounded.keyed d⟩
  | purged d row prior deletes _ _ _ _ _ =>
    cases op with
    | purge _ _ _ _ _ _ => cases offers
    | _ => cases deletes

/-- Purged content that comes back contradicts its attestation. -/
lemma not_agrees_of_resurrects {path tenantId body : String} {w : Keeper} {op : ContentOp}
    (grounded : w.Grounded path tenantId) (attested : ∀ d ∈ w.deleted, Attested w.records d)
    (offers : op.legacyBody = some body) (back : Resurrects w op) : ¬ (w.step path op).Agrees path := by
  obtain ⟨-, deleted, same⟩ := step_legacy grounded offers
  obtain ⟨d, mem, present⟩ := exists_of_resurrects path back
  rw [deleted] at mem
  exact not_agrees_of_present ((same d).2 (attested d mem)) present

/-- A legacy import that returns has stored its body. -/
lemma resurrects_of_returned {path body : String} {w : Keeper} {op : ContentOp}
    (offers : op.legacyBody = some body) (mem : sha256 body ∈ w.deleted)
    (returned : (w.call path op).1 = none) : Resurrects w op := by
  cases op with
  | putLegacy fault body' =>
    cases offers
    cases fault with
    | none => exact ⟨rfl, mem⟩
    | some exc => cases returned
  | putAndRecord env a legacy =>
    cases legacy with
    | false => cases offers
    | true =>
      cases offers
      cases fault : env.putFault with
      | none => exact ⟨rfl, fault, mem⟩
      | some exc =>
        dsimp only [call, Custos.putAndRecord, ContentStore.store] at returned
        rw [fault] at returned
        cases returned
  | put _ _ => cases offers
  | recordDecision _ _ => cases offers
  | purge _ _ _ _ _ _ => cases offers

/-- A legacy import can be repeated where everything accepts it. -/
lemma exists_again_legacy (path tenantId : String) {body : String} {op : ContentOp}
    (offers : op.legacyBody = some body) :
    ∃ op', Again op op' ∧ Concerns path tenantId op' ∧ op'.legacyBody = some body ∧
      ∀ w : Keeper, (w.withAudit .empty).Accepts op' ∧ (sha256 body ∈ w.deleted → Resurrects w op') := by
  cases op with
  | putLegacy fault body' =>
    cases offers
    exact ⟨.putLegacy none body, .putLegacy fault none body, trivial, rfl, fun w =>
      ⟨rfl, fun mem => ⟨rfl, mem⟩⟩⟩
  | putAndRecord env a legacy =>
    cases legacy with
    | false => cases offers
    | true =>
      cases offers
      let quiet : DecisionEnv := { now := env.now, environ := fun _ => none }
      have unbound : ¬ boundEvidenceRequired (fun _ => none) := by decide +kernel
      refine ⟨.putAndRecord quiet a true, ?_, trivial, rfl, fun w => ⟨⟨rfl, rfl, ?_⟩, fun mem => ?_⟩⟩
      · exact .putAndRecord env quiet a true a.traceId a.policyDigest
      · exact ⟨fun required => absurd required unbound, fun _ _ _ => ⟨rfl, List.forall_mem_nil _⟩⟩
      · exact ⟨rfl, rfl, mem⟩
  | put _ _ => cases offers
  | recordDecision _ _ => cases offers
  | purge _ _ _ _ _ _ => cases offers

/-- A deleted body that comes back as legacy content breaks the agreement. -/
lemma Coherent.not_agreement_of_legacy {path tenantId body : String} {w : Keeper} {op : ContentOp}
    (coherent : w.Coherent path tenantId) (offers : op.legacyBody = some body)
    (mem : sha256 body ∈ w.deleted) : ¬ w.Agreement path tenantId op := by
  intro agreement
  have attested : ∀ d ∈ w.deleted, Attested w.records d := fun d => (coherent.attested d).2
  by_cases returned : (w.call path op).1 = none
  · have back := resurrects_of_returned offers mem returned
    exact not_agrees_of_resurrects coherent.toGrounded attested offers back (agreement.returned returned)
  · obtain ⟨grounded, deleted, same⟩ := step_legacy coherent.toGrounded offers
    obtain ⟨op', again, concerns, offers', accepts⟩ := exists_again_legacy path tenantId offers
    obtain ⟨accepted, back⟩ := accepts (w.step path op)
    refine not_agrees_of_resurrects (grounded.withAudit .empty) (fun d mem => ?_) offers'
      ((accepts _).2 (deleted ▸ mem)) (agreement.repeated returned op' .empty again concerns accepted)
    exact (same d).2 (attested d (deleted ▸ mem))

/-- A purge whose record is refused leaves a deletion that stays unattested. -/
lemma Coherent.not_agreement_of_purge {path tenantId d : String} {w : Keeper} {op : ContentOp}
    (coherent : w.Coherent path tenantId) {row : ContentBody} (deletes : op.Purges d)
    (body : (w.store path).bodies d = some row) (refuses : op.Unattested w row.body) :
    ¬ w.Agreement path tenantId op := by
  have fresh : d ∉ w.deleted := fun mem => by
    rw [coherent.gone d mem] at body
    cases body
  have unmarked : (w.store path).purges d = none := by
    cases purged : (w.store path).purges d with
    | none => rfl
    | some prior => exact absurd ((coherent.marked d).2 (by rw [purged]; rfl)) fresh
  have concerns : ∀ tenantId, Concerns path tenantId op := by
    cases op with
    | purge _ _ _ _ _ _ => exact fun _ => trivial
    | _ => cases deletes
  -- the body is deleted by this call and its record refused, so nothing attests it
  have lost : (w.step path op).Lost d := by
    cases step_effect (w := w) (concerns _) with
    | kept legacy body' _ stands _ _ => exact absurd unmarked (stands d row deletes body)
    | purged d' row' prior deletes' body' _ _ deleted records =>
      have same : d' = d := by
        cases op with
        | purge _ _ _ _ _ _ => exact deletes'.1.symm.trans deletes.1
        | _ => cases deletes
      subst same
      cases body.symm.trans body'
      refine ⟨deleted ▸ .head _, fun attested => fresh ((coherent.attested d').1 ?_)⟩
      rcases records with ⟨-, same⟩ | ⟨attests, -⟩
      · exact same ▸ attested
      · exact absurd refuses attests
  intro agreement
  obtain ⟨audit, ops, all, attested⟩ := agreement.attestable d lost.deleted
  exact unattested_forever (coherent.toGrounded.step (concerns _)) lost audit all attested

/-- A repeated call that is accepted keeps the agreement where the first did. -/
lemma keepsAgreement_of_again {path : String} {w : Keeper} {op op' : ContentOp}
    (keeps : KeepsAgreement path w op) (again : Again op op') {audit : AuditTable}
    (accepts : ((w.step path op).withAudit audit).Accepts op') :
    KeepsAgreement path ((w.step path op).withAudit audit) op' := by
  cases again with
  | put _ _ _ => trivial
  | putLegacy _ _ _ => exact keeps
  | putAndRecord _ _ _ _ _ _ => exact keeps
  | recordDecision _ _ _ _ _ => trivial
  | purge _ _ _ _ _ _ _ _ _ => exact fun _ row _ => accepts.2.2 row.body

/-- A call meets the agreement exactly when it brings no purged content back and leaves no deletion
unattested. -/
lemma Coherent.agreement_iff {path tenantId : String} {w : Keeper} (coherent : w.Coherent path tenantId)
    {op : ContentOp} (concerns : Concerns path tenantId op) :
    w.Agreement path tenantId op ↔ KeepsAgreement path w op := by
  constructor
  · intro agreement
    cases op with
    | put _ _ => trivial
    | putLegacy fault body => exact fun mem => coherent.not_agreement_of_legacy rfl mem agreement
    | putAndRecord env a legacy =>
      rintro rfl mem
      exact coherent.not_agreement_of_legacy rfl mem agreement
    | recordDecision _ _ => trivial
    | purge env d clientId reason traceId policyDigest =>
      intro clean row body
      by_contra refuses
      have deletes : (ContentOp.purge env d clientId reason traceId policyDigest).Purges d := ⟨rfl, clean⟩
      exact coherent.not_agreement_of_purge deletes body (refusesPurge_iff.2 refuses) agreement
  · intro keeps
    have after := coherent.step concerns keeps
    refine ⟨fun _ => after.agrees, fun _ op' audit again concerns' accepts => ?_, fun d mem => ?_⟩
    · have keeps' := keepsAgreement_of_again keeps again accepts
      exact ((after.withAudit audit).step concerns' keeps').agrees
    · exact ⟨w.stores.audit, [], List.forall_mem_nil _, (after.attested d).2 mem⟩

end Keeper

/-- In every run over a chain that says nothing of content yet and an empty store, chain and store agree
exactly when no call brings purged content back as legacy content and the chain takes the record of every
body a purge deletes. -/
theorem chain_store_agree_iff (path : String) (ctx : TenantContext) (audit : AuditTable)
    (silent : ∀ r ∈ ctx.auditChain.records, ¬ r.Claims ∧ ¬ r.AttestsPurge) (ops : List ContentOp)
    (concerns : ∀ op ∈ ops, Concerns path ctx.tenantId op) :
    Steps (Keeper.step path) (Keeper.Agreement path ctx.tenantId) { ctx, stores := { audit } } ops ↔
      Steps (Keeper.step path) (KeepsAgreement path) { ctx, stores := { audit } } ops := by
  have start : ({ ctx, stores := { audit } } : Keeper).Coherent path ctx.tenantId := by
    refine ⟨⟨rfl, nofun, fun d => ?_⟩, fun d claimed => ?_, fun d => ?_, nofun⟩
    · simp [Keeper.store]
    · obtain ⟨r, mem, -, claims⟩ := claimed
      exact absurd claims (silent r mem).1
    · refine iff_of_false ?_ List.not_mem_nil
      rintro ⟨r, mem, -, attests⟩
      exact (silent r mem).2 attests
  have concerns : Steps (Keeper.step path) (fun _ op => Concerns path ctx.tenantId op)
      { ctx, stores := { audit } } ops := steps_of_forall concerns
  refine steps_congr_of_steps (I := fun w : Keeper => w.Coherent path ctx.tenantId) start concerns ?_ ?_
  · exact fun w op coherent concerns => coherent.agreement_iff concerns
  · exact fun w op coherent concerns keeps => coherent.step concerns keeps

end

section Sample

local instance agreementPlatform : Platform := .reference purgeDigests

def agreementEnv : DecisionEnv where
  now := 1700000000
  environ _ := none

/-- The environment of a service that requires bound evidence. -/
def boundPurgeEnv : PurgeEnv where
  now := 1700000001
  environ name := if name = "CUSTOS_AUDIT_REQUIRE_BOUND" then some "1" else none
  purgedAt := 1700000001

def keptOp : ContentOp :=
  .putAndRecord agreementEnv { clientId := "agent", action := "ALLOW", reason := "ok", content := "x" } false

/-- A purge as the endpoint makes it, without a trace. -/
def untracedPurge : ContentOp :=
  .purge boundPurgeEnv "2d711642b726b04401627ca9fbac32f5c8530fb1903cc4db02258717921a4881" "retention-admin"
    "erasure" none (some "p1")

/-- Content is kept, and purged with a record of it. -/
theorem chain_store_agree_iff_sample :
    Steps (Keeper.step "content-acme.sqlite") (Keeper.Agreement "content-acme.sqlite" "acme") purgeKeeper
      [keptOp, purgeOp] := by
  refine (chain_store_agree_iff "content-acme.sqlite" purgeKeeper.ctx .empty (List.forall_mem_nil _) [keptOp, purgeOp]
    fun op mem => ?_).2 ⟨nofun, fun _ row _ => ⟨fun required => ?_, fun _ _ durable => ?_⟩, trivial⟩
  · rcases List.mem_cons.1 mem with rfl | mem
    · trivial
    · cases List.mem_singleton.1 mem
      trivial
  · exact absurd required (by decide +kernel)
  · have memory : ¬ ((Keeper.step "content-acme.sqlite" purgeKeeper keptOp).ctx.auditChain.backend.Durable) := by
      decide +kernel
    exact absurd durable memory

/-- The same purge with all its evidence. -/
def tracedPurge : ContentOp :=
  .purge { boundPurgeEnv with now := 1700000002 }
    "2d711642b726b04401627ca9fbac32f5c8530fb1903cc4db02258717921a4881" "retention-admin" "erasure"
    (some "t1") (some "p1")

/-- The purge deletes the body and its record, without a trace, is refused; made again with all its evidence
it finds the content purged, and the deletion stays unattested. -/
theorem purge_unattested :
    let purged := run (Keeper.step "content-acme.sqlite") purgeKeeper [keptOp, untracedPurge]
    let again := purged.step "content-acme.sqlite" tracedPurge
    ¬ Steps (Keeper.step "content-acme.sqlite") (Keeper.Agreement "content-acme.sqlite" "acme") purgeKeeper
        [keptOp, untracedPurge] ∧
      (purged.call "content-acme.sqlite" tracedPurge).1 ≠ none ∧
      (reconcile again.records (again.store "content-acme.sqlite")).findings.map (·.kind) =
        [FINDING_UNATTESTED_PURGE] := by
  refine ⟨fun steps => ?_, by decide +kernel, by decide +kernel⟩
  have raised : ((run (Keeper.step "content-acme.sqlite") purgeKeeper [keptOp]).call "content-acme.sqlite"
      untracedPurge).1 ≠ none := by decide +kernel
  have memory : ¬ (run (Keeper.step "content-acme.sqlite") purgeKeeper
      [keptOp, untracedPurge]).ctx.auditChain.backend.Durable := by decide +kernel
  have accepts : ((run (Keeper.step "content-acme.sqlite") purgeKeeper [keptOp, untracedPurge]).withAudit
      .empty).Accepts tracedPurge :=
    ⟨rfl, rfl, fun _ => ⟨fun _ => rfl, fun _ _ durable => absurd durable memory⟩⟩
  have agrees := steps.2.1.repeated raised tracedPurge .empty
    (.purge boundPurgeEnv _ _ _ _ none (some "p1") (some "t1") (some "p1")) trivial accepts
  revert agrees
  unfold Keeper.Agrees
  decide +kernel

end Sample

end Custos
