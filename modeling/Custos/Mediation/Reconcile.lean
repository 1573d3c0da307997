import Custos.Library.Run
import Custos.Mediation.Gateway

/-!
# What a refusal leaves behind

The gate writes its decision before the proxy knows whether it will act on it, so a refusal the proxy
makes alone is written down too: a deny under the call's trace id and the refusal's rule, by the hook of
the adapter. The hook says with a boolean whether it wrote; the proxy looks for an exception only, and
reports every refusal as reconciled (`reconciled_true_iff`).
-/

namespace Custos

section

variable {γ : Type} [Platform]

/-! ## What the hook does -/

omit [Platform] in
/-- The tenant's chain is its own. -/
def Service.OwnChain (s : Service γ) (id : String) : Prop :=
  ∀ ctx, s.tenants.getStrict id = some ctx → ctx.auditChain.tenantId = some id

omit [Platform] in
/-- The same tenants have the same chains. -/
lemma Service.OwnChain.congr {s s' : Service γ} {id : String} (own : s.OwnChain id)
    (tenants : s'.tenants = s.tenants) : s'.OwnChain id := by
  unfold Service.OwnChain
  rw [tenants]
  exact own

omit [Platform] in
/-- A record leaves the chain the tenant's own. -/
lemma Service.OwnChain.appended {s s' : Service γ} {id : String} {r : AuditRecord} (own : s.OwnChain id)
    (app : Appended s s' id r) : s'.OwnChain id := by
  obtain ⟨ctx, known, tenants⟩ := app
  intro ctx' known'
  rw [tenants] at known'
  cases (Function.update_self ..).symm.trans known'
  exact own ctx known

omit [Platform] in
/-- The gate leaves it. -/
lemma Gates.ownChain {s : Service γ} {id traceId : String} {out : Except Exn ActionGateResult × Service γ}
    (gates : Gates s id traceId out) (own : s.OwnChain id) : out.2.OwnChain id := by
  cases gates with
  | silent result s' tenants _ => exact own.congr tenants
  | recorded r g s' app _ _ _ => exact own.appended app

omit [Platform] in
lemma Reconciles.ownChain {s : Service γ} {d : MediatedDenial} {out : Bool × Service γ}
    (reconciles : Reconciles s d out) (own : s.OwnChain d.tenantId) : out.2.OwnChain d.tenantId := by
  cases reconciles with
  | silent s' tenants => exact own.congr tenants
  | recorded r s' app _ _ _ => exact own.appended app

omit [Platform] in
/-- The hook says whether the chain has grown. -/
lemma Reconciles.grown_iff {s : Service γ} {d : MediatedDenial} {out : Bool × Service γ}
    (reconciles : Reconciles s d out) :
    out.1 = true ↔ out.2.records d.tenantId ≠ s.records d.tenantId := by
  cases reconciles with
  | silent s' tenants =>
    have same := Service.records_congr tenants d.tenantId
    exact iff_of_false nofun (not_not.2 same)
  | recorded r s' app _ _ _ =>
    refine iff_of_true rfl fun same => ?_
    rw [app.records] at same
    exact List.cons_ne_nil _ _ (List.append_right_eq_self.1 same)

omit [Platform] in
/-- The deny the hook says that it wrote is in the chain. -/
lemma Reconciles.denies {s : Service γ} {d : MediatedDenial} {out : Bool × Service γ}
    (reconciles : Reconciles s d out) (yes : out.1 = true) : ∃ r ∈ out.2.records d.tenantId,
      r.action = "DENY" ∧ r.traceId = some d.traceId ∧ r.triggeredRule = some d.rule := by
  cases reconciles with
  | silent s' _ => cases yes
  | recorded r s' app action trace rule =>
    refine ⟨r, ?_, action, trace, rule⟩
    rw [app.records]
    exact List.mem_append_right _ (List.mem_singleton_self r)

omit [Platform] in
lemma OwnRefusal.rule_ne_empty (refusal : OwnRefusal) : refusal.rule ≠ "" := by
  cases refusal <;> decide

namespace Mediation

/-- The hook is called in this step, for this call. -/
def Hooked [Regex] (p : Mediator) (hooks : CustodyHooks γ) (m : Mediation γ) (op : MediationOp)
    (env : RequestEnv) (id : Nat) : Prop :=
  op.reconciles = some (env, id) ∧ ∃ c refusal,
    (m.upToHook p hooks op).proxy.calls id = some c ∧ c.phase = .reconciling refusal

/-- The service is the tenant's own at any time. -/
lemma ownChain_step [Regex] {p : Mediator} (hooks : CustodyHooks γ) {m : Mediation γ}
    (own : m.service.OwnChain p.tenantId) (op : MediationOp) :
    (m.step p hooks op).service.OwnChain p.tenantId := by
  have before : (m.upToHook p hooks op).service.OwnChain p.tenantId := by
    have moves := m.upToHook_moves p hooks op
    generalize m.upToHook p hooks op = m' at moves
    cases moves with
    | proxied step jobs _ _ => exact own
    | worked jobs _ => exact own
    | decided c _ _ =>
      exact (evaluateAction_gates hooks m.service _ p.tenantId (Mediator.action c) p.clientId
        c.traceId).ownChain own
  refine step_of_hook (P := fun m => m.service.OwnChain p.tenantId) before fun env id _ => ?_
  generalize m.upToHook p hooks op = m' at before
  rcases m'.reconcile_cases p env id with ⟨c, refusal, known, phase, eq⟩ | eq
  · rw [eq]
    exact (recordDenial_reconciles m'.service env (p.denial c refusal)).ownChain before
  · rw [eq]
    exact before

omit [Platform] in
/-- A step that may call the hook has not touched the service before it does. -/
lemma upToHook_service [Platform] [Regex] (p : Mediator) (hooks : CustodyHooks γ) (m : Mediation γ)
    {op : MediationOp} {env : RequestEnv} {id : Nat} (reconciles : op.reconciles = some (env, id)) :
    (m.upToHook p hooks op).service = m.service := by
  cases op with
  | call env id tool arguments forward traceId now => rfl
  | answer env id now =>
    unfold upToHook
    dsimp only
    split <;> rfl
  | timeout env id now => rfl
  | submit id => cases reconciles
  | take id => cases reconciles
  | decide env id => cases reconciles
  | cancel id now => cases reconciles
  | forward id how => cases reconciles

/-- What a step up to the hook keeps of a call. -/
lemma upToHook_keeps [Regex] (p : Mediator) (hooks : CustodyHooks γ) (m : Mediation γ)
    (op : MediationOp) {id : Nat} {c : Call} (known : m.proxy.calls id = some c) :
    ∃ phase, (m.upToHook p hooks op).proxy.calls id = some { c with phase } ∧
      (c.Ended → phase = c.phase) := by
  have moves := m.upToHook_moves p hooks op
  generalize m.upToHook p hooks op = m' at moves
  cases moves with
  | proxied step jobs _ _ =>
    obtain ⟨phase, after, -, ended⟩ := m.proxy.step_keeps p.toMcpProxy step known
    exact ⟨phase, after, ended⟩
  | worked jobs _ => exact ⟨c.phase, known, fun _ => rfl⟩
  | decided c' _ _ => exact ⟨c.phase, known, fun _ => rfl⟩

/-- A call that returns without the hook does not say that it was reconciled. -/
lemma upToHook_returned [Regex] {p : Mediator} {hooks : CustodyHooks γ} {m : Mediation γ}
    {op : MediationOp} {id : Nat} {c : Call} {o : ProxyOutcome}
    (before : ∀ c, m.proxy.calls id = some c → ¬ c.Ended)
    (after : (m.upToHook p hooks op).proxy.calls id = some c)
    (returned : c.phase = .ended (.returned o)) : o.reconciled = false := by
  have moves := m.upToHook_moves p hooks op
  generalize m.upToHook p hooks op = m' at moves after
  cases moves with
  | worked jobs _ => exact absurd ⟨_, returned⟩ (before c after)
  | decided c' _ _ => exact absurd ⟨_, returned⟩ (before c after)
  | proxied step jobs runs _ =>
    refine m.proxy.step_returned p.toMcpProxy (fun id how e => ?_) before after returned
    rw [e] at runs
    exact runs.not_reconcile

/-- A step without the hook ends where it was up to it. -/
lemma step_of_not_hooked [Regex] {p : Mediator} {hooks : CustodyHooks γ} {m : Mediation γ}
    {op : MediationOp} (no : ∀ env id, ¬ m.Hooked p hooks op env id) :
    m.step p hooks op = m.upToHook p hooks op := by
  refine step_of_hook (P := fun m' => m' = m.upToHook p hooks op) rfl fun env id reconciles => ?_
  exact reconcile_of_not env fun c refusal known phase =>
    no env id ⟨reconciles, c, refusal, known, phase⟩

/-- What the hook writes, where it writes. -/
lemma step_of_hooked [Regex] {p : Mediator} {hooks : CustodyHooks γ} {m : Mediation γ}
    {op : MediationOp} {env : RequestEnv} {id : Nat} {c : Call} {refusal : OwnRefusal}
    (reconciles : op.reconciles = some (env, id))
    (known : (m.upToHook p hooks op).proxy.calls id = some c) (phase : c.phase = .reconciling refusal) :
    m.step p hooks op =
      { m.upToHook p hooks op with
        proxy := (m.upToHook p hooks op).proxy.setPhase id c (.ended (.returned
          { forwarded := false, traceId := c.traceId, reason := refusal.rule, rule := some refusal.rule
            reconciled := true }))
        service := (CustosGateAdapter.recordDenial m.service env (p.denial c refusal)).2 } := by
  have ends : ∀ value, (m.upToHook p hooks op).proxy.step p.toMcpProxy (.reconcile id (.returned value)) =
      (m.upToHook p hooks op).proxy.setPhase id c (.ended (.returned
        { forwarded := false, traceId := c.traceId, reason := refusal.rule, rule := some refusal.rule
          reconciled := true })) := by
    intro value
    simp [ProxyState.step, known, phase, ProxyState.reconcileEnd, HookEnd.reconciled]
  unfold step
  rw [reconciles]
  dsimp only
  rw [reconcile_of_reconciling env known phase, ends, upToHook_service p hooks m reconciles]

end Mediation

/-! ## Whether an outcome is true -/

/-- What a call returns in this step says that it was reconciled only if the chain holds the deny, and not if
nothing was written. -/
def Truthful [Regex] (p : Mediator) (hooks : CustodyHooks γ) (m : Mediation γ) (op : MediationOp) :
    Prop :=
  ∀ id c o, (∀ c, m.proxy.calls id = some c → ¬ c.Ended) →
    (m.step p hooks op).proxy.calls id = some c → c.phase = .ended (.returned o) →
    (o.reconciled = true → ∃ r ∈ (m.step p hooks op).service.records p.tenantId,
      r.action = "DENY" ∧ r.traceId = some c.traceId ∧ r.triggeredRule = o.rule) ∧
    ((m.step p hooks op).service.records p.tenantId = m.service.records p.tenantId →
      o.reconciled = false)

/-- Where the hook is called, a record lands. -/
def HookLands [Regex] (p : Mediator) (hooks : CustodyHooks γ) (m : Mediation γ) (op : MediationOp) :
    Prop :=
  ∀ env id, m.Hooked p hooks op env id → Lands m.service env.toRecordEnv p.tenantId

/-- A step reports truthfully exactly where the hook's record lands. -/
lemma truthful_iff [Regex] {p : Mediator} (hooks : CustodyHooks γ) {m : Mediation γ}
    (own : m.service.OwnChain p.tenantId) (op : MediationOp) :
    Truthful p hooks m op ↔ HookLands p hooks m op := by
  by_cases hooked : ∃ env id, m.Hooked p hooks op env id
  · obtain ⟨env, id, reconciles, c, refusal, known, phase⟩ := hooked
    have goes := Mediation.step_of_hooked reconciles known phase
    have after : (m.step p hooks op).proxy.calls id = some { c with phase := .ended (.returned
        { forwarded := false, traceId := c.traceId, reason := refusal.rule, rule := some refusal.rule
          reconciled := true }) } := by
      rw [goes]
      exact ProxyState.setPhase_self ..
    have service : (m.step p hooks op).service =
        (CustosGateAdapter.recordDenial m.service env (p.denial c refusal)).2 := by rw [goes]
    have written : (CustosGateAdapter.recordDenial m.service env (p.denial c refusal)).1 = true ↔
        Lands m.service env.toRecordEnv p.tenantId :=
      recordDenial_iff own c.traced refusal.rule_ne_empty
    have reconciled := recordDenial_reconciles m.service env (p.denial c refusal)
    constructor
    · intro truthful env' id' hooked'
      cases reconciles.symm.trans hooked'.1
      refine written.1 (reconciled.grown_iff.2 fun same => ?_)
      have unended : ∀ c', m.proxy.calls id = some c' → ¬ c'.Ended := by
        intro c' known' ended
        obtain ⟨phase', known'', still⟩ := m.upToHook_keeps p hooks op known'
        cases known.symm.trans known''
        obtain ⟨how, e⟩ := ended
        cases phase.symm.trans ((still ⟨how, e⟩).trans e)
      exact absurd ((truthful id _ _ unended after rfl).2 (service ▸ same)) nofun
    · intro lands id' c' o before after' returned
      by_cases e : id' = id
      · obtain rfl := e
        cases after.symm.trans after'
        cases returned
        have yes := written.2 (lands env id' ⟨reconciles, c, refusal, known, phase⟩)
        rw [service]
        exact ⟨fun _ => reconciled.denies yes, fun same => absurd same (reconciled.grown_iff.1 yes)⟩
      · rw [goes] at after'
        have no := Mediation.upToHook_returned before
          ((ProxyState.setPhase_of_ne e ..).symm.trans after') returned
        exact ⟨fun yes => absurd (no.symm.trans yes) nofun, fun _ => no⟩
  · have same := Mediation.step_of_not_hooked fun env id yes => hooked ⟨env, id, yes⟩
    refine iff_of_true (fun id c o before after returned => ?_) fun env id yes => ?_
    · have no := Mediation.upToHook_returned before (same ▸ after) returned
      exact ⟨fun yes => absurd (no.symm.trans yes) nofun, fun _ => no⟩
    · exact absurd ⟨env, id, yes⟩ hooked

/-- In every run, what a call returns is true exactly where a record lands if the hook is called. -/
theorem reconciled_true_iff [Regex] (p : Mediator) (hooks : CustodyHooks γ) (s : Service γ)
    (own : s.OwnChain p.tenantId) (ops : List MediationOp) :
    Steps (Mediation.step p hooks) (fun m op => Truthful p hooks m op ↔ HookLands p hooks m op)
      { service := s } ops :=
  steps_of_invariant (I := fun m => m.service.OwnChain p.tenantId) own
    (fun _ op own => Mediation.ownChain_step hooks own op) (fun _ op own => truthful_iff hooks own op) ops

end

section Sample

local instance reconcilePlatform : Platform := .reference gateDigests

/-- A text none of the patterns matches. -/
local instance reconcileRegex : Regex where
  invalid _ := none
  finditer _ _ := []

/-- A proxy with its adapter. -/
def sampleMediator : Mediator := { sampleProxy with }

def mediationEnv : RequestEnv where
  now := 1700000001
  environ _ := none
  server := .ofResults fun _ => .error (.RuntimeError "no server")
  purgedAt := 1700000001
  traceId := sampleTraceId
  clock _ := 1700000001

/-- A process whose audit database is locked. -/
def lockedEnv : RequestEnv :=
  { mediationEnv with fault := some { typeName := "OperationalError", text := "database is locked" } }

/-- A call that is passed to the gate. -/
def mediatedOp : MediationOp := .call mediationEnv 0 "search" [] true "4bf92f3577b34da6" 0

/-- The sample's tenant has a chain of its own. -/
lemma ownChain_gateService : gateService.OwnChain "acme" := by
  intro ctx known
  cases known
  rfl

/-- A call that times out while the store is open is truthfully reported. -/
theorem reconciled_true_iff_sample :
    Steps (Mediation.step sampleMediator raisingHooks) (Truthful sampleMediator raisingHooks)
      { service := gateService } [mediatedOp, .timeout mediationEnv 0 2] := by
  obtain ⟨called, timedOut, -⟩ := reconciled_true_iff sampleMediator raisingHooks gateService ownChain_gateService
    [mediatedOp, .timeout mediationEnv 0 2]
  refine ⟨called.2 fun env id hooked => ?_, timedOut.2 fun env id hooked => ?_, trivial⟩
  · obtain ⟨reconciles, c, refusal, known, phase⟩ := hooked
    cases reconciles
    cases known
    cases phase
  · cases hooked.1
    have same : (Mediation.step sampleMediator raisingHooks { service := gateService } mediatedOp).service =
        gateService := rfl
    rw [same]
    refine ⟨⟨_, rfl⟩, fun ctx known _ => ?_, fun _ _ required => absurd required (by decide +kernel)⟩
    cases known
    exact ⟨rfl, fun r mem => absurd mem List.not_mem_nil⟩

/-- A call that times out while the audit database is locked is reported as reconciled. -/
theorem reconciled_unwritten :
    ¬ Steps (Mediation.step sampleMediator raisingHooks) (Truthful sampleMediator raisingHooks)
      { service := gateService } [mediatedOp, .timeout lockedEnv 0 2] := by
  rintro ⟨-, truthful, -⟩
  let m := Mediation.step sampleMediator raisingHooks { service := gateService } mediatedOp
  let m' := Mediation.step sampleMediator raisingHooks m (.timeout lockedEnv 0 2)
  have before : ((m.proxy.calls 0).map (·.phase)) = some .asking := by decide +kernel
  have after : ((m'.proxy.calls 0).map (·.phase)) = some (.ended (.returned
      { forwarded := false, traceId := "4bf92f3577b34da6", reason := REASON_TIMEOUT
        rule := some REASON_TIMEOUT, reconciled := true })) := by decide +kernel
  have unwritten : m'.service.records "acme" = m.service.records "acme" := by decide +kernel
  obtain ⟨c, known, phase⟩ := Option.map_eq_some_iff.1 after
  have unended : ∀ c, m.proxy.calls 0 = some c → ¬ c.Ended := by
    rintro c known ⟨how, ended⟩
    rw [known] at before
    cases ended.symm.trans (Option.some.inj before)
  exact absurd ((truthful 0 c _ unended known phase).2 unwritten) nofun

end Sample

end Custos
