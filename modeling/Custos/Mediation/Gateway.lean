import Custos.Mediation.Proxy
import Custos.Service.FailClosed
import Custos.Service.Requests

/-!
# The gateway

The proxy over `CustosGateAdapter` (`custos/mcp_gate_adapter.py`) and the gate. A call that asks submits a
job to the adapter's executor; a worker takes it and decides, in one step, whenever it gets to it; what it
decided reaches the call if the call is still asking. A call that times out or is cancelled takes its job
back only as long as no worker has it.

`upToHook_moves` says what a step does before the denial hook and `evaluateAction_gates` what the gate
writes; that no step is of another call, and that no record or invocation is lost, follows from these.
-/

namespace Custos

/-- `type(exc).__name__`. -/
def Exn.typeName : Exn → String
  | .ValueError _ => "ValueError"
  | .UnknownBindingVersion _ => "UnknownBindingVersion"
  | .ChainForkError _ => "ChainForkError"
  | .AuditStoreFull _ => "AuditStoreFull"
  | .RuntimeError _ => "RuntimeError"
  | .ContentPurged _ => "ContentPurged"
  | .PurgeRefused _ => "PurgeRefused"
  | .RetentionConfigRefused _ => "RetentionConfigRefused"
  | .Store exc => exc.typeName
  | .Other typeName _ => typeName

namespace CustosGateAdapter

/-- What `evaluate` makes of a decision: only an allow is one, not an audit. -/
def verdict (result : ActionGateResult) : GateVerdict where
  allowed := result.decision.action = .ALLOW
  recordHash := result.auditRecordHash
  rule := result.decision.triggeredRule
  reason := result.decision.reason

/-- What the wait for a job's result comes to. A `TimeoutError` of the gate is not told from the proxy's
own. -/
def waitEnd : Except Exn ActionGateResult → WaitEnd
  | .ok result =>
    let v := verdict result
    .answered (some { allowed := .literal v.allowed, recordHash := v.recordHash, rule := v.rule
                      reason := v.reason })
  | .error e => if e.typeName = "TimeoutError" then .timedOut else .raised e.typeName

end CustosGateAdapter

/-! ## The system -/

/-- A proxy and the client id of its adapter. -/
structure Mediator extends McpProxy where
  clientId : String := "mcp-proxy"

/-- A job of the executor. -/
inductive Job where
  | queued
  | running
  | done (result : Except Exn ActionGateResult)

/-- `Future.done()` -/
def Job.isDone : Job → Bool
  | .done _ => true
  | _ => false

structure Mediation (γ : Type) where
  proxy : ProxyState := {}
  jobs : Nat → Option Job := fun _ => none
  service : Service γ

inductive MediationOp where
  | call (env : RequestEnv) (id : Nat) (tool : String) (arguments : List (String × Json))
      (forward : Bool) (traceId : String) (now : ℚ)
  /-- the call's job gets to the executor's queue -/
  | submit (id : Nat)
  /-- a worker takes the job -/
  | take (id : Nat)
  /-- the worker calls the gate -/
  | decide (env : GateEnv) (id : Nat)
  /-- what the gate returned or raised reaches the call -/
  | answer (env : RequestEnv) (id : Nat) (now : ℚ)
  | timeout (env : RequestEnv) (id : Nat) (now : ℚ)
  /-- the call is cancelled while it asks -/
  | cancel (id : Nat) (now : ℚ)
  | forward (id : Nat) (how : ForwardEnd)

variable {γ : Type}

/-- The call whose step it is. -/
def MediationOp.id : MediationOp → Nat
  | .call _ id _ _ _ _ _ | .submit id | .take id | .decide _ id | .answer _ id _ | .timeout _ id _
  | .cancel id _ | .forward id _ => id

/-- The call a step may leave to be reconciled, and what the hook meets then. -/
def MediationOp.reconciles : MediationOp → Option (RequestEnv × Nat)
  | .call env id _ _ _ _ _ => some (env, id)
  | .answer env id _ => some (env, id)
  | .timeout env id _ => some (env, id)
  | _ => none

namespace Mediator

/-- What `_reconcile` hands to the hook. -/
def denial (p : Mediator) (c : Call) (refusal : OwnRefusal) : MediatedDenial where
  tenantId := p.tenantId
  clientId := p.clientId
  tool := c.tool
  traceId := c.traceId
  rule := refusal.rule
  reason := refusal.reason

/-- What the gate is asked about. -/
def action (c : Call) : ActionRequest := { tool := c.tool, args := some c.arguments }

end Mediator

namespace Mediation

/-- A job no worker has is taken back from the executor with the call that waits for it. -/
def withdraw (m : Mediation γ) (id : Nat) : Nat → Option Job :=
  match m.proxy.calls id, m.jobs id with
  | some c, some .queued => if c.phase = .asking then Function.update m.jobs id none else m.jobs
  | _, _ => m.jobs

variable [Platform]

/-- A step up to the hook. -/
def upToHook [Regex] (p : Mediator) (hooks : CustodyHooks γ) (m : Mediation γ) :
    MediationOp → Mediation γ
  | .call _ id tool arguments forward traceId now =>
    { m with proxy := m.proxy.step p.toMcpProxy (.call id tool arguments forward traceId now) }
  | .submit id =>
    match m.proxy.calls id, m.jobs id with
    | some c, none =>
      if c.phase = .asking then { m with jobs := Function.update m.jobs id (some .queued) } else m
    | _, _ => m
  | .take id =>
    match m.jobs id with
    | some .queued => { m with jobs := Function.update m.jobs id (some .running) }
    | _ => m
  | .decide env id =>
    match m.proxy.calls id, m.jobs id with
    | some c, some .running =>
      let (result, service) := m.service.evaluateAction hooks env p.tenantId (Mediator.action c)
        p.clientId (some c.traceId)
      { m with jobs := Function.update m.jobs id (some (.done result)), service }
    | _, _ => m
  | .answer _ id now =>
    match m.jobs id with
    | some (.done result) =>
      { m with proxy := m.proxy.step p.toMcpProxy (.wait id (CustosGateAdapter.waitEnd result) now) }
    | _ => m
  | .timeout _ id now =>
    { m with proxy := m.proxy.step p.toMcpProxy (.wait id .timedOut now), jobs := m.withdraw id }
  | .cancel id now =>
    { m with proxy := m.proxy.step p.toMcpProxy (.wait id .cancelled now), jobs := m.withdraw id }
  | .forward id how => { m with proxy := m.proxy.step p.toMcpProxy (.forward id how) }

/-- The hook, of a call that was refused by the proxy alone: it does not wait. -/
def reconcile (p : Mediator) (m : Mediation γ) (env : RequestEnv) (id : Nat) : Mediation γ :=
  match m.proxy.calls id with
  | none => m
  | some c =>
    match c.phase with
    | .reconciling refusal =>
      let (written, service) := CustosGateAdapter.recordDenial m.service env (p.denial c refusal)
      { m with proxy := m.proxy.step p.toMcpProxy (.reconcile id (.returned written)), service }
    | _ => m

def step [Regex] (p : Mediator) (hooks : CustodyHooks γ) (m : Mediation γ) (op : MediationOp) :
    Mediation γ :=
  match op.reconciles with
  | some (env, id) => (m.upToHook p hooks op).reconcile p env id
  | none => m.upToHook p hooks op

end Mediation

/-! ## What a step does -/

/-- The proxy's step that a step takes. -/
def MediationOp.Runs (m : Mediation γ) (op : MediationOp) (step : ProxyOp) : Prop :=
  match op with
  | .call _ id tool arguments given traceId now => step = .call id tool arguments given traceId now
  | .answer _ id now =>
    ∃ result, m.jobs id = some (.done result) ∧ step = .wait id (CustosGateAdapter.waitEnd result) now
  | .timeout _ id now => step = .wait id .timedOut now
  | .cancel id now => step = .wait id .cancelled now
  | .forward id how => step = .forward id how
  | _ => False

namespace MediationOp.Runs

variable {m : Mediation γ} {op : MediationOp} {id : Nat} {now : ℚ}

/-- Only a call begins the proxy's. -/
lemma of_call {tool traceId : String} {arguments : List (String × Json)} {forward : Bool}
    (runs : op.Runs m (.call id tool arguments forward traceId now)) :
    ∃ env, op = .call env id tool arguments forward traceId now := by
  cases op with
  | call env id' tool' arguments' given traceId' now' =>
    cases runs
    exact ⟨env, rfl⟩
  | answer env id' now' =>
    obtain ⟨_, _, e⟩ := runs
    cases e
  | submit id' => cases runs
  | take id' => cases runs
  | decide env id' => cases runs
  | timeout env id' now' => cases runs
  | cancel id' now' => cases runs
  | forward id' how => cases runs

/-- The proxy's wait ends with an answer, a timeout or a cancellation. -/
lemma of_wait {how : WaitEnd} (runs : op.Runs m (.wait id how now)) :
    (∃ env result, op = .answer env id now ∧ m.jobs id = some (.done result) ∧
        how = CustosGateAdapter.waitEnd result) ∨
      (∃ env, op = .timeout env id now ∧ how = .timedOut) ∨ (op = .cancel id now ∧ how = .cancelled) := by
  cases op with
  | answer env id' now' =>
    obtain ⟨result, done, e⟩ := runs
    obtain ⟨rfl, rfl, rfl⟩ := ProxyOp.wait.inj e
    exact .inl ⟨env, result, rfl, done, rfl⟩
  | timeout env id' now' =>
    obtain ⟨rfl, rfl, rfl⟩ := ProxyOp.wait.inj runs
    exact .inr (.inl ⟨env, rfl, rfl⟩)
  | cancel id' now' =>
    obtain ⟨rfl, rfl, rfl⟩ := ProxyOp.wait.inj runs
    exact .inr (.inr ⟨rfl, rfl⟩)
  | call env id' tool arguments given traceId now' => cases runs
  | submit id' => cases runs
  | take id' => cases runs
  | decide env id' => cases runs
  | forward id' how' => cases runs

/-- The hook is no step's own. -/
lemma not_reconcile {how : HookEnd} (runs : op.Runs m (.reconcile id how)) : False := by
  cases op with
  | answer env id' now' =>
    obtain ⟨_, _, e⟩ := runs
    cases e
  | call env id' tool arguments given traceId now' => cases runs
  | submit id' => cases runs
  | take id' => cases runs
  | decide env id' => cases runs
  | timeout env id' now' => cases runs
  | cancel id' now' => cases runs
  | forward id' how' => cases runs

end MediationOp.Runs

namespace Mediation

/-- What a step up to the hook comes to: a step of the proxy, a change of the executor's queue, or a decision. -/
inductive Moves [Platform] [Regex] (p : Mediator) (hooks : CustodyHooks γ) (m : Mediation γ) :
    MediationOp → Mediation γ → Prop
  | proxied {op : MediationOp} (step : ProxyOp) (jobs : Nat → Option Job) : op.Runs m step →
      (∀ id result, jobs id = some (.done result) ↔ m.jobs id = some (.done result)) →
      Moves p hooks m op { m with proxy := m.proxy.step p.toMcpProxy step, jobs }
  | worked {op : MediationOp} (jobs : Nat → Option Job) :
      (∀ id result, jobs id = some (.done result) ↔ m.jobs id = some (.done result)) →
      Moves p hooks m op { m with jobs }
  | decided {env : GateEnv} {id : Nat} (c : Call) : m.proxy.calls id = some c →
      m.jobs id = some .running →
      Moves p hooks m (.decide env id)
        { m with
          jobs := Function.update m.jobs id (some (.done (m.service.evaluateAction hooks env p.tenantId
            (Mediator.action c) p.clientId (some c.traceId)).1))
          service := (m.service.evaluateAction hooks env p.tenantId (Mediator.action c) p.clientId
            (some c.traceId)).2 }

/-- A job that is not done is none of the results. -/
lemma update_done_iff {jobs : Nat → Option Job} {id : Nat} {job : Option Job}
    (before : ∀ result, jobs id ≠ some (.done result)) (after : ∀ result, job ≠ some (.done result))
    (other : Nat) (result : Except Exn ActionGateResult) :
    Function.update jobs id job other = some (.done result) ↔ jobs other = some (.done result) := by
  by_cases e : other = id
  · rw [e, Function.update_self]
    exact iff_of_false (after result) (before result)
  · rw [Function.update_of_ne e]

/-- No result is taken back. -/
lemma withdraw_done_iff (m : Mediation γ) (id other : Nat) (result : Except Exn ActionGateResult) :
    m.withdraw id other = some (.done result) ↔ m.jobs other = some (.done result) := by
  generalize left : m.withdraw id = jobs
  unfold withdraw at left
  split at left
  · rename_i c known queued
    split at left
    · obtain rfl := left
      refine update_done_iff (fun result done => ?_) (fun result done => ?_) other result
      · cases queued.symm.trans done
      · cases done
    · obtain rfl := left
      exact Iff.rfl
  · obtain rfl := left
    exact Iff.rfl

/-- Only a call that waits takes its job back. -/
lemma withdraw_of_not_waiting (m : Mediation γ) {id : Nat} {c : Call} (known : m.proxy.calls id = some c)
    (no : ¬ c.Waiting) : m.withdraw id = m.jobs := by
  unfold withdraw
  split
  · rename_i c' known' _
    cases known.symm.trans known'
    exact if_neg no
  · rfl

/-- Every step comes to one of these. -/
theorem upToHook_moves [Platform] [Regex] (p : Mediator) (hooks : CustodyHooks γ) (m : Mediation γ)
    (op : MediationOp) : Moves p hooks m op (m.upToHook p hooks op) := by
  have idle : ∀ {op : MediationOp}, Moves p hooks m op m := .worked m.jobs fun _ _ => Iff.rfl
  have kept : ∀ id result, m.jobs id = some (.done result) ↔ m.jobs id = some (.done result) :=
    fun _ _ => Iff.rfl
  cases op with
  | call env id tool arguments forward traceId now => exact .proxied _ m.jobs rfl kept
  | submit id =>
    unfold upToHook
    dsimp only
    split
    · rename_i c known free
      split
      · exact .worked _ (update_done_iff (by simp [free]) nofun)
      · exact idle
    · exact idle
  | take id =>
    unfold upToHook
    dsimp only
    split
    · rename_i queued
      exact .worked _ (update_done_iff (by simp [queued]) nofun)
    · exact idle
  | decide env id =>
    unfold upToHook
    dsimp only
    split
    · rename_i c known running
      exact .decided c known running
    · exact idle
  | answer env id now =>
    unfold upToHook
    dsimp only
    split
    · rename_i result done
      exact .proxied _ m.jobs ⟨result, done, rfl⟩ kept
    · exact idle
  | timeout env id now => exact .proxied _ _ rfl (m.withdraw_done_iff id)
  | cancel id now => exact .proxied _ _ rfl (m.withdraw_done_iff id)
  | forward id how => exact .proxied _ m.jobs rfl kept

/-- No step is of another call. -/
lemma upToHook_of_ne [Platform] [Regex] (p : Mediator) (hooks : CustodyHooks γ) (m : Mediation γ)
    {op : MediationOp} {other : Nat} (ne : other ≠ op.id) :
    (m.upToHook p hooks op).proxy.calls other = m.proxy.calls other ∧
      (m.upToHook p hooks op).jobs other = m.jobs other := by
  have withdrawn : ∀ id, other ≠ id → m.withdraw id other = m.jobs other := by
    intro id ne
    generalize left : m.withdraw id = jobs
    unfold withdraw at left
    split at left
    · split at left
      · rw [← left, Function.update_of_ne ne]
      · rw [left]
    · rw [left]
  cases op with
  | call env id tool arguments forward traceId now => exact ⟨ProxyState.step_calls_of_ne _ _ ne, rfl⟩
  | submit id =>
    unfold upToHook
    dsimp only
    split
    · split
      · exact ⟨rfl, Function.update_of_ne ne ..⟩
      · exact ⟨rfl, rfl⟩
    · exact ⟨rfl, rfl⟩
  | take id =>
    unfold upToHook
    dsimp only
    split
    · exact ⟨rfl, Function.update_of_ne ne ..⟩
    · exact ⟨rfl, rfl⟩
  | decide env id =>
    unfold upToHook
    dsimp only
    split
    · exact ⟨rfl, Function.update_of_ne ne ..⟩
    · exact ⟨rfl, rfl⟩
  | answer env id now =>
    unfold upToHook
    dsimp only
    split
    · exact ⟨ProxyState.step_calls_of_ne _ _ ne, rfl⟩
    · exact ⟨rfl, rfl⟩
  | timeout env id now => exact ⟨ProxyState.step_calls_of_ne _ _ ne, withdrawn id ne⟩
  | cancel id now => exact ⟨ProxyState.step_calls_of_ne _ _ ne, withdrawn id ne⟩
  | forward id how => exact ⟨ProxyState.step_calls_of_ne _ _ ne, rfl⟩

end Mediation

/-! ## What the gate writes -/

/-- The tenant's chain. -/
def Service.records (s : Service γ) (id : String) : List AuditRecord :=
  ((s.tenants.getStrict id).map (·.auditChain.records)).getD []

/-- The same tenants have the same records. -/
lemma Service.records_congr {s s' : Service γ} (tenants : s'.tenants = s.tenants) (id : String) :
    s'.records id = s.records id := by
  rw [records, records, tenants]

/-- A record that is appended is the last. -/
lemma Appended.records {s s' : Service γ} {id : String} {r : AuditRecord} (app : Appended s s' id r) :
    s'.records id = s.records id ++ [r] := by
  obtain ⟨ctx, known, tenants⟩ := app
  have here : s'.tenants.getStrict id = some
      { ctx with auditChain := { ctx.auditChain with records := ctx.auditChain.records ++ [r] } } := by
    rw [tenants]
    exact Function.update_self ..
  simp [Service.records, known, here]

/-- What a call of the gate for a mediated call comes to: a decision in the chain under the call's trace
id, or none and nothing that is allowed. -/
inductive Gates (s : Service γ) (id traceId : String) : Except Exn ActionGateResult × Service γ → Prop
  | silent (result : Except Exn ActionGateResult) (s' : Service γ) : s'.tenants = s.tenants →
      (∀ g, result = .ok g → g.decision.allowed = false) → Gates s id traceId (result, s')
  | recorded (r : AuditRecord) (g : ActionGateResult) (s' : Service γ) : Appended s s' id r →
      r.action = g.decision.action.value → r.traceId = some traceId →
      g.auditRecordHash = some r.recordHash → Gates s id traceId (.ok g, s')

variable [Platform]

/-- A call of the gate records its decision or raises. -/
lemma evaluateAction_gates [Regex] (hooks : CustodyHooks γ) (s : Service γ) (env : GateEnv)
    (id : String) (action : ActionRequest) (clientId traceId : String) :
    Gates s id traceId (s.evaluateAction hooks env id action clientId (some traceId)) := by
  have evaluated := s.evaluateAction_evaluated hooks env id action clientId (some traceId)
  generalize s.evaluateAction hooks env id action clientId (some traceId) = out at evaluated
  cases evaluated with
  | unknown none =>
    refine .silent _ s rfl fun g e => ?_
    cases e
    rfl
  | raised ctx e gate _ _ _ => exact .silent _ { s with gate } rfl nofun
  | decided ctx d gate result s' known _ _ settled =>
    cases settled with
    | recorded r stores rec =>
      obtain ⟨action, -, -, -, trace⟩ := rec.fields rfl
      exact .recorded r _ _ ⟨ctx, known, rfl⟩ action trace rfl
    | unrecorded stores _ =>
      refine .silent _ _ (setContext_self known) fun g e => ?_
      cases e
      by_cases ok : d.allowed = true
      · rw [if_pos ok]
        rfl
      · rw [if_neg ok]
        simpa using ok

/-- The chain of a known tenant is its own and its store takes an entry, which carries the evidence that
is asked for. -/
structure Lands (s : Service γ) (env : RecordEnv) (id : String) : Prop where
  known : ∃ ctx, s.tenants.getStrict id = some ctx
  takes : ∀ ctx, s.tenants.getStrict id = some ctx → ctx.auditChain.Takes s.stores.audit env
  evidence : ∀ ctx, s.tenants.getStrict id = some ctx → boundEvidenceRequired env.environ →
    truthy (s.cites env.environ id ctx.policyEngine) = true

/-- What the hook comes to: the deny in the chain under the call's trace id and the refusal's rule, or
nothing. -/
inductive Reconciles (s : Service γ) (d : MediatedDenial) : Bool × Service γ → Prop
  | silent (s' : Service γ) : s'.tenants = s.tenants → Reconciles s d (false, s')
  | recorded (r : AuditRecord) (s' : Service γ) : Appended s s' d.tenantId r → r.action = "DENY" →
      r.traceId = some d.traceId → r.triggeredRule = some d.rule → Reconciles s d (true, s')

/-- A call of the hook records the deny or says that it did not. -/
lemma recordDenial_reconciles (s : Service γ) (env : RequestEnv) (d : MediatedDenial) :
    Reconciles s d (CustosGateAdapter.recordDenial s env d) := by
  unfold CustosGateAdapter.recordDenial Service.recordReconciliation
  cases known : s.tenants.getStrict d.tenantId with
  | none => exact .silent s rfl
  | some ctx =>
    dsimp only
    by_cases no : d.traceId = "" ∨ d.rule = ""
    · obtain ⟨e, refused⟩ := reconcileIn_of_unnamed no ctx.auditChain s.stores env.toRecordEnv d.clientId
        (d.rule ++ " tool=" ++ d.tool) d.reason
        (s.gate.citedPolicyDigest env.environ d.tenantId ctx.policyEngine).1 (some d.tenantId)
      rw [refused]
      exact .silent _ (setContext_self known)
    · obtain ⟨trace, named⟩ := not_or.1 no
      rw [reconcileIn_of_named trace named]
      obtain ⟨recorded, cases⟩ := recordIn_outcome trivial ctx.auditChain s.stores env.toRecordEnv
        (d.args (s.cites env.environ d.tenantId ctx.policyEngine)) none_mem_forms
      -- over any outcome of `record`, so that its cases can be taken apart
      have goes : ∀ out : Except Exn AuditRecord × AuditChain × Stores,
          ((∃ e, out.1 = .error e) ∧ out.2.1 = ctx.auditChain ∨ ∃ r, out.1 = .ok r ∧
            out.2.1 = { ctx.auditChain with records := ctx.auditChain.records ++ [r] }) →
          Recording True ctx.auditChain s.stores env.toRecordEnv
            (d.args (s.cites env.environ d.tenantId ctx.policyEngine)) out.2.1 out.2.2 →
          Reconciles s d (out.1.toOption.isSome,
            { tenants := s.tenants.setContext d.tenantId { ctx with auditChain := out.2.1 }
              gate := (s.gate.citedPolicyDigest env.environ d.tenantId ctx.policyEngine).2
              stores := out.2.2 }) := by
        rintro ⟨result, chain, stores⟩ (⟨⟨e, rfl⟩, rfl⟩ | ⟨r, rfl, rfl⟩) recorded
        · exact .silent _ (setContext_self known)
        · obtain ⟨action, rule, -, -, trace⟩ := recorded.fields rfl
          exact .recorded r _ ⟨ctx, known, rfl⟩ action trace rule
      exact goes _ cases recorded

omit [Platform] in
/-- On its tenant's chain the hook's record needs nothing but a digest, where the rule is in force. -/
lemma MediatedDenial.admissible_iff (d : MediatedDenial) {c : AuditChain} (scope : c.tenantId = some d.tenantId)
    (trace : d.traceId ≠ "") (environ : Environ) (digest : Option String) :
    c.Admissible environ (d.args digest) ↔ (boundEvidenceRequired environ = true → truthy digest = true) := by
  constructor
  · exact fun adm bound => (AuditChain.missingEvidence_eq_nil.1 (adm.evidence bound)).1
  · intro evidence
    have resolves : c.resolveTenant (some d.tenantId) = .ok (some d.tenantId) := by
      simp [AuditChain.resolveTenant, scope]
    have traced : truthy (some d.traceId) = true := by simp [truthy, present_some trace]
    exact ⟨none_mem_forms, ⟨_, resolves⟩, fun bound => AuditChain.missingEvidence_eq_nil.2 ⟨evidence bound, traced⟩⟩

/-- The hook writes its record exactly where one lands. -/
lemma recordDenial_iff {s : Service γ} {env : RequestEnv} {d : MediatedDenial}
    (scope : ∀ ctx, s.tenants.getStrict d.tenantId = some ctx → ctx.auditChain.tenantId = some d.tenantId)
    (trace : d.traceId ≠ "") (named : d.rule ≠ "") :
    (CustosGateAdapter.recordDenial s env d).1 = true ↔ Lands s env.toRecordEnv d.tenantId := by
  unfold CustosGateAdapter.recordDenial Service.recordReconciliation
  cases known : s.tenants.getStrict d.tenantId with
  | none =>
    refine iff_of_false nofun fun lands => ?_
    obtain ⟨ctx, known'⟩ := lands.known
    exact absurd (known.symm.trans known') nofun
  | some ctx =>
    dsimp only
    rw [reconcileIn_of_named trace named]
    have goes : (ctx.auditChain.recordIn s.stores env.toRecordEnv
          (d.args (s.cites env.environ d.tenantId ctx.policyEngine))).1.toOption.isSome = true ↔
        ∃ r, (ctx.auditChain.record s.stores.audit env.toRecordEnv
          (d.args (s.cites env.environ d.tenantId ctx.policyEngine))).1 = .ok r := by
      unfold AuditChain.recordIn
      cases (ctx.auditChain.record s.stores.audit env.toRecordEnv _).1 <;> simp [Except.toOption]
    refine Iff.trans goes ?_
    have admissible := d.admissible_iff (scope ctx known) trace env.environ
      (s.cites env.environ d.tenantId ctx.policyEngine)
    by_cases evidence : boundEvidenceRequired env.environ →
        truthy (s.cites env.environ d.tenantId ctx.policyEngine) = true
    · rw [AuditChain.record_ok_iff (scope ctx known) (admissible.2 evidence)]
      constructor
      · intro takes
        refine ⟨⟨ctx, known⟩, fun ctx' known' => ?_, fun ctx' known' => ?_⟩
        · cases known.symm.trans known'
          exact takes
        · cases known.symm.trans known'
          exact evidence
      · exact fun lands => lands.takes ctx known
    · refine iff_of_false ?_ fun lands => evidence (lands.evidence ctx known)
      rintro ⟨r, ok⟩
      obtain ⟨e, refused⟩ := AuditChain.record_of_not_admissible (t := s.stores.audit) fun adm =>
        evidence (admissible.1 adm)
      rw [refused] at ok
      cases ok

omit [Platform] in
/-- The gate drops no record. -/
lemma Gates.records_subset {s : Service γ} {id traceId : String}
    {out : Except Exn ActionGateResult × Service γ} (gates : Gates s id traceId out) :
    s.records id ⊆ out.2.records id := by
  cases gates with
  | silent result s' tenants _ =>
    show s.records id ⊆ s'.records id
    rw [Service.records_congr tenants]
    exact List.Subset.refl _
  | recorded r g s' app _ _ _ =>
    rw [app.records]
    exact List.subset_append_left ..

omit [Platform] in
lemma Reconciles.records_subset {s : Service γ} {d : MediatedDenial} {out : Bool × Service γ}
    (reconciles : Reconciles s d out) : s.records d.tenantId ⊆ out.2.records d.tenantId := by
  cases reconciles with
  | silent s' tenants =>
    show s.records d.tenantId ⊆ s'.records d.tenantId
    rw [Service.records_congr tenants]
    exact List.Subset.refl _
  | recorded r s' app _ _ _ =>
    rw [app.records]
    exact List.subset_append_left ..

/-! ## What a whole step keeps -/

namespace Mediation

omit [Platform] in
/-- A call that is not to be reconciled is left. -/
lemma reconcile_of_not [Platform] {p : Mediator} {m : Mediation γ} {id : Nat} (env : RequestEnv)
    (no : ∀ c refusal, m.proxy.calls id = some c → c.phase ≠ .reconciling refusal) :
    m.reconcile p env id = m := by
  unfold reconcile
  cases known : m.proxy.calls id with
  | none => rfl
  | some c =>
    dsimp only
    split
    · rename_i refusal phase
      exact absurd phase (no c refusal known)
    · rfl

lemma reconcile_of_reconciling {p : Mediator} {m : Mediation γ} {id : Nat} {c : Call}
    {refusal : OwnRefusal} (env : RequestEnv) (known : m.proxy.calls id = some c)
    (phase : c.phase = .reconciling refusal) :
    m.reconcile p env id =
      { m with
        proxy := m.proxy.step p.toMcpProxy (.reconcile id (.returned
          (CustosGateAdapter.recordDenial m.service env (p.denial c refusal)).1))
        service := (CustosGateAdapter.recordDenial m.service env (p.denial c refusal)).2 } := by
  unfold reconcile
  rw [known]
  dsimp only
  rw [phase]

/-- The hook is called for a call that waits for it, and nothing is done for another. -/
lemma reconcile_cases (p : Mediator) (m : Mediation γ) (env : RequestEnv) (id : Nat) :
    (∃ c refusal, m.proxy.calls id = some c ∧ c.phase = .reconciling refusal ∧
      m.reconcile p env id =
        { m with
          proxy := m.proxy.step p.toMcpProxy (.reconcile id (.returned
            (CustosGateAdapter.recordDenial m.service env (p.denial c refusal)).1))
          service := (CustosGateAdapter.recordDenial m.service env (p.denial c refusal)).2 }) ∨
      m.reconcile p env id = m := by
  by_cases refused : ∃ c refusal, m.proxy.calls id = some c ∧ c.phase = .reconciling refusal
  · obtain ⟨c, refusal, known, phase⟩ := refused
    exact .inl ⟨c, refusal, known, phase, reconcile_of_reconciling env known phase⟩
  · exact .inr (reconcile_of_not env fun c refusal known phase => refused ⟨c, refusal, known, phase⟩)

omit [Platform] in
lemma id_of_reconciles {op : MediationOp} {env : RequestEnv} {id : Nat}
    (reconciles : op.reconciles = some (env, id)) : id = op.id := by
  cases op <;> cases reconciles <;> rfl

/-- The other calls are left. -/
lemma reconcile_of_ne (p : Mediator) (m : Mediation γ) (env : RequestEnv) {id other : Nat}
    (ne : other ≠ id) : (m.reconcile p env id).proxy.calls other = m.proxy.calls other ∧
      (m.reconcile p env id).jobs other = m.jobs other := by
  rcases m.reconcile_cases p env id with ⟨c, refusal, known, phase, eq⟩ | eq
  · rw [eq]
    exact ⟨ProxyState.step_calls_of_ne _ _ ne, rfl⟩
  · rw [eq]
    exact ⟨rfl, rfl⟩

/-- What a step keeps up to its hook and the hook keeps, the step keeps. -/
lemma step_of_hook [Regex] {p : Mediator} {hooks : CustodyHooks γ} {m : Mediation γ}
    {op : MediationOp} {P : Mediation γ → Prop} (before : P (m.upToHook p hooks op))
    (hook : ∀ env id, op.reconciles = some (env, id) →
      P ((m.upToHook p hooks op).reconcile p env id)) : P (m.step p hooks op) := by
  unfold step
  cases reconciles : op.reconciles with
  | none => exact before
  | some pair => exact hook pair.1 pair.2 reconciles

/-- No step is of another call. -/
lemma step_of_ne [Regex] (p : Mediator) (hooks : CustodyHooks γ) (m : Mediation γ) {op : MediationOp}
    {other : Nat} (ne : other ≠ op.id) :
    (m.step p hooks op).proxy.calls other = m.proxy.calls other ∧
      (m.step p hooks op).jobs other = m.jobs other := by
  have before := m.upToHook_of_ne p hooks ne
  refine step_of_hook (P := fun m' => m'.proxy.calls other = m.proxy.calls other ∧
    m'.jobs other = m.jobs other) before fun env id reconciles => ?_
  have hook := (m.upToHook p hooks op).reconcile_of_ne p env (id_of_reconciles reconciles ▸ ne)
  exact ⟨hook.1.trans before.1, hook.2.trans before.2⟩

/-- No record leaves the tenant's chain, and no invocation the list. -/
lemma step_grows [Regex] (p : Mediator) (hooks : CustodyHooks γ) (m : Mediation γ) (op : MediationOp) :
    m.service.records p.tenantId ⊆ (m.step p hooks op).service.records p.tenantId ∧
      m.proxy.forwards ⊆ (m.step p hooks op).proxy.forwards := by
  have before : m.service.records p.tenantId ⊆ (m.upToHook p hooks op).service.records p.tenantId ∧
      m.proxy.forwards ⊆ (m.upToHook p hooks op).proxy.forwards := by
    have moves := m.upToHook_moves p hooks op
    generalize m.upToHook p hooks op = m' at moves
    cases moves with
    | proxied step jobs _ _ =>
      exact ⟨List.Subset.refl _, ProxyState.step_forwards_subset p.toMcpProxy m.proxy step⟩
    | worked jobs _ => exact ⟨List.Subset.refl _, List.Subset.refl _⟩
    | decided c _ _ =>
      exact ⟨(evaluateAction_gates hooks m.service _ p.tenantId (Mediator.action c) p.clientId
        c.traceId).records_subset, List.Subset.refl _⟩
  refine step_of_hook (P := fun m' => m.service.records p.tenantId ⊆ m'.service.records p.tenantId ∧
    m.proxy.forwards ⊆ m'.proxy.forwards) before fun env id _ => ?_
  generalize m.upToHook p hooks op = m' at before
  rcases m'.reconcile_cases p env id with ⟨c, refusal, known, phase, eq⟩ | eq
  · rw [eq]
    have hook := (recordDenial_reconciles m'.service env (p.denial c refusal)).records_subset
    exact ⟨List.Subset.trans before.1 hook,
      List.Subset.trans before.2 (ProxyState.step_forwards_subset p.toMcpProxy m'.proxy _)⟩
  · rw [eq]
    exact before

/-- The proxy takes a step or two, and the second invokes no upstream. -/
lemma step_proxy [Regex] (p : Mediator) (hooks : CustodyHooks γ) (m : Mediation γ) (op : MediationOp) :
    (m.step p hooks op).proxy = (m.upToHook p hooks op).proxy ∨ ∃ env id how,
      op.reconciles = some (env, id) ∧
        (m.step p hooks op).proxy = (m.upToHook p hooks op).proxy.step p.toMcpProxy (.reconcile id how) := by
  refine step_of_hook (P := fun m' => m'.proxy = (m.upToHook p hooks op).proxy ∨ ∃ env id how,
    op.reconciles = some (env, id) ∧
      m'.proxy = (m.upToHook p hooks op).proxy.step p.toMcpProxy (.reconcile id how))
    (.inl rfl) fun env id reconciles => ?_
  generalize m.upToHook p hooks op = m'
  rcases m'.reconcile_cases p env id with ⟨c, refusal, known, phase, eq⟩ | eq
  · rw [eq]
    exact .inr ⟨env, id, _, reconciles, rfl⟩
  · rw [eq]
    exact .inl rfl

end Mediation

end Custos
