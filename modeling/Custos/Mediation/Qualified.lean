import Custos.Mediation.Reconcile

/-!
# Permits that were not used

A call may be refused although the gate has permitted it, or is about to: then a permit stands in the
chain for an action that did not run, and only a deny under the same trace id takes it back. The proxy has
one written when the call times out and when the circuit is open. It has none written when the adapter
narrows an audit to a refusal, nor when the call is cancelled (`refusals_qualified_iff`).
-/

namespace Custos

/-- The record says that the action may run. -/
def AuditRecord.Permits (r : AuditRecord) : Prop :=
  r.action = PolicyAction.ALLOW.value ∨ r.action = PolicyAction.AUDIT.value

/-- The record says that the action must not run: the gate's deny and the hook's. -/
def AuditRecord.Denies (r : AuditRecord) : Prop := r.action = PolicyAction.DENY.value ∨ r.action = "DENY"

/-- A deny is no permit. -/
lemma AuditRecord.not_permits_of_denies {r : AuditRecord} (denies : r.Denies) : ¬ r.Permits := by
  unfold Denies at denies
  unfold Permits
  rcases denies with e | e <;> rw [e] <;> decide

/-- A record of a decision permits what the decision allows. -/
lemma AuditRecord.permits_iff {r : AuditRecord} {d : PolicyResult} (action : r.action = d.action.value) :
    r.Permits ↔ d.allowed = true := by
  rw [d.consistent, Permits, action]
  cases d.action <;> decide

/-- The record of a decision denies where the decision does. -/
lemma AuditRecord.denies_iff {r : AuditRecord} {d : PolicyResult} (action : r.action = d.action.value) :
    r.Denies ↔ d.allowed = false := by
  rw [d.consistent, Denies, action]
  cases d.action <;> decide

/-- Under the trace id stands a record of this kind. -/
def Carries (records : List AuditRecord) (traceId : String) (kind : AuditRecord → Prop) : Prop :=
  ∃ r ∈ records, r.traceId = some traceId ∧ kind r

/-- A further record carries by itself. -/
lemma carries_snoc {records : List AuditRecord} {r : AuditRecord} {traceId : String}
    {kind : AuditRecord → Prop} : Carries (records ++ [r]) traceId kind ↔
      Carries records traceId kind ∨ r.traceId = some traceId ∧ kind r := by
  simp only [Carries, List.mem_append, List.mem_singleton, or_and_right, exists_or, exists_eq_left]

/-- What is carried stays so as the log grows. -/
lemma Carries.mono {records records' : List AuditRecord} (grown : records ⊆ records') {traceId : String}
    {kind : AuditRecord → Prop} (carries : Carries records traceId kind) :
    Carries records' traceId kind := by
  obtain ⟨r, mem, at'⟩ := carries
  exact ⟨r, grown mem, at'⟩

section

/-- The gate decides in this step. -/
def MediationOp.Decides : MediationOp → Prop
  | .decide _ _ => True
  | _ => False

variable {γ : Type}

/-- What the hook wrote denies a call that was not denied. -/
lemma Reconciles.denied_iff {s : Service γ} {d : MediatedDenial} {out : Bool × Service γ}
    (reconciles : Reconciles s d out)
    (undenied : ¬ Carries (s.records d.tenantId) d.traceId AuditRecord.Denies) :
    Carries (out.2.records d.tenantId) d.traceId AuditRecord.Denies ↔ out.1 = true := by
  cases reconciles with
  | silent s' tenants =>
    refine iff_of_false ?_ nofun
    rwa [Service.records, tenants]
  | recorded r s' app action trace rule =>
    refine iff_of_true ?_ rfl
    rw [app.records]
    exact carries_snoc.2 (.inr ⟨trace, .inr action⟩)

namespace Mediation

/-- The gate has permitted the call. -/
def Authorizes (m : Mediation γ) (id : Nat) : Prop :=
  ∃ g, m.jobs id = some (.done (.ok g)) ∧ g.decision.allowed = true

/-- The call has ended, and neither was the upstream invoked for it nor does it say so. -/
structure Refused (m : Mediation γ) (id : Nat) (c : Call) : Prop where
  ended : c.Ended
  unforwarded : id ∉ m.proxy.forwards
  unreported : ∀ o, c.phase = .ended (.returned o) → o.forwarded = false

/-- And the gate is done with it. -/
structure Finished (m : Mediation γ) (id : Nat) (c : Call) : Prop extends Refused m id c where
  answered : m.jobs id = none ∨ ∃ result, m.jobs id = some (.done result)

/-- A deny stands in the chain under the call's trace id. -/
def Denied (p : Mediator) (m : Mediation γ) (c : Call) : Prop :=
  Carries (m.service.records p.tenantId) c.traceId AuditRecord.Denies

/-- No call that was refused, and that the gate is done with, left a permit in the chain without a deny. -/
def Qualified (p : Mediator) (m : Mediation γ) : Prop :=
  ∀ id c, m.proxy.calls id = some c → m.Finished id c →
    Carries (m.service.records p.tenantId) c.traceId AuditRecord.Permits → m.Denied p c

/-- A trace id that is minted is new. -/
def Fresh (p : Mediator) (m : Mediation γ) : MediationOp → Prop
  | .call _ id _ _ _ traceId _ => m.proxy.calls id = none →
    (∀ id' c', m.proxy.calls id' = some c' → c'.traceId ≠ traceId) ∧
      ∀ r ∈ m.service.records p.tenantId, r.traceId ≠ some traceId
  | _ => True

variable [Platform]

/-- Where the hook is called, the audit store takes an entry of the tenant's chain. -/
def Accepts [Regex] (p : Mediator) (hooks : CustodyHooks γ) (m : Mediation γ) (op : MediationOp) : Prop :=
  ∀ env id, m.Hooked p hooks op env id → ∀ ctx, m.service.tenants.getStrict p.tenantId = some ctx →
    ctx.auditChain.Takes m.service.stores.audit env.toRecordEnv

/-- No audit reaches a call that waits, none is cancelled that the gate has permitted, one that times out
after the gate has permitted it finds its policy citable if it must be, and the gate permits none that was
refused without a deny. -/
def Compensated [Regex] (p : Mediator) (hooks : CustodyHooks γ) (m : Mediation γ) : MediationOp → Prop
  | .answer _ id _ => ∀ c g, m.proxy.calls id = some c → c.Waiting →
    m.jobs id = some (.done (.ok g)) → g.decision.action ≠ .AUDIT
  | .cancel id _ => ∀ c, m.proxy.calls id = some c → c.Waiting → ¬ m.Authorizes id
  | .timeout env id _ => ∀ c, m.proxy.calls id = some c → c.Waiting → m.Authorizes id →
    ∀ ctx, m.service.tenants.getStrict p.tenantId = some ctx → boundEvidenceRequired env.environ →
      truthy (m.service.cites env.environ p.tenantId ctx.policyEngine) = true
  | .decide env id => ∀ c, m.proxy.calls id = some c → m.jobs id = some .running → m.Refused id c →
    ¬ m.Denied p c → ∀ g, (m.service.evaluateAction hooks env p.tenantId (Mediator.action c) p.clientId
      (some c.traceId)).1 = .ok g → g.decision.allowed = false
  | _ => True

/-! ## How records, jobs and calls belong together -/

omit [Platform] in
/-- A permit in the chain is a decision of the gate for the call, and a deny is one or the hook's. -/
structure Linked (p : Mediator) (m : Mediation γ) : Prop where
  once : m.proxy.Once
  own : m.service.OwnChain p.tenantId
  known : ∀ id result, m.jobs id = some (.done result) → ∃ c, m.proxy.calls id = some c
  traces : ∀ id id' c c', m.proxy.calls id = some c → m.proxy.calls id' = some c' →
    c.traceId = c'.traceId → id = id'
  permitted : ∀ id c, m.proxy.calls id = some c →
    (Carries (m.service.records p.tenantId) c.traceId AuditRecord.Permits ↔ m.Authorizes id)
  denied : ∀ id c, m.proxy.calls id = some c → m.Denied p c →
    (∃ o, c.phase = .ended (.returned o) ∧ o.reconciled = true) ∨
      ∃ g, m.jobs id = some (.done (.ok g)) ∧ g.decision.allowed = false

omit [Platform] in
/-- At the start nothing is to be linked. -/
lemma Linked.init {p : Mediator} {s : Service γ} (own : s.OwnChain p.tenantId) :
    ({ service := s } : Mediation γ).Linked p := by
  refine ⟨.init, own, fun _ _ done => ?_, fun _ _ _ _ known => ?_, fun _ _ known => ?_,
    fun _ _ known => ?_⟩
  · cases done
  · cases known
  · cases known
  · cases known

omit [Platform] in
/-- What is new under a call's trace id when a record is appended for one call. -/
lemma Linked.carries_appended {p : Mediator} {m : Mediation γ} (linked : m.Linked p) {id id' : Nat}
    {c c' : Call} (known : m.proxy.calls id = some c) (known' : m.proxy.calls id' = some c')
    {r : AuditRecord} (trace : r.traceId = some c.traceId) {kind : AuditRecord → Prop} :
    Carries (m.service.records p.tenantId ++ [r]) c'.traceId kind ↔
      Carries (m.service.records p.tenantId) c'.traceId kind ∨ id' = id ∧ kind r := by
  rw [carries_snoc, trace, Option.some.injEq]
  refine or_congr Iff.rfl (and_congr ⟨fun e => ?_, ?_⟩ Iff.rfl)
  · exact linked.traces id' id c' c known' known e.symm
  · rintro rfl
    cases known.symm.trans known'
    rfl

omit [Platform] in
/-- A trace id that is minted belongs to one call. -/
lemma Linked.traces_step {p : Mediator} {m : Mediation γ} (linked : m.Linked p) {step : ProxyOp}
    (fresh : ∀ id tool arguments forward traceId now,
      step = .call id tool arguments forward traceId now → m.proxy.calls id = none →
        ∀ id' c', m.proxy.calls id' = some c' → c'.traceId ≠ traceId)
    {id id' : Nat} {c c' : Call} (after : (m.proxy.step p.toMcpProxy step).calls id = some c)
    (after' : (m.proxy.step p.toMcpProxy step).calls id' = some c') (same : c.traceId = c'.traceId) :
    id = id' := by
  have kept : ∀ {id : Nat} {c c₀ : Call}, m.proxy.calls id = some c₀ →
      (m.proxy.step p.toMcpProxy step).calls id = some c → c₀.traceId = c.traceId := by
    intro id c c₀ known after
    obtain ⟨phase, after', -⟩ := m.proxy.step_keeps p.toMcpProxy step known
    cases after.symm.trans after'
    rfl
  rcases ProxyState.step_calls after with ⟨c₀, known⟩ | ⟨new, _, _, _, _, e⟩
  · rcases ProxyState.step_calls after' with ⟨c₀', known'⟩ | ⟨new', _, _, _, _, e'⟩
    · exact linked.traces id id' c₀ c₀' known known'
        ((kept known after).trans (same.trans (kept known' after').symm))
    · exact absurd ((kept known after).trans same) (fresh _ _ _ _ _ _ e' new' id c₀ known)
  · rcases ProxyState.step_calls after' with ⟨c₀', known'⟩ | ⟨new', _, _, _, _, e'⟩
    · exact absurd ((kept known' after').trans same.symm) (fresh _ _ _ _ _ _ e new id' c₀' known')
    · exact (ProxyOp.call.inj (e.symm.trans e')).1

omit [Platform] in
/-- A step of the proxy leaves all linked as it is. -/
lemma Linked.proxied {p : Mediator} {m : Mediation γ} (linked : m.Linked p) {step : ProxyOp}
    {jobs : Nat → Option Job}
    (fresh : ∀ id tool arguments forward traceId now,
      step = .call id tool arguments forward traceId now → m.proxy.calls id = none →
        (∀ id' c', m.proxy.calls id' = some c' → c'.traceId ≠ traceId) ∧
          ∀ r ∈ m.service.records p.tenantId, r.traceId ≠ some traceId)
    (same : ∀ id result, jobs id = some (.done result) ↔ m.jobs id = some (.done result)) :
    ({ m with proxy := m.proxy.step p.toMcpProxy step, jobs } : Mediation γ).Linked p := by
  have authorizes : ∀ id,
      ({ m with proxy := m.proxy.step p.toMcpProxy step, jobs } : Mediation γ).Authorizes id ↔
        m.Authorizes id := by
    intro id
    unfold Authorizes
    simp only [same]
  -- a call that begins has a fresh trace id, so no record is its own yet
  have none : ∀ {id : Nat} {kind : AuditRecord → Prop} {c : Call},
      (m.proxy.step p.toMcpProxy step).calls id = some c → m.proxy.calls id = none →
        ¬ Carries (m.service.records p.tenantId) c.traceId kind := by
    rintro id kind c after new ⟨r, mem, trace, -⟩
    rcases ProxyState.step_calls after with ⟨c₀, known⟩ | ⟨new, _, _, _, _, e⟩
    · cases new.symm.trans known
    · exact (fresh _ _ _ _ _ _ e new).2 r mem trace
  refine ⟨linked.once.step p.toMcpProxy step, linked.own, fun id result done => ?_,
    fun id id' c c' => linked.traces_step fun id _ _ _ _ _ e new => (fresh id _ _ _ _ _ e new).1,
    fun id c after => ?_, fun id c after denied => ?_⟩
  · obtain ⟨c, known⟩ := linked.known id result ((same id result).1 done)
    obtain ⟨phase, after, -⟩ := m.proxy.step_keeps p.toMcpProxy step known
    exact ⟨_, after⟩
  · rw [authorizes]
    cases known : m.proxy.calls id with
    | none =>
      refine iff_of_false (none after known) ?_
      rintro ⟨g, done, -⟩
      obtain ⟨c', known'⟩ := linked.known id _ done
      cases known.symm.trans known'
    | some c₀ =>
      obtain ⟨phase, after', -⟩ := m.proxy.step_keeps p.toMcpProxy step known
      cases after.symm.trans after'
      exact linked.permitted id c₀ known
  · cases known : m.proxy.calls id with
    | none => exact absurd denied (none after known)
    | some c₀ =>
      obtain ⟨phase, after', -, ended⟩ := m.proxy.step_keeps p.toMcpProxy step known
      cases after.symm.trans after'
      rcases linked.denied id c₀ known denied with ⟨o, returned, reconciled⟩ | ⟨g, done, no⟩
      · exact .inl ⟨o, (ended ⟨_, returned⟩).trans returned, reconciled⟩
      · exact .inr ⟨g, (same id _).2 done, no⟩

omit [Platform] in
/-- A decision of the gate is linked to its record. -/
lemma Linked.decided {p : Mediator} {m : Mediation γ} (linked : m.Linked p) {id : Nat} {c : Call}
    (known : m.proxy.calls id = some c) (running : m.jobs id = some .running)
    {out : Except Exn ActionGateResult × Service γ}
    (gates : Gates m.service p.tenantId c.traceId out) :
    ({ m with jobs := Function.update m.jobs id (some (.done out.1)), service := out.2 } :
      Mediation γ).Linked p := by
  -- the job was running, so no result is overwritten
  have kept : ∀ {id' result}, m.jobs id' = some (.done result) →
      Function.update m.jobs id (some (.done out.1)) id' = some (.done result) := by
    intro id' result done
    have ne : id' ≠ id := by
      rintro rfl
      cases running.symm.trans done
    rw [Function.update_of_ne ne]
    exact done
  have jobs : ∀ {id' g}, Function.update m.jobs id (some (.done out.1)) id' = some (.done (.ok g)) ↔
      m.jobs id' = some (.done (.ok g)) ∨ id' = id ∧ out.1 = .ok g := by
    intro id' g
    refine ⟨fun done => ?_, ?_⟩
    · by_cases e : id' = id
      · rw [e, Function.update_self] at done
        exact .inr ⟨e, Job.done.inj (Option.some.inj done)⟩
      · rw [Function.update_of_ne e] at done
        exact .inl done
    · rintro (done | ⟨rfl, ok⟩)
      · exact kept done
      · rw [Function.update_self, ok]
  refine ⟨linked.once, gates.ownChain linked.own, fun id' result done => ?_, linked.traces,
    fun id' c' known' => ?_, fun id' c' known' denied => ?_⟩
  · by_cases e : id' = id
    · exact ⟨c, e ▸ known⟩
    · exact linked.known id' result ((Function.update_of_ne e ..).symm.trans done)
  · unfold Authorizes
    simp only [jobs, or_and_right, exists_or, and_assoc, exists_and_left]
    have before := linked.permitted id' c' known'
    cases gates with
    | silent result s' tenants denies =>
      have same := Service.records_congr tenants p.tenantId
      rw [same, before]
      refine ⟨.inl, fun h => h.resolve_right ?_⟩
      rintro ⟨-, g, ok, allowed⟩
      cases (denies g ok).symm.trans allowed
    | recorded r g s' app action trace hash =>
      rw [app.records, linked.carries_appended known known' trace, before,
        AuditRecord.permits_iff action]
      refine or_congr Iff.rfl (and_congr Iff.rfl ⟨fun allowed => ⟨g, rfl, allowed⟩, ?_⟩)
      rintro ⟨g', ok, allowed⟩
      cases ok
      exact allowed
  · have after : m.Denied p c' → (∃ o, c'.phase = .ended (.returned o) ∧ o.reconciled = true) ∨
        ∃ g, Function.update m.jobs id (some (.done out.1)) id' = some (.done (.ok g)) ∧
          g.decision.allowed = false := by
      intro denied
      rcases linked.denied id' c' known' denied with ended | ⟨g, done, no⟩
      · exact .inl ended
      · exact .inr ⟨g, kept done, no⟩
    cases gates with
    | silent result s' tenants denies =>
      refine after ?_
      have same := Service.records_congr tenants p.tenantId
      unfold Denied at denied
      rwa [same] at denied
    | recorded r g s' app action trace hash =>
      unfold Denied at denied
      rw [app.records, linked.carries_appended known known' trace] at denied
      rcases denied with denied | ⟨e, denies⟩
      · exact after denied
      · exact .inr ⟨g, jobs.2 (.inr ⟨e, rfl⟩), (AuditRecord.denies_iff action).1 denies⟩

/-- A step up to the hook keeps records, jobs and calls linked. -/
lemma Linked.upToHook [Regex] {p : Mediator} (hooks : CustodyHooks γ) {m : Mediation γ}
    (linked : m.Linked p) {op : MediationOp} (fresh : m.Fresh p op) :
    (m.upToHook p hooks op).Linked p := by
  have moves := m.upToHook_moves p hooks op
  generalize m.upToHook p hooks op = m' at moves
  cases moves with
  | proxied step jobs runs same =>
    refine linked.proxied (fun id tool arguments forward traceId now e new => ?_) same
    obtain rfl := e
    obtain ⟨env, rfl⟩ := runs.of_call
    exact fresh new
  | worked jobs same =>
    refine ⟨linked.once, linked.own, fun id result done => linked.known id result ((same id result).1 done),
      linked.traces, fun id c known => ?_, fun id c known denied => ?_⟩
    · refine (linked.permitted id c known).trans ?_
      unfold Authorizes
      simp only [same]
    · rcases linked.denied id c known denied with ended | ⟨g, done, no⟩
      · exact .inl ended
      · exact .inr ⟨g, (same id _).2 done, no⟩
  | @decided env id c known running =>
    exact linked.decided known running (evaluateAction_gates hooks m.service env p.tenantId
      (Mediator.action c) p.clientId c.traceId)

omit [Platform] in
/-- What leaves the tenants alone leaves all linked as it is. -/
lemma Linked.silent {p : Mediator} {m : Mediation γ} (linked : m.Linked p) {s' : Service γ}
    (tenants : s'.tenants = m.service.tenants) : ({ m with service := s' } : Mediation γ).Linked p := by
  have same := Service.records_congr tenants p.tenantId
  refine ⟨linked.once, linked.own.congr tenants, linked.known, linked.traces, fun id c known => ?_,
    fun id c known denied => linked.denied id c known ?_⟩
  · dsimp only
    rw [same]
    exact linked.permitted id c known
  · unfold Denied at denied ⊢
    dsimp only at denied
    rwa [same] at denied

omit [Platform] in
/-- A deny is linked to the call that was reconciled with it. -/
lemma Linked.denies {p : Mediator} {m : Mediation γ} (linked : m.Linked p) {id : Nat} {c : Call}
    {o : ProxyOutcome} (known : m.proxy.calls id = some c) (phase : c.phase = .ended (.returned o))
    (reconciled : o.reconciled = true) {s' : Service γ} {r : AuditRecord}
    (app : Appended m.service s' p.tenantId r) (trace : r.traceId = some c.traceId) (denies : r.Denies) :
    ({ m with service := s' } : Mediation γ).Linked p := by
  refine ⟨linked.once, linked.own.appended app, linked.known, linked.traces, fun id' c' known' => ?_,
    fun id' c' known' denied => ?_⟩
  · dsimp only
    rw [app.records, linked.carries_appended known known' trace]
    refine Iff.trans (or_iff_left fun permits => ?_) (linked.permitted id' c' known')
    exact AuditRecord.not_permits_of_denies denies permits.2
  · unfold Denied at denied
    dsimp only at denied
    rw [app.records, linked.carries_appended known known' trace] at denied
    rcases denied with denied | ⟨rfl, -⟩
    · exact linked.denied id' c' known' denied
    · cases known.symm.trans known'
      exact .inl ⟨o, phase, reconciled⟩

/-- The hook's deny is linked to the refusal it is written for. -/
lemma Linked.reconcile {p : Mediator} {m : Mediation γ} (linked : m.Linked p) (env : RequestEnv)
    (id : Nat) : (m.reconcile p env id).Linked p := by
  rcases m.reconcile_cases p env id with ⟨c, refusal, known, phase, eq⟩ | eq
  · rw [eq]
    have reconciles := recordDenial_reconciles m.service env (p.denial c refusal)
    generalize CustosGateAdapter.recordDenial m.service env (p.denial c refusal) = out at reconciles ⊢
    let step : ProxyOp := .reconcile id (.returned out.1)
    have stepped : ({ m with proxy := m.proxy.step p.toMcpProxy step } : Mediation γ).Linked p :=
      linked.proxied (fun _ _ _ _ _ _ e => absurd e nofun) fun _ _ => Iff.rfl
    have goes : (m.proxy.step p.toMcpProxy step).calls id =
        some { c with phase := .ended (ProxyState.reconcileEnd c refusal (.returned out.1)) } := by
      simp [step, ProxyState.step, known, phase]
    cases reconciles with
    | silent s' tenants => exact stepped.silent tenants
    | recorded r s' app action trace rule => exact stepped.denies goes rfl rfl app trace (.inr action)
  · rw [eq]
    exact linked

lemma Linked.step [Regex] {p : Mediator} (hooks : CustodyHooks γ) {m : Mediation γ} (linked : m.Linked p)
    {op : MediationOp} (fresh : m.Fresh p op) : (m.step p hooks op).Linked p :=
  step_of_hook (P := fun m => m.Linked p) (linked.upToHook hooks fresh)
    fun env id _ => (linked.upToHook hooks fresh).reconcile env id

/-- Between steps no call is left to be reconciled. -/
def Settled (m : Mediation γ) : Prop :=
  ∀ id c refusal, m.proxy.calls id = some c → c.phase ≠ .reconciling refusal

/-- A call that is to be reconciled meets the hook. -/
lemma hooked_of_reconciling [Regex] {p : Mediator} {hooks : CustodyHooks γ} {m : Mediation γ}
    (settled : m.Settled) {op : MediationOp} {id : Nat} {c : Call} {refusal : OwnRefusal}
    (known : (m.upToHook p hooks op).proxy.calls id = some c) (phase : c.phase = .reconciling refusal) :
    ∃ env, m.Hooked p hooks op env id := by
  suffices reconciles : ∃ env, op.reconciles = some (env, id) by
    obtain ⟨env, e⟩ := reconciles
    exact ⟨env, e, c, refusal, known, phase⟩
  have moves := m.upToHook_moves p hooks op
  generalize m.upToHook p hooks op = m' at moves known
  cases moves with
  | worked jobs _ => exact absurd phase (settled id c refusal known)
  | decided c' _ _ => exact absurd phase (settled id c refusal known)
  | proxied step jobs runs _ =>
    rcases ProxyState.step_reconciling known phase with known | ⟨_, _, _, _, _, rfl⟩ | ⟨now, rfl⟩
    · exact absurd phase (settled id c refusal known)
    · obtain ⟨env, rfl⟩ := runs.of_call
      exact ⟨env, rfl⟩
    · rcases runs.of_wait with ⟨env, result, rfl, -, -⟩ | ⟨env, rfl, -⟩ | ⟨-, e⟩
      · exact ⟨env, rfl⟩
      · exact ⟨env, rfl⟩
      · cases e

/-- After each step nothing is left to be reconciled. -/
lemma Settled.step [Regex] (p : Mediator) (hooks : CustodyHooks γ) {m : Mediation γ}
    (settled : m.Settled) (op : MediationOp) : (m.step p hooks op).Settled := by
  intro id c refusal after phase
  by_cases hooked : ∃ env id, m.Hooked p hooks op env id
  · obtain ⟨env, id', reconciles, c', refusal', known, phase'⟩ := hooked
    rw [step_of_hooked reconciles known phase'] at after
    by_cases e : id = id'
    · rw [e, ProxyState.setPhase_self] at after
      cases after
      cases phase
    · rw [ProxyState.setPhase_of_ne e] at after
      obtain ⟨env', reconciles', -⟩ := hooked_of_reconciling settled after phase
      cases reconciles.symm.trans reconciles'
      exact e rfl
  · have same := step_of_not_hooked fun env id yes => hooked ⟨env, id, yes⟩
    obtain ⟨env, yes⟩ := hooked_of_reconciling settled (same ▸ after) phase
    exact hooked ⟨env, id, yes⟩

/-! ## One call at a time -/

omit [Platform] in
/-- `Qualified`, of one call. -/
def Good (p : Mediator) (m : Mediation γ) (id : Nat) : Prop :=
  ∀ c, m.proxy.calls id = some c → m.Finished id c → m.Authorizes id → m.Denied p c

omit [Platform] in
/-- The refusals are qualified where each is. -/
lemma Linked.qualified_iff {p : Mediator} {m : Mediation γ} (linked : m.Linked p) :
    m.Qualified p ↔ ∀ id, m.Good p id := by
  constructor
  · intro qualified id c known finished authorizes
    exact qualified id c known finished ((linked.permitted id c known).2 authorizes)
  · intro good id c known finished permits
    exact good id c known finished ((linked.permitted id c known).1 permits)

omit [Platform] in
/-- What the gate has permitted is not denied while the call waits: only its own hook could deny it. -/
lemma Linked.undenied {p : Mediator} {m : Mediation γ} (linked : m.Linked p) {id : Nat} {c : Call}
    (known : m.proxy.calls id = some c) (waiting : c.Waiting) (authorizes : m.Authorizes id) :
    ¬ m.Denied p c := by
  intro denied
  rcases linked.denied id c known denied with ⟨o, returned, -⟩ | ⟨g, done, denies⟩
  · cases Eq.trans (Eq.symm waiting) returned
  · obtain ⟨g', done', allows⟩ := authorizes
    cases done.symm.trans done'
    cases denies.symm.trans allows

/-- Another call's step leaves a call as good as it was. -/
lemma good_of_ne [Regex] {p : Mediator} (hooks : CustodyHooks γ) {m : Mediation γ} {op : MediationOp}
    {id : Nat} (ne : id ≠ op.id) (good : m.Good p id) : (m.step p hooks op).Good p id := by
  obtain ⟨calls, jobs⟩ := m.step_of_ne p hooks ne
  obtain ⟨records, forwards⟩ := m.step_grows p hooks op
  intro c known finished authorizes
  have before : m.Finished id c :=
    { ended := finished.ended
      unforwarded := fun mem => finished.unforwarded (forwards mem)
      unreported := finished.unreported
      answered := jobs ▸ finished.answered }
  obtain ⟨g, done, allows⟩ := authorizes
  exact (good c (calls ▸ known) before ⟨g, jobs ▸ done, allows⟩).mono records

omit [Platform] in
lemma good_of_not_authorizes {p : Mediator} {m : Mediation γ} {id : Nat} (no : ¬ m.Authorizes id) :
    m.Good p id := fun _ _ _ yes => absurd yes no

/-- A step that comes to nothing up to the hook comes to nothing. -/
lemma step_of_idle [Regex] {p : Mediator} {hooks : CustodyHooks γ} {m : Mediation γ}
    (settled : m.Settled) {op : MediationOp} (idle : m.upToHook p hooks op = m) :
    m.step p hooks op = m := by
  refine (step_of_not_hooked fun env id hooked => ?_).trans idle
  obtain ⟨-, c, refusal, known, phase⟩ := hooked
  exact settled id c refusal (idle ▸ known) phase

/-- Only a decision changes what the gate has permitted. -/
lemma authorizes_step [Regex] (p : Mediator) (hooks : CustodyHooks γ) (m : Mediation γ) {op : MediationOp}
    (other : ¬ op.Decides) (id : Nat) :
    (m.step p hooks op).Authorizes id ↔ m.Authorizes id := by
  have before : (m.upToHook p hooks op).Authorizes id ↔ m.Authorizes id := by
    have moves := m.upToHook_moves p hooks op
    generalize m.upToHook p hooks op = m' at moves
    cases moves with
    | proxied step jobs _ same =>
      unfold Authorizes
      simp only [same]
    | worked jobs same =>
      unfold Authorizes
      simp only [same]
    | decided c _ _ => exact absurd trivial other
  refine step_of_hook (P := fun m' => m'.Authorizes id ↔ m.Authorizes id) before fun env id' _ => ?_
  generalize m.upToHook p hooks op = m' at before
  rcases m'.reconcile_cases p env id' with ⟨c, refusal, known, phase, eq⟩ | eq
  · rw [eq]
    exact before
  · rw [eq]
    exact before

/-- A step that does nothing to a call the gate has permitted keeps all in order. -/
lemma good_of_idle [Regex] {p : Mediator} {hooks : CustodyHooks γ} {m : Mediation γ}
    (settled : m.Settled) {op : MediationOp} {id : Nat} (good : m.Good p id)
    (other : ¬ op.Decides) (idle : m.Authorizes id → m.upToHook p hooks op = m) :
    (m.step p hooks op).Good p id := by
  by_cases authorizes : m.Authorizes id
  · rw [step_of_idle settled (idle authorizes)]
    exact good
  · exact good_of_not_authorizes fun yes => authorizes ((m.authorizes_step p hooks other id).1 yes)

/-- And so does one that only a waiting call takes, where the gate has permitted none. -/
lemma good_of_unpermitted [Regex] {p : Mediator} {hooks : CustodyHooks γ} {m : Mediation γ}
    (linked : m.Linked p) (settled : m.Settled) {op : MediationOp} {id : Nat} (good : m.Good p id)
    (other : ¬ op.Decides)
    (idle : ∀ c, m.proxy.calls id = some c → ¬ c.Waiting → m.upToHook p hooks op = m)
    (no : ∀ c, m.proxy.calls id = some c → c.Waiting → ¬ m.Authorizes id) :
    (m.step p hooks op).Good p id := by
  refine good_of_idle settled good other fun authorizes => ?_
  obtain ⟨g, done, allows⟩ := authorizes
  obtain ⟨c, known⟩ := linked.known id _ done
  exact idle c known fun waiting => no c known waiting ⟨g, done, allows⟩

omit [Platform] in
/-- A permitted call whose wait ends it unforwarded leaves its permit in the chain. -/
lemma Linked.not_good_wait {p : Mediator} {m : Mediation γ} (linked : m.Linked p) {id : Nat} {c : Call}
    (known : m.proxy.calls id = some c) (waiting : c.Waiting) {how : WaitEnd} (now : ℚ)
    {jobs : Nat → Option Job}
    (same : ∀ id result, jobs id = some (.done result) ↔ m.jobs id = some (.done result))
    {e : CallEnd} (phase : how.phase c = .ended e) (unreported : ∀ o, e = .returned o → o.forwarded = false)
    (authorizes : m.Authorizes id) :
    ¬ ({ m with proxy := m.proxy.step p.toMcpProxy (.wait id how now), jobs } : Mediation γ).Good p id := by
  intro good
  obtain ⟨after, forwards⟩ := m.proxy.step_wait p.toMcpProxy how now known waiting
  obtain ⟨g, done, allows⟩ := authorizes
  have unforwarded : id ∉ (m.proxy.step p.toMcpProxy (.wait id how now)).forwards := by
    rw [forwards (by simp [phase, Phase.Forwards])]
    exact linked.once.not_mem_of_waiting known waiting
  have denied := good _ after
    ⟨⟨⟨e, phase⟩, unforwarded, fun o returned => unreported o (Phase.ended.inj (phase.symm.trans returned))⟩,
      .inr ⟨_, (same id _).2 done⟩⟩
    ⟨g, (same id _).2 done, allows⟩
  exact linked.undenied known waiting ⟨g, done, allows⟩ denied

/-- The end of a wait of this call. -/
inductive EndsWait (id : Nat) : MediationOp → Prop
  | answer (env : RequestEnv) (now : ℚ) : EndsWait id (.answer env id now)
  | timeout (env : RequestEnv) (now : ℚ) : EndsWait id (.timeout env id now)
  | cancel (now : ℚ) : EndsWait id (.cancel id now)

/-- Where the call does not wait, its end changes nothing up to the hook. -/
lemma EndsWait.upToHook [Regex] {p : Mediator} {m : Mediation γ} {id : Nat} {op : MediationOp}
    (ends : EndsWait id op) (hooks : CustodyHooks γ) :
    ∀ c, m.proxy.calls id = some c → ¬ c.Waiting → m.upToHook p hooks op = m := by
  intro c known no
  cases ends with
  | answer env now =>
    unfold Mediation.upToHook
    dsimp only
    split
    · rw [ProxyState.step_wait_of_not known no]
    · rfl
  | timeout env now =>
    unfold Mediation.upToHook
    dsimp only
    rw [m.withdraw_of_not_waiting known no, ProxyState.step_wait_of_not known no]
  | cancel now =>
    unfold Mediation.upToHook
    dsimp only
    rw [m.withdraw_of_not_waiting known no, ProxyState.step_wait_of_not known no]

/-- The gate's answer leaves a permit without a deny only if it is an audit. -/
lemma good_answer_iff [Regex] {p : Mediator} (hooks : CustodyHooks γ) {m : Mediation γ}
    (linked : m.Linked p) (settled : m.Settled) {env : RequestEnv} {id : Nat} {now : ℚ}
    (good : m.Good p id) :
    (m.step p hooks (.answer env id now)).Good p id ↔ m.Compensated p hooks (.answer env id now) := by
  have idle : ∀ c, m.proxy.calls id = some c → ¬ c.Waiting →
      m.upToHook p hooks (.answer env id now) = m := (EndsWait.answer env now).upToHook hooks
  by_cases waits : ∃ c g, m.proxy.calls id = some c ∧ c.Waiting ∧ m.jobs id = some (.done (.ok g)) ∧
      g.decision.allowed = true
  · obtain ⟨c, g, known, waiting, done, allows⟩ := waits
    obtain ⟨v, answered, allowed⟩ : ∃ v, CustosGateAdapter.waitEnd (.ok g) = .answered (some v) ∧
        v.allowed = .literal (g.decision.action = .ALLOW) := ⟨_, rfl, rfl⟩
    have goes : m.upToHook p hooks (.answer env id now) =
        { m with proxy := m.proxy.step p.toMcpProxy (.wait id (.answered (some v)) now) } := by
      unfold upToHook
      dsimp only
      rw [done, ← answered]
    obtain ⟨after, forwards⟩ := m.proxy.step_wait p.toMcpProxy (.answered (some v)) now known waiting
    have unhooked : m.step p hooks (.answer env id now) = m.upToHook p hooks (.answer env id now) := by
      refine step_of_not_hooked fun env' id' hooked => ?_
      obtain ⟨reconciles, c', refusal, known', phase⟩ := hooked
      cases reconciles
      rw [goes] at known'
      cases after.symm.trans known'
      have phase : (WaitEnd.answered (some v)).phase c = .reconciling refusal := phase
      cases WaitEnd.eq_timedOut_of_phase phase
    have compensated : m.Compensated p hooks (.answer env id now) ↔ g.decision.action ≠ .AUDIT := by
      refine ⟨fun all => all c g known waiting done, fun no c' g' _ _ done' => ?_⟩
      cases done.symm.trans done'
      exact no
    rw [compensated, unhooked, goes]
    cases action : g.decision.action with
    | ALLOW =>
      refine iff_of_true (fun c' known' finished _ => ?_) nofun
      -- the upstream was invoked, or there is none and the call reports it
      have yes : v.allowed = .literal true := by rw [allowed, action]; rfl
      cases after.symm.trans known'
      obtain ⟨how, ended⟩ := finished.ended
      have unreported := finished.unreported
      rw [WaitEnd.phase_of_allowed yes] at ended unreported
      cases forward : c.forward with
      | true =>
        rw [forward] at ended
        cases ended
      | false =>
        rw [forward] at unreported
        exact absurd (unreported _ rfl) nofun
    | AUDIT =>
      refine iff_of_false (fun good => ?_) fun no => no rfl
      have denied : v.allowed = .literal false := by rw [allowed, action]; rfl
      obtain ⟨o, phase, unforwarded⟩ := WaitEnd.phase_of_denied denied c
      refine linked.not_good_wait known waiting now (fun _ _ => Iff.rfl) phase (fun o' e => ?_)
        ⟨g, done, allows⟩ good
      cases e
      exact unforwarded
    | DENY => exact absurd action (PolicyResult.action_ne_deny allows)
  · refine iff_of_true (good_of_unpermitted linked settled good not_false idle ?_) ?_
    · rintro c known waiting ⟨g, done, allows⟩
      exact waits ⟨c, g, known, waiting, done, allows⟩
    · rintro c g known waiting done audit
      refine waits ⟨c, g, known, waiting, done, ?_⟩
      rw [g.decision.consistent, audit]
      rfl

/-- A cancellation leaves a permit without a deny if there is one. -/
lemma good_cancel_iff [Regex] {p : Mediator} (hooks : CustodyHooks γ) {m : Mediation γ}
    (linked : m.Linked p) (settled : m.Settled) {id : Nat} {now : ℚ} (good : m.Good p id) :
    (m.step p hooks (.cancel id now)).Good p id ↔ m.Compensated p hooks (.cancel id now) := by
  have idle : ∀ c, m.proxy.calls id = some c → ¬ c.Waiting →
      m.upToHook p hooks (.cancel id now) = m := (EndsWait.cancel now).upToHook hooks
  by_cases waits : ∃ c, m.proxy.calls id = some c ∧ c.Waiting ∧ m.Authorizes id
  · obtain ⟨c, known, waiting, authorizes⟩ := waits
    exact iff_of_false (linked.not_good_wait known waiting now (m.withdraw_done_iff id) rfl nofun authorizes)
      fun compensated => compensated c known waiting authorizes
  · have no : ∀ c, m.proxy.calls id = some c → c.Waiting → ¬ m.Authorizes id :=
      fun c known waiting authorizes => waits ⟨c, known, waiting, authorizes⟩
    exact iff_of_true (good_of_unpermitted linked settled good not_false idle no) no

omit [Platform] in
/-- A permit in the chain is a tenant's. -/
lemma Linked.registered {p : Mediator} {m : Mediation γ} (linked : m.Linked p) {id : Nat} {c : Call}
    (known : m.proxy.calls id = some c) (authorizes : m.Authorizes id) :
    ∃ ctx, m.service.tenants.getStrict p.tenantId = some ctx := by
  obtain ⟨r, mem, -⟩ := (linked.permitted id c known).2 authorizes
  cases registered : m.service.tenants.getStrict p.tenantId with
  | some ctx => exact ⟨ctx, rfl⟩
  | none =>
    rw [Service.records, registered] at mem
    cases mem

/-- The denial of a call that timed out is recorded whenever its policy is citable, if it must be. -/
lemma Linked.lands_iff {p : Mediator} {m : Mediation γ} (linked : m.Linked p) {env : RequestEnv} {id : Nat}
    {c : Call} (known : m.proxy.calls id = some c) (authorizes : m.Authorizes id)
    (takes : ∀ ctx, m.service.tenants.getStrict p.tenantId = some ctx →
      ctx.auditChain.Takes m.service.stores.audit env.toRecordEnv) (refusal : OwnRefusal) :
    (CustosGateAdapter.recordDenial m.service env (p.denial c refusal)).1 = true ↔
      ∀ ctx, m.service.tenants.getStrict p.tenantId = some ctx → boundEvidenceRequired env.environ →
        truthy (m.service.cites env.environ p.tenantId ctx.policyEngine) = true := by
  have written : (CustosGateAdapter.recordDenial m.service env (p.denial c refusal)).1 = true ↔
      Lands m.service env.toRecordEnv p.tenantId :=
    recordDenial_iff linked.own c.traced refusal.rule_ne_empty
  exact written.trans ⟨fun lands => lands.evidence, fun evidence =>
    ⟨linked.registered known authorizes, takes, evidence⟩⟩

/-- Where the hook records the denial, a call that times out ends refused, and its permit is the gate's. -/
lemma Linked.timedOut [Regex] {p : Mediator} {m : Mediation γ} (linked : m.Linked p)
    (hooks : CustodyHooks γ) (env : RequestEnv) (now : ℚ) {id : Nat} {c : Call}
    (known : m.proxy.calls id = some c) (waiting : c.Waiting) (authorizes : m.Authorizes id) :
    ∃ c', (m.step p hooks (.timeout env id now)).proxy.calls id = some c' ∧ c'.traceId = c.traceId ∧
      (m.step p hooks (.timeout env id now)).Finished id c' ∧
      (m.step p hooks (.timeout env id now)).service =
        (CustosGateAdapter.recordDenial m.service env (p.denial c .timeout)).2 := by
  obtain ⟨g, done, allows⟩ := authorizes
  obtain ⟨asked, forwards⟩ := m.proxy.step_wait p.toMcpProxy .timedOut now known waiting
  have asked : (m.upToHook p hooks (.timeout env id now)).proxy.calls id =
      some { c with phase := .reconciling .timeout } := asked
  have reconciles : (MediationOp.timeout env id now).reconciles = some (env, id) := rfl
  have goes := step_of_hooked reconciles asked rfl
  let c' : Call := { c with
    phase := .ended (.returned
      { forwarded := false, traceId := c.traceId, reason := REASON_TIMEOUT
        rule := some REASON_TIMEOUT, reconciled := true }) }
  refine ⟨c', ?_, rfl, ?_, ?_⟩
  · rw [goes]
    exact ProxyState.setPhase_self ..
  · refine ⟨⟨⟨_, rfl⟩, fun mem => ?_, fun o returned => by cases returned; rfl⟩, .inr ⟨.ok g, ?_⟩⟩
    · rw [goes] at mem
      have mem : id ∈ (m.proxy.step p.toMcpProxy (.wait id .timedOut now)).forwards := mem
      rw [forwards (by simp [WaitEnd.phase, Phase.Forwards])] at mem
      exact linked.once.not_mem_of_waiting known waiting mem
    · rw [goes]
      exact (m.withdraw_done_iff id id _).2 done
  · rw [goes]
    rfl

/-- A timeout leaves a permit without a deny if there is one and no deny can be recorded. -/
lemma good_timeout_iff [Regex] {p : Mediator} {hooks : CustodyHooks γ} {m : Mediation γ}
    (linked : m.Linked p) (settled : m.Settled) {env : RequestEnv} {id : Nat} {now : ℚ}
    (accepts : m.Accepts p hooks (.timeout env id now)) (good : m.Good p id) :
    (m.step p hooks (.timeout env id now)).Good p id ↔
      m.Compensated p hooks (.timeout env id now) := by
  have idle : ∀ c, m.proxy.calls id = some c → ¬ c.Waiting →
      m.upToHook p hooks (.timeout env id now) = m := (EndsWait.timeout env now).upToHook hooks
  by_cases waits : ∃ c, m.proxy.calls id = some c ∧ c.Waiting ∧ m.Authorizes id
  · obtain ⟨c, known, waiting, authorizes⟩ := waits
    have undenied := linked.undenied known waiting authorizes
    have asked : (m.upToHook p hooks (.timeout env id now)).proxy.calls id =
        some { c with phase := .reconciling .timeout } :=
      (m.proxy.step_wait p.toMcpProxy .timedOut now known waiting).1
    have lands := linked.lands_iff known authorizes (accepts env id ⟨rfl, _, _, asked, rfl⟩) .timeout
    have compensated : m.Compensated p hooks (.timeout env id now) ↔
        ∀ ctx, m.service.tenants.getStrict p.tenantId = some ctx → boundEvidenceRequired env.environ →
          truthy (m.service.cites env.environ p.tenantId ctx.policyEngine) = true :=
      ⟨fun all => all c known waiting authorizes, fun evidence _ _ _ _ => evidence⟩
    have reconciles := recordDenial_reconciles m.service env (p.denial c .timeout)
    rw [compensated, ← lands, ← reconciles.denied_iff undenied]
    obtain ⟨c', after, trace, finished, wrote⟩ :=
      linked.timedOut hooks env now known waiting authorizes
    have denied : (m.step p hooks (.timeout env id now)).Denied p c' ↔
        Carries ((CustosGateAdapter.recordDenial m.service env (p.denial c .timeout)).2.records p.tenantId)
          c.traceId AuditRecord.Denies := by
      rw [Denied, trace, wrote]
    have other : ¬ (MediationOp.timeout env id now).Decides := not_false
    constructor
    · intro good
      exact denied.1 (good c' after finished ((m.authorizes_step p hooks other id).2 authorizes))
    · intro yes c'' known' _ _
      cases after.symm.trans known'
      exact denied.2 yes
  · have no : ∀ c, m.proxy.calls id = some c → c.Waiting → ¬ m.Authorizes id :=
      fun c known waiting authorizes => waits ⟨c, known, waiting, authorizes⟩
    exact iff_of_true (good_of_unpermitted linked settled good not_false idle no)
      fun c known waiting authorizes => absurd authorizes (no c known waiting)

/-- A decision leaves a permit without a deny if it permits a call that was refused without one. -/
lemma good_decide_iff [Regex] {p : Mediator} (hooks : CustodyHooks γ) {m : Mediation γ}
    (settled : m.Settled) {env : GateEnv} {id : Nat} (good : m.Good p id) :
    (m.step p hooks (.decide env id)).Good p id ↔ m.Compensated p hooks (.decide env id) := by
  by_cases takes : ∃ c, m.proxy.calls id = some c ∧ m.jobs id = some .running
  · obtain ⟨c, known, running⟩ := takes
    have gates := evaluateAction_gates hooks m.service env p.tenantId (Mediator.action c) p.clientId
      c.traceId
    have goes : m.step p hooks (.decide env id) =
        { m with
          jobs := Function.update m.jobs id (some (.done (m.service.evaluateAction hooks env p.tenantId
            (Mediator.action c) p.clientId (some c.traceId)).1))
          service := (m.service.evaluateAction hooks env p.tenantId (Mediator.action c) p.clientId
            (some c.traceId)).2 } := by
      show m.upToHook p hooks (.decide env id) = _
      unfold upToHook
      dsimp only
      rw [known, running]
    have compensated : m.Compensated p hooks (.decide env id) ↔ (m.Refused id c → ¬ m.Denied p c →
        ∀ g, (m.service.evaluateAction hooks env p.tenantId (Mediator.action c) p.clientId
          (some c.traceId)).1 = .ok g → g.decision.allowed = false) := by
      refine ⟨fun all => all c known running, fun all c' known' _ => ?_⟩
      cases known.symm.trans known'
      exact all
    rw [compensated, goes]
    generalize m.service.evaluateAction hooks env p.tenantId (Mediator.action c) p.clientId
      (some c.traceId) = out at gates ⊢
    cases gates with
    | silent result s' tenants denies =>
      refine iff_of_true (good_of_not_authorizes ?_) fun _ _ g ok => denies g ok
      rintro ⟨g, done, allows⟩
      dsimp only at done
      rw [Function.update_self] at done
      cases (denies g (Job.done.inj (Option.some.inj done))).symm.trans allows
    | recorded r g s' app action trace hash =>
      -- the record that permits the call does not deny it
      have denied : ∀ allowed : g.decision.allowed = true,
          Carries (s'.records p.tenantId) c.traceId AuditRecord.Denies ↔ m.Denied p c := by
        intro allowed
        rw [app.records, carries_snoc]
        refine or_iff_left fun denies => ?_
        exact AuditRecord.not_permits_of_denies denies.2 ((AuditRecord.permits_iff action).2 allowed)
      constructor
      · intro good refused undenied g' e
        cases e
        refine Bool.eq_false_of_not_eq_true fun allowed => undenied ((denied allowed).1 ?_)
        exact good c known ⟨⟨refused.ended, refused.unforwarded, refused.unreported⟩,
          .inr ⟨_, Function.update_self ..⟩⟩ ⟨g, Function.update_self .., allowed⟩
      · rintro all c' known' finished ⟨g', done, allowed⟩
        cases known.symm.trans known'
        dsimp only at done
        rw [Function.update_self] at done
        cases done
        by_contra undenied
        have refused : m.Refused id c := ⟨finished.ended, finished.unforwarded, finished.unreported⟩
        cases (all refused (fun yes => undenied ((denied allowed).2 yes)) g rfl).symm.trans allowed
  · have idle : m.upToHook p hooks (.decide env id) = m := by
      unfold upToHook
      dsimp only
      split
      · rename_i c known running
        exact absurd ⟨c, known, running⟩ takes
      · rfl
    rw [step_of_idle settled idle]
    exact iff_of_true good fun c known running => absurd ⟨c, known, running⟩ takes

/-- The other steps leave no permit without a deny. -/
lemma good_step [Regex] {p : Mediator} (hooks : CustodyHooks γ) {m : Mediation γ} (linked : m.Linked p)
    (settled : m.Settled) (good : ∀ id, m.Good p id) {op : MediationOp}
    (accepts : m.Accepts p hooks op) : (m.step p hooks op).Good p op.id ↔ m.Compensated p hooks op := by
  cases op with
  | answer env id now => exact good_answer_iff hooks linked settled (good id)
  | timeout env id now => exact good_timeout_iff linked settled accepts (good id)
  | cancel id now => exact good_cancel_iff hooks linked settled (good id)
  | decide env id => exact good_decide_iff hooks settled (good id)
  | call env id tool arguments forward traceId now =>
    refine iff_of_true (good_of_idle settled (good id) not_false fun authorizes => ?_) trivial
    obtain ⟨g, done, -⟩ := authorizes
    obtain ⟨c, known⟩ := linked.known id _ done
    unfold upToHook
    dsimp only
    rw [ProxyState.step_of_not_takes]
    rintro ⟨new, -⟩
    cases new.symm.trans known
  | submit id =>
    refine iff_of_true (good_of_idle settled (good id) not_false fun authorizes => ?_) trivial
    obtain ⟨g, done, -⟩ := authorizes
    unfold upToHook
    dsimp only
    split
    · rename_i c known free
      cases free.symm.trans done
    · rfl
  | take id =>
    refine iff_of_true (good_of_idle settled (good id) not_false fun authorizes => ?_) trivial
    obtain ⟨g, done, -⟩ := authorizes
    unfold upToHook
    dsimp only
    split
    · rename_i queued
      cases queued.symm.trans done
    · rfl
  | forward id how =>
    refine iff_of_true ?_ trivial
    by_cases takes : ∃ c recordHash, m.proxy.calls id = some c ∧ c.phase = .forwarding recordHash
    · obtain ⟨c, recordHash, known, phase⟩ := takes
      have mem := linked.once.invoked id c known ⟨recordHash, phase⟩
      exact fun c' _ finished _ => absurd ((m.step_grows p hooks _).2 mem) finished.unforwarded
    · have idle : m.upToHook p hooks (.forward id how) = m := by
        unfold upToHook
        dsimp only
        rw [ProxyState.step_of_not_takes]
        rintro ⟨c, recordHash, known, phase⟩
        exact takes ⟨c, recordHash, known, phase⟩
      rw [step_of_idle settled idle]
      exact good id

end Mediation

variable [Platform]

/-- In every run with trace ids of its own, whose store accepts what the proxy writes, no refused call leaves
a permit in the chain without a deny exactly when all steps are compensated. -/
theorem refusals_qualified_iff [Regex] (p : Mediator) (hooks : CustodyHooks γ) (s : Service γ)
    (own : s.OwnChain p.tenantId) (ops : List MediationOp)
    (fresh : Steps (Mediation.step p hooks) (Mediation.Fresh p) { service := s } ops)
    (accepts : Steps (Mediation.step p hooks) (Mediation.Accepts p hooks) { service := s } ops) :
    Steps (Mediation.step p hooks) (fun m op => (m.step p hooks op).Qualified p) { service := s } ops ↔
      Steps (Mediation.step p hooks) (Mediation.Compensated p hooks) { service := s } ops := by
  have start : ({ service := s } : Mediation γ).Linked p ∧ ({ service := s } : Mediation γ).Settled ∧
      ({ service := s } : Mediation γ).Qualified p := by
    refine ⟨.init own, fun _ _ _ known => ?_, fun _ _ known => ?_⟩
    · cases known
    · cases known
  have same : ∀ (m : Mediation γ) op, m.Linked p ∧ m.Settled ∧ m.Qualified p →
      m.Fresh p op ∧ m.Accepts p hooks op →
      ((m.step p hooks op).Qualified p ↔ m.Compensated p hooks op) := by
    rintro m op ⟨linked, settled, qualified⟩ ⟨fresh, accepts⟩
    -- no other call is touched, so the step is judged by its own
    have good := linked.qualified_iff.1 qualified
    rw [(linked.step hooks fresh).qualified_iff, ← Mediation.good_step hooks linked settled good accepts]
    refine ⟨fun all => all op.id, fun own id => ?_⟩
    by_cases e : id = op.id
    · exact e ▸ own
    · exact Mediation.good_of_ne hooks e (good id)
  refine steps_congr_of_steps (I := fun m => m.Linked p ∧ m.Settled ∧ m.Qualified p) start
    (fresh.and accepts) same ?_
  rintro m op ⟨linked, settled, qualified⟩ ⟨fresh, accepts⟩ compensated
  exact ⟨linked.step hooks fresh, settled.step p hooks op,
    (same m op ⟨linked, settled, qualified⟩ ⟨fresh, accepts⟩).2 compensated⟩

end

section Sample

local instance qualifiedPlatform : Platform := .reference gateDigests

/-- A text none of the patterns matches. -/
local instance qualifiedRegex : Regex where
  invalid _ := none
  finditer _ _ := []

/-- The gate permits a call, which is cancelled before the answer reaches it. -/
def cancelledOps : List MediationOp :=
  [ mediatedOp, .submit 0, .take 0, .decide mediationEnv.toGateEnv 0, .cancel 0 3]

/-- The trace id of the call is new. -/
lemma cancelledOps_fresh : Steps (Mediation.step sampleMediator raisingHooks)
    (Mediation.Fresh sampleMediator) { service := gateService } cancelledOps := by
  refine ⟨fun _ => ⟨fun _ _ known => ?_, fun r mem => ?_⟩, trivial, trivial, trivial, trivial, trivial⟩
  · cases known
  · cases mem

/-- The hook is not called. -/
lemma cancelledOps_accepts : Steps (Mediation.step sampleMediator raisingHooks)
    (Mediation.Accepts sampleMediator raisingHooks) { service := gateService } cancelledOps := by
  refine ⟨fun env id hooked => ?_, fun env id hooked => ?_, fun env id hooked => ?_,
    fun env id hooked => ?_, fun env id hooked => ?_, trivial⟩
  · obtain ⟨reconciles, c, refusal, known, phase⟩ := hooked
    cases reconciles
    cases known
    cases phase
  · cases hooked.1
  · cases hooked.1
  · cases hooked.1
  · cases hooked.1

/-- The cancelled call is not compensated. -/
theorem refusals_qualified_iff_sample :
    ¬ Steps (Mediation.step sampleMediator raisingHooks)
        (fun m op => (m.step sampleMediator raisingHooks op).Qualified sampleMediator)
        { service := gateService } cancelledOps := by
  intro qualified
  obtain ⟨-, -, -, -, compensated, -⟩ := (refusals_qualified_iff sampleMediator raisingHooks gateService
    ownChain_gateService cancelledOps cancelledOps_fresh cancelledOps_accepts).1 qualified
  let m := run (Mediation.step sampleMediator raisingHooks) { service := gateService } (cancelledOps.take 4)
  have waits : (m.proxy.calls 0).map (·.phase) = some .asking := by decide +kernel
  have permitted : (m.jobs 0).any (fun job => job.casesOn (motive := fun _ => Bool) false false fun result =>
      (result.map (·.decision.allowed)).toOption.getD false) = true := by decide +kernel
  obtain ⟨c, known, waiting⟩ := Option.map_eq_some_iff.1 waits
  obtain ⟨job, done, allowed⟩ := (Option.any_eq_true _ _).1 permitted
  refine compensated c known waiting ?_
  cases job with
  | done result =>
    cases result with
    | ok g => exact ⟨g, done, allowed⟩
    | error e => cases allowed
  | queued => cases allowed
  | running => cases allowed

/-- The permit of the cancelled call stands in the chain, and no deny. -/
theorem cancelled_unqualified :
    Steps (Mediation.step sampleMediator raisingHooks) (Mediation.Fresh sampleMediator)
        { service := gateService } cancelledOps ∧
      Steps (Mediation.step sampleMediator raisingHooks) (Mediation.Accepts sampleMediator raisingHooks)
        { service := gateService } cancelledOps ∧
      ¬ (run (Mediation.step sampleMediator raisingHooks) { service := gateService }
        cancelledOps).Qualified sampleMediator := by
  refine ⟨cancelledOps_fresh, cancelledOps_accepts, fun qualified => ?_⟩
  have call : (((run (Mediation.step sampleMediator raisingHooks) { service := gateService }
      cancelledOps).proxy.calls 0).map fun c => (c.traceId, c.phase)) =
        some ("4bf92f3577b34da6", .ended .cancelled) := by decide +kernel
  have forwards : (run (Mediation.step sampleMediator raisingHooks) { service := gateService }
      cancelledOps).proxy.forwards = [] := by decide +kernel
  have done : ((run (Mediation.step sampleMediator raisingHooks) { service := gateService }
      cancelledOps).jobs 0).any Job.isDone = true := by decide +kernel
  have records : ((run (Mediation.step sampleMediator raisingHooks) { service := gateService }
      cancelledOps).service.records "acme").map (fun r => (r.action, r.traceId)) =
        [("allow", some "4bf92f3577b34da6")] := by decide +kernel
  generalize run (Mediation.step sampleMediator raisingHooks) { service := gateService } cancelledOps = m
    at qualified call forwards done records
  obtain ⟨c, known, e⟩ := Option.map_eq_some_iff.1 call
  obtain ⟨trace, phase⟩ := Prod.mk.inj e
  have finished : m.Finished 0 c := by
    refine ⟨⟨⟨_, phase⟩, by simp [forwards], fun o returned => ?_⟩, ?_⟩
    · cases phase.symm.trans returned
    · cases job : m.jobs 0 with
      | none => exact .inl rfl
      | some job' =>
        rw [job] at done
        cases job' with
        | done result => exact .inr ⟨result, rfl⟩
        | queued => cases done
        | running => cases done
  obtain ⟨r, one⟩ : ∃ r, m.service.records "acme" = [r] := by
    refine List.length_eq_one_iff.1 ?_
    rw [← List.length_map, records]
    rfl
  rw [one] at records
  obtain ⟨action, at'⟩ := Prod.mk.inj (List.singleton_inj.1 records)
  have permits : Carries (m.service.records "acme") c.traceId AuditRecord.Permits :=
    ⟨r, by rw [one]; exact .head _, by rw [at', trace], .inl action⟩
  obtain ⟨r', mem, -, denies⟩ := qualified 0 c known finished permits
  obtain rfl : r' = r := by
    rw [show m.service.records sampleMediator.tenantId = [r] from one] at mem
    exact List.mem_singleton.1 mem
  exact AuditRecord.not_permits_of_denies denies (.inl action)

end Sample

end Custos
