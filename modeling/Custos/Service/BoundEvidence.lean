import Custos.Service.FailClosed
import Custos.Service.Firewall
import Custos.Service.Requests

/-!
# Bound evidence

Where bound evidence is required, `record` refuses a call without a policy digest and a trace id, and
every path has to hand it both. The digest is at hand on all of them but one, the trace id only on some:
`bound_evidence_iff` says which requests are served as the rule wants, and which are broken by it.
-/

namespace Custos

section

variable {γ : Type} [Platform]

/-- The call carries what the rule asks for, and the record is the one it wrote. -/
structure WritesBound (a : RecordArgs) (r : AuditRecord) : Prop where
  evidence : AuditChain.missingEvidence a = []
  traceId : r.traceId = a.traceId
  policyDigest : r.policyDigest = a.policyDigest

/-- Every call of `record` between the two states was bound and wrote its record. -/
def Evidenced (c c' : AuditChain) (s s' : Stores) : Prop :=
  ∃ calls rs, s'.calls = s.calls ++ calls ∧ c'.records = c.records ++ rs ∧
    List.Forall₂ WritesBound calls rs

/-- Where nothing was recorded all records are as they were. -/
lemma Recording.evidenced_of_not_ready {ready : Prop} {c c' : AuditChain} {s s' : Stores}
    {env : RecordEnv} {a : RecordArgs} (h : Recording ready c s env a c' s') (no : ¬ ready) :
    Evidenced c c' s s' := by
  cases h with
  | untried _ _ _ kept => exact ⟨[], [], by simp [kept], by simp, .nil⟩
  | refused _ _ yes => exact absurd yes no
  | written _ _ _ yes => exact absurd yes no

/-- A recording is evidenced where its call, if it makes one, carries the evidence and the chain takes
the entry. -/
lemma Recording.evidenced {ready : Prop} {c c' : AuditChain} {s s' : Stores} {env : RecordEnv}
    {a : RecordArgs} {own : String} (h : Recording ready c s env a c' s')
    (scope : c.tenantId = some own) (tenant : a.tenantId = none ∨ a.tenantId = some own)
    (takes : c.Takes s.audit env) (can : ready → AuditChain.missingEvidence a = []) :
    Evidenced c c' s s' := by
  by_cases yes : ready
  · obtain ⟨form, r, wrote, rfl, one⟩ := h.written_of_takes yes scope tenant (fun _ => can yes) takes
    refine ⟨_, [r], one, rfl, .cons ?_ .nil⟩
    obtain ⟨id, -, e⟩ := wrote.entry.eq
    exact ⟨can yes, by rw [e]; rfl, by rw [e]; rfl⟩
  · exact h.evidenced_of_not_ready yes

/-- Where the rule is in force, the call of an evidenced recording carries the evidence. -/
lemma Recording.carries {ready : Prop} {c c' : AuditChain} {s s' : Stores} {env : RecordEnv}
    {a : RecordArgs} (h : Recording ready c s env a c' s')
    (bound : boundEvidenceRequired env.environ = true) (ev : Evidenced c c' s s') (yes : ready) :
    AuditChain.missingEvidence a = [] := by
  cases h with
  | untried _ no => exact absurd yes no
  | refused form _ _ _ _ _ one =>
    -- a refused call left no record
    obtain ⟨calls, rs, made, same, writes⟩ := ev
    have none : rs = [] := by simpa using same
    rw [one, List.append_cancel_left_eq] at made
    rw [none, ← made] at writes
    cases writes
  | written form r _ _ wrote _ =>
    have evidence : AuditChain.missingEvidence a = [] := wrote.admissible.evidence bound
    exact evidence

/-! ## Requests -/

/-- The paths that hand `record` a trace id and a digest: the gate behind `/v1/evaluate_action`, the
purge and the replay do not. -/
def Request.Bound : Request → Prop
  | .evaluate _ => True
  | .evaluateAction _ => False
  | .retentionPurge _ => False
  | .replay _ => False
  | .mediate call => call.traceId ≠ ""
  | .recordDenial _ => True
  | .startupBinding _ => True

/-- What the rule presupposes: it is in force, the digests of the tenant's policy are available, and the
tenant's chain is its own and takes an entry. -/
structure Bindable (s : Service γ) (env : RequestEnv) (id : String) : Prop where
  bound : boundEvidenceRequired env.environ = true
  content : ∀ ctx, s.tenants.getStrict id = some ctx →
    truthy (contentEngineDigest env.environ ctx.policyEngine) = true
  gate : ∀ ctx, s.tenants.getStrict id = some ctx →
    truthy (Request.gateDigest s env.environ id ctx) = true
  scope : ∀ ctx, s.tenants.getStrict id = some ctx → ctx.auditChain.tenantId = some id
  takes : ∀ ctx, s.tenants.getStrict id = some ctx →
    ctx.auditChain.Takes s.stores.audit env.toRecordEnv

omit [Platform] in
/-- The calls of `record` of a service that served a request for the tenant were bound and wrote their
records to its chain. -/
def Upheld (id : String) (s s' : Service γ) : Prop :=
  match s.tenants.getStrict id with
  | none => s'.stores.calls = s.stores.calls
  | some ctx => ∃ ctx', s'.tenants.getStrict id = some ctx' ∧
    Evidenced ctx.auditChain ctx'.auditChain s.stores s'.stores

/-- A request that gets to its record hands it the evidence exactly on these paths. -/
lemma Request.bound_iff [Regex] {s : Service γ} {env : RequestEnv} {req : Request} {ctx : TenantContext}
    {a : RecordArgs} (b : Bindable s env req.tenantId)
    (known : s.tenants.getStrict req.tenantId = some ctx) (trace : a.traceId = req.traceId env)
    (digest : a.policyDigest = req.policyDigest s env ctx) (reach : req.Reaches s env ctx) :
    AuditChain.missingEvidence a = [] ↔ req.Bound := by
  have content := b.content ctx known
  have gate := b.gate ctx known
  have named : ∀ {t : String}, truthy (some t) = true ↔ t ≠ "" := by
    intro t
    by_cases e : t = "" <;> simp [truthy, e, present_some]
  rw [AuditChain.missingEvidence_eq_nil, trace, digest]
  cases req with
  | evaluate req => simp [Request.Bound, Request.policyDigest, Request.traceId, content, named, env.traceId.2]
  | evaluateAction req => simp [Request.Bound, Request.traceId, truthy]
  | retentionPurge req => simp [Request.Bound, Request.traceId, truthy]
  | replay req => simp [Request.Bound, Request.traceId, truthy]
  | mediate call =>
    have gate : truthy (gateDigest s env.environ call.tenantId ctx) = true := gate
    simp [Request.Bound, Request.policyDigest, Request.traceId, Request.tenantId, gate, named]
  | recordDenial d =>
    have gate : truthy (gateDigest s env.environ d.tenantId ctx) = true := gate
    simp [Request.Bound, Request.policyDigest, Request.traceId, Request.tenantId, gate, named, reach.1]
  | startupBinding payload =>
    have gate : truthy (gateDigest s env.environ BINDING_TENANT ctx) = true := gate
    simp [Request.Bound, Request.policyDigest, Request.traceId, Request.tenantId, gate, named, env.traceId.2]

/-- A request is served as the rule wants exactly when it does not get to its record or its path hands
over the evidence. -/
lemma serve_upheld_iff [Regex] (hooks : CustodyHooks γ) {s : Service γ} {env : RequestEnv}
    {req : Request} (b : Bindable s env req.tenantId) :
    Upheld req.tenantId s (serve hooks s env req) ↔
      ∀ ctx, s.tenants.getStrict req.tenantId = some ctx → req.Reaches s env ctx → req.Bound := by
  cases serve_served hooks s env req with
  | unknown none _ stores => simp [Upheld, none, stores]
  | known ctx rateLimiter auditChain a known tenants trace digest tenant rec =>
    have after : (serve hooks s env req).tenants.getStrict req.tenantId =
        some { ctx with rateLimiter, auditChain } := by
      rw [tenants]
      exact Function.update_self ..
    simp only [Upheld, known, after, Option.some.injEq, exists_eq_left', forall_eq']
    constructor
    · exact fun ev reach => (Request.bound_iff b known trace digest reach).1 (rec.carries b.bound ev reach)
    · exact fun bound => rec.evidenced (b.scope ctx known) tenant (b.takes ctx known) fun reach =>
        (Request.bound_iff b known trace digest reach).2 (bound reach)

/-! ## The firewall -/

/-- The call of `enforce` gets to a call of `record`: the limiter refuses it, the policy denies it, or
its forward returns. -/
def Firewall.Reaches [Regex] (f : Firewall) (env : FirewallEnv) (req : EnforceRequest) : Prop :=
  InputValidator.validateRequest req.clientId req.content req.tokenCount = none ∧
    ((f.limiter.checkAndConsume env.limiterNow (orElse req.rateKey req.clientId)
        req.tokenCount).1.1 = true →
      ∃ d, f.policyEngine.evaluate env.remote req.content = .ok d ∧
        (d.allowed = true → ∃ exec, env.forward req.call = .ok exec))

/-- The record of a request that is refused before the execution layer. -/
def Firewall.refusalArgs (f : Firewall) (env : FirewallEnv) (req : EnforceRequest) (action reason : String)
    (triggeredRule : Option String) : RecordArgs :=
  { clientId := req.clientId, action, reason, content := req.content, triggeredRule, traceId := f.trace env }

/-- `enforce` makes one call of `record` there, without a policy digest. -/
lemma enforce_recording [Regex] (f : Firewall) (s : Stores) (env : FirewallEnv)
    (req : EnforceRequest) :
    ∃ a : RecordArgs, a.policyDigest = none ∧ a.tenantId = none ∧
      Recording (f.Reaches env req) f.audit s env.toRecordEnv a (f.enforce s env req).firewall.audit
        (f.enforce s env req).stores := by
  have untried : ∀ {c' : AuditChain} {s' : Stores}, ¬ f.Reaches env req → c' = f.audit → s' = s →
      ∃ a : RecordArgs, a.policyDigest = none ∧ a.tenantId = none ∧
        Recording (f.Reaches env req) f.audit s env.toRecordEnv a c' s' := by
    rintro _ _ no rfl rfl
    exact ⟨⟨"", "", "", "", none, none, none, none, COMMITMENT_NONE⟩, rfl, rfl, .untried _ no rfl rfl⟩
  have recorded := fun (reach : f.Reaches env req) a =>
    (recordIn_outcome reach f.audit s env.toRecordEnv a none_mem_forms).1
  unfold Firewall.enforce
  dsimp only
  cases valid : InputValidator.validateRequest req.clientId req.content req.tokenCount with
  | some error => exact untried (by simp [Firewall.Reaches, valid]) rfl rfl
  | none =>
    dsimp only
    cases limit : (f.limiter.checkAndConsume env.limiterNow (orElse req.rateKey req.clientId)
        req.tokenCount).1.1 with
    | false =>
      rw [if_pos (by simp)]
      exact ⟨_, rfl, rfl, recorded ⟨valid, by simp [limit]⟩ (f.refusalArgs env req "rate_limited" _ none)⟩
    | true =>
      rw [if_neg (by simp)]
      cases policy : f.policyEngine.evaluate env.remote req.content with
      | error e => exact untried (by simp [Firewall.Reaches, limit, policy]) rfl rfl
      | ok d =>
        dsimp only
        cases allowed : d.allowed with
        | false =>
          rw [if_pos (by simp)]
          exact ⟨_, rfl, rfl, recorded ⟨valid, fun _ => ⟨d, policy, by simp [allowed]⟩⟩
            (f.refusalArgs env req d.action.value d.reason d.triggeredRule)⟩
        | true =>
          rw [if_neg (by simp)]
          cases fwd : env.forward req.call with
          | error e =>
            exact untried (by simp [Firewall.Reaches, limit, policy, allowed, fwd]) rfl rfl
          | ok exec =>
            exact ⟨_, rfl, rfl, recorded ⟨valid, fun _ => ⟨d, policy, fun _ => ⟨exec, fwd⟩⟩⟩
              (f.outcomeArgs env req d exec)⟩

/-- No record of the firewall is bound, so the rule breaks every call that gets to one. -/
lemma enforce_evidenced_iff [Regex] {f : Firewall} {s : Stores} {env : FirewallEnv}
    {req : EnforceRequest} (bound : boundEvidenceRequired env.environ = true) :
    Evidenced f.audit (f.enforce s env req).firewall.audit s (f.enforce s env req).stores ↔
      ¬ f.Reaches env req := by
  obtain ⟨a, digest, tenant, rec⟩ := enforce_recording f s env req
  constructor
  · intro ev reach
    have evidence := AuditChain.missingEvidence_eq_nil.1 (rec.carries bound ev reach)
    simp [digest, truthy] at evidence
  · exact rec.evidenced_of_not_ready

/-- Where the rule is in force and the tenant's digests and backend are there, a request is served as the
rule wants exactly when it does not get to its record or is one of the paths that hand over a trace id
and a digest; and a call of `enforce` exactly when it does not get to a record. -/
theorem bound_evidence_iff [Regex] :
    (∀ (hooks : CustodyHooks γ) (s : Service γ) (env : RequestEnv) (req : Request),
      Bindable s env req.tenantId →
        (Upheld req.tenantId s (serve hooks s env req) ↔
          ∀ ctx, s.tenants.getStrict req.tenantId = some ctx → req.Reaches s env ctx → req.Bound)) ∧
    ∀ (f : Firewall) (s : Stores) (env : FirewallEnv) (req : EnforceRequest),
      boundEvidenceRequired env.environ = true →
        (Evidenced f.audit (f.enforce s env req).firewall.audit s (f.enforce s env req).stores ↔
          ¬ f.Reaches env req) :=
  ⟨fun hooks _ _ _ b => serve_upheld_iff hooks b, fun _ _ _ _ bound => enforce_evidenced_iff bound⟩

end

section Sample

/-- The digests of the sample of the gate, and of the tenant's content rules. -/
def boundDigests : DigestTable where
  entries := gateDigests.entries ++
    [("\x7b\"rules\":[],\"tools\":[]\x7d",
      "d65f0bdbca9be32b2532dfcae1e28f46fa8715871e0cd18c619859779622d75c")]
  distinct := by decide +kernel
  plain := by decide +kernel

local instance boundPlatform : Platform := .reference boundDigests

/-- A text none of the patterns matches. -/
local instance boundRegex : Regex where
  invalid _ := none
  finditer _ _ := []

/-- A production environment. -/
def boundEnv : RequestEnv where
  now := 1700000001
  environ name := if name = "CUSTOS_ENV" then some "production" else none
  server := .ofResults fun _ => .error (.RuntimeError "no server")
  purgedAt := 1700000001
  traceId := sampleTraceId
  clock _ := 1700000001

/-- An action the gate allows. -/
def boundRequest : Request := .evaluateAction { tenantId := "acme", clientId := "agent", tool := "search" }

/-- The sample's tenant can be cited. -/
lemma bindable_gateService : Bindable gateService boundEnv "acme" := by
  have one : ∀ {P : TenantContext → Prop}, (∀ ctx ∈ gateService.tenants.getStrict "acme", P ctx) →
      ∀ ctx, gateService.tenants.getStrict "acme" = some ctx → P ctx := fun h => h
  refine ⟨by decide +kernel, one ?_, one ?_, one ?_, one ?_⟩
  · decide +kernel
  · decide +kernel
  · decide +kernel
  · rintro ctx known -
    cases known
    exact ⟨rfl, nofun⟩

/-- Bound evidence is wanted of a request and of a call of `enforce`. -/
theorem bound_evidence_iff_sample :
    (Upheld "acme" gateService (serve raisingHooks gateService boundEnv boundRequest) ↔
      ∀ ctx, gateService.tenants.getStrict "acme" = some ctx →
        boundRequest.Reaches gateService boundEnv ctx → boundRequest.Bound) ∧
    (Evidenced sampleFirewall.audit
        (sampleFirewall.enforce { audit := .empty } firewallEnv firewallRequest).firewall.audit
        { audit := .empty } (sampleFirewall.enforce { audit := .empty } firewallEnv firewallRequest).stores ↔
      ¬ sampleFirewall.Reaches firewallEnv firewallRequest) :=
  ⟨bound_evidence_iff.1 raisingHooks gateService boundEnv boundRequest bindable_gateService,
    (@bound_evidence_iff Unit _ _).2 sampleFirewall { audit := .empty } firewallEnv firewallRequest
      (by decide +kernel)⟩

/-- In production the gate's own endpoint is broken by the rule: an action it would allow is denied, and
nothing is recorded. -/
theorem evaluate_action_unbound :
    Bindable gateService boundEnv "acme" ∧
      ¬ Upheld "acme" gateService (serve raisingHooks gateService boundEnv boundRequest) := by
  have bindable : Bindable gateService boundEnv boundRequest.tenantId := bindable_gateService
  refine ⟨bindable, fun upheld => ?_⟩
  obtain ⟨ctx, known⟩ : ∃ ctx, gateService.tenants.getStrict "acme" = some ctx := ⟨_, rfl⟩
  have reach : boundRequest.Reaches gateService boundEnv ctx := by
    cases known
    exact ⟨nofun, ⟨_, .engine _ (by decide) (fun rule _ hit => hit rfl) rfl⟩,
      contentReady_of_off (by decide +kernel)⟩
  exact (serve_upheld_iff raisingHooks bindable).1 upheld ctx known reach

end Sample

end Custos
