import Custos.Library.Run
import Custos.Policy.Identity
import Custos.Service.FailClosed
import Custos.Service.Requests

/-!
# Replay

`replay_by_hash` asks the tenant's engine again about the content of a record. The engine is one of three
that decide: the gate denies a tool outside the allowlist and a dangerous command before it asks the engine,
and a replay of such a record repeats neither check. `replay_reproduces_iff` says which records are
reproduced, at any time after they were written.
-/

namespace Custos

open ActionGate

section

variable {γ : Type} [Platform]

/-! ## Decisions and their records -/

/-- The rule the gate denies the action under before it asks the engine. -/
def ActionRequest.earlyRule [Regex] (tools : Finset String) (action : ActionRequest) : Option String :=
  if action.tool ∉ tools then some "action_gate_tool_not_allowlisted"
  else (DANGEROUS_COMMAND_RULES.find? (·.Hits action.serialize)).map (·.name)

/-- The request is decided by a policy: the content it is decided on, and the decision. A request that the
limiter refuses is not. -/
inductive Decision [Regex] (s : Service γ) (env : RequestEnv) (ctx : TenantContext) :
    Request → String → PolicyResult → Prop
  | evaluate (req : EvaluateRequest) (d : PolicyResult) : (Main.consume env ctx req).2.1.1 = true →
      ctx.policyEngine.evaluate env.remote req.content = .ok d →
      Decision s env ctx (.evaluate req) req.content d
  | evaluateAction (req : EvaluateActionRequest) (d : PolicyResult) :
      Decides (s.gate.tools req.tenantId) ctx.policyEngine env.remote req.tenantId req.action d →
      Decision s env ctx (.evaluateAction req) req.action.serialize d
  | mediate (call : MediatedCall) (d : PolicyResult) :
      Decides (s.gate.tools call.tenantId) ctx.policyEngine env.remote call.tenantId
        (CustosGateAdapter.action call) d →
      Decision s env ctx (.mediate call) (CustosGateAdapter.action call).serialize d

/-- The engine by itself decides the action as the gate does: the gate asks it, or it denies under the rule
the gate denies under. -/
def EngineAgrees [Regex] (tools : Finset String) (e : Engine) (remote : String → Except Exn PolicyResult)
    (action : ActionRequest) : Prop :=
  ∀ rule ∈ action.earlyRule tools, ∃ d, e.evaluate remote action.serialize = .ok d ∧
    d.action = .DENY ∧ d.triggeredRule = some rule

/-- The decision of the request is the engine's. -/
def Request.EngineDecides [Regex] (s : Service γ) (env : RequestEnv) (ctx : TenantContext) : Request → Prop
  | .evaluateAction req => EngineAgrees (s.gate.tools req.tenantId) ctx.policyEngine env.remote req.action
  | .mediate call =>
    EngineAgrees (s.gate.tools call.tenantId) ctx.policyEngine env.remote (CustosGateAdapter.action call)
  | _ => True

/-- The engine answers the content as the decision says. -/
def Engine.Answers [Regex] (e : Engine) (remote : String → Except Exn PolicyResult) (content : String)
    (d : PolicyResult) : Prop :=
  ∃ d', e.evaluate remote content = .ok d' ∧ d'.action = d.action ∧ d'.triggeredRule = d.triggeredRule

/-- The gate's decision is the engine's answer exactly where the two agree. -/
lemma ActionGate.Decides.answers_iff [Regex] {tools : Finset String} {e : Engine}
    {remote : String → Except Exn PolicyResult} {id : String} {action : ActionRequest} {d : PolicyResult}
    (dec : Decides tools e remote id action d) :
    e.Answers remote action.serialize d ↔ EngineAgrees tools e remote action := by
  unfold EngineAgrees ActionRequest.earlyRule
  cases dec with
  | tool out =>
    rw [if_pos out]
    simp [Engine.Answers, notAllowlisted, deny]
  | dangerous rule mem found =>
    rw [if_neg (not_not.2 mem), found]
    simp [Engine.Answers, deny]
  | engine d mem no ans =>
    have none : DANGEROUS_COMMAND_RULES.find? (·.Hits action.serialize) = none := by
      simpa using no
    rw [if_neg (not_not.2 mem), none]
    exact iff_of_true ⟨d, ans, rfl, rfl⟩ (by simp)

/-- The decision is the engine's where it was the engine that decided. -/
lemma Decision.answers_iff [Regex] {s : Service γ} {env : RequestEnv} {ctx : TenantContext} {req : Request}
    {content : String} {d : PolicyResult} (dec : Decision s env ctx req content d) :
    ctx.policyEngine.Answers env.remote content d ↔ req.EngineDecides s env ctx := by
  cases dec with
  | evaluate req d _ ans => exact iff_of_true ⟨d, ans, rfl, rfl⟩ trivial
  | evaluateAction req d dec => exact dec.answers_iff
  | mediate call d dec => exact dec.answers_iff

omit [Platform] in
/-- What a decision hands to `record`. -/
structure RecordArgs.Of (d : PolicyResult) (content : String) (a : RecordArgs) : Prop where
  action : a.action = d.action.value
  triggeredRule : a.triggeredRule = d.triggeredRule
  content : a.content = content

/-- What serving the decision comes to for the tenant: at most one call of `record`, of the decision. -/
def Records (s : Service γ) (env : RequestEnv) (id : String) (ctx : TenantContext) (content : String)
    (d : PolicyResult) (s' : Service γ) : Prop :=
  ∃ ctx' ready a, s'.tenants.getStrict id = some ctx' ∧ RecordArgs.Of d content a ∧
    Recording ready ctx.auditChain s.stores env.toRecordEnv a ctx'.auditChain s'.stores

/-- Where nothing is recorded. -/
lemma Records.idle {s s' : Service γ} {env : RequestEnv} {id : String} {ctx : TenantContext}
    {content : String} {d : PolicyResult} (known : s'.tenants.getStrict id = some ctx)
    (stores : s'.stores = s.stores) : Records s env id ctx content d s' :=
  ⟨ctx, False, { clientId := "", action := d.action.value, reason := "", content := content
                 triggeredRule := d.triggeredRule },
    known, ⟨rfl, rfl, rfl⟩, .untried _ not_false (by rw [stores]) (by rw [stores])⟩

/-- The action endpoint records what it decides. -/
lemma evaluateAction_records [Regex] (hooks : CustodyHooks γ) {s : Service γ} {env : RequestEnv}
    {id : String} {ctx : TenantContext} (known : s.tenants.getStrict id = some ctx)
    {action : ActionRequest} {d : PolicyResult}
    (dec : Decides (s.gate.tools id) ctx.policyEngine env.remote id action d) (clientId : String)
    (traceId : Option String) :
    Records s env id ctx action.serialize d
      (s.evaluateAction hooks env.toGateEnv id action clientId traceId).2 := by
  have evaluated := s.evaluateAction_evaluated hooks env.toGateEnv id action clientId traceId
  generalize s.evaluateAction hooks env.toGateEnv id action clientId traceId = out at evaluated ⊢
  cases evaluated with
  | unknown none =>
    rw [known] at none
    cases none
  | raised ctx' e gate known' _ no =>
    cases known.symm.trans known'
    exact absurd dec (no d)
  | decided ctx' d' gate res s' known' _ dec' settled =>
    cases known.symm.trans known'
    cases dec.unique dec'
    have args : RecordArgs.Of d action.serialize (Service.gateArgs id clientId traceId d action.serialize
        (s.gate.citedPolicyDigest env.environ id ctx.policyEngine).1) := ⟨rfl, rfl, rfl⟩
    cases settled with
    | recorded r stores rec => exact ⟨_, _, _, Function.update_self .., args, rec⟩
    | unrecorded stores rec => exact ⟨_, _, _, Function.update_self .., args, rec⟩

lemma evaluate_records [Regex] {s : Service γ} {env : RequestEnv} {req : EvaluateRequest}
    {ctx : TenantContext} (known : s.tenants.getStrict req.tenantId = some ctx) {d : PolicyResult}
    (allowed : (Main.consume env ctx req).2.1.1 = true)
    (ans : ctx.policyEngine.evaluate env.remote req.content = .ok d) :
    Records s env req.tenantId ctx req.content d (Main.evaluate s env req).2 := by
  unfold Main.evaluate
  by_cases ident : Main.Identified env req.clientId
  · rw [if_neg (not_not.2 ident)]
    cases InputValidator.validateRequest req.clientId req.content req.tokenCount with
    | some error => exact .idle known rfl
    | none =>
      rw [known]
      dsimp only
      rw [if_neg (not_not.2 allowed), ans]
      dsimp only
      let ctx' := { ctx with rateLimiter := (Main.consume env ctx req).2.2 }
      let a := Main.evaluateArgs env ctx' req d.action.value d.reason d.triggeredRule
      obtain ⟨out, ⟨rec, -⟩, eq⟩ := recordDecision_outcome ctx' s.stores env.toDecisionEnv a
      rw [eq]
      have args : RecordArgs.Of d req.content a := ⟨rfl, rfl, rfl⟩
      exact ⟨_, _, a, Function.update_self .., args, rec⟩
  · rw [if_pos ident]
    exact .idle known rfl

/-- A request that is decided makes at most one call of `record`, of the decision. -/
lemma Decision.records [Regex] (hooks : CustodyHooks γ) {s : Service γ} {env : RequestEnv}
    {ctx : TenantContext} {req : Request} (known : s.tenants.getStrict req.tenantId = some ctx)
    {content : String} {d : PolicyResult} (dec : Decision s env ctx req content d) :
    Records s env req.tenantId ctx content d (serve hooks s env req) := by
  cases dec with
  | evaluate req d allowed ans => exact evaluate_records known allowed ans
  | evaluateAction req d dec =>
    show Records s env req.tenantId ctx _ d (Main.evaluateAction hooks s env req).2
    unfold Main.evaluateAction
    by_cases ident : Main.Identified env req.clientId
    · rw [if_neg (not_not.2 ident)]
      exact evaluateAction_records hooks known dec req.clientId none
    · rw [if_pos ident]
      exact .idle known rfl
  | mediate call d dec => exact evaluateAction_records hooks known dec call.clientId (some call.traceId)

/-- The request appended the record to its tenant's chain. -/
def Appends [Regex] (hooks : CustodyHooks γ) (s : Service γ) (env : RequestEnv) (req : Request)
    (ctx : TenantContext) (r : AuditRecord) : Prop :=
  ∃ ctx', (serve hooks s env req).tenants.getStrict req.tenantId = some ctx' ∧
    ctx'.auditChain.records = ctx.auditChain.records ++ [r]

/-- A request that gets to its record appends it, where no evidence is asked for and the chain takes it. -/
lemma serve_appends [Regex] (hooks : CustodyHooks γ) {s : Service γ} {env : RequestEnv} {req : Request}
    {ctx : TenantContext} (known : s.tenants.getStrict req.tenantId = some ctx) (reach : req.Reaches s env ctx)
    (scope : ctx.auditChain.tenantId = some req.tenantId) (unasked : boundEvidenceRequired env.environ = false)
    (takes : ctx.auditChain.Takes s.stores.audit env.toRecordEnv) : ∃ r, Appends hooks s env req ctx r := by
  cases serve_served hooks s env req with
  | unknown none =>
    rw [known] at none
    cases none
  | known ctx' rateLimiter auditChain a known' tenants _ _ tenant rec =>
    cases known.symm.trans known'
    have evidence : boundEvidenceRequired env.environ → AuditChain.missingEvidence a = [] := by
      intro asked
      rw [unasked] at asked
      cases asked
    obtain ⟨form, r, -, grown, -⟩ := rec.written_of_takes reach scope tenant evidence takes
    refine ⟨r, { ctx with rateLimiter, auditChain }, ?_, by rw [grown]⟩
    rw [tenants]
    exact Function.update_self ..

/-- The record of a decision says what was decided, and of what content. -/
lemma Decision.record [Regex] {hooks : CustodyHooks γ} {s : Service γ} {env : RequestEnv}
    {ctx : TenantContext} {req : Request} (known : s.tenants.getStrict req.tenantId = some ctx)
    {content : String} {d : PolicyResult} (dec : Decision s env ctx req content d) {r : AuditRecord}
    (appends : Appends hooks s env req ctx r) :
    r.action = d.action.value ∧ r.triggeredRule = d.triggeredRule ∧ r.contentHash = sha256 content := by
  obtain ⟨ctx', ready, a, after, args, rec⟩ := dec.records hooks known
  obtain ⟨ctx'', after', grown⟩ := appends
  cases after.symm.trans after'
  obtain ⟨action, triggeredRule, contentHash, -, -⟩ := rec.fields grown
  rw [action, triggeredRule, contentHash, args.action, args.triggeredRule, args.content]
  exact ⟨rfl, rfl, rfl⟩

/-! ## What comes after -/

/-- The tenant's rules are what they were, and its chain has at most grown, and still verifies. -/
structure Since (id : String) (s s' : Service γ) : Prop where
  context : ∀ ctx, s.tenants.getStrict id = some ctx → ∃ ctx', s'.tenants.getStrict id = some ctx' ∧
    ctx'.policyEngine = ctx.policyEngine ∧ ctx.auditChain.records <+: ctx'.auditChain.records ∧
    (ctx.auditChain.Verified → ctx'.auditChain.Verified)

lemma Since.refl (id : String) (s : Service γ) : Since id s s :=
  ⟨fun ctx known => ⟨ctx, known, rfl, List.prefix_rfl, fun verified => verified⟩⟩

/-- Two stretches of time. -/
lemma Since.trans {id : String} {s s' s'' : Service γ} (since : Since id s s') (since' : Since id s' s'') :
    Since id s s'' := by
  refine ⟨fun ctx known => ?_⟩
  obtain ⟨ctx', known', engine, grown, verified⟩ := since.context ctx known
  obtain ⟨ctx'', known'', engine', grown', verified'⟩ := since'.context ctx' known'
  exact ⟨ctx'', known'', engine'.trans engine, grown.trans grown', fun ok => verified' (verified ok)⟩

/-- Recording appends to a chain, and one that verified verifies after it. -/
lemma Recording.since {ready : Prop} {c c' : AuditChain} {s s' : Stores} {env : RecordEnv} {a : RecordArgs}
    (rec : Recording ready c s env a c' s') :
    c.records <+: c'.records ∧ (c.Verified → c'.Verified) := by
  cases rec with
  | untried => exact ⟨List.prefix_rfl, fun verified => verified⟩
  | refused => exact ⟨List.prefix_rfl, fun verified => verified⟩
  | written form r _ _ wrote =>
    refine ⟨List.prefix_append .., fun verified => ?_⟩
    exact AuditChain.verified_iff_linked.2 (wrote.entry.linked (AuditChain.verified_iff_linked.1 verified))

/-- No request changes a tenant's rules, or its chain but by records of its own. -/
lemma serve_since [Regex] (hooks : CustodyHooks γ) (s : Service γ) (env : RequestEnv) (req : Request)
    (id : String) : Since id s (serve hooks s env req) := by
  cases serve_served hooks s env req with
  | unknown _ tenants _ =>
    refine ⟨fun ctx known => ⟨ctx, ?_, rfl, List.prefix_rfl, fun verified => verified⟩⟩
    rw [tenants]
    exact known
  | known ctx rateLimiter auditChain a known tenants _ _ _ rec =>
    refine ⟨fun ctx' known' => ?_⟩
    by_cases own : id = req.tenantId
    · subst own
      cases known.symm.trans known'
      refine ⟨{ ctx with rateLimiter, auditChain }, ?_, rfl, rec.since⟩
      rw [tenants]
      exact Function.update_self ..
    · refine ⟨ctx', ?_, rfl, List.prefix_rfl, fun verified => verified⟩
      rw [tenants]
      exact (Function.update_of_ne own _ _).trans known'

/-- What happens to the service: a request, or anything else, which leaves it as `s`. -/
inductive ServiceEvent (γ : Type) where
  | request (env : RequestEnv) (req : Request)
  | others (s : Service γ)

def eventStep [Regex] (hooks : CustodyHooks γ) (s : Service γ) : ServiceEvent γ → Service γ
  | .request env req => serve hooks s env req
  | .others s' => s'

/-- What is no request changes neither the tenant's rules nor what its chain holds. -/
def KeepsRules (id : String) (s : Service γ) (event : ServiceEvent γ) : Prop :=
  ∀ s', event = .others s' → Since id s s'

/-- A run that keeps the rules grows the log only. -/
lemma run_since [Regex] (hooks : CustodyHooks γ) {s : Service γ} {id : String}
    {events : List (ServiceEvent γ)} (kept : Steps (eventStep hooks) (KeepsRules id) s events) :
    Since id s (run (eventStep hooks) s events) := by
  refine run_invariant_of_steps _ (I := Since id s) (.refl id s) (fun s' event since keeps => ?_) kept
  cases event with
  | request env req => exact since.trans (serve_since hooks s' env req id)
  | others s'' => exact since.trans (keeps s'' rfl)

/-! ## The replay -/

/-- Under a record's hash a chain that verifies holds the record, or one that agrees with it on all that is
bound. -/
lemma findRecord_of_mem (cf : CollisionFree) {c : AuditChain} (verified : c.Verified) {r : AuditRecord}
    (mem : r ∈ c.records) : ∃ found, Main.findRecord c r.recordHash = some found ∧ BindSame r found := by
  have linked := AuditChain.verified_iff_linked.1 verified
  cases found : Main.findRecord c r.recordHash with
  | none =>
    have none := List.find?_eq_none.1 found r mem
    simp at none
  | some r' =>
    have hash : r'.recordHash = r.recordHash := by
      simpa using List.find?_some found
    obtain ⟨p, own⟩ := linked.own_of_mem mem
    obtain ⟨p', own'⟩ := linked.own_of_mem (List.mem_of_find?_eq_some found)
    have hashed : computeRecordHash r' p' = .ok r.recordHash :=
      hash ▸ AuditChain.recordLink_hash.1 own'
    exact ⟨r', rfl, (computeRecordHash_inj cf (AuditChain.recordLink_hash.1 own) hashed).2⟩

/-- The replay of a record that is found under its hash, with its content, reports the engine's answer. -/
lemma replayByHash_ok [Regex] {c : AuditChain} {recordHash content : String} {r : AuditRecord}
    (found : Main.findRecord c recordHash = some r) (hash : r.contentHash = sha256 content) {e : Engine}
    {env : RequestEnv} {d : PolicyResult} (ans : e.evaluate env.remote content = .ok d) :
    ∃ res, Main.replayByHash c e env recordHash content = .ok res ∧ res.replayedAction = d.action.value ∧
      (res.decisionMatches = true ↔ d.action.value = r.action ∧ d.triggeredRule = r.triggeredRule) := by
  unfold Main.replayByHash
  rw [found]
  dsimp only
  rw [if_neg (not_not.2 hash.symm), ans, ok_bind]
  exact ⟨_, rfl, rfl, decide_eq_true_iff⟩

/-- It matches exactly where the engine answers the content with the record's action and rule. -/
lemma replayByHash_matches_iff [Regex] {c : AuditChain} {recordHash content : String} {r : AuditRecord}
    (found : Main.findRecord c recordHash = some r) (hash : r.contentHash = sha256 content) (e : Engine)
    (env : RequestEnv) :
    (∃ res, Main.replayByHash c e env recordHash content = .ok res ∧ res.decisionMatches = true) ↔
      ∃ d, e.evaluate env.remote content = .ok d ∧ d.action.value = r.action ∧
        d.triggeredRule = r.triggeredRule := by
  cases ans : e.evaluate env.remote content with
  | error exn =>
    have raised : Main.replayByHash c e env recordHash content = .error exn := by
      unfold Main.replayByHash
      rw [found]
      dsimp only
      rw [if_neg (not_not.2 hash.symm), ans]
      rfl
    simp [raised]
  | ok d =>
    obtain ⟨res, ok, -, matches_iff⟩ := replayByHash_ok found hash ans
    simp [ok, matches_iff]

/-- A decision's record, replayed with the content it was taken on at any later time at which the tenant's
rules are what they were, is reproduced exactly where the decision is the engine's. -/
theorem replay_reproduces_iff [Regex] (cf : CollisionFree) (hooks : CustodyHooks γ) {s : Service γ}
    {env : RequestEnv} {req : Request} {ctx : TenantContext}
    (known : s.tenants.getStrict req.tenantId = some ctx) (verified : ctx.auditChain.Verified)
    {content : String} {d : PolicyResult} (decision : Decision s env ctx req content d) {r : AuditRecord}
    (appends : Appends hooks s env req ctx r) {later : List (ServiceEvent γ)}
    (kept : Steps (eventStep hooks) (KeepsRules req.tenantId) (serve hooks s env req) later)
    {ctx' : TenantContext}
    (now : (run (eventStep hooks) (serve hooks s env req) later).tenants.getStrict req.tenantId = some ctx')
    {env' : RequestEnv} (remote : env'.remote content = env.remote content) :
    (∃ res, Main.replayByHash ctx'.auditChain ctx'.policyEngine env' r.recordHash content = .ok res ∧
      res.decisionMatches = true) ↔ req.EngineDecides s env ctx := by
  obtain ⟨action, triggeredRule, contentHash⟩ := decision.record known appends
  -- the record is in the chain as it is now, which verifies
  obtain ⟨ctx₁, known₁, grown⟩ := appends
  obtain ⟨ctx₁', known₁', engine₁, -, verified₁⟩ :=
    (serve_since hooks s env req req.tenantId).context ctx known
  cases known₁.symm.trans known₁'
  obtain ⟨ctx₂, known₂, engine₂, prefixed, verified₂⟩ := (run_since hooks kept).context ctx₁ known₁
  cases now.symm.trans known₂
  have mem : r ∈ ctx'.auditChain.records := prefixed.mem (by rw [grown]; simp)
  obtain ⟨found, ok, same⟩ := findRecord_of_mem cf (verified₂ (verified₁ verified)) mem
  have hash : found.contentHash = sha256 content := same.contentHash.symm.trans contentHash
  have engine : ctx'.policyEngine.evaluate env'.remote content =
      ctx.policyEngine.evaluate env.remote content := by
    rw [engine₂, engine₁]
    cases ctx.policyEngine with
    | regex e => rfl
    | opa e => exact remote
    | hybrid e => exact remote
  rw [replayByHash_matches_iff ok hash, engine, ← decision.answers_iff, ← same.action, action,
    ← same.triggeredRule, triggeredRule]
  simp only [Engine.Answers, PolicyAction.value_injective.eq_iff]

end

section Sample

local instance replayPlatform : Platform := .reference gateDigests

/-- A text none of the patterns matches. -/
local instance replayRegex : Regex where
  invalid _ := none
  finditer _ _ := []

def replayEnv : RequestEnv where
  toGateEnv := gateEnv
  purgedAt := 1700000000
  traceId := sampleTraceId
  clock _ := 1700000060

/-- An action the gate leaves to the engine, and one whose tool the tenant does not have. -/
def searchRequest : EvaluateActionRequest := { clientId := "agent", tenantId := "acme", tool := "search" }
def shellRequest : EvaluateActionRequest := { clientId := "agent", tenantId := "acme", tool := "shell" }

/-- The sample's chain verifies. -/
lemma gateService_verified {ctx : TenantContext} (known : gateService.tenants.getStrict "acme" = some ctx) :
    ctx.auditChain.Verified := by
  cases known
  exact ⟨_, rfl⟩

/-- The gate's decision of an action of the sample's tenant is appended to its chain. -/
lemma gateService_appends {ctx : TenantContext} (known : gateService.tenants.getStrict "acme" = some ctx)
    {req : EvaluateActionRequest} (tenant : req.tenantId = "acme") {content : String} {d : PolicyResult}
    (decision : Decision gateService replayEnv ctx (.evaluateAction req) content d) :
    ∃ r, Appends raisingHooks gateService replayEnv (.evaluateAction req) ctx r := by
  have registered : gateService.tenants.getStrict req.tenantId = some ctx := by
    rw [tenant]
    exact known
  have off : contentRetentionMode replayEnv.environ = .ok MODE_OFF := by decide +kernel
  have reach : Request.Reaches gateService replayEnv ctx (.evaluateAction req) := by
    cases decision with
    | evaluateAction _ d dec =>
      refine ⟨by rintro _ ⟨⟩, ⟨d, dec⟩, contentReady_of_off ?_⟩
      unfold contentStoreFor
      rw [off, ok_bind]
      rfl
  have scope : ctx.auditChain.tenantId = some req.tenantId := by
    rw [tenant]
    cases known
    rfl
  have takes : ctx.auditChain.Takes gateService.stores.audit replayEnv.toRecordEnv := by
    cases known
    exact fun _ => ⟨rfl, fun r stored => by cases stored⟩
  exact serve_appends raisingHooks registered reach scope (by decide +kernel) takes

/-- The record of the engine's decision is reproduced, also when another has been written after it. -/
theorem replay_reproduces_iff_sample :
    ∃ ctx r ctx' res, Appends raisingHooks gateService replayEnv (.evaluateAction searchRequest) ctx r ∧
      (run (eventStep raisingHooks) (serve raisingHooks gateService replayEnv (.evaluateAction searchRequest))
        [.request replayEnv (.evaluateAction shellRequest)]).tenants.getStrict "acme" = some ctx' ∧
      Main.replayByHash ctx'.auditChain ctx'.policyEngine replayEnv r.recordHash
        searchRequest.action.serialize = .ok res ∧ res.decisionMatches = true := by
  obtain ⟨ctx, known⟩ : ∃ ctx, gateService.tenants.getStrict "acme" = some ctx := ⟨_, rfl⟩
  have verified := gateService_verified known
  have decision : ∃ d, Decision gateService replayEnv ctx (.evaluateAction searchRequest)
      searchRequest.action.serialize d := by
    cases known
    exact ⟨_, .evaluateAction _ _ (.engine _ (by decide) (fun rule _ hit => hit rfl) rfl)⟩
  obtain ⟨d, decision⟩ := decision
  obtain ⟨r, appends⟩ := gateService_appends known rfl decision
  have appended := appends
  obtain ⟨ctx₁, after, -⟩ := appended
  have kept : Steps (eventStep raisingHooks) (KeepsRules "acme")
      (serve raisingHooks gateService replayEnv (.evaluateAction searchRequest))
      [.request replayEnv (.evaluateAction shellRequest)] :=
    ⟨by rintro s' ⟨⟩, trivial⟩
  obtain ⟨ctx₂, now, -⟩ := (run_since raisingHooks kept).context ctx₁ after
  have early : searchRequest.action.earlyRule (gateService.gate.tools "acme") = none := by decide +kernel
  have decides : Request.EngineDecides gateService replayEnv ctx (.evaluateAction searchRequest) := by
    intro rule (mem : rule ∈ searchRequest.action.earlyRule (gateService.gate.tools "acme"))
    rw [early] at mem
    cases mem
  have remote : replayEnv.remote searchRequest.action.serialize =
      replayEnv.remote searchRequest.action.serialize := rfl
  obtain ⟨res, ok, same⟩ := (replay_reproduces_iff (collisionFree_reference gateDigests) raisingHooks
    known verified decision appends kept now remote).2 decides
  exact ⟨ctx, r, ctx₂, res, appends, now, ok, same⟩

/-- The record of the other action's deny is not: the engine, which the gate did not ask, allows its payload. -/
theorem tool_deny_not_reproduced :
    ∃ ctx r ctx' res, Appends raisingHooks gateService replayEnv (.evaluateAction shellRequest) ctx r ∧
      r.action = "deny" ∧ r.triggeredRule = some "action_gate_tool_not_allowlisted" ∧
      (serve raisingHooks gateService replayEnv (.evaluateAction shellRequest)).tenants.getStrict "acme" =
        some ctx' ∧
      Main.replayByHash ctx'.auditChain ctx'.policyEngine replayEnv r.recordHash
        shellRequest.action.serialize = .ok res ∧
      res.replayedAction = "allow" ∧ res.decisionMatches = false := by
  obtain ⟨ctx, known⟩ : ∃ ctx, gateService.tenants.getStrict "acme" = some ctx := ⟨_, rfl⟩
  have decision : Decision gateService replayEnv ctx (.evaluateAction shellRequest)
      shellRequest.action.serialize (notAllowlisted "acme" "shell") :=
    .evaluateAction _ _ (.tool (by decide))
  obtain ⟨r, appends⟩ := gateService_appends known rfl decision
  obtain ⟨action, triggeredRule, contentHash⟩ := decision.record known appends
  have verified := gateService_verified known
  have allows : ctx.policyEngine.evaluate replayEnv.remote shellRequest.action.serialize =
      .ok { allowed := true, action := .ALLOW, triggeredRule := none
            reason := "No policy violations detected" } := by
    cases known
    rfl
  obtain ⟨ctx₁, after, grown⟩ := appends
  obtain ⟨ctx₁', after', engine, -, verified₁⟩ := (serve_since raisingHooks gateService replayEnv
    (.evaluateAction shellRequest) "acme").context ctx known
  cases after.symm.trans after'
  have mem : r ∈ ctx₁.auditChain.records := by rw [grown]; simp
  obtain ⟨found, ok, same⟩ :=
    findRecord_of_mem (collisionFree_reference gateDigests) (verified₁ verified) mem
  have hash : found.contentHash = sha256 shellRequest.action.serialize :=
    same.contentHash.symm.trans contentHash
  obtain ⟨res, replayed, replayedAction, matches_iff⟩ := replayByHash_ok ok hash (engine ▸ allows)
  refine ⟨ctx, r, ctx₁, res, ⟨ctx₁, after, grown⟩, action, triggeredRule, after, replayed, replayedAction, ?_⟩
  rw [Bool.eq_false_iff]
  intro matched
  rw [← same.triggeredRule, triggeredRule] at matches_iff
  cases (matches_iff.1 matched).2

end Sample

end Custos
