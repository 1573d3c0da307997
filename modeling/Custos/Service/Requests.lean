import Custos.Service.ActionGate
import Custos.Service.Firewall

/-!
# Requests

The operations of `main.py` that write records, the mediator's two calls on the gate
(`custos/mcp_gate_adapter.py`), and the binding written at startup (`custos/deployment_binding.py`): what
stands before each one's call of `record`, and what it hands to it.

`serve_served` says the same of all of them: the request makes one call of `record` on its tenant's
chain, with the trace id and the digest its path has, where it reaches it, and none elsewhere.
-/

namespace Custos

/-! ## What requests carry -/

/-- What a request meets outside: its identity and trace, the readings of the clock before its record's,
the credential header, and the stores' engines. -/
structure RequestEnv extends GateEnv, PurgeEnv where
  auth : Option String := none
  traceId : TraceId
  clock : Nat → ℚ
  retentionToken : Option String := none
  statusFault : Option StoreExc := none

structure EvaluateRequest where
  clientId : String := "default"
  content : String
  tokenCount : Int := 1
  tenantId : String := "default"

structure EvaluateActionRequest where
  clientId : String := "default"
  tenantId : String := "default"
  tool : String
  command : String := ""
  args : Option (List (String × Json)) := none

def EvaluateActionRequest.action (req : EvaluateActionRequest) : ActionRequest :=
  { tool := req.tool, command := req.command, args := req.args }

structure EvaluateResponse where
  allowed : Bool
  action : String
  triggeredRule : Option String
  reason : String
  clientId : String
  tenantId : String := "default"
  auditRecordHash : Option String := none
  traceId : Option String := none

structure RetentionPurgeRequest where
  tenantId : String := "default"
  contentHash : String
  reason : String

structure RetentionPurgeResponse where
  purged : Bool
  contentHash : String
  attestationHash : String
  storeStatus : String
  tenantId : String

structure ReplayRequest where
  recordHash : String
  originalContent : String
  tenantId : String := "default"

structure ReplayResponse where
  originalRecordHash : String
  originalTimestamp : ℚ
  originalAction : String
  originalTriggeredRule : Option String
  originalTraceId : Option String
  replayedAction : String
  replayedTriggeredRule : Option String
  replayedReason : String
  decisionMatches : Bool
  replayTimestamp : ℚ
  contentHash : String

structure ReplayResult extends ReplayResponse where
  originalReason : String

/-- A call the mediator asks the gate about. -/
structure MediatedCall where
  tenantId : String
  clientId : String := "mcp-proxy"
  tool : String
  arguments : List (String × Json) := []
  traceId : String

/-- A call the mediator refused without a verdict. -/
structure MediatedDenial where
  tenantId : String
  clientId : String := "mcp-proxy"
  tool : String
  traceId : String
  rule : String
  reason : String

structure GateVerdict where
  allowed : Bool
  recordHash : Option String
  rule : Option String
  reason : String

/-- The summary `establish` returns. -/
structure Binding where
  payload : String
  bindingDigest : String
  traceId : String
  policyDigest : Option String
  recordHash : String
  establishedAt : ℚ

/-- What a request fails with: an `HTTPException` with its `Retry-After`, or an exception nobody
caught. -/
inductive Failure where
  | http (status : Nat) (detail : String) (retryAfter : Option Int := none)
  | raised (e : Exn)

/-- `str(exc)`. -/
def Exn.text : Exn → String
  | .ValueError msg | .UnknownBindingVersion msg | .ChainForkError msg | .AuditStoreFull msg
  | .RuntimeError msg | .ContentPurged msg | .PurgeRefused msg | .RetentionConfigRefused msg => msg
  | .Store exc => exc.text
  | .Other _ text => text

def StoreStatus.value : StoreStatus → String
  | .STATUS_PRESENT => "present"
  | .STATUS_PURGED => "purged"
  | .STATUS_UNKNOWN => "unknown"

def BINDING_RULE : String := "deployment_binding_startup"
def BINDING_CLIENT_ID : String := "custos-binding"

variable {γ : Type}

/-! ## The handlers -/

namespace Main

def identityMismatch : Failure := .http 403 "Client identity does not match request client_id"

def unknownTenant (tenantId : String) : Failure := .http 403 ("Unknown tenant: " ++ tenantId)

/-- The token's identity is the client's, or there is no token. -/
def Identified (env : RequestEnv) (clientId : String) : Prop := ∀ auth ∈ env.auth, auth = clientId

instance (env : RequestEnv) (clientId : String) : Decidable (Identified env clientId) :=
  inferInstanceAs (Decidable (∀ auth ∈ env.auth, _))

/-- The rate limit of `evaluate`: a key of the client that inherits the tenant's quota. -/
def consume (env : RequestEnv) (ctx : TenantContext) (req : EvaluateRequest) :
    String × (Bool × String) × RateLimiter :=
  let rateKey := if req.tenantId ≠ "default" then req.tenantId ++ ":" ++ req.clientId else req.clientId
  let limiter :=
    if (ctx.rateLimiter.getQuota rateKey).isNone then
      ctx.rateLimiter.register rateKey
        ((ctx.rateLimiter.getQuota ctx.tenantId).getD
          { requestsPerMinute := 60, requestsPerHour := 1000 }) (env.clock 0)
    else ctx.rateLimiter
  (rateKey, limiter.checkAndConsume (env.clock 1) rateKey req.tokenCount)

variable [Platform]

/-- What `evaluate` hands to `_record_decision`. -/
def evaluateArgs (env : RequestEnv) (ctx : TenantContext) (req : EvaluateRequest)
    (action reason : String) (triggeredRule : Option String) : RecordArgs :=
  { clientId := req.clientId, action, reason, content := req.content, triggeredRule
    traceId := some env.traceId.1
    policyDigest := contentEngineDigest env.environ ctx.policyEngine }

/-- `/v1/evaluate`. -/
def evaluate [Regex] (s : Service γ) (env : RequestEnv) (req : EvaluateRequest) :
    Except Failure EvaluateResponse × Service γ :=
  if ¬ Identified env req.clientId then (.error identityMismatch, s)
  else
    match InputValidator.validateRequest req.clientId req.content req.tokenCount with
    | some error => (.error (.http 422 error), s)
    | none =>
      match s.tenants.getStrict req.tenantId with
      | none => (.error (unknownTenant req.tenantId), s)
      | some ctx =>
        let (rateKey, (allowed, msg), rateLimiter) := consume env ctx req
        let ctx := { ctx with rateLimiter }
        if ¬ allowed then
          let (res, ctx, stores) := recordDecision ctx s.stores env.toDecisionEnv
            (evaluateArgs env ctx req "rate_limited" msg none)
          let wait := rateLimiter.retryAfterSeconds (env.clock 2) rateKey req.tokenCount
          (match res with
            | .error e => .error (.raised e)
            | .ok _ => .error (.http 429 msg wait),
            { s with tenants := s.tenants.setContext req.tenantId ctx, stores })
        else
          match ctx.policyEngine.evaluate env.remote req.content with
          | .error e =>
            (.error (.raised e), { s with tenants := s.tenants.setContext req.tenantId ctx })
          | .ok result =>
            let (res, ctx, stores) := recordDecision ctx s.stores env.toDecisionEnv
              (evaluateArgs env ctx req result.action.value result.reason result.triggeredRule)
            (match res with
              | .error e => .error (.raised e)
              | .ok auditEntry => .ok
                { allowed := result.allowed, action := result.action.value
                  triggeredRule := result.triggeredRule, reason := result.reason
                  clientId := req.clientId, tenantId := req.tenantId
                  auditRecordHash := some auditEntry.recordHash, traceId := some env.traceId.1 },
              { s with tenants := s.tenants.setContext req.tenantId ctx, stores })

/-- `/v1/evaluate_action`: the gate is handed no trace id. -/
def evaluateAction [Regex] (hooks : CustodyHooks γ) (s : Service γ) (env : RequestEnv)
    (req : EvaluateActionRequest) : Except Failure EvaluateResponse × Service γ :=
  if ¬ Identified env req.clientId then (.error identityMismatch, s)
  else
    let (res, s) := s.evaluateAction hooks env.toGateEnv req.tenantId req.action req.clientId none
    (match res with
      | .error e => .error (.raised e)
      | .ok gateResult => .ok
        { allowed := gateResult.decision.allowed, action := gateResult.decision.action.value
          triggeredRule := gateResult.decision.triggeredRule, reason := gateResult.decision.reason
          clientId := req.clientId, tenantId := req.tenantId
          auditRecordHash := gateResult.auditRecordHash, traceId := some env.traceId.1 },
      s)

omit [Platform] in
def isAscii (s : String) : Bool := s.toList.all (·.toNat < 128)

omit [Platform] in
/-- `hmac.compare_digest` of two strings. -/
def compareDigest (a b : String) : Except Exn Bool :=
  if isAscii a ∧ isAscii b then .ok (a = b)
  else .error (.Other "TypeError" "comparing strings with non-ASCII characters is not supported")

omit [Platform] in
/-- `require_retention_admin`. -/
def requireRetentionAdmin (env : RequestEnv) : Except Failure Unit :=
  match contentRetentionMode env.environ with
  | .error e => .error (.raised e)
  | .ok mode =>
    if mode = MODE_OFF then
      .error (.http 503
        ("content retention is off (" ++ MODE_ENV ++ "=" ++ MODE_OFF ++ "); the served " ++
         "path keeps no content, so an erasure request has nothing to act " ++
         "on. This is a refusal, not a completed deletion"))
    else
      match adminToken env.environ with
      | none =>
        .error (.http 503
          ("retention administration is not configured; set " ++ ADMIN_TOKEN_ENV ++ ". " ++
           "Content is being withheld from erasure until an operator " ++
           "credential exists, and this endpoint stays closed rather than open"))
      | some token =>
        match env.retentionToken with
        | none => .error (.http 401 "retention admin token missing or wrong")
        | some retentionToken =>
          match compareDigest retentionToken token with
          | .error e => .error (.raised e)
          | .ok false => .error (.http 401 "retention admin token missing or wrong")
          | .ok true => .ok ()

/-- `/v1/retention/purge`: the store is handed no trace id. -/
def retentionPurge (s : Service γ) (env : RequestEnv) (req : RetentionPurgeRequest) :
    Except Failure RetentionPurgeResponse × Service γ :=
  match requireRetentionAdmin env with
  | .error e => (.error e, s)
  | .ok () =>
    match s.tenants.getStrict req.tenantId with
    | none => (.error (unknownTenant req.tenantId), s)
    | some ctx =>
      match contentStoreFor env.environ env.openFault req.tenantId with
      | .error e => (.error (.raised e), s)
      | .ok none =>
        (.error (.raised (.Other "AttributeError" "'NoneType' object has no attribute 'status'")), s)
      | .ok (some path) =>
        match env.statusFault, (s.stores.contents path).status req.contentHash with
        | some exc, _ => (.error (.raised (.Store exc)), s)
        | none, .STATUS_UNKNOWN =>
          (.error (.http 409
            ("the store holds no content at " ++ slice req.contentHash 16 ++ "; a purge " ++
             "of something never stored would be recorded as a deletion that " ++
             "never happened")), s)
        | none, .STATUS_PURGED =>
          let purgedAt := match (s.stores.contents path).purges req.contentHash with
            | some prior => dumps (.float prior.purgedAt)
            | none => "an earlier time"
          (.error (.http 409
            ("content " ++ slice req.contentHash 16 ++ " was already purged at " ++ purgedAt)), s)
        | none, .STATUS_PRESENT =>
          let (res, auditChain, stores) := purge path ctx.auditChain s.stores env.toPurgeEnv
            req.contentHash "retention-admin" req.reason none
            (contentEngineDigest env.environ ctx.policyEngine)
          (match res with
            | .error (.PurgeRefused msg) => .error (.http 409 msg)
            | .error (.ContentPurged msg) => .error (.http 409 msg)
            | .error e => .error (.raised e)
            | .ok attestationHash => .ok
              { purged := true, contentHash := req.contentHash, attestationHash
                storeStatus := ((stores.contents path).status req.contentHash).value
                tenantId := req.tenantId },
            { s with tenants := s.tenants.setContext req.tenantId { ctx with auditChain }, stores })

omit [Platform] in
/-- `_find_record`. -/
def findRecord (chain : AuditChain) (recordHash : String) : Option AuditRecord :=
  chain.records.find? (·.recordHash = recordHash)

/-- `replay_by_hash`. -/
def replayByHash [Regex] (chain : AuditChain) (engine : Engine) (env : RequestEnv)
    (recordHash originalContent : String) : Except Exn ReplayResult :=
  match findRecord chain recordHash with
  | none => .error (.ValueError ("Record hash not found in audit chain: " ++ recordHash))
  | some record =>
    if sha256 originalContent ≠ record.contentHash then
      .error (.ValueError
        ("Supplied content does not match stored content_hash. " ++
         "Cannot replay with mismatched content."))
    else do
      let result ← engine.evaluate env.remote originalContent
      return {
        originalRecordHash := record.recordHash
        originalTimestamp := record.timestamp
        originalAction := record.action
        originalTriggeredRule := record.triggeredRule
        originalReason := record.reason
        originalTraceId := record.traceId
        replayedAction := result.action.value
        replayedTriggeredRule := result.triggeredRule
        replayedReason := result.reason
        decisionMatches := result.action.value = record.action ∧
          result.triggeredRule = record.triggeredRule
        replayTimestamp := env.clock 0
        contentHash := record.contentHash }

omit [Platform] in
/-- The record of a replay. -/
def replayArgs (req : ReplayRequest) : RecordArgs :=
  { clientId := "system", action := "replay"
    reason := "Replayed record " ++ slice req.recordHash 16 ++ "...", content := req.originalContent }

/-- `/v1/replay`: `record` is handed neither a trace id nor a digest. -/
def replay [Regex] (s : Service γ) (env : RequestEnv) (req : ReplayRequest) :
    Except Failure ReplayResponse × Service γ :=
  match s.tenants.getStrict req.tenantId with
  | none => (.error (unknownTenant req.tenantId), s)
  | some ctx =>
    match replayByHash ctx.auditChain ctx.policyEngine env req.recordHash req.originalContent with
    | .error (.ValueError msg) => (.error (.http 404 msg), s)
    | .error e => (.error (.raised e), s)
    | .ok result =>
      let (res, auditChain, stores) :=
        ctx.auditChain.recordIn s.stores env.toRecordEnv (replayArgs req)
      (match res with
        | .error e => .error (.raised e)
        | .ok _ => .ok result.toReplayResponse,
        { s with tenants := s.tenants.setContext req.tenantId { ctx with auditChain }, stores })

end Main

/-! ## The mediator and the startup -/

namespace CustosGateAdapter

def action (call : MediatedCall) : ActionRequest := { tool := call.tool, args := some call.arguments }

variable [Platform]

/-- `evaluate`. -/
def evaluate [Regex] (hooks : CustodyHooks γ) (s : Service γ) (env : RequestEnv)
    (call : MediatedCall) : Except Exn GateVerdict × Service γ :=
  let (res, s) := s.evaluateAction hooks env.toGateEnv call.tenantId (action call) call.clientId
    (some call.traceId)
  (res.map fun result =>
    { allowed := result.decision.action = .ALLOW, recordHash := result.auditRecordHash
      rule := result.decision.triggeredRule, reason := result.decision.reason }, s)

/-- `record_denial`. -/
def recordDenial (s : Service γ) (env : RequestEnv) (d : MediatedDenial) : Bool × Service γ :=
  s.recordReconciliation env.toRecordEnv d.tenantId d.clientId d.traceId d.rule d.reason
    (d.rule ++ " tool=" ++ d.tool)

end CustosGateAdapter

/-- The tenant whose chain the startup binding is written to. -/
def BINDING_TENANT : String := "default"

section

variable [Platform]

/-- What `record_binding` hands to `record`. -/
def bindingArgs (env : RequestEnv) (payload : String) (policyDigest : Option String) : RecordArgs :=
  { clientId := BINDING_CLIENT_ID, action := "BINDING"
    reason := "deployment binding written at startup", content := payload
    triggeredRule := some BINDING_RULE, traceId := some env.traceId.1, policyDigest
    tenantId := some BINDING_TENANT }

/-- `establish`, as the startup calls it. `payload` is what `payload_from_env` comes to: the text of the
refusal, none where no binding is asked for, or the payload's canonical text. -/
def establishStartupBinding (s : Service γ) (env : RequestEnv)
    (payload : Except String (Option String)) : Except Exn (Option Binding) × Service γ :=
  match s.tenants.getStrict BINDING_TENANT with
  | none =>
    (.error (.Other "AttributeError" "'NoneType' object has no attribute 'audit_chain'"), s)
  | some ctx =>
    let (policyDigest, s) := s.citedPolicyDigest env.environ BINDING_TENANT
    match payload with
    | .error msg => (.error (.Other "BindingError" msg), s)
    | .ok none => (.ok none, s)
    | .ok (some payload) =>
      let (res, auditChain, stores) := ctx.auditChain.recordIn s.stores env.toRecordEnv
        (bindingArgs env payload policyDigest)
      (match res with
        | .error e =>
          .error (.Other "BindingError" ("deployment binding could not be recorded: " ++ e.text))
        | .ok record => .ok (some
          { payload, bindingDigest := "sha256:" ++ sha256 payload, traceId := env.traceId.1
            policyDigest, recordHash := record.recordHash, establishedAt := record.timestamp }),
        { s with tenants := s.tenants.setContext BINDING_TENANT { ctx with auditChain }, stores })

end

/-! ## All of them -/

inductive Request where
  | evaluate (req : EvaluateRequest)
  | evaluateAction (req : EvaluateActionRequest)
  | retentionPurge (req : RetentionPurgeRequest)
  | replay (req : ReplayRequest)
  | mediate (call : MediatedCall)
  | recordDenial (d : MediatedDenial)
  | startupBinding (payload : Except String (Option String))

namespace Request

/-- The tenant whose chain the request's record belongs to. -/
def tenantId : Request → String
  | .evaluate req => req.tenantId
  | .evaluateAction req => req.tenantId
  | .retentionPurge req => req.tenantId
  | .replay req => req.tenantId
  | .mediate call => call.tenantId
  | .recordDenial d => d.tenantId
  | .startupBinding _ => BINDING_TENANT

/-- The trace id the request's record is handed. -/
def traceId (env : RequestEnv) : Request → Option String
  | .evaluate _ => some env.traceId.1
  | .evaluateAction _ => none
  | .retentionPurge _ => none
  | .replay _ => none
  | .mediate call => some call.traceId
  | .recordDenial d => some d.traceId
  | .startupBinding _ => some env.traceId.1

variable [Platform]

/-- The digest the gate cites for the tenant. -/
def gateDigest (s : Service γ) (environ : Environ) (id : String) (ctx : TenantContext) :
    Option String :=
  (s.gate.citedPolicyDigest environ id ctx.policyEngine).1

/-- The policy digest the request's record is handed. -/
def policyDigest (s : Service γ) (env : RequestEnv) (ctx : TenantContext) :
    Request → Option String
  | .evaluate _ | .retentionPurge _ => contentEngineDigest env.environ ctx.policyEngine
  | .replay _ => none
  | req => gateDigest s env.environ req.tenantId ctx

/-- The gate decides the action and its content is ready to be recorded. -/
def GateReaches [Regex] (s : Service γ) (env : RequestEnv) (id : String) (ctx : TenantContext)
    (action : ActionRequest) : Prop :=
  (∃ d, ActionGate.Decides (s.gate.tools id) ctx.policyEngine env.remote id action d) ∧
    ContentReady ctx s.stores env.toDecisionEnv (some id) action.serialize

/-- The request gets to its call of `record`: it passes the checks before it, its policy answers, and
its content is ready to be recorded. -/
def Reaches [Regex] (s : Service γ) (env : RequestEnv) (ctx : TenantContext) : Request → Prop
  | .evaluate req =>
    Main.Identified env req.clientId ∧
      InputValidator.validateRequest req.clientId req.content req.tokenCount = none ∧
      ((Main.consume env ctx req).2.1.1 = true →
        ∃ d, ctx.policyEngine.evaluate env.remote req.content = .ok d) ∧
      ContentReady ctx s.stores env.toDecisionEnv none req.content
  | .evaluateAction req =>
    Main.Identified env req.clientId ∧ GateReaches s env req.tenantId ctx req.action
  | .retentionPurge req =>
    Main.requireRetentionAdmin env = .ok () ∧
      ∃ path, contentStoreFor env.environ env.openFault req.tenantId = .ok (some path) ∧
        env.statusFault = none ∧ env.deleteFault = none ∧
        (s.stores.contents path).status req.contentHash = .STATUS_PRESENT ∧
        (s.stores.contents path).purges req.contentHash = none
  | .replay req =>
    ∃ r, Main.replayByHash ctx.auditChain ctx.policyEngine env req.recordHash req.originalContent =
      .ok r
  | .mediate call => GateReaches s env call.tenantId ctx (CustosGateAdapter.action call)
  | .recordDenial d => d.traceId ≠ "" ∧ d.rule ≠ ""
  | .startupBinding payload => ∃ p, payload = .ok (some p)

end Request

variable [Platform] [Regex]

/-- The service after a request. -/
def serve (hooks : CustodyHooks γ) (s : Service γ) (env : RequestEnv) : Request → Service γ
  | .evaluate req => (Main.evaluate s env req).2
  | .evaluateAction req => (Main.evaluateAction hooks s env req).2
  | .retentionPurge req => (Main.retentionPurge s env req).2
  | .replay req => (Main.replay s env req).2
  | .mediate call => (CustosGateAdapter.evaluate hooks s env call).2
  | .recordDenial d => (CustosGateAdapter.recordDenial s env d).2
  | .startupBinding payload => (establishStartupBinding s env payload).2

/-- What a request does to the tenants and the stores: nothing where its tenant is unknown, and else it
records, where it reaches its record, on its tenant's chain. -/
inductive Served (s : Service γ) (env : RequestEnv) (req : Request) (s' : Service γ) : Prop
  | unknown : s.tenants.getStrict req.tenantId = none → s'.tenants = s.tenants →
      s'.stores = s.stores → Served s env req s'
  | known (ctx : TenantContext) (rateLimiter : RateLimiter) (auditChain : AuditChain)
      (a : RecordArgs) : s.tenants.getStrict req.tenantId = some ctx →
      s'.tenants = s.tenants.setContext req.tenantId { ctx with rateLimiter, auditChain } →
      a.traceId = req.traceId env → a.policyDigest = req.policyDigest s env ctx →
      (a.tenantId = none ∨ a.tenantId = some req.tenantId) →
      Recording (req.Reaches s env ctx) ctx.auditChain s.stores env.toRecordEnv a auditChain
        s'.stores → Served s env req s'

/-! ## What each comes to -/

omit [Regex] in
/-- A recording whose condition is said otherwise. -/
lemma Recording.of_iff {ready ready' : Prop} (iff : ready ↔ ready') {c c' : AuditChain} {s s' : Stores}
    {env : RecordEnv} {a : RecordArgs} (h : Recording ready c s env a c' s') :
    Recording ready' c s env a c' s' := propext iff ▸ h

omit [Regex] in
/-- What recording leaves in the stores is its table and its calls. -/
lemma Recording.to_stores {ready : Prop} {c c' : AuditChain} {s s₁ s₂ : Stores} {env : RecordEnv}
    {a : RecordArgs} (audit : s₁.audit = s₂.audit) (calls : s₁.calls = s₂.calls)
    (h : Recording ready c s env a c' s₁) : Recording ready c s env a c' s₂ := by
  cases h with
  | untried _ no same kept => exact .untried _ no (audit ▸ same) (calls ▸ kept)
  | refused form _ yes known err same one =>
    exact .refused form _ yes known err (audit ▸ same) (calls ▸ one)
  | written form r _ yes wrote one => exact .written form r _ yes (audit ▸ wrote) (calls ▸ one)

omit [Platform] [Regex] in
/-- A context that is put back as it is changes nothing. -/
lemma setContext_self {tm : TenantManager} {id : String} {ctx : TenantContext}
    (known : tm.getStrict id = some ctx) : tm.setContext id ctx = tm := by
  have same : tm.tenants id = some ctx := known
  rw [TenantManager.setContext, ← same, Function.update_eq_self]

/-- A request that does not get to its record and changes nothing. -/
lemma Served.idle {s s' : Service γ} {env : RequestEnv} {req : Request}
    (tenants : s'.tenants = s.tenants) (stores : s'.stores = s.stores)
    (no : ∀ ctx, s.tenants.getStrict req.tenantId = some ctx → ¬ req.Reaches s env ctx) :
    Served s env req s' := by
  cases known : s.tenants.getStrict req.tenantId with
  | none => exact .unknown known tenants stores
  | some ctx =>
    refine .known ctx ctx.rateLimiter ctx.auditChain
      { clientId := "", action := "", reason := "", content := ""
        traceId := req.traceId env, policyDigest := req.policyDigest s env ctx }
      known ?_ rfl rfl (.inl rfl) (.untried _ (no ctx known) (by rw [stores]) (by rw [stores]))
    rw [tenants]
    exact (setContext_self known).symm

/-- A request that does not reach its record changes nothing. -/
lemma Served.idle_of_known {s s' : Service γ} {env : RequestEnv} {req : Request}
    {ctx : TenantContext} (known : s.tenants.getStrict req.tenantId = some ctx)
    (no : ¬ req.Reaches s env ctx) (tenants : s'.tenants = s.tenants) (stores : s'.stores = s.stores) :
    Served s env req s' :=
  .idle tenants stores fun _ known' => Option.some.inj (known.symm.trans known') ▸ no

/-- A request that records through `record_decision`. -/
lemma Served.of_recordDecision {s : Service γ} {env : RequestEnv} {req : Request}
    {ctx : TenantContext} (known : s.tenants.getStrict req.tenantId = some ctx)
    (rateLimiter : RateLimiter) {a : RecordArgs} (trace : a.traceId = req.traceId env)
    (digest : a.policyDigest = req.policyDigest s env ctx) (tenant : a.tenantId = none)
    (reach : ContentReady ctx s.stores env.toDecisionEnv none a.content ↔ req.Reaches s env ctx)
    {s' : Service γ}
    (e : s' = { s with
      tenants := s.tenants.setContext req.tenantId
        (recordDecision { ctx with rateLimiter } s.stores env.toDecisionEnv a).2.1
      stores := (recordDecision { ctx with rateLimiter } s.stores env.toDecisionEnv a).2.2 }) :
    Served s env req s' := by
  obtain ⟨out, ⟨rec, -⟩, eq⟩ := recordDecision_outcome { ctx with rateLimiter } s.stores env.toDecisionEnv a
  rw [eq] at e
  rw [tenant] at rec
  subst e
  exact .known ctx rateLimiter out.2.1 a known rfl trace digest (.inl tenant) (rec.of_iff reach)

/-- What `/v1/evaluate` does to tenants and stores. -/
lemma evaluate_served (s : Service γ) (env : RequestEnv) (req : EvaluateRequest) :
    Served s env (.evaluate req) (Main.evaluate s env req).2 := by
  unfold Main.evaluate
  by_cases ident : Main.Identified env req.clientId
  · rw [if_neg (not_not.2 ident)]
    cases valid : InputValidator.validateRequest req.clientId req.content req.tokenCount with
    | some error => exact .idle rfl rfl fun _ _ reach => by simp [Request.Reaches, valid] at reach
    | none =>
      cases known : s.tenants.getStrict req.tenantId with
      | none => exact .unknown known rfl rfl
      | some ctx =>
        have reaches : Request.Reaches s env ctx (.evaluate req) ↔
            ((Main.consume env ctx req).2.1.1 = true →
              ∃ d, ctx.policyEngine.evaluate env.remote req.content = .ok d) ∧
            ContentReady ctx s.stores env.toDecisionEnv none req.content :=
          ⟨fun reach => reach.2.2, fun h => ⟨ident, valid, h⟩⟩
        dsimp only
        cases allowed : (Main.consume env ctx req).2.1.1 with
        | false =>
          rw [if_pos (by simp)]
          refine .of_recordDecision known (Main.consume env ctx req).2.2 rfl rfl rfl ?_ rfl
          simp [reaches, allowed, Main.evaluateArgs]
        | true =>
          rw [if_neg (by simp)]
          cases ans : ctx.policyEngine.evaluate env.remote req.content with
          | error e =>
            refine .known ctx (Main.consume env ctx req).2.2 ctx.auditChain
              (Main.evaluateArgs env ctx req "" "" none) known rfl rfl rfl (.inl rfl)
              (.untried _ (fun reach => ?_) rfl rfl)
            simp [reaches, allowed, ans] at reach
          | ok d =>
            refine .of_recordDecision known (Main.consume env ctx req).2.2 rfl rfl rfl ?_ rfl
            simp [reaches, ans, Main.evaluateArgs]
  · rw [if_pos ident]
    exact .idle rfl rfl fun _ _ reach => ident reach.1

/-- The requests that ask the gate. -/
lemma gate_served {s : Service γ} {env : RequestEnv} {req : Request} (hooks : CustodyHooks γ)
    (action : ActionRequest) (clientId : String)
    (digest : ∀ ctx, req.policyDigest s env ctx = Request.gateDigest s env.environ req.tenantId ctx)
    (reach : ∀ ctx, req.Reaches s env ctx ↔ Request.GateReaches s env req.tenantId ctx action) :
    Served s env req
      (s.evaluateAction hooks env.toGateEnv req.tenantId action clientId (req.traceId env)).2 := by
  have evaluated := s.evaluateAction_evaluated hooks env.toGateEnv req.tenantId action clientId
    (req.traceId env)
  generalize s.evaluateAction hooks env.toGateEnv req.tenantId action clientId (req.traceId env) = out
    at evaluated ⊢
  cases evaluated with
  | unknown none => exact .unknown none rfl rfl
  | raised ctx e gate known _ no =>
    refine .idle_of_known known (fun reaches => ?_) rfl rfl
    obtain ⟨d, dec⟩ := ((reach ctx).1 reaches).1
    exact no d dec
  | decided ctx d gate res s' known _ dec settled =>
    have ready : ContentReady ctx s.stores env.toDecisionEnv (some req.tenantId) action.serialize ↔
        req.Reaches s env ctx := by
      rw [reach ctx]
      exact ⟨fun ready => ⟨⟨d, dec⟩, ready⟩, fun reaches => reaches.2⟩
    cases settled with
    | recorded r stores rec =>
      exact .known ctx ctx.rateLimiter _ _ known rfl rfl (digest ctx).symm (.inr rfl)
        (rec.of_iff ready)
    | unrecorded stores rec =>
      exact .known ctx ctx.rateLimiter ctx.auditChain _ known rfl rfl (digest ctx).symm (.inr rfl)
        (rec.of_iff ready)

omit [Regex] in
/-- The deletion succeeds exactly where the store holds the body, which was not purged before, and its
engine does not fail. -/
lemma deleteBody_cases (s : ContentStore) (fault : Option StoreExc) (now : ℚ)
    (contentHash reason : String) :
    (∃ e, s.deleteBody fault now contentHash reason = (.error e, s) ∧
      ¬ (fault = none ∧ s.status contentHash = .STATUS_PRESENT ∧ s.purges contentHash = none)) ∨
    (∃ body store, s.deleteBody fault now contentHash reason = (.ok body, store) ∧
      fault = none ∧ s.status contentHash = .STATUS_PRESENT ∧ s.purges contentHash = none) := by
  unfold ContentStore.deleteBody ContentStore.status
  cases fault with
  | some exc => exact .inl ⟨_, rfl, nofun⟩
  | none =>
    cases s.bodies contentHash with
    | some row =>
      cases s.purges contentHash with
      | some prior => exact .inl ⟨_, rfl, by simp⟩
      | none => exact .inr ⟨_, _, rfl, rfl, rfl, rfl⟩
    | none =>
      cases s.purges contentHash with
      | some prior => exact .inl ⟨_, rfl, by simp⟩
      | none => exact .inl ⟨_, rfl, by simp⟩

omit [Regex] in
/-- A purge makes its call of `record` once the body is deleted. -/
lemma purge_recording (path : String) (c : AuditChain) (s : Stores) (env : PurgeEnv)
    (contentHash clientId reason : String) (traceId policyDigest : Option String) :
    ∃ a : RecordArgs, a.traceId = traceId ∧ a.policyDigest = policyDigest ∧ a.tenantId = none ∧
      Recording (env.deleteFault = none ∧ (s.contents path).status contentHash = .STATUS_PRESENT ∧
          (s.contents path).purges contentHash = none) c s env.toRecordEnv a
        (purge path c s env contentHash clientId reason traceId policyDigest).2.1
        (purge path c s env contentHash clientId reason traceId policyDigest).2.2 := by
  unfold purge
  rcases deleteBody_cases (s.contents path) env.deleteFault env.purgedAt contentHash reason with
    ⟨e, del, no⟩ | ⟨body, store, del, yes⟩
  · rw [del]
    exact ⟨{ clientId, action := "PURGE", reason, content := "", traceId, policyDigest }, rfl, rfl, rfl,
      .untried _ no rfl rfl⟩
  · rw [del]
    refine ⟨purgeArgs clientId reason traceId policyDigest body, rfl, rfl, rfl, ?_⟩
    have wrote := (recordIn_outcome yes c (s.setContent path store) env.toRecordEnv
      (purgeArgs clientId reason traceId policyDigest body) purged_mem_forms).1.of_stores
      (setContent_audit s path store) (setContent_calls s path store)
    dsimp only [purgeArgs] at wrote ⊢
    generalize c.recordIn (s.setContent path store) env.toRecordEnv _ = out at wrote ⊢
    obtain ⟨res, chain, stores⟩ := out
    cases res with
    | error e => exact wrote
    | ok record =>
      dsimp only
      -- the attestation touches the content store only
      split_ifs
      · exact wrote
      · cases env.attestFault with
        | some exc => exact wrote
        | none =>
          have kept : stores.audit = (stores.setContent path
              ((stores.contents path).attest contentHash record.recordHash)).audit := rfl
          exact wrote.to_stores kept rfl

/-- What a purge does. -/
lemma retentionPurge_served (s : Service γ) (env : RequestEnv) (req : RetentionPurgeRequest) :
    Served s env (.retentionPurge req) (Main.retentionPurge s env req).2 := by
  unfold Main.retentionPurge
  cases admin : Main.requireRetentionAdmin env with
  | error e => exact .idle rfl rfl fun _ _ reach => by simp [Request.Reaches, admin] at reach
  | ok =>
    cases known : s.tenants.getStrict req.tenantId with
    | none => exact .unknown known rfl rfl
    | some ctx =>
      dsimp only
      have reaches : Request.Reaches s env ctx (.retentionPurge req) ↔
          ∃ path, contentStoreFor env.environ env.openFault req.tenantId = .ok (some path) ∧
            env.statusFault = none ∧ env.deleteFault = none ∧
            (s.stores.contents path).status req.contentHash = .STATUS_PRESENT ∧
            (s.stores.contents path).purges req.contentHash = none :=
        ⟨fun reach => reach.2, fun h => ⟨admin, h⟩⟩
      have idle : ¬ Request.Reaches s env ctx (.retentionPurge req) →
          Served s env (.retentionPurge req) s := fun no => .idle_of_known known no rfl rfl
      cases store : contentStoreFor env.environ env.openFault req.tenantId with
      | error e => exact idle (by simp [reaches, store])
      | ok path =>
        cases path with
        | none => exact idle (by simp [reaches, store])
        | some path =>
          dsimp only
          cases fault : env.statusFault with
          | some exc => exact idle (by simp [reaches, fault])
          | none =>
            cases status : (s.stores.contents path).status req.contentHash with
            | STATUS_UNKNOWN => exact idle (by simp [reaches, store, status])
            | STATUS_PURGED => exact idle (by simp [reaches, store, status])
            | STATUS_PRESENT =>
              obtain ⟨a, trace, digest, tenant, rec⟩ := purge_recording path ctx.auditChain s.stores
                env.toPurgeEnv req.contentHash "retention-admin" req.reason none
                (contentEngineDigest env.environ ctx.policyEngine)
              exact .known ctx ctx.rateLimiter _ a known rfl trace digest (.inl tenant)
                (rec.of_iff (by simp [reaches, store, fault]))

/-- What a replay does. -/
lemma replay_served (s : Service γ) (env : RequestEnv) (req : ReplayRequest) :
    Served s env (.replay req) (Main.replay s env req).2 := by
  unfold Main.replay
  cases known : s.tenants.getStrict req.tenantId with
  | none => exact .unknown known rfl rfl
  | some ctx =>
    dsimp only
    cases ans : Main.replayByHash ctx.auditChain ctx.policyEngine env req.recordHash
        req.originalContent with
    | error e =>
      have no : ¬ Request.Reaches s env ctx (.replay req) := by simp [Request.Reaches, ans]
      cases e <;> exact .idle_of_known known no rfl rfl
    | ok result =>
      have reach : Request.Reaches s env ctx (.replay req) := ⟨result, ans⟩
      obtain ⟨rec, -⟩ := recordIn_outcome reach ctx.auditChain s.stores env.toRecordEnv
        (Main.replayArgs req) none_mem_forms
      exact .known ctx ctx.rateLimiter _ (Main.replayArgs req) known rfl rfl rfl (.inl rfl) rec

/-- What a reconciliation hands to `record`. -/
def reconciliationArgs (clientId traceId rule content reason : String) (policyDigest tenantId : Option String) :
    RecordArgs :=
  { clientId, action := "DENY", reason, content, triggeredRule := some rule, traceId := some traceId
    policyDigest, tenantId }

/-- What the denial hook hands to `record`. -/
def MediatedDenial.args (d : MediatedDenial) (policyDigest : Option String) : RecordArgs :=
  reconciliationArgs d.clientId d.traceId d.rule (d.rule ++ " tool=" ++ d.tool) d.reason policyDigest
    (some d.tenantId)

omit [Regex] in
/-- A reconciliation that names its trace and its rule is a call of `record`. -/
lemma reconcileIn_of_named {traceId rule : String} (trace : traceId ≠ "") (named : rule ≠ "")
    (c : AuditChain) (s : Stores) (env : RecordEnv) (clientId content reason : String)
    (policyDigest tenantId : Option String) :
    c.reconcileIn s env clientId traceId rule content reason policyDigest tenantId =
      c.recordIn s env
        (reconciliationArgs clientId traceId rule content reason policyDigest tenantId) := by
  unfold AuditChain.reconcileIn AuditChain.appendReconciliation AuditChain.recordIn
  simp only [if_neg trace, if_neg named, if_neg (not_or.2 ⟨trace, named⟩)]
  rfl

omit [Regex] in
/-- A reconciliation without a trace or a rule is refused. -/
lemma reconcileIn_of_unnamed {traceId rule : String} (no : traceId = "" ∨ rule = "")
    (c : AuditChain) (s : Stores) (env : RecordEnv) (clientId content reason : String)
    (policyDigest tenantId : Option String) :
    ∃ e, c.reconcileIn s env clientId traceId rule content reason policyDigest tenantId =
      (.error e, c, s) := by
  unfold AuditChain.reconcileIn AuditChain.appendReconciliation
  simp only [if_pos no, List.append_nil]
  by_cases trace : traceId = ""
  · exact ⟨_, by rw [if_pos trace]⟩
  · exact ⟨_, by rw [if_neg trace, if_pos (no.resolve_left trace)]⟩

/-- What the hook does. -/
lemma recordDenial_served (s : Service γ) (env : RequestEnv) (d : MediatedDenial) :
    Served s env (.recordDenial d) (CustosGateAdapter.recordDenial s env d).2 := by
  unfold CustosGateAdapter.recordDenial Service.recordReconciliation
  cases known : s.tenants.getStrict d.tenantId with
  | none => exact .unknown known rfl rfl
  | some ctx =>
    refine .known ctx ctx.rateLimiter _ (d.args (Request.gateDigest s env.environ d.tenantId ctx)) known rfl
      rfl rfl (.inr rfl) ?_
    dsimp only
    by_cases named : d.traceId ≠ "" ∧ d.rule ≠ ""
    · rw [reconcileIn_of_named named.1 named.2]
      have reach : Request.Reaches s env ctx (.recordDenial d) := named
      exact (recordIn_outcome reach ctx.auditChain s.stores env.toRecordEnv _ none_mem_forms).1
    · have no : d.traceId = "" ∨ d.rule = "" := by
        rwa [not_and_or, not_not, not_not] at named
      obtain ⟨e, refused⟩ := reconcileIn_of_unnamed no ctx.auditChain s.stores env.toRecordEnv
        d.clientId (d.rule ++ " tool=" ++ d.tool) d.reason
        (s.gate.citedPolicyDigest env.environ d.tenantId ctx.policyEngine).1 (some d.tenantId)
      rw [refused]
      exact .untried _ named rfl rfl

/-- What the binding of the startup does. -/
lemma startupBinding_served (s : Service γ) (env : RequestEnv)
    (payload : Except String (Option String)) :
    Served s env (.startupBinding payload) (establishStartupBinding s env payload).2 := by
  unfold establishStartupBinding Service.citedPolicyDigest
  cases known : s.tenants.getStrict BINDING_TENANT with
  | none => exact .unknown known rfl rfl
  | some ctx =>
    dsimp only
    cases payload with
    | error msg => exact .idle_of_known known (by simp [Request.Reaches]) rfl rfl
    | ok asked =>
      cases asked with
      | none => exact .idle_of_known known (by simp [Request.Reaches]) rfl rfl
      | some payload =>
        have reach : Request.Reaches s env ctx (.startupBinding (.ok (some payload))) := ⟨payload, rfl⟩
        let a := bindingArgs env payload (Request.gateDigest s env.environ BINDING_TENANT ctx)
        exact .known ctx ctx.rateLimiter _ a known rfl rfl rfl (.inr rfl)
          (recordIn_outcome reach ctx.auditChain s.stores env.toRecordEnv a none_mem_forms).1

/-- Every request is served so. -/
theorem serve_served (hooks : CustodyHooks γ) (s : Service γ) (env : RequestEnv) (req : Request) :
    Served s env req (serve hooks s env req) := by
  cases req with
  | evaluate req => exact evaluate_served s env req
  | evaluateAction req =>
    show Served s env _ (Main.evaluateAction hooks s env req).2
    unfold Main.evaluateAction
    by_cases ident : Main.Identified env req.clientId
    · rw [if_neg (not_not.2 ident)]
      exact gate_served hooks req.action req.clientId (fun _ => rfl)
        fun ctx => ⟨fun reach => reach.2, fun reach => ⟨ident, reach⟩⟩
    · rw [if_pos ident]
      exact .idle rfl rfl fun _ _ reach => ident reach.1
  | retentionPurge req => exact retentionPurge_served s env req
  | replay req => exact replay_served s env req
  | mediate call =>
    exact gate_served hooks (CustosGateAdapter.action call) call.clientId (fun _ => rfl) fun _ => .rfl
  | recordDenial d => exact recordDenial_served s env d
  | startupBinding payload => exact startupBinding_served s env payload

end Custos
