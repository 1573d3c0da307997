import Custos.Policy.Opa
import Custos.Reference
import Custos.Service.Retention

/-!
# The execution firewall

`ExecutionFirewall.enforce` of `custos/firewall.py`: validate, rate limit, evaluate, forward, record.
What the execution layer answers to a forward is an input, and the calls made to it are part of the
outcome.

The record of a forwarded request is written after the forward, over a chain that is handed the request's
tenant by nobody and without a policy digest. `enforce_recorded_iff` says when it is written all the
same.
-/

namespace Custos

/-- An identifier of `uuid4().hex`. -/
abbrev TraceId := {s : String // s ≠ ""}

structure ExecutionResult where
  forwarded : Bool
  statusCode : Option Int := none
  responseBody : Option String := none
  error : Option String := none
  circuitOpen : Bool := false

/-- The arguments of a call of `forward`. -/
structure ForwardCall where
  url : String
  method : String
  content : String
  headers : Option (List (String × String))
  timeout : ℚ
  deriving DecidableEq

/-- `FirewallResult`, without its timing. -/
structure FirewallResult where
  allowed : Bool
  action : String
  triggeredRule : Option String
  reason : String
  forwarded : Bool
  statusCode : Option Int := none
  responsePreview : Option String := none
  circuitOpen : Bool := false
  auditRecordHash : Option String := none
  traceId : Option String

/-- The arguments of `enforce`. -/
structure EnforceRequest where
  clientId : String
  content : String
  tenantId : String := "default"
  tokenCount : Int := 1
  targetUrl : String := ""
  targetMethod : String := "POST"
  targetHeaders : Option (List (String × String)) := none
  targetTimeout : ℚ := 10
  rateKey : Option String := none

/-- `ExecutionFirewall`: its tracer is there or not. -/
structure Firewall where
  policyEngine : Engine
  limiter : RateLimiter
  audit : AuditChain
  traced : Bool := true

/-- What a call of `enforce` meets outside. -/
structure FirewallEnv extends RecordEnv where
  limiterNow : ℚ
  traceId : TraceId
  server : Remote
  forward : ForwardCall → Except Exn ExecutionResult

def FirewallEnv.remote (env : FirewallEnv) : String → Except Exn PolicyResult := env.server.read

/-- What a call of `enforce` comes to: its result, the firewall and the stores after it, and the calls of
`forward` it made. -/
structure Enforced where
  result : Except Exn FirewallResult
  firewall : Firewall
  stores : Stores
  forwards : List ForwardCall := []

/-- The trace id the records of the call carry. -/
def Firewall.trace (f : Firewall) (env : FirewallEnv) : Option String :=
  if f.traced then some env.traceId.1 else none

def EnforceRequest.call (req : EnforceRequest) : ForwardCall :=
  { url := req.targetUrl, method := req.targetMethod, content := req.content,
    headers := req.targetHeaders, timeout := req.targetTimeout }

/-- `str(value)` of a number that may be `None`. -/
def pyStr : Option Int → String
  | some n => toString n
  | none => "None"

/-- How an execution outcome is recorded: the action and the reason. -/
def ExecutionResult.audited (exec : ExecutionResult) (targetUrl : String) : String × String :=
  if exec.forwarded then
    ("forwarded", "Forwarded to " ++ targetUrl ++ " (HTTP " ++ pyStr exec.statusCode ++ ")")
  else if exec.circuitOpen then ("circuit_open", "Circuit breaker open, request not forwarded")
  else ("forward_failed", "Forward failed: " ++ exec.error.getD "None")

namespace Firewall

variable [Platform] [Regex]

/-- `enforce`. -/
def enforce (f : Firewall) (s : Stores) (env : FirewallEnv) (req : EnforceRequest) : Enforced :=
  let traceId := f.trace env
  match InputValidator.validateRequest req.clientId req.content req.tokenCount with
  | some error =>
    { result := .ok
        { allowed := false, action := "blocked", triggeredRule := none
          reason := "Validation failed: " ++ error, forwarded := false, traceId }
      firewall := f, stores := s }
  | none =>
    let ((allowed, msg), limiter) :=
      f.limiter.checkAndConsume env.limiterNow (orElse req.rateKey req.clientId) req.tokenCount
    let f := { f with limiter }
    if ¬ allowed then
      let (entry, audit, s) := f.audit.recordIn s env.toRecordEnv
        { clientId := req.clientId, action := "rate_limited", reason := msg, content := req.content,
          traceId }
      { result := entry.map fun entry =>
          { allowed := false, action := "rate_limited", triggeredRule := none, reason := msg,
            forwarded := false, auditRecordHash := some entry.recordHash, traceId }
        firewall := { f with audit }, stores := s }
    else
      match f.policyEngine.evaluate env.remote req.content with
      | .error e => { result := .error e, firewall := f, stores := s }
      | .ok result =>
        if ¬ result.allowed then
          let (entry, audit, s) := f.audit.recordIn s env.toRecordEnv
            { clientId := req.clientId, action := result.action.value, reason := result.reason,
              content := req.content, triggeredRule := result.triggeredRule, traceId }
          { result := entry.map fun entry =>
              { allowed := false, action := result.action.value,
                triggeredRule := result.triggeredRule, reason := result.reason, forwarded := false,
                auditRecordHash := some entry.recordHash, traceId }
            firewall := { f with audit }, stores := s }
        else
          match env.forward req.call with
          | .error e => { result := .error e, firewall := f, stores := s, forwards := [req.call] }
          | .ok exec =>
            let (auditAction, auditReason) := exec.audited req.targetUrl
            let (entry, audit, s) := f.audit.recordIn s env.toRecordEnv
              { clientId := req.clientId, action := auditAction, reason := auditReason,
                content := req.content, triggeredRule := result.triggeredRule, traceId }
            { result := entry.map fun entry =>
                { allowed := true
                  action := if exec.forwarded then result.action.value else auditAction
                  triggeredRule := result.triggeredRule
                  reason := if exec.forwarded then result.reason else auditReason
                  forwarded := exec.forwarded, statusCode := exec.statusCode
                  responsePreview := exec.responseBody, circuitOpen := exec.circuitOpen
                  auditRecordHash := some entry.recordHash, traceId }
              firewall := { f with audit }, stores := s, forwards := [req.call] }

/-! ## What has to permit a forward -/

omit [Platform] in
/-- Validation, the rate limit and the policy permit the request, the policy with this result. -/
structure Permits (f : Firewall) (env : FirewallEnv) (req : EnforceRequest) (d : PolicyResult) :
    Prop where
  valid : InputValidator.validateRequest req.clientId req.content req.tokenCount = none
  limit : (f.limiter.checkAndConsume env.limiterNow (orElse req.rateKey req.clientId)
    req.tokenCount).1.1 = true
  policy : f.policyEngine.evaluate env.remote req.content = .ok d
  allowed : d.allowed = true

/-- The record of a request that reaches the execution layer. -/
def outcomeArgs (f : Firewall) (env : FirewallEnv) (req : EnforceRequest) (d : PolicyResult)
    (exec : ExecutionResult) : RecordArgs :=
  { clientId := req.clientId, action := (exec.audited req.targetUrl).1
    reason := (exec.audited req.targetUrl).2, content := req.content
    triggeredRule := d.triggeredRule, traceId := f.trace env }

/-- Without the permission of all three nothing is forwarded. -/
lemma enforce_of_not_permits {f : Firewall} {env : FirewallEnv} {req : EnforceRequest}
    (no : ∀ d, ¬ f.Permits env req d) (s : Stores) : (f.enforce s env req).forwards = [] := by
  unfold enforce
  dsimp only
  cases valid : InputValidator.validateRequest req.clientId req.content req.tokenCount with
  | some error => rfl
  | none =>
    dsimp only
    by_cases limit : (f.limiter.checkAndConsume env.limiterNow (orElse req.rateKey req.clientId)
        req.tokenCount).1.1 = true
    · rw [if_neg (by simp [limit])]
      cases policy : f.policyEngine.evaluate env.remote req.content with
      | error e => rfl
      | ok d =>
        dsimp only
        by_cases allowed : d.allowed = true
        · exact absurd ⟨valid, limit, policy, allowed⟩ (no d)
        · rw [if_pos (by simp [allowed])]
    · rw [if_pos (by simp [limit])]

/-- With it the request is forwarded once, and then recorded if the forward returns. -/
lemma enforce_of_permits {f : Firewall} {env : FirewallEnv} {req : EnforceRequest} {d : PolicyResult}
    (p : f.Permits env req d) (s : Stores) :
    (f.enforce s env req).forwards = [req.call] ∧
      (f.enforce s env req).firewall.audit =
        match env.forward req.call with
        | .error _ => f.audit
        | .ok exec => (f.audit.record s.audit env.toRecordEnv (f.outcomeArgs env req d exec)).2.1 := by
  unfold enforce
  simp only [p.valid, p.limit, not_true_eq_false, if_false, p.policy, p.allowed]
  cases env.forward req.call with
  | error e => exact ⟨rfl, rfl⟩
  | ok exec => exact ⟨rfl, rfl⟩

/-! ## What is recorded of a forward -/

omit [Platform] [Regex] in
/-- The state a forwarded request has to meet for its record to be written for its tenant. -/
structure Recordable (f : Firewall) (s : Stores) (env : FirewallEnv) (req : EnforceRequest) : Prop where
  returns : ∃ exec, env.forward req.call = .ok exec
  scope : f.audit.tenantId = some req.tenantId
  unbound : boundEvidenceRequired env.environ = false
  takes : f.audit.Takes s.audit env.toRecordEnv

omit [Regex] in
/-- The chain got one record, of this decision on this request for its tenant. -/
def Recorded (f : Firewall) (audit : AuditChain) (req : EnforceRequest) (d : PolicyResult) : Prop :=
  ∃ r, audit.records = f.audit.records ++ [r] ∧ r.clientId = req.clientId ∧
    r.contentHash = sha256 req.content ∧ r.triggeredRule = d.triggeredRule ∧
    r.tenantId = some req.tenantId

/-- Whatever is forwarded was permitted, and is recorded when `enforce` ends. -/
structure NoUnrecordedEffect (f : Firewall) (s : Stores) (env : FirewallEnv) (req : EnforceRequest) :
    Prop where
  permitted : (f.enforce s env req).forwards ≠ [] → ∃ d, f.Permits env req d
  recorded : (f.enforce s env req).forwards ≠ [] →
    ∃ d, f.policyEngine.evaluate env.remote req.content = .ok d ∧
      f.Recorded (f.enforce s env req).firewall.audit req d

omit [Platform] [Regex] in
/-- The record of a forward carries no policy digest, so it passes the checks exactly where no evidence
is required. -/
lemma outcomeArgs_admissible {f : Firewall} {env : FirewallEnv} {req : EnforceRequest}
    {d : PolicyResult} {exec : ExecutionResult} :
    f.audit.Admissible env.environ (f.outcomeArgs env req d exec) ↔
      boundEvidenceRequired env.environ = false := by
  constructor
  · intro adm
    by_contra bound
    have missing := adm.evidence (by simpa using bound)
    simp [AuditChain.missingEvidence, outcomeArgs, truthy] at missing
  · intro unbound
    refine ⟨none_mem_forms, ⟨f.audit.tenantId, rfl⟩, fun bound => ?_⟩
    rw [unbound] at bound
    cases bound

/-- A permitted request is recorded for its tenant exactly in these states. -/
lemma recorded_iff {f : Firewall} {s : Stores} {env : FirewallEnv} {req : EnforceRequest}
    {d : PolicyResult} (p : f.Permits env req d) :
    f.Recorded (f.enforce s env req).firewall.audit req d ↔ f.Recordable s env req := by
  obtain ⟨-, audit⟩ := enforce_of_permits p s
  rw [audit]
  constructor
  · rintro ⟨r, grown, -, -, -, tenant⟩
    cases fwd : env.forward req.call with
    | error e => simp [fwd] at grown
    | ok exec =>
      simp only [fwd] at grown
      rcases f.audit.record_cases s.audit env.toRecordEnv (f.outcomeArgs env req d exec) with
        ⟨e, he⟩ | ⟨r', t', adm, ent, -, he⟩
      · simp [he] at grown
      · simp only [he, List.append_cancel_left_eq, List.cons.injEq, and_true] at grown
        subst grown
        -- the arguments name no tenant, so the record's is the chain's own
        have scope : f.audit.tenantId = some req.tenantId := by
          obtain ⟨id, own, e⟩ := ent.eq
          have same : f.audit.tenantId = id := Except.ok.inj own
          rw [e] at tenant
          rw [same]
          exact tenant
        exact ⟨⟨exec, fwd⟩, scope, outcomeArgs_admissible.1 adm,
          (AuditChain.record_ok_iff scope adm).1 ⟨_, by rw [he]⟩⟩
  · rintro ⟨⟨exec, fwd⟩, scope, unbound, takes⟩
    have adm : f.audit.Admissible env.environ (f.outcomeArgs env req d exec) :=
      outcomeArgs_admissible.2 unbound
    obtain ⟨r, ok⟩ := (AuditChain.record_ok_iff scope adm).2 takes
    rcases f.audit.record_cases s.audit env.toRecordEnv (f.outcomeArgs env req d exec) with
      ⟨e, he⟩ | ⟨r', t', -, ent, -, he⟩
    · rw [he] at ok
      cases ok
    · obtain ⟨id, -, e⟩ := ent.eq
      refine ⟨r', by simp only [fwd, he], ?_, ?_, ?_, ?_⟩
      · rw [e]; rfl
      · rw [e]; rfl
      · rw [e]; rfl
      · exact ent.tenantId scope

/-- No forward goes unrecorded exactly where the request is not permitted or its record can be written:
the forward returns, the chain is the tenant's, no evidence is required and the backend takes the
entry. -/
theorem enforce_recorded_iff (f : Firewall) (s : Stores) (env : FirewallEnv) (req : EnforceRequest) :
    f.NoUnrecordedEffect s env req ↔ ((∃ d, f.Permits env req d) → f.Recordable s env req) := by
  constructor
  · rintro ⟨-, recorded⟩ ⟨d, p⟩
    have ne : (f.enforce s env req).forwards ≠ [] := by
      rw [(enforce_of_permits p s).1]
      simp
    obtain ⟨d', ans, rec⟩ := recorded ne
    rw [p.policy] at ans
    cases ans
    exact (recorded_iff p).1 rec
  · intro can
    by_cases permitted : ∃ d, f.Permits env req d
    · obtain ⟨d, p⟩ := permitted
      exact ⟨fun _ => ⟨d, p⟩, fun _ => ⟨d, p.policy, (recorded_iff p).2 (can ⟨d, p⟩)⟩⟩
    · have none := enforce_of_not_permits (fun d p => permitted ⟨d, p⟩) s
      exact ⟨fun ne => absurd none ne, fun ne => absurd none ne⟩

end Firewall

section Sample

/-- The digest of the sample's content. -/
def firewallDigests : DigestTable where
  entries := [("hello", "2cf24dba5fb0a30e26e83b2ac5b9e29e1b161e5c1fa7425e73043362938b9824")]
  distinct := by decide
  plain := by decide +kernel

local instance firewallPlatform : Platform := .reference firewallDigests

/-- A text none of the patterns matches. -/
local instance firewallRegex : Regex where
  invalid _ := none
  finditer _ _ := []

/-- The firewall of the default tenant, with a client and no content rules. -/
def sampleFirewall : Firewall where
  policyEngine := .regex { rules := [] }
  limiter := ({} : RateLimiter).register "agent" DEFAULT_QUOTA 1700000000
  audit := ⟨[], some "default", .SQLiteBackend⟩

def sampleTraceId : TraceId := ⟨"4bf92f3577b34da6a3ce929d0e0e4736", by decide⟩

/-- A production environment and a target that answers. -/
def firewallEnv : FirewallEnv where
  now := 1700000001
  environ name := if name = "CUSTOS_ENV" then some "production" else none
  limiterNow := 1700000001
  traceId := sampleTraceId
  server := .ofResults fun _ => .error (.RuntimeError "no server")
  forward _ := .ok { forwarded := true, statusCode := some 200 }

def firewallRequest : EnforceRequest :=
  { clientId := "agent", content := "hello", targetUrl := "https://example.com/" }

/-- In production the request is forwarded and its record refused. -/
theorem enforce_leaves_unrecorded :
    ¬ sampleFirewall.NoUnrecordedEffect { audit := .empty } firewallEnv firewallRequest := by
  intro claim
  have permits : sampleFirewall.Permits firewallEnv firewallRequest
      { allowed := true, action := .ALLOW, triggeredRule := none,
        reason := "No policy violations detected" } :=
    ⟨by decide +kernel, by decide +kernel, rfl, rfl⟩
  have forwarded := (Firewall.enforce_of_permits permits { audit := .empty }).1
  obtain ⟨d, ans, rec⟩ := claim.recorded (by rw [forwarded]; simp)
  rw [permits.policy] at ans
  cases ans
  have unbound := ((Firewall.recorded_iff permits).1 rec).unbound
  have bound : boundEvidenceRequired firewallEnv.environ = true := by decide +kernel
  rw [unbound] at bound
  cases bound

end Sample

end Custos
