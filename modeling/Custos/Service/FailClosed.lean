import Custos.Reference
import Custos.Service.ActionGate

/-!
# The gate is fail-closed

Whatever the tenants, the allowlists, the stores and the custody manager do, `evaluate_action` returns a
decision wherever the tenant's engine answers, and the decision is one of two kinds: recorded, as the one new
record of its tenant's chain, or a deny without a hash.
-/

namespace Custos

open ActionGate

section

variable {γ : Type} [Platform]

omit [Platform] in
/-- The call appended one record to the tenant's chain and changed no other context. -/
def Appended (s s' : Service γ) (id : String) (r : AuditRecord) : Prop :=
  ∃ ctx, s.tenants.getStrict id = some ctx ∧
    s'.tenants = s.tenants.setContext id
      { ctx with auditChain := { ctx.auditChain with records := ctx.auditChain.records ++ [r] } }

/-- The policy digest the gate computes for the tenant. -/
def Service.cites (s : Service γ) (environ : Environ) (id : String) (e : Engine) : Option String :=
  (s.gate.citedPolicyDigest environ id e).1

/-- What is true of an allow. -/
structure Governed [Regex] (s s' : Service γ) (env : GateEnv) (id : String) (action : ActionRequest)
    (g : ActionGateResult) (ctx : TenantContext) (r : AuditRecord) : Prop where
  registered : s.tenants.getStrict id = some ctx
  allowlisted : ∃ tools, s.gate.toolAllowlists id = some tools ∧ action.tool ∈ tools
  harmless : ∀ rule ∈ DANGEROUS_COMMAND_RULES, ¬ rule.Hits action.serialize
  engine : ctx.policyEngine.evaluate env.remote action.serialize = .ok g.decision
  notDenied : g.decision.action ≠ .DENY
  appended : Appended s s' id r
  hash : g.auditRecordHash = some r.recordHash
  recordAction : r.action = g.decision.action.value
  recordRule : r.triggeredRule = g.decision.triggeredRule
  recordContent : r.contentHash = sha256 action.serialize
  recordDigest : r.policyDigest = s.cites env.environ id ctx.policyEngine

/-- What is true of any decision. -/
structure FailClosed [Regex] (s s' : Service γ) (env : GateEnv) (id : String) (action : ActionRequest)
    (g : ActionGateResult) : Prop where
  allowed : g.decision.allowed = true → ∃ ctx r, Governed s s' env id action g ctx r
  unwritten : (∀ r, ¬ Appended s s' id r) → g.decision.allowed = false ∧ g.auditRecordHash = none
  /-- what was decided as a deny is returned as it was decided -/
  denied : ∀ ctx d, s.tenants.getStrict id = some ctx →
    Decides (s.gate.tools id) ctx.policyEngine env.remote id action d → d.allowed = false →
    g.decision = d
  recorded : ∀ h, g.auditRecordHash = some h → ∃ r, Appended s s' id r ∧ r.recordHash = h

/-- A record appended carries the arguments it was recorded with. -/
lemma Recording.fields {ready : Prop} {c c' : AuditChain} {s s' : Stores} {env : RecordEnv}
    {a : RecordArgs} {r : AuditRecord} (rec : Recording ready c s env a c' s')
    (grown : c'.records = c.records ++ [r]) :
    r.action = a.action ∧ r.triggeredRule = a.triggeredRule ∧ r.contentHash = sha256 a.content ∧
      r.policyDigest = a.policyDigest ∧ r.traceId = a.traceId := by
  cases rec with
  | untried => exact absurd grown (by simp)
  | refused => exact absurd grown (by simp)
  | written form r' _ _ wrote =>
    obtain ⟨own, -, e⟩ := wrote.entry.eq
    have same : r' = r := by simpa using grown
    rw [← same, e]
    exact ⟨rfl, rfl, rfl, rfl, rfl⟩

omit [Platform] in
lemma unrecordable_allowed (cited : Option String) : (unrecordable cited).allowed = false := rfl

/-- Where the engine of a registered tenant is asked about an action, it answers. -/
def EngineAnswers [Regex] (s : Service γ) (env : GateEnv) (id : String) (action : ActionRequest) : Prop :=
  ∀ ctx, s.tenants.getStrict id = some ctx → action.tool ∈ s.gate.tools id →
    (∀ rule ∈ DANGEROUS_COMMAND_RULES, ¬ rule.Hits action.serialize) →
      ∃ d, ctx.policyEngine.evaluate env.remote action.serialize = .ok d

/-- A call returns a decision wherever the engine answers, whatever else is raised. -/
lemma evaluateAction_returns [Regex] (hooks : CustodyHooks γ) {s : Service γ} {env : GateEnv} {id : String}
    {action : ActionRequest} (answers : EngineAnswers s env id action) (clientId : String)
    (traceId : Option String) : ∃ g, (s.evaluateAction hooks env id action clientId traceId).1 = .ok g := by
  have evaluated := s.evaluateAction_evaluated hooks env id action clientId traceId
  generalize s.evaluateAction hooks env id action clientId traceId = out at evaluated ⊢
  cases evaluated with
  | unknown => exact ⟨_, rfl⟩
  | decided => exact ⟨_, rfl⟩
  | raised ctx _ _ known _ no =>
    refine absurd ?_ (not_exists.2 no)
    by_cases mem : action.tool ∈ s.gate.tools id
    · cases found : DANGEROUS_COMMAND_RULES.find? (·.Hits action.serialize) with
      | some rule => exact ⟨_, .dangerous rule mem found⟩
      | none =>
        have harmless : ∀ rule ∈ DANGEROUS_COMMAND_RULES, ¬ rule.Hits action.serialize := by
          simpa using found
        obtain ⟨d, ans⟩ := answers ctx known mem harmless
        exact ⟨d, .engine d mem harmless ans⟩
    · exact ⟨_, .tool mem⟩

/-- A decision that is returned is fail-closed. -/
lemma failClosed_of_returned [Regex] (hooks : CustodyHooks γ) (s : Service γ) (env : GateEnv)
    (id : String) (action : ActionRequest) (clientId : String) (traceId : Option String)
    {g : ActionGateResult} (e : (s.evaluateAction hooks env id action clientId traceId).1 = .ok g) :
    FailClosed s (s.evaluateAction hooks env id action clientId traceId).2 env id action g := by
  have evaluated := s.evaluateAction_evaluated hooks env id action clientId traceId
  generalize s.evaluateAction hooks env id action clientId traceId = out at e evaluated ⊢
  cases evaluated with
  | unknown none =>
    cases e
    refine ⟨nofun, fun _ => ⟨rfl, rfl⟩, fun ctx _ known => ?_, nofun⟩
    rw [none] at known
    cases known
  | raised => cases e
  | decided ctx d gate res s' known gateEq dec settled =>
    cases e
    have same : ∀ ctx' d', s.tenants.getStrict id = some ctx' →
        Decides (s.gate.tools id) ctx'.policyEngine env.remote id action d' → d' = d := by
      intro ctx' d' known' dec'
      rw [known] at known'
      cases known'
      exact dec'.unique dec
    cases settled with
    | recorded r stores rec =>
      obtain ⟨recAction, recRule, recContent, recDigest, -⟩ := rec.fields rfl
      have appended : Appended s
          { tenants := s.tenants.setContext id
              { ctx with auditChain :=
                { ctx.auditChain with records := ctx.auditChain.records ++ [r] } }
            gate, stores } id r := ⟨ctx, known, rfl⟩
      refine ⟨fun ok => ⟨ctx, r, ?_⟩, fun no => absurd appended (no r), ?_, ?_⟩
      · obtain ⟨mem, no, ans⟩ := dec.allowed ok
        have allowlisted : ∃ tools, s.gate.toolAllowlists id = some tools ∧ action.tool ∈ tools := by
          unfold ActionGate.tools at mem
          cases h : s.gate.toolAllowlists id with
          | none => simp [h] at mem
          | some tools => exact ⟨tools, rfl, by simpa [h] using mem⟩
        exact ⟨known, allowlisted, no, ans, PolicyResult.action_ne_deny ok, appended, rfl, recAction,
          recRule, recContent, recDigest⟩
      · intro ctx' d' known' dec' _
        exact (same ctx' d' known' dec').symm
      · intro h eq
        exact ⟨r, appended, Option.some.inj eq⟩
    | unrecorded stores _ =>
      -- an allow has become the gate's own deny
      have deny : (if d.allowed = true then unrecordable
          (s.gate.citedPolicyDigest env.environ id ctx.policyEngine).1 else d).allowed = false := by
        by_cases ok : d.allowed = true
        · rw [if_pos ok]
          exact unrecordable_allowed _
        · rw [if_neg ok]
          simpa using ok
      refine ⟨fun ok => ?_, fun _ => ⟨deny, rfl⟩, ?_, nofun⟩
      · rw [deny] at ok
        cases ok
      · intro ctx' d' known' dec' no
        rw [same ctx' d' known' dec'] at no ⊢
        show (if d.allowed = true then _ else d) = d
        rw [if_neg (by simp [no])]

/-- The gate is fail-closed and recorded: wherever the engine answers the call returns a decision, whatever the
stores and the custody manager raise, and any decision it returns is recorded, or a deny without a hash. -/
theorem evaluateAction_failClosed [Regex] (hooks : CustodyHooks γ) (s : Service γ) (env : GateEnv)
    (id : String) (action : ActionRequest) (clientId : String) (traceId : Option String) :
    let out := s.evaluateAction hooks env id action clientId traceId
    (EngineAnswers s env id action → ∃ g, out.1 = .ok g) ∧
      ∀ g, out.1 = .ok g → FailClosed s out.2 env id action g :=
  ⟨fun answers => evaluateAction_returns hooks answers clientId traceId,
    fun _ returned => failClosed_of_returned hooks s env id action clientId traceId returned⟩

end

section Sample

/-- The digests of the sample: the policy's, the action's, the record's. -/
def gateDigests : DigestTable where
  entries :=
    [("[]", "4f53cda18c2baa0c0354bb5f9a3ecbe5ed12ab4d8e11ba873c2f11161202b945"),
     ("\x7b\"rules\":[],\"tools\":[\"search\"]\x7d",
      "14afec2085f57dda7a09be56f109172e8150d345528f43fffd8e76b33d89ab78"),
     ("search  \x7b\x7d", "bba9eb2cfef71284fc84c05103594c2a6f885d33b8ffa47692a5f9a006385bf4"),
     ("\x7b\"action\": \"allow\", \"binding\": \"v2\", \"client_id\": \"agent\", " ++
      "\"commitment\": \"none\", " ++
      "\"content_hash\": \"bba9eb2cfef71284fc84c05103594c2a6f885d33b8ffa47692a5f9a006385bf4\", " ++
      "\"policy_digest\": \"14afec2085f57dda7a09be56f109172e8150d345528f43fffd8e76b33d89ab78\", " ++
      "\"previous_hash\": \"0000000000000000000000000000000000000000000000000000000000000000\", " ++
      "\"reason\": \"No policy violations detected\", \"tenant_id\": \"acme\", " ++
      "\"timestamp\": 1700000000.0, \"triggered_rule\": null\x7d",
      "6ae72eb57f2cc7e19fc92c5c07c1f2731c4e02f02e9eb510b546d02267feb14c")]
  distinct := by decide +kernel
  plain := by decide +kernel

local instance gatePlatform : Platform := .reference gateDigests

/-- A text none of the patterns matches. -/
local instance quietRegex : Regex where
  invalid _ := none
  finditer _ _ := []

/-- A tenant with one tool and no content rules, and a custody manager that raises. -/
def gateService : Service Unit where
  tenants :=
    { backend := .SQLiteBackend
      tenants := fun id => if id = "acme" then
        some { tenantId := "acme", policyEngine := .regex { rules := [] }, rateLimiter := {}
               auditChain := ⟨[], some "acme", .SQLiteBackend⟩ } else none }
  gate := ({ custody := some () } : ActionGate Unit).registerTools "acme" ["search"]
  stores := { audit := .empty }

def raisingHooks : CustodyHooks Unit where
  anchorPolicyCommit _ _ _ _ := (.error (.RuntimeError "sink unreachable"), ())
  drainPolicyCommits _ := (.ok false, ())

def gateEnv : GateEnv where
  now := 1700000000
  environ _ := none
  server := .ofResults fun _ => .error (.RuntimeError "no server")

/-- The audit database is locked. -/
def sampleFault : StoreExc := { typeName := "OperationalError", text := "database is locked" }

/-- The sample's engine answers. -/
lemma gateEnv_answers (fault : Option StoreExc) :
    EngineAnswers gateService { gateEnv with fault } "acme" { tool := "search" } := by
  intro ctx known _ _
  have regex : ∀ ctx ∈ gateService.tenants.getStrict "acme", ctx.policyEngine = .regex { rules := [] } := by
    decide +kernel
  rw [regex ctx known]
  exact ⟨_, rfl⟩

/-- An action that is allowed, and so recorded; and the same one over a store that raises, which is denied. -/
theorem evaluateAction_failClosed_sample :
    let out := fun fault : Option StoreExc => gateService.evaluateAction raisingHooks { gateEnv with fault }
      "acme" { tool := "search" } "agent" none
    (∃ g, (out none).1 = .ok g ∧ g.decision.allowed = true ∧
      FailClosed gateService (out none).2 { gateEnv with fault := none } "acme" { tool := "search" } g) ∧
    ∃ g, (out (some sampleFault)).1 = .ok g ∧ g.decision.allowed = false ∧ g.auditRecordHash = none := by
  intro out
  have claim := fun fault : Option StoreExc => evaluateAction_failClosed raisingHooks gateService
    { gateEnv with fault } "acme" { tool := "search" } "agent" none
  have allowed : (out none).1.toOption.map (·.decision.allowed) = some true := by decide +kernel
  have denied : (out (some sampleFault)).1.toOption.map (fun g => (g.decision.allowed, g.auditRecordHash)) =
      some (false, none) := by decide +kernel
  constructor
  · obtain ⟨g, e⟩ := (claim none).1 (gateEnv_answers none)
    rw [show (out none).1 = .ok g from e] at allowed
    exact ⟨g, e, Option.some.inj allowed, (claim none).2 g e⟩
  · obtain ⟨g, e⟩ := (claim (some sampleFault)).1 (gateEnv_answers (some sampleFault))
    rw [show (out (some sampleFault)).1 = .ok g from e] at denied
    exact ⟨g, e, Prod.mk.inj (Option.some.inj denied)⟩

end Sample

end Custos
