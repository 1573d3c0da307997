import Custos.Audit.Runs
import Custos.Service.Replay
import Custos.Service.Restore

/-!
# Administration

The administrative handlers of `main.py`: tenants and their rules are added, listed and deleted, and an audit chain
is read and verified. With the requests of `Service/Requests.lean` and the registration of tools they are what
changes a service (`ApiCall`).

Over a durable backend a tenant's chain is what its rows load as, through deletions and registrations too (`Kept`).
So what a caller was told of a decision stays in the tenant's log, in the order it was told
(`decisions_recorded`).
-/

namespace Custos

/-! ## What administrative requests carry -/

structure PolicyRuleRequest where
  name : String
  pattern : String
  action : String
  reason : String
  deriving DecidableEq

structure PolicyRuleAddResponse where
  tenantId : String
  rule : PolicyRuleRequest
  totalCustomRules : Nat

structure PolicyRuleListResponse where
  tenantId : String
  rules : List PolicyRuleRequest
  count : Nat
  deriving DecidableEq

/-- `TenantRegisterRequest`, with what its validators ask for. -/
structure TenantRegisterRequest where
  tenantId : String
  requestsPerMinute : Int := 60
  requestsPerHour : Int := 1000
  tokensPerMinute : Int := 100000
  stripped : strip tenantId = tenantId
  idLength : 1 ≤ tenantId.length ∧ tenantId.length ≤ 64
  perMinute : 1 ≤ requestsPerMinute ∧ requestsPerMinute ≤ 10000
  perHour : 1 ≤ requestsPerHour ∧ requestsPerHour ≤ 100000
  tokens : 1 ≤ tokensPerMinute ∧ tokensPerMinute ≤ 10000000

structure TenantResponse where
  tenantId : String
  requestsPerMinute : Int
  requestsPerHour : Int
  tokensPerMinute : Int
  registered : Bool := true
  deriving DecidableEq

structure AuditRecordResponse where
  timestamp : ℚ
  clientId : String
  action : String
  triggeredRule : Option String
  reason : String
  contentHash : String
  recordHash : String
  previousHash : String
  traceId : Option String
  bindingVersion : Int
  commitment : String
  deriving DecidableEq

/-- What `/v1/audit/verify` returns. -/
structure ChainReport where
  valid : Bool
  reason : String
  chainLength : Nat
  tenantId : String
  backend : String
  deriving DecidableEq

/-- `backend_type`. -/
def Backend.typeName : Backend → String
  | .InMemoryBackend => "InMemoryBackend"
  | .SQLiteBackend => "SQLiteBackend"
  | .PostgreSQLBackend => "PostgreSQLBackend"

/-- A record as the audit endpoint returns it. -/
def AuditRecord.response (r : AuditRecord) : AuditRecordResponse where
  timestamp := r.timestamp
  clientId := r.clientId
  action := r.action
  triggeredRule := r.triggeredRule
  reason := r.reason
  contentHash := r.contentHash
  recordHash := r.recordHash
  previousHash := r.previousHash
  traceId := r.traceId
  bindingVersion := r.bindingVersion.getD 0
  commitment := r.commitment.getD COMMITMENT_NONE

/-- `get_records`: of one client where one is named. -/
def AuditChain.getRecords (c : AuditChain) (clientId : Option String) : List AuditRecord :=
  match present clientId with
  | none => c.records
  | some clientId => c.records.filter (·.clientId = clientId)

/-! ## The handlers -/

namespace Main

variable {γ : Type}

/-- `_ACTION_MAP`. -/
def ACTION_MAP : List (String × PolicyAction) := [ ("allow", .ALLOW), ("deny", .DENY), ("audit", .AUDIT)]

/-- `POST /v1/tenants/{tenant_id}/policy`. -/
def addTenantPolicyRule (s : Service γ) (fault : Option StoreExc) (tenantId : String) (req : PolicyRuleRequest) :
    Except Failure PolicyRuleAddResponse × Service γ :=
  match ACTION_MAP.lookup req.action with
  | none => (.error (.http 422 ("Invalid action: " ++ req.action)), s)
  | some action =>
    let rule : PolicyRule := { name := req.name, pattern := req.pattern, action, reason := req.reason }
    let (res, tenants) := s.tenants.addPolicyRule fault tenantId rule
    (match res with
      | .error e => .error (.raised e)
      | .ok _ => .ok
        { tenantId, rule := req, totalCustomRules := (tenants.listPolicyRules tenantId).length },
      { s with tenants })

/-- `GET /v1/tenants/{tenant_id}/policy`. -/
def listTenantPolicyRules (s : Service γ) (tenantId : String) : PolicyRuleListResponse :=
  let ruleRequests := (s.tenants.listPolicyRules tenantId).map fun r =>
    { name := r.name, pattern := r.pattern, action := r.action.value, reason := r.reason }
  { tenantId, rules := ruleRequests, count := ruleRequests.length }

/-- `POST /v1/tenants`. -/
def registerTenant (s : Service γ) (fault : Option RegisterFault) (environ : Environ) (now : ℚ)
    (req : TenantRegisterRequest) : Except Failure TenantResponse × Service γ :=
  if req.tenantId = "default" then (.error (.http 400 "Cannot re-register the default tenant"), s)
  else
    match s.tenants.getStrict req.tenantId with
    | some _ => (.error (.http 409 ("Tenant '" ++ req.tenantId ++ "' already exists")), s)
    | none =>
      let quota : QuotaConfig :=
        { requestsPerMinute := req.requestsPerMinute, requestsPerHour := req.requestsPerHour
          tokensPerMinute := req.tokensPerMinute }
      let (res, tenants) := s.tenants.registerFaulty fault environ now s.stores.audit req.tenantId quota
      (match res with
        | .error e => .error (.raised e)
        | .ok _ => .ok
          { tenantId := req.tenantId, requestsPerMinute := req.requestsPerMinute
            requestsPerHour := req.requestsPerHour, tokensPerMinute := req.tokensPerMinute },
        { s with tenants })

/-- `DELETE /v1/tenants/{tenant_id}`: the tenant that was deleted. -/
def deleteTenant (s : Service γ) (fault : Option StoreExc) (tenantId : String) :
    Except Failure String × Service γ :=
  if tenantId = "default" then (.error (.http 400 "Cannot delete the default tenant"), s)
  else
    let (res, tenants) := s.tenants.unregister fault tenantId
    (match res with
      | .error e => .error (.raised e)
      | .ok false => .error (.http 404 ("Tenant '" ++ tenantId ++ "' not found"))
      | .ok true => .ok tenantId,
      { s with tenants })

/-- `GET /v1/audit`. -/
def getAuditLog (s : Service γ) (clientId : Option String) (tenantId : String) :
    Except Failure (List AuditRecordResponse) :=
  match s.tenants.getStrict tenantId with
  | none => .error (unknownTenant tenantId)
  | some ctx => .ok ((ctx.auditChain.getRecords clientId).map AuditRecord.response)

/-- `GET /v1/audit/verify`. -/
def verifyAuditChain [Platform] (s : Service γ) (tenantId : String) : Except Failure ChainReport :=
  match s.tenants.getStrict tenantId with
  | none => .error (unknownTenant tenantId)
  | some ctx =>
    match ctx.auditChain.verify with
    | .error e => .error (.raised e)
    | .ok (valid, reason) => .ok
      { valid, reason, chainLength := ctx.auditChain.records.length, tenantId
        backend := ctx.auditChain.backend.typeName }

end Main

/-! ## What changes a service -/

inductive ApiCall where
  | request (env : RequestEnv) (req : Request)
  | registerTools (tenantId : String) (tools : List String)
  | addTenantPolicyRule (fault : Option StoreExc) (tenantId : String) (req : PolicyRuleRequest)
  | registerTenant (fault : Option RegisterFault) (environ : Environ) (now : ℚ) (req : TenantRegisterRequest)
  | deleteTenant (fault : Option StoreExc) (tenantId : String)

/-- What an answer says of the record it names. -/
structure Told where
  recordHash : String
  clientId : String
  action : String
  triggeredRule : Option String
  reason : String
  contentHash : String
  deriving DecidableEq

def AuditRecord.told (r : AuditRecord) : Told where
  recordHash := r.recordHash
  clientId := r.clientId
  action := r.action
  triggeredRule := r.triggeredRule
  reason := r.reason
  contentHash := r.contentHash

section

variable {γ : Type} [Platform]

def EvaluateResponse.told (resp : EvaluateResponse) (content : String) : Option Told :=
  resp.auditRecordHash.map fun recordHash =>
    { recordHash, clientId := resp.clientId, action := resp.action, triggeredRule := resp.triggeredRule
      reason := resp.reason, contentHash := sha256 content }

variable [Regex]

def apiStep (hooks : CustodyHooks γ) (s : Service γ) : ApiCall → Service γ
  | .request env req => serve hooks s env req
  | .registerTools tenantId tools => { s with gate := s.gate.registerTools tenantId tools }
  | .addTenantPolicyRule fault tenantId req => (Main.addTenantPolicyRule s fault tenantId req).2
  | .registerTenant fault environ now req => (Main.registerTenant s fault environ now req).2
  | .deleteTenant fault tenantId => (Main.deleteTenant s fault tenantId).2

/-- What the caller of one of the two decision endpoints is told. -/
def tells (hooks : CustodyHooks γ) (s : Service γ) (env : RequestEnv) : Request → Option Told
  | .evaluate req =>
    match (Main.evaluate s env req).1 with
    | .ok resp => resp.told req.content
    | .error _ => none
  | .evaluateAction req =>
    match (Main.evaluateAction hooks s env req).1 with
    | .ok resp => resp.told req.action.serialize
    | .error _ => none
  | _ => none

/-- What a call tells of the tenant's decisions. -/
def tellsOf (hooks : CustodyHooks γ) (id : String) (s : Service γ) : ApiCall → Option Told
  | .request env req => if req.tenantId = id then tells hooks s env req else none
  | _ => none

/-! ## A tenant's rows -/

omit [Platform] [Regex] in
/-- The rows of a tenant, as a chain of its own loads them. -/
def Service.history (s : Service γ) (id : String) : List AuditRecord :=
  s.tenants.backend.loadAll (some id) s.stores.audit

namespace TenantManager

omit [Platform] [Regex] in
/-- The tenants' chains are what a table loads as. -/
def Opened (tm : TenantManager) (audit : AuditTable) : Prop :=
  ∀ id ctx, tm.tenants id = some ctx → ctx.auditChain =
    { records := tm.backend.loadAll (some id) audit, tenantId := some id, backend := tm.backend }

variable {tm tm' : TenantManager} {audit : AuditTable}

omit [Platform] [Regex] in
/-- A context whose chain is opened from the table leaves the chains opened. -/
lemma Opened.update (opened : tm.Opened audit) {id : String} {ctx : Option TenantContext}
    (same : tm'.tenants = Function.update tm.tenants id ctx) (backend : tm'.backend = tm.backend)
    (chain : ∀ c ∈ ctx, c.auditChain =
      { records := tm.backend.loadAll (some id) audit, tenantId := some id, backend := tm.backend }) :
    tm'.Opened audit := by
  intro other c known
  rw [same] at known
  rw [backend]
  by_cases e : other = id
  · rw [e, Function.update_self] at known
    rw [e]
    exact chain c known
  · rw [Function.update_of_ne e] at known
    exact opened other c known

omit [Platform] [Regex] in
/-- A tenant that is registered has its chain opened. -/
lemma Opened.register (opened : tm.Opened audit) (environ : Environ) (now : ℚ) (id : String)
    (quota : QuotaConfig) : (tm.register environ now audit id quota).2.Opened audit := by
  unfold TenantManager.register
  dsimp only
  rw [init_scoped]
  refine opened.update rfl rfl fun c same => ?_
  cases same
  rfl

omit [Platform] [Regex] in
lemma Opened.registerFaulty (opened : tm.Opened audit) (fault : Option RegisterFault) (environ : Environ) (now : ℚ)
    (id : String) (quota : QuotaConfig) :
    (tm.registerFaulty fault environ now audit id quota).2.Opened audit := by
  unfold TenantManager.registerFaulty
  cases fault with
  | none => exact opened.register environ now id quota
  | some fault =>
    cases fault with
    | load exc => exact opened
    | chain exc => exact opened

omit [Platform] [Regex] in
/-- A deletion leaves the chains opened. -/
lemma Opened.unregister (opened : tm.Opened audit) (fault : Option StoreExc) (id : String) :
    (tm.unregister fault id).2.Opened audit := by
  rcases tm.unregister_cases fault id with eq | eq
  · rw [eq]
    exact opened
  · rw [eq]
    exact opened.update rfl rfl nofun

omit [Platform] [Regex] in
lemma Opened.addPolicyRule (opened : tm.Opened audit) (fault : Option StoreExc) (id : String) (rule : PolicyRule) :
    (tm.addPolicyRule fault id rule).2.Opened audit := by
  cases key : tm.getOrDefault id with
  | error e =>
    unfold TenantManager.addPolicyRule
    rw [key]
    exact opened
  | ok found =>
    obtain ⟨key', ctx⟩ := found
    rw [addPolicyRule_of_found key]
    refine opened.update rfl rfl fun c same => ?_
    cases same
    exact opened key' ctx (getStrict_of_getOrDefault key)

omit [Platform] [Regex] in
/-- The stored tenants have their chains opened. -/
lemma Opened.registerStored (environ : Environ) (now : ℚ) {ids : List String} (opened : tm.Opened audit)
    (booted : tm.registerStored environ now audit ids = .ok tm') : tm'.Opened audit ∧ tm'.backend = tm.backend := by
  induction ids generalizing tm with
  | nil =>
    cases booted
    exact ⟨opened, rfl⟩
  | cons id ids ih =>
    unfold TenantManager.registerStored at booted
    cases known : tm.getStrict id with
    | some ctx =>
      rw [known] at booted
      exact ih opened booted
    | none =>
      rw [known] at booted
      obtain ⟨ctx, -, registered⟩ := tm.register_eq environ now audit id DEFAULT_QUOTA
      have opened' := opened.register environ now id DEFAULT_QUOTA
      rw [registered] at opened' booted
      obtain ⟨opened', same⟩ := ih opened' booted
      exact ⟨opened', same⟩

omit [Platform] [Regex] in
/-- A manager that has come up has opened its chains on the table. -/
lemma opened_of_boot {backend : Backend} {policyStore : PolicyStore} {environ : Environ} {now : ℚ}
    (booted : boot backend policyStore environ now audit = .ok tm) :
    tm.Opened audit ∧ tm.backend = backend ∧ (tm.tenants "default").isSome := by
  obtain ⟨tm', eq, synced, -⟩ := boot_spec backend policyStore environ now audit
  cases booted.symm.trans eq
  have empty : Opened { backend, policyStore } audit := nofun
  obtain ⟨ctx, -, registered⟩ := register_eq { backend, policyStore } environ now audit "default" DEFAULT_QUOTA
  have opened := empty.register environ now "default" DEFAULT_QUOTA
  unfold boot at booted
  rw [registered] at opened booted
  obtain ⟨opened', same⟩ := opened.registerStored environ now booted
  exact ⟨opened', same, synced.default⟩

omit [Platform] [Regex] in
/-- The backend is the same, and the default tenant stays. -/
structure Keeps (tm tm' : TenantManager) : Prop where
  backend : tm'.backend = tm.backend
  default : (tm.tenants "default").isSome → (tm'.tenants "default").isSome

omit [Platform] [Regex] in
lemma Keeps.refl (tm : TenantManager) : Keeps tm tm := ⟨rfl, fun stays => stays⟩

omit [Platform] [Regex] in
/-- A context that is put in place of another keeps backend and default tenant, unless it deletes the latter. -/
lemma Keeps.update {id : String} {ctx : Option TenantContext} (same : tm'.tenants = Function.update tm.tenants id ctx)
    (backend : tm'.backend = tm.backend) (stays : id = "default" → ctx.isSome) : Keeps tm tm' := by
  refine ⟨backend, fun default => ?_⟩
  rw [same]
  by_cases e : "default" = id
  · rw [e, Function.update_self]
    exact stays e.symm
  · rw [Function.update_of_ne e]
    exact default

omit [Platform] [Regex] in
/-- A registration keeps backend and default tenant. -/
lemma registerFaulty_keeps (tm : TenantManager) (fault : Option RegisterFault) (environ : Environ) (now : ℚ)
    (audit : AuditTable) (id : String) (quota : QuotaConfig) :
    Keeps tm (tm.registerFaulty fault environ now audit id quota).2 := by
  unfold registerFaulty
  cases fault with
  | none =>
    obtain ⟨ctx, -, registered⟩ := tm.register_eq environ now audit id quota
    dsimp only
    rw [registered]
    exact .update rfl rfl fun _ => rfl
  | some fault =>
    cases fault with
    | load exc => exact .refl tm
    | chain exc => exact ⟨rfl, fun stays => stays⟩

omit [Platform] [Regex] in
lemma unregister_keeps (tm : TenantManager) (fault : Option StoreExc) {id : String} (ne : id ≠ "default") :
    Keeps tm (tm.unregister fault id).2 := by
  rcases tm.unregister_cases fault id with eq | eq
  · rw [eq]
    exact .refl tm
  · rw [eq]
    exact .update rfl rfl fun e => absurd e ne

omit [Platform] [Regex] in
lemma addPolicyRule_keeps (tm : TenantManager) (fault : Option StoreExc) (id : String) (rule : PolicyRule) :
    Keeps tm (tm.addPolicyRule fault id rule).2 := by
  cases key : tm.getOrDefault id with
  | error e =>
    unfold addPolicyRule
    rw [key]
    exact .refl tm
  | ok found =>
    obtain ⟨key', ctx⟩ := found
    rw [addPolicyRule_of_found key]
    exact .update rfl rfl fun _ => rfl

end TenantManager

/-! ## One call -/

omit [Regex] in
/-- What recording adds to a scoped chain it adds to the rows of the chain's tenant, and to no other's. -/
lemma Recording.rows {ready : Prop} {c c' : AuditChain} {s s' : Stores} {env : RecordEnv} {a : RecordArgs}
    (rec : Recording ready c s env a c' s') (dur : c.backend.Durable) {own : String}
    (scope : c.tenantId = some own) :
    ∃ new, c' = { c with records := c.records ++ new } ∧
      (c.Verified → c'.Verified) ∧ ∀ id, c.backend.loadAll (some id) s'.audit =
        c.backend.loadAll (some id) s.audit ++ if id = own then new else [] := by
  cases rec with
  | untried _ _ same => exact ⟨[], by simp, fun verified => verified, fun id => by simp [same]⟩
  | refused _ _ _ _ _ same => exact ⟨[], by simp, fun verified => verified, fun id => by simp [same]⟩
  | written form r _ yes wrote one =>
    refine ⟨[r], rfl, (Recording.written form r s' yes wrote one).since.2, fun id => ?_⟩
    rcases save_cases dur env.fault s.audit r with ⟨e, refused⟩ | ⟨t', -, inserted, ok⟩
    · cases wrote.saved.symm.trans refused
    · obtain rfl : s'.audit = t' := congrArg Prod.snd (wrote.saved.symm.trans ok)
      exact loadAll_insert dur inserted (wrote.entry.tenantId scope) (wrote.entry.ofRow wrote.admissible.commitment) id

omit [Platform] [Regex] in
/-- Over a durable backend, the chains are what the table loads as, the default tenant's among them. -/
structure Kept (s : Service γ) : Prop where
  durable : s.tenants.backend.Durable
  opened : s.tenants.Opened s.stores.audit
  default : (s.tenants.tenants "default").isSome

/-- What one call adds to the tenants' rows: those of one tenant grow, and what verified verifies. -/
structure Grows (own : String) (new : List AuditRecord) (s s' : Service γ) : Prop where
  kept : Kept s'
  rows : ∀ id, s'.history id = s.history id ++ if id = own then new else []
  verified : ∀ id, recordLink.Linked GENESIS_HASH (s.history id) → recordLink.Linked GENESIS_HASH (s'.history id)

omit [Regex] in
/-- What leaves the table alone adds nothing. -/
lemma Grows.idle {s s' : Service γ} (own : String) (kept : Kept s') (backend : s'.tenants.backend = s.tenants.backend)
    (audit : s'.stores.audit = s.stores.audit) : Grows own [] s s' := by
  have same : ∀ id, s'.history id = s.history id := by
    intro id
    unfold Service.history
    rw [backend, audit]
  refine ⟨kept, fun id => ?_, fun id linked => ?_⟩
  · rw [same id]
    simp
  · rw [same id]
    exact linked

/-- A request adds to its own tenant's rows what it adds to the tenant's chain. -/
lemma serve_grows (hooks : CustodyHooks γ) {s : Service γ} (kept : Kept s) (env : RequestEnv) (req : Request) :
    ∃ new, Grows req.tenantId new s (serve hooks s env req) := by
  cases serve_served hooks s env req with
  | unknown none tenants stores =>
    refine ⟨[], .idle _ ⟨?_, ?_, ?_⟩ (by rw [tenants]) (by rw [stores])⟩
    · rw [tenants]
      exact kept.durable
    · rw [tenants, stores]
      exact kept.opened
    · rw [tenants]
      exact kept.default
  | known ctx rateLimiter auditChain a known tenants _ _ _ rec =>
    have chain := kept.opened _ _ known
    obtain ⟨new, grown, verified, rows⟩ := rec.rows (by rw [chain]; exact kept.durable) (by rw [chain])
    have backend : (serve hooks s env req).tenants.backend = s.tenants.backend := by rw [tenants]; rfl
    have rows' : ∀ id, (serve hooks s env req).history id =
        s.history id ++ if id = req.tenantId then new else [] := by
      intro id
      unfold Service.history
      rw [backend]
      rw [chain] at rows
      exact rows id
    have own : auditChain =
        { records := (serve hooks s env req).history req.tenantId, tenantId := some req.tenantId
          backend := (serve hooks s env req).tenants.backend } := by
      rw [grown, chain, rows', if_pos rfl, backend]
      rfl
    refine ⟨new, ⟨?_, ?_, ?_⟩, rows', fun id linked => ?_⟩
    · rw [backend]
      exact kept.durable
    · intro id c found
      rw [tenants] at found
      dsimp only [TenantManager.setContext] at found
      by_cases e : id = req.tenantId
      · rw [e, Function.update_self] at found
        cases found
        rw [e]
        exact own
      · rw [Function.update_of_ne e] at found
        have held := rows' id
        rw [if_neg e, List.append_nil] at held
        rw [kept.opened id c found, ← Service.history, ← held, ← backend]
        rfl
    · rw [tenants]
      by_cases e : "default" = req.tenantId
      · rw [e]
        simp [TenantManager.setContext]
      · exact (congrArg Option.isSome (Function.update_of_ne e _ _)).trans kept.default
    · by_cases e : id = req.tenantId
      · have held := AuditChain.verified_iff_linked.1 (verified (AuditChain.verified_iff_linked.2 (by
          rw [chain, ← e]
          exact linked)))
        rw [own, ← e] at held
        exact held
      · rw [rows', if_neg e, List.append_nil]
        exact linked

omit [Regex] in
/-- What is recorded of a call says what the call was handed. -/
lemma Recording.told {ready : Prop} {c c' : AuditChain} {s s' : Stores} {env : RecordEnv} {a : RecordArgs}
    {r : AuditRecord} (rec : Recording ready c s env a c' s') (grown : c'.records = c.records ++ [r]) :
    r.told =
      { recordHash := r.recordHash, clientId := a.clientId, action := a.action, triggeredRule := a.triggeredRule
        reason := a.reason, contentHash := sha256 a.content } := by
  cases rec with
  | untried => exact absurd grown (by simp)
  | refused => exact absurd grown (by simp)
  | written form r' _ _ wrote =>
    obtain ⟨own, -, e⟩ := wrote.entry.eq
    have same : r' = r := by simpa using grown
    rw [← same, e]
    rfl

/-- A request's tenant has one record more, which says `t`. -/
def TellsRecord (hooks : CustodyHooks γ) (s : Service γ) (env : RequestEnv) (req : Request) (t : Told) : Prop :=
  ∃ ctx ctx' r, s.tenants.getStrict req.tenantId = some ctx ∧
    (serve hooks s env req).tenants.getStrict req.tenantId = some ctx' ∧
    ctx'.auditChain.records = ctx.auditChain.records ++ [r] ∧ r.told = t

/-- What `/v1/evaluate` tells of a decision is in the record of it. -/
lemma evaluate_tells (hooks : CustodyHooks γ) {s : Service γ} {env : RequestEnv} {req : EvaluateRequest}
    {resp : EvaluateResponse} (answered : (Main.evaluate s env req).1 = .ok resp) {t : Told}
    (told : resp.told req.content = some t) : TellsRecord hooks s env (.evaluate req) t := by
  have after : serve hooks s env (.evaluate req) = (Main.evaluate s env req).2 := rfl
  unfold TellsRecord
  rw [after]
  unfold Main.evaluate at answered ⊢
  by_cases ident : Main.Identified env req.clientId
  · rw [if_neg (not_not.2 ident)] at answered ⊢
    cases valid : InputValidator.validateRequest req.clientId req.content req.tokenCount with
    | some error =>
      rw [valid] at answered
      cases answered
    | none =>
      cases known : s.tenants.getStrict req.tenantId with
      | none =>
        rw [valid, known] at answered
        cases answered
      | some ctx =>
        rw [valid, known] at answered
        dsimp only at answered ⊢
        cases allowed : (Main.consume env ctx req).2.1.1 with
        | false =>
          rw [allowed, if_pos (by simp)] at answered
          dsimp only at answered
          split at answered <;> cases answered
        | true =>
          rw [allowed, if_neg (by simp)] at answered
          rw [if_neg (by simp)]
          cases ans : ctx.policyEngine.evaluate env.remote req.content with
          | error e =>
            rw [ans] at answered
            cases answered
          | ok d =>
            rw [ans] at answered
            dsimp only at answered ⊢
            obtain ⟨out, ⟨rec, cases⟩, eq⟩ := recordDecision_outcome
              { ctx with rateLimiter := (Main.consume env ctx req).2.2 } s.stores env.toDecisionEnv
              (Main.evaluateArgs env { ctx with rateLimiter := (Main.consume env ctx req).2.2 } req d.action.value
                d.reason d.triggeredRule)
            rw [eq] at answered ⊢
            rcases cases with ⟨⟨e, raised⟩, -⟩ | ⟨r, ok, grown⟩
            · rw [raised] at answered
              cases answered
            · rw [ok] at answered
              cases answered
              refine ⟨ctx, _, r, known, Function.update_self .., congrArg AuditChain.records grown, ?_⟩
              rw [rec.told (congrArg AuditChain.records grown)]
              exact Option.some.inj told
  · rw [if_pos ident] at answered
    cases answered

lemma evaluateAction_tells (hooks : CustodyHooks γ) {s : Service γ} {env : RequestEnv} {req : EvaluateActionRequest}
    {resp : EvaluateResponse} (answered : (Main.evaluateAction hooks s env req).1 = .ok resp) {t : Told}
    (told : resp.told req.action.serialize = some t) : TellsRecord hooks s env (.evaluateAction req) t := by
  have after : serve hooks s env (.evaluateAction req) = (Main.evaluateAction hooks s env req).2 := rfl
  unfold TellsRecord
  rw [after]
  unfold Main.evaluateAction at answered ⊢
  by_cases ident : Main.Identified env req.clientId
  · rw [if_neg (not_not.2 ident)] at answered ⊢
    dsimp only at answered ⊢
    have evaluated := s.evaluateAction_evaluated hooks env.toGateEnv req.tenantId req.action req.clientId none
    generalize s.evaluateAction hooks env.toGateEnv req.tenantId req.action req.clientId none = out
      at evaluated answered ⊢
    cases evaluated with
    | unknown none =>
      cases answered
      cases told
    | raised ctx e gate known _ no => cases answered
    | decided ctx d gate res s' known _ dec settled =>
      cases settled with
      | unrecorded stores rec =>
        cases answered
        cases told
      | recorded r stores rec =>
        cases answered
        refine ⟨ctx, _, r, known, Function.update_self .., rfl, ?_⟩
        rw [rec.told rfl]
        exact Option.some.inj told
  · rw [if_pos ident] at answered
    cases answered

/-- A request that tells of a decision has recorded it. -/
lemma serve_tells (hooks : CustodyHooks γ) {s : Service γ} {env : RequestEnv} {req : Request} {t : Told}
    (told : tells hooks s env req = some t) : TellsRecord hooks s env req t := by
  cases req with
  | evaluate req =>
    cases answered : (Main.evaluate s env req).1 with
    | error e =>
      rw [tells, answered] at told
      cases told
    | ok resp =>
      rw [tells, answered] at told
      exact evaluate_tells hooks answered told
  | evaluateAction req =>
    cases answered : (Main.evaluateAction hooks s env req).1 with
    | error e =>
      rw [tells, answered] at told
      cases told
    | ok resp =>
      rw [tells, answered] at told
      exact evaluateAction_tells hooks answered told
  | _ => cases told

omit [Regex] in
/-- A change of the tenants that opens chains on the table adds nothing to it. -/
lemma Grows.tenants {s : Service γ} (kept : Kept s) {tm : TenantManager} (opened : tm.Opened s.stores.audit)
    (keeps : TenantManager.Keeps s.tenants tm) : Grows "" [] s { s with tenants := tm } :=
  .idle _ ⟨by rw [keeps.backend]; exact kept.durable, opened, keeps.default kept.default⟩ keeps.backend rfl

/-- A call leaves the chains in step with the table, and what it tells of a tenant's decision is a new row of the
tenant. -/
lemma apiStep_grows (hooks : CustodyHooks γ) {s : Service γ} (kept : Kept s) (call : ApiCall) (id : String) :
    ∃ own new, Grows own new s (apiStep hooks s call) ∧
      (tellsOf hooks id s call).toList.Sublist ((if id = own then new else []).map AuditRecord.told) := by
  cases call with
  | request env req =>
    obtain ⟨new, grows⟩ := serve_grows hooks kept env req
    refine ⟨req.tenantId, new, grows, ?_⟩
    dsimp only [tellsOf]
    by_cases own : req.tenantId = id
    · rw [if_pos own, if_pos own.symm]
      cases told : tells hooks s env req with
      | none => exact List.nil_sublist _
      | some t =>
        obtain ⟨ctx, ctx', r, known, known', grown, rfl⟩ := serve_tells hooks told
        -- the chains are the rows, before and after
        have rows := grows.rows req.tenantId
        rw [if_pos rfl] at rows
        rw [kept.opened _ _ known, grows.kept.opened _ _ known'] at grown
        have one : s.history req.tenantId ++ new = s.history req.tenantId ++ [r] := rows.symm.trans grown
        rw [List.append_cancel_left one]
        exact List.Sublist.refl _
    · rw [if_neg own]
      exact List.nil_sublist _
  | registerTools tenantId tools =>
    exact ⟨"", [], .idle _ ⟨kept.durable, kept.opened, kept.default⟩ rfl rfl, List.nil_sublist _⟩
  | addTenantPolicyRule fault tenantId req =>
    refine ⟨"", [], ?_, List.nil_sublist _⟩
    dsimp only [apiStep, Main.addTenantPolicyRule]
    cases Main.ACTION_MAP.lookup req.action with
    | none => exact .tenants kept kept.opened (.refl _)
    | some action =>
      exact .tenants kept (kept.opened.addPolicyRule fault tenantId _) (s.tenants.addPolicyRule_keeps fault tenantId _)
  | registerTenant fault environ now req =>
    refine ⟨"", [], ?_, List.nil_sublist _⟩
    dsimp only [apiStep, Main.registerTenant]
    split
    · exact .tenants kept kept.opened (.refl _)
    · cases s.tenants.getStrict req.tenantId with
      | some ctx => exact .tenants kept kept.opened (.refl _)
      | none =>
        exact .tenants kept (kept.opened.registerFaulty fault environ now req.tenantId _)
          (s.tenants.registerFaulty_keeps fault environ now _ req.tenantId _)
  | deleteTenant fault tenantId =>
    refine ⟨"", [], ?_, List.nil_sublist _⟩
    dsimp only [apiStep, Main.deleteTenant]
    split
    · exact .tenants kept kept.opened (.refl _)
    · rename_i ne
      exact .tenants kept (kept.opened.unregister fault tenantId) (s.tenants.unregister_keeps fault ne)

/-- What a tenant's log has become, beside what its callers were told. -/
structure LogOf (id : String) (start s : Service γ) (told : List Told) : Prop where
  grown : ∃ new, s.history id = start.history id ++ new ∧ told.Sublist (new.map AuditRecord.told)
  listed : (s.tenants.getStrict id).isSome →
    Main.getAuditLog s none id = .ok ((s.history id).map AuditRecord.response)
  verifies : recordLink.Linked GENESIS_HASH (start.history id) → (s.tenants.getStrict id).isSome →
    ∃ report, Main.verifyAuditChain s id = .ok report ∧ report.valid = true ∧
      report.chainLength = (s.history id).length
  default : (s.tenants.getStrict "default").isSome

lemma Kept.step (hooks : CustodyHooks γ) {s : Service γ} (kept : Kept s) (call : ApiCall) :
    Kept (apiStep hooks s call) := by
  obtain ⟨_, _, grows, _⟩ := apiStep_grows hooks kept call "default"
  exact grows.kept

/-- Chains that are in step with the table stay so. -/
lemma Kept.after (hooks : CustodyHooks γ) {start : Service γ} (kept : Kept start) (calls : List ApiCall) :
    Kept (run (apiStep hooks) start calls) :=
  run_invariant (apiStep hooks) kept (fun _ call kept => kept.step hooks call) calls

/-- From a service whose chains are in step with the table, a tenant's log becomes what `LogOf` says in every run. -/
theorem Kept.logOf (hooks : CustodyHooks γ) {start : Service γ} (kept : Kept start) (calls : List ApiCall) (id : String) :
    LogOf id start (run (apiStep hooks) start calls) (outputs (apiStep hooks) (tellsOf hooks id) start calls) := by
  have keep : ∀ s call, Kept s → Kept (apiStep hooks s call) := fun _ call kept => kept.step hooks call
  have held := kept.after hooks calls
  have linked := run_invariant (apiStep hooks) (I := fun s => Kept s ∧
    (recordLink.Linked GENESIS_HASH (start.history id) → recordLink.Linked GENESIS_HASH (s.history id)))
    ⟨kept, fun linked => linked⟩ (fun s call inv =>
      have ⟨_, _, grows, _⟩ := apiStep_grows hooks inv.1 call id
      ⟨grows.kept, fun linked => grows.verified id (inv.2 linked)⟩) calls
  refine ⟨?_, fun known => ?_, fun verifies known => ?_, held.default⟩
  · refine outputs_sublist (fun s => s.history id) keep (fun s call kept => ?_) kept calls
    obtain ⟨own, new, grows, told⟩ := apiStep_grows hooks kept call id
    exact ⟨_, grows.rows id, told⟩
  · obtain ⟨ctx, known⟩ := Option.isSome_iff_exists.1 known
    unfold Main.getAuditLog
    rw [known]
    dsimp only
    rw [held.opened id ctx known]
    rfl
  · obtain ⟨ctx, known⟩ := Option.isSome_iff_exists.1 known
    have chain := held.opened id ctx known
    have rows : recordLink.Linked GENESIS_HASH ctx.auditChain.records := by
      rw [chain]
      exact linked.2 verifies
    obtain ⟨msg, verified⟩ := AuditChain.verified_iff_linked.2 rows
    unfold Main.verifyAuditChain
    rw [known]
    dsimp only
    rw [verified]
    refine ⟨_, rfl, rfl, ?_⟩
    rw [chain]
    rfl

omit [Platform] [Regex] in
/-- A manager that has come up over a durable backend is in step with its table. -/
lemma Kept.of_boot {backend : Backend} (dur : backend.Durable) {policyStore : PolicyStore} {environ : Environ}
    {now : ℚ} {stores : Stores} {tm : TenantManager}
    (booted : TenantManager.boot backend policyStore environ now stores.audit = .ok tm) (gate : ActionGate γ) :
    Kept { tenants := tm, gate, stores } := by
  obtain ⟨opened, same, default⟩ := TenantManager.opened_of_boot booted
  exact ⟨by rw [same]; exact dur, opened, default⟩

/-- Over a durable backend, whatever is served, registered, added and deleted: what callers were told of a tenant's
decisions is in the tenant's log, each in a record of its own and in the order it was told; the log is what the audit
endpoint lists and what it verifies; and the default tenant is there. -/
theorem decisions_recorded (hooks : CustodyHooks γ) {backend : Backend} (dur : backend.Durable)
    {policyStore : PolicyStore} {environ : Environ} {now : ℚ} (stores : Stores) {tm : TenantManager}
    (booted : TenantManager.boot backend policyStore environ now stores.audit = .ok tm) (gate : ActionGate γ)
    (calls : List ApiCall) (id : String) :
    let start : Service γ := { tenants := tm, gate, stores }
    LogOf id start (run (apiStep hooks) start calls) (outputs (apiStep hooks) (tellsOf hooks id) start calls) :=
  (Kept.of_boot dur booted gate).logOf hooks calls id

end

section Sample

local instance administrationPlatform : Platform := .reference .empty

/-- A text none of the patterns matches. -/
local instance administrationRegex : Regex where
  invalid _ := none
  finditer _ _ := []

def registeredRequest : TenantRegisterRequest where
  tenantId := "acme"
  stripped := by decide +kernel
  idLength := by decide
  perMinute := by decide
  perHour := by decide
  tokens := by decide

def administrationEnv : RequestEnv where
  toGateEnv := gateEnv
  purgedAt := 1700000000
  traceId := sampleTraceId
  clock _ := 1700000000

/-- A tenant is registered, is asked, and is deleted and registered again. -/
def administrationCalls : List ApiCall :=
  [ .registerTenant none (fun _ => none) 0 registeredRequest,
    .request administrationEnv (.evaluate { clientId := "agent", tenantId := "acme", content := "hello" }),
    .deleteTenant none "acme", .registerTenant none (fun _ => none) 0 registeredRequest]

/-- A tenant is registered, and its client served. -/
theorem decisions_recorded_sample :
    ∃ tm, TenantManager.boot .SQLiteBackend {} (fun _ => none) 0 .empty = .ok tm ∧
      let start : Service Unit := { tenants := tm, gate := {}, stores := { audit := .empty } }
      LogOf "acme" start (run (apiStep raisingHooks) start administrationCalls)
        (outputs (apiStep raisingHooks) (tellsOf raisingHooks "acme") start administrationCalls) := by
  obtain ⟨tm, booted, -⟩ := TenantManager.boot_spec .SQLiteBackend {} (fun _ => none) 0 .empty
  exact ⟨tm, booted, decisions_recorded raisingHooks (by decide) { audit := .empty } booted {}
    administrationCalls "acme"⟩

end Sample

end Custos
