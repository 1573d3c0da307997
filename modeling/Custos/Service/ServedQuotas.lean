import Custos.Service.Administration
import Custos.Service.Quotas

/-!
# Quotas on the served path

`/v1/evaluate` gives each client of a tenant a key of its own in the tenant's limiter, at its first request and with the
tenant's quota. Nothing but the client's own requests touches the key (`apiStep_limiter`, `evaluate_limiter`), so the
limiter's bounds are bounds on what each client is admitted, whatever else is served, registered or deleted
(`served_within_quota`), and a client that waits as it is told is admitted after two waits at most
(`admitted_after_waits`).
-/

namespace Custos

section

variable {γ : Type} [Platform]

/-! ## Who touches a limiter -/

omit [Platform] in
/-- The tenant's limiter is what it was. -/
def SameLimiter (id : String) (s s' : Service γ) : Prop :=
  ∀ ctx, s.tenants.getStrict id = some ctx → ∃ ctx', s'.tenants.getStrict id = some ctx' ∧
    ctx'.tenantId = ctx.tenantId ∧ ctx'.rateLimiter = ctx.rateLimiter

omit [Platform] in
/-- A tenant whose context is the same has the same limiter. -/
lemma SameLimiter.of_eq {id : String} {s s' : Service γ}
    (same : s'.tenants.getStrict id = s.tenants.getStrict id) : SameLimiter id s s' :=
  fun ctx known => ⟨ctx, same.trans known, rfl, rfl⟩

omit [Platform] in
/-- A context whose engine or chain alone has changed is put back. -/
lemma SameLimiter.setContext {id key : String} {s s' : Service γ} {ctx ctx' : TenantContext}
    (known : s.tenants.getStrict key = some ctx) (tenants : s'.tenants.tenants = (s.tenants.setContext key ctx').tenants)
    (tenantId : ctx'.tenantId = ctx.tenantId) (rateLimiter : ctx'.rateLimiter = ctx.rateLimiter) :
    SameLimiter id s s' := by
  intro c found
  unfold TenantManager.getStrict
  rw [tenants]
  by_cases e : id = key
  · subst e
    cases known.symm.trans found
    exact ⟨ctx', Function.update_self .., tenantId, rateLimiter⟩
  · exact ⟨c, (Function.update_of_ne e _ _).trans found, rfl, rfl⟩

omit [Platform] in
/-- Another tenant's context comes or goes. -/
lemma SameLimiter.other {id key : String} {s s' : Service γ} (ctx : Option TenantContext) (ne : id ≠ key)
    (tenants : s'.tenants.tenants = Function.update s.tenants.tenants key ctx) : SameLimiter id s s' :=
  .of_eq ((congrFun tenants id).trans (Function.update_of_ne ne _ _))

variable [Regex]

/-- The action endpoint touches no limiter. -/
lemma evaluateAction_limiter (hooks : CustodyHooks γ) (s : Service γ) (env : GateEnv) (key : String)
    (action : ActionRequest) (clientId : String) (traceId : Option String) (id : String) :
    SameLimiter id s (s.evaluateAction hooks env key action clientId traceId).2 := by
  have evaluated := s.evaluateAction_evaluated hooks env key action clientId traceId
  generalize s.evaluateAction hooks env key action clientId traceId = out at evaluated ⊢
  cases evaluated with
  | unknown none => exact .of_eq rfl
  | raised ctx e gate known _ no => exact .of_eq rfl
  | decided ctx d gate res s' known _ dec settled =>
    cases settled with
    | recorded r stores rec => exact .setContext known rfl rfl rfl
    | unrecorded stores rec => exact .setContext known rfl rfl rfl

/-- No request but the tenant's evaluations touches its limiter. -/
lemma serve_limiter (hooks : CustodyHooks γ) (s : Service γ) (env : RequestEnv) (req : Request) (id : String)
    (other : ∀ r, req = .evaluate r → r.tenantId ≠ id) : SameLimiter id s (serve hooks s env req) := by
  cases req with
  | evaluate req =>
    have ne := other req rfl
    cases serve_served hooks s env (.evaluate req) with
    | unknown _ tenants _ => exact .of_eq (by rw [tenants])
    | known ctx rateLimiter auditChain a known tenants _ _ _ _ =>
      refine .of_eq ?_
      rw [tenants]
      exact Function.update_of_ne ne.symm ..
  | evaluateAction req =>
    show SameLimiter id s (Main.evaluateAction hooks s env req).2
    unfold Main.evaluateAction
    split
    · exact .of_eq rfl
    · exact evaluateAction_limiter hooks s _ _ _ _ _ id
  | mediate call => exact evaluateAction_limiter hooks s _ _ _ _ _ id
  | retentionPurge req =>
    show SameLimiter id s (Main.retentionPurge s env req).2
    unfold Main.retentionPurge
    cases Main.requireRetentionAdmin env with
    | error e => exact .of_eq rfl
    | ok =>
      cases known : s.tenants.getStrict req.tenantId with
      | none => exact .of_eq rfl
      | some ctx =>
        dsimp only
        cases contentStoreFor env.environ env.openFault req.tenantId with
        | error e => exact .of_eq rfl
        | ok path =>
          cases path with
          | none => exact .of_eq rfl
          | some path =>
            dsimp only
            cases env.statusFault with
            | some exc => exact .of_eq rfl
            | none =>
              cases (s.stores.contents path).status req.contentHash with
              | STATUS_UNKNOWN => exact .of_eq rfl
              | STATUS_PURGED => exact .of_eq rfl
              | STATUS_PRESENT => exact .setContext known rfl rfl rfl
  | replay req =>
    show SameLimiter id s (Main.replay s env req).2
    unfold Main.replay
    cases known : s.tenants.getStrict req.tenantId with
    | none => exact .of_eq rfl
    | some ctx =>
      dsimp only
      cases Main.replayByHash ctx.auditChain ctx.policyEngine env req.recordHash req.originalContent with
      | error e => cases e <;> exact .of_eq rfl
      | ok result => exact .setContext known rfl rfl rfl
  | recordDenial d =>
    show SameLimiter id s (CustosGateAdapter.recordDenial s env d).2
    unfold CustosGateAdapter.recordDenial Service.recordReconciliation
    cases known : s.tenants.getStrict d.tenantId with
    | none => exact .of_eq rfl
    | some ctx => exact .setContext known rfl rfl rfl
  | startupBinding payload =>
    show SameLimiter id s (establishStartupBinding s env payload).2
    unfold establishStartupBinding Service.citedPolicyDigest
    cases known : s.tenants.getStrict BINDING_TENANT with
    | none => exact .of_eq rfl
    | some ctx =>
      cases payload with
      | error msg => exact .of_eq rfl
      | ok asked =>
        cases asked with
        | none => exact .of_eq rfl
        | some payload => exact .setContext known rfl rfl rfl

/-- The call deletes the tenant. The default tenant's deletion is refused. -/
def ApiCall.Deletes (id : String) : ApiCall → Prop
  | .deleteTenant _ tenantId => tenantId = id ∧ id ≠ "default"
  | _ => False

/-- No other call touches the tenant's limiter. A tenant that is there is not registered again. -/
lemma apiStep_limiter (hooks : CustodyHooks γ) (s : Service γ) (call : ApiCall) {id : String}
    (stays : ¬ call.Deletes id) (other : ∀ env r, call = .request env (.evaluate r) → r.tenantId ≠ id) :
    SameLimiter id s (apiStep hooks s call) := by
  cases call with
  | request env req => exact serve_limiter hooks s env req id fun r eq => other env r (eq ▸ rfl)
  | registerTools tenantId tools => exact .of_eq rfl
  | addTenantPolicyRule fault tenantId req =>
    dsimp only [apiStep, Main.addTenantPolicyRule]
    cases Main.ACTION_MAP.lookup req.action with
    | none => exact .of_eq rfl
    | some action =>
      dsimp only
      cases found : s.tenants.getOrDefault tenantId with
      | error e =>
        unfold TenantManager.addPolicyRule
        rw [found]
        exact .of_eq rfl
      | ok found' =>
        obtain ⟨key, ctx⟩ := found'
        rw [TenantManager.addPolicyRule_of_found found]
        exact .setContext (TenantManager.getStrict_of_getOrDefault found) rfl rfl rfl
  | registerTenant fault environ now req =>
    dsimp only [apiStep, Main.registerTenant]
    split
    · exact .of_eq rfl
    · cases known : s.tenants.getStrict req.tenantId with
      | some ctx => exact .of_eq rfl
      | none =>
        dsimp only
        by_cases e : id = req.tenantId
        · intro ctx there
          rw [e, known] at there
          cases there
        · cases fault with
          | none =>
            obtain ⟨ctx, -, registered⟩ := s.tenants.register_eq environ now s.stores.audit req.tenantId
              { requestsPerMinute := req.requestsPerMinute, requestsPerHour := req.requestsPerHour
                tokensPerMinute := req.tokensPerMinute }
            refine .other (some ctx) e ?_
            unfold TenantManager.registerFaulty
            rw [registered]
          | some fault => cases fault <;> exact .of_eq rfl
  | deleteTenant fault tenantId =>
    dsimp only [apiStep, Main.deleteTenant]
    split
    · exact .of_eq rfl
    · rename_i ne
      rcases s.tenants.unregister_cases fault tenantId with eq | eq
      · rw [eq]
        exact .of_eq rfl
      · rw [eq]
        refine .other none (fun e => stays ⟨e.symm, fun default => ne ?_⟩) rfl
        rw [← e, default]

/-! ## What an evaluation does to the limiter -/

namespace Main

/-- The key a client's requests are counted under in the tenant's limiter. -/
def rateKey (id clientId : String) : String := if id ≠ "default" then id ++ ":" ++ clientId else clientId

omit [Platform] [Regex] in
/-- The key of a client's rate determines the client. -/
lemma rateKey_inj {id c c' : String} (same : rateKey id c = rateKey id c') : c = c' := by
  unfold rateKey at same
  split at same
  · exact String.append_right_inj (id ++ ":") |>.1 same
  · exact same

/-- The limiter once the key has a quota. -/
def keyed (l : RateLimiter) (key : String) (quota : QuotaConfig) (now : ℚ) : RateLimiter :=
  if (l.quotas key).isNone then l.register key quota now else l

omit [Platform] [Regex] in
/-- `/v1/evaluate` registers the client's key where it is new, and consumes under it. -/
lemma consume_eq (env : RequestEnv) {ctx : TenantContext} (req : EvaluateRequest) {quota : QuotaConfig}
    (id : ctx.tenantId = req.tenantId) (own : ctx.rateLimiter.getQuota req.tenantId = some quota) :
    consume env ctx req =
      (rateKey req.tenantId req.clientId,
        (keyed ctx.rateLimiter (rateKey req.tenantId req.clientId) quota (env.clock 0)).checkAndConsume (env.clock 1)
          (rateKey req.tenantId req.clientId) req.tokenCount) := by
  unfold consume keyed rateKey
  dsimp only
  rw [id, own]
  simp only [RateLimiter.getQuota, Option.isNone_map, Option.getD_some]

/-- The request comes to the limiter. -/
def Metered (env : RequestEnv) (req : EvaluateRequest) : Prop :=
  Identified env req.clientId ∧ InputValidator.validateRequest req.clientId req.content req.tokenCount = none

instance (env : RequestEnv) (req : EvaluateRequest) : Decidable (Metered env req) :=
  inferInstanceAs (Decidable (_ ∧ _))

end Main

/-- The request as a call of the limiter. -/
def EvaluateRequest.call (req : EvaluateRequest) (env : RequestEnv) : RateLimiter.Call where
  now := env.clock 1
  clientId := Main.rateKey req.tenantId req.clientId
  tokens := req.tokenCount

/-- The request's call, where it comes to the limiter and is admitted. -/
def Main.admission (s : Service γ) (env : RequestEnv) (req : EvaluateRequest) : Option RateLimiter.Call :=
  if Metered env req then
    match s.tenants.getStrict req.tenantId with
    | none => none
    | some ctx => if (consume env ctx req).2.1.1 then some (req.call env) else none
  else none

section

variable {s : Service γ} {env : RequestEnv} {req : EvaluateRequest}

variable (env) in
/-- What `/v1/evaluate` makes of the tenant's limiter. -/
lemma evaluate_limiter {ctx : TenantContext} (known : s.tenants.getStrict req.tenantId = some ctx) :
    ∃ ctx', (Main.evaluate s env req).2.tenants.getStrict req.tenantId = some ctx' ∧ ctx'.tenantId = ctx.tenantId ∧
      ctx'.rateLimiter = if Main.Metered env req then (Main.consume env ctx req).2.2 else ctx.rateLimiter := by
  by_cases metered : Main.Metered env req
  · obtain ⟨ident, valid⟩ := metered
    rw [if_pos ⟨ident, valid⟩]
    unfold Main.evaluate
    rw [if_neg (not_not.2 ident), valid, known]
    dsimp only
    have recorded (a : RecordArgs) (stores : Stores) : ∃ ctx',
        (s.tenants.setContext req.tenantId (recordDecision
          { ctx with rateLimiter := (Main.consume env ctx req).2.2 } stores env.toDecisionEnv a).2.1).getStrict
            req.tenantId = some ctx' ∧
          ctx'.tenantId = ctx.tenantId ∧ ctx'.rateLimiter = (Main.consume env ctx req).2.2 := by
      obtain ⟨out, -, eq⟩ := recordDecision_outcome
        { ctx with rateLimiter := (Main.consume env ctx req).2.2 } stores env.toDecisionEnv a
      rw [eq]
      exact ⟨_, Function.update_self .., rfl, rfl⟩
    cases allowed : (Main.consume env ctx req).2.1.1 with
    | false =>
      rw [if_pos (by simp)]
      exact recorded _ _
    | true =>
      rw [if_neg (by simp)]
      cases ans : ctx.policyEngine.evaluate env.remote req.content with
      | error e => exact ⟨_, Function.update_self .., rfl, rfl⟩
      | ok d => exact recorded _ _
  · rw [if_neg metered]
    unfold Main.evaluate
    by_cases ident : Main.Identified env req.clientId
    · rw [if_neg (not_not.2 ident)]
      cases valid : InputValidator.validateRequest req.clientId req.content req.tokenCount with
      | some error => exact ⟨ctx, known, rfl, rfl⟩
      | none => exact absurd ⟨ident, valid⟩ metered
    · rw [if_pos ident]
      exact ⟨ctx, known, rfl, rfl⟩

/-- Only the limiter answers 429, with the wait it gives. -/
lemma evaluate_refused {msg : String} {wait : Option Int}
    (refused : (Main.evaluate s env req).1 = .error (.http 429 msg wait)) :
    ∃ ctx, s.tenants.getStrict req.tenantId = some ctx ∧ Main.Metered env req ∧
      (Main.consume env ctx req).2.1.1 = false ∧
      wait = (Main.consume env ctx req).2.2.retryAfterSeconds (env.clock 2) (Main.consume env ctx req).1
        req.tokenCount := by
  unfold Main.evaluate at refused
  by_cases ident : Main.Identified env req.clientId
  · rw [if_neg (not_not.2 ident)] at refused
    cases valid : InputValidator.validateRequest req.clientId req.content req.tokenCount with
    | some error =>
      rw [valid] at refused
      cases refused
    | none =>
      cases known : s.tenants.getStrict req.tenantId with
      | none =>
        rw [valid, known] at refused
        cases refused
      | some ctx =>
        rw [valid, known] at refused
        dsimp only at refused
        cases allowed : (Main.consume env ctx req).2.1.1 with
        | false =>
          rw [allowed, if_pos (by simp)] at refused
          dsimp only at refused
          split at refused
          · cases refused
          · cases refused
            exact ⟨ctx, rfl, ⟨ident, valid⟩, allowed, rfl⟩
        | true =>
          rw [allowed, if_neg (by simp)] at refused
          cases ans : ctx.policyEngine.evaluate env.remote req.content with
          | error e =>
            rw [ans] at refused
            cases refused
          | ok d =>
            rw [ans] at refused
            dsimp only at refused
            split at refused <;> cases refused
  · rw [if_pos ident] at refused
    cases refused

/-- What is answered was admitted. -/
lemma admission_of_answered {resp : EvaluateResponse} (answered : (Main.evaluate s env req).1 = .ok resp) :
    Main.admission s env req = some (req.call env) := by
  unfold Main.evaluate at answered
  by_cases ident : Main.Identified env req.clientId
  · rw [if_neg (not_not.2 ident)] at answered
    cases valid : InputValidator.validateRequest req.clientId req.content req.tokenCount with
    | some error =>
      rw [valid] at answered
      cases answered
    | none =>
      cases known : s.tenants.getStrict req.tenantId with
      | none =>
        rw [valid, known] at answered
        cases answered
      | some ctx =>
        rw [valid, known] at answered
        dsimp only at answered
        cases allowed : (Main.consume env ctx req).2.1.1 with
        | false =>
          rw [allowed, if_pos (by simp)] at answered
          dsimp only at answered
          split at answered <;> cases answered
        | true =>
          unfold Main.admission
          rw [if_pos ⟨ident, valid⟩, known]
          dsimp only
          rw [allowed, if_pos rfl]
  · rw [if_pos ident] at answered
    cases answered

end

/-! ## A client's account -/

/-- The tenant is there with this limiter, whose keys all have the tenant's quota. -/
structure LimitedBy (id : String) (quota : QuotaConfig) (s : Service γ) (l : RateLimiter) : Prop where
  there : ∃ ctx, s.tenants.getStrict id = some ctx ∧ ctx.tenantId = id ∧ ctx.rateLimiter = l
  own : l.getQuota id = some quota
  uniform : ∀ key q, l.getQuota key = some q → q = quota

/-- What the limiter holds under the key accounts for the calls it admitted there. -/
def RateLimiter.Counts (l : RateLimiter) (key : String) (quota : QuotaConfig) (now : ℚ) (taken : List Call) : Prop :=
  (l.quotas key = none ∧ taken = []) ∨ ∃ s, l.quotas key = some ⟨quota, s⟩ ∧ s.Accounts quota now taken

omit [Platform] [Regex] in
/-- A call changes no quota. -/
lemma RateLimiter.checkAndConsume_getQuota (l : RateLimiter) (now : ℚ) (key : String) (tokens : Int) (k : String) :
    (l.checkAndConsume now key tokens).2.getQuota k = l.getQuota k := by
  unfold getQuota
  by_cases e : k = key
  · subst e
    cases reg : l.quotas k with
    | none =>
      unfold checkAndConsume
      rw [reg]
      dsimp only
      rw [reg]
    | some q =>
      rcases after_eq (c := ⟨now, k, tokens⟩) reg with ⟨-, -, eq⟩ | ⟨-, -, eq⟩
      · exact congrArg (Option.map (·.config)) eq
      · exact congrArg (Option.map (·.config)) eq
  · rw [checkAndConsume_other e]

omit [Platform] [Regex] in
/-- A key that is registered leaves the others as they are. -/
lemma Main.keyed_other (l : RateLimiter) {key k : String} (quota : QuotaConfig) (now : ℚ) (ne : k ≠ key) :
    (keyed l key quota now).quotas k = l.quotas k := by
  unfold keyed
  split
  · exact Function.update_of_ne ne _ _
  · rfl

omit [Platform] [Regex] in
lemma Main.keyed_own {l : RateLimiter} {id : String} {quota : QuotaConfig} (own : l.getQuota id = some quota)
    (key : String) (now : ℚ) : (keyed l key quota now).getQuota id = some quota := by
  by_cases e : id = key
  · subst e
    have some : (l.quotas id).isNone = false := by
      cases reg : l.quotas id with
      | none => simp [RateLimiter.getQuota, reg] at own
      | some q => rfl
    unfold keyed
    rw [some]
    exact own
  · unfold RateLimiter.getQuota at own ⊢
    rw [keyed_other l quota now e, own]

omit [Platform] [Regex] in
/-- Every key has the tenant's quota. -/
lemma Main.keyed_uniform {l : RateLimiter} {quota : QuotaConfig}
    (uniform : ∀ key q, l.getQuota key = some q → q = quota) (key : String) (now : ℚ) :
    ∀ k q, (keyed l key quota now).getQuota k = some q → q = quota := by
  intro k q held
  by_cases e : k = key
  · subst e
    unfold keyed at held
    split at held
    · simpa [RateLimiter.getQuota, RateLimiter.register, eq_comm] using held
    · exact uniform k q held
  · unfold RateLimiter.getQuota at uniform held
    rw [keyed_other l quota now e] at held
    exact uniform k q held

omit [Platform] [Regex] in
/-- A key's first request opens its account. -/
lemma RateLimiter.Counts.keyed {l : RateLimiter} {key : String} {quota : QuotaConfig} {now t : ℚ} {taken : List Call}
    (counts : l.Counts key quota now taken) (le : now ≤ t) :
    ∃ s, (Main.keyed l key quota t).quotas key = some ⟨quota, s⟩ ∧ s.Accounts quota t taken := by
  unfold Main.keyed
  rcases counts with ⟨fresh, rfl⟩ | ⟨s, reg, accounts⟩
  · rw [fresh]
    exact ⟨_, Function.update_self .., .register quota t⟩
  · rw [reg]
    exact ⟨s, reg, accounts.minute, accounts.tokens, accounts.hour, accounts.minuteSince.trans le,
      accounts.hourSince.trans le⟩

namespace ApiCall

/-- The clock readings of the client's own requests. -/
def readings (id clientId : String) : ApiCall → List ℚ
  | .request env (.evaluate req) =>
    if req.tenantId = id ∧ req.clientId = clientId then [ env.clock 0, env.clock 1 ] else []
  | _ => []

/-- The client's request, where the call is one and the limiter admits it. -/
def admission (id clientId : String) (s : Service γ) : ApiCall → Option RateLimiter.Call
  | .request env (.evaluate req) =>
    if req.tenantId = id ∧ req.clientId = clientId then Main.admission s env req else none
  | _ => none

/-- The client's request, where the call is one and it is answered with a decision. -/
def answered (id clientId : String) (s : Service γ) : ApiCall → Option RateLimiter.Call
  | .request env (.evaluate req) =>
    if req.tenantId = id ∧ req.clientId = clientId then
      match (Main.evaluate s env req).1 with
      | .ok _ => some (req.call env)
      | .error _ => none
    else none
  | _ => none

/-- What is answered was admitted. -/
lemma answered_sublist (id clientId : String) (s : Service γ) (call : ApiCall) :
    (call.answered id clientId s).toList.Sublist (call.admission id clientId s).toList := by
  unfold answered admission
  split
  · rename_i env req
    split
    · split
      · rename_i resp answered
        rw [admission_of_answered answered]
      · exact List.nil_sublist _
    · exact List.Sublist.refl _
  · exact List.Sublist.refl _

end ApiCall

/-- The tenant's limiter after an evaluation. -/
def Main.metered (l : RateLimiter) (quota : QuotaConfig) (env : RequestEnv) (req : EvaluateRequest) : RateLimiter :=
  if Metered env req then (keyed l (rateKey req.tenantId req.clientId) quota (env.clock 0)).after (req.call env) else l

section

variable {s : Service γ} {l : RateLimiter} {id : String} {quota : QuotaConfig}

omit [Platform] [Regex] in
/-- A step that leaves the limiter keeps what it limits by. -/
lemma LimitedBy.keep {s' : Service γ} (limited : LimitedBy id quota s l) (same : SameLimiter id s s') :
    LimitedBy id quota s' l := by
  obtain ⟨ctx, known, tenant, eq⟩ := limited.there
  obtain ⟨ctx', known', tenant', eq'⟩ := same ctx known
  exact ⟨⟨ctx', known', tenant'.trans tenant, eq'.trans eq⟩, limited.own, limited.uniform⟩

omit [Platform] [Regex] in
/-- A tenant that was registered is limited by its quota. -/
lemma LimitedBy.of_registered {ctx : TenantContext} (known : s.tenants.getStrict id = some ctx)
    (tenant : ctx.tenantId = id) {t : ℚ} (registered : ctx.rateLimiter = ({} : RateLimiter).register id quota t) :
    LimitedBy id quota s (({} : RateLimiter).register id quota t) := by
  refine ⟨⟨ctx, known, tenant, registered⟩, by simp [RateLimiter.getQuota, RateLimiter.register], fun key q held => ?_⟩
  unfold RateLimiter.getQuota RateLimiter.register at held
  dsimp only at held
  by_cases e : key = id
  · rw [e, Function.update_self] at held
    exact (Option.some.inj held).symm
  · rw [Function.update_of_ne e] at held
    cases held

/-- A request to `/v1/evaluate` is metered by the limiter. -/
lemma LimitedBy.evaluate (limited : LimitedBy id quota s l) (env : RequestEnv) {req : EvaluateRequest}
    (own : req.tenantId = id) : LimitedBy id quota (Main.evaluate s env req).2 (Main.metered l quota env req) := by
  subst own
  obtain ⟨ctx, known, tenant, rfl⟩ := limited.there
  obtain ⟨ctx', known', tenant', eq⟩ := evaluate_limiter env known
  rw [Main.consume_eq env req tenant limited.own] at eq
  refine ⟨⟨ctx', known', tenant'.trans tenant, eq⟩, ?_, fun key q held => ?_⟩
  · unfold Main.metered
    split
    · exact (RateLimiter.checkAndConsume_getQuota ..).trans (Main.keyed_own limited.own _ _)
    · exact limited.own
  · unfold Main.metered at held
    split at held
    · exact Main.keyed_uniform limited.uniform _ _ key q
        ((RateLimiter.checkAndConsume_getQuota ..).symm.trans held)
    · exact limited.uniform key q held

omit [Platform] [Regex] in
lemma LimitedBy.admission (limited : LimitedBy id quota s l) (env : RequestEnv) {req : EvaluateRequest}
    (own : req.tenantId = id) : Main.admission s env req =
      if Main.Metered env req ∧
        (Main.keyed l (Main.rateKey req.tenantId req.clientId) quota (env.clock 0)).accepts (req.call env) then
        some (req.call env) else none := by
  subst own
  obtain ⟨ctx, known, tenant, rfl⟩ := limited.there
  unfold Main.admission
  by_cases metered : Main.Metered env req
  · rw [if_pos metered, known]
    dsimp only
    rw [Main.consume_eq env req tenant limited.own]
    simp only [metered, true_and]
    rfl
  · rw [if_neg metered, if_neg fun h => metered h.1]

/-- A call of the API that does not delete the tenant moves its limiter by a request of its own at most. -/
lemma LimitedBy.step (hooks : CustodyHooks γ) (limited : LimitedBy id quota s l) {call : ApiCall}
    (stays : ¬ call.Deletes id) : ∃ l', LimitedBy id quota (apiStep hooks s call) l' ∧
      ((∃ env req, call = .request env (.evaluate req) ∧ req.tenantId = id ∧ l' = Main.metered l quota env req) ∨
        (∀ env req, call = .request env (.evaluate req) → req.tenantId ≠ id) ∧ l' = l) := by
  by_cases evaluates : ∃ env req, call = .request env (.evaluate req) ∧ req.tenantId = id
  · obtain ⟨env, req, rfl, own⟩ := evaluates
    exact ⟨_, limited.evaluate env own, .inl ⟨env, req, rfl, own, rfl⟩⟩
  · have other : ∀ env req, call = .request env (.evaluate req) → req.tenantId ≠ id :=
      fun env req eq own => evaluates ⟨env, req, eq, own⟩
    exact ⟨l, limited.keep (apiStep_limiter hooks s call stays other), .inr ⟨other, rfl⟩⟩

omit [Platform] [Regex] in
/-- Another client's request leaves the key. -/
lemma Main.metered_other (l : RateLimiter) (quota : QuotaConfig) (env : RequestEnv) {req : EvaluateRequest}
    {clientId : String} (other : req.clientId ≠ clientId) :
    (metered l quota env req).quotas (rateKey req.tenantId clientId) =
      l.quotas (rateKey req.tenantId clientId) := by
  have ne : rateKey req.tenantId clientId ≠ rateKey req.tenantId req.clientId := fun same =>
    other (rateKey_inj same).symm
  unfold metered
  split
  · exact (RateLimiter.after_other (c := req.call env) ne.symm).trans (keyed_other l quota _ ne)
  · rfl

/-- What a call adds to the client's account is what the limiter admits. -/
lemma LimitedBy.counts (hooks : CustodyHooks γ) (limited : LimitedBy id quota s l) {clientId : String} {now : ℚ}
    {taken : List RateLimiter.Call} (counts : l.Counts (Main.rateKey id clientId) quota now taken) {call : ApiCall}
    (stays : ¬ call.Deletes id) (clock : (now :: call.readings id clientId).Pairwise (· ≤ ·)) :
    ∃ l' now', LimitedBy id quota (apiStep hooks s call) l' ∧ now' ∈ now :: call.readings id clientId ∧
      l'.Counts (Main.rateKey id clientId) quota now' (taken ++ (call.admission id clientId s).toList) := by
  obtain ⟨l', limited', ⟨env, req, rfl, own, rfl⟩ | ⟨other, rfl⟩⟩ := limited.step hooks stays
  · dsimp only [ApiCall.readings, ApiCall.admission] at clock ⊢
    by_cases client : req.clientId = clientId
    · rw [if_pos ⟨own, client⟩] at clock ⊢
      rw [if_pos ⟨own, client⟩, limited.admission env own]
      subst own
      subst client
      by_cases metered : Main.Metered env req
      · refine ⟨_, env.clock 1, limited', by simp, .inr ?_⟩
        have le : now ≤ env.clock 0 := List.rel_of_pairwise_cons clock (.head _)
        have later : env.clock 0 ≤ env.clock 1 := List.rel_of_pairwise_cons clock.of_cons (.head _)
        obtain ⟨st, reg, accounts⟩ := counts.keyed le
        have cost : 0 ≤ req.tokenCount :=
          zero_le_one.trans (InputValidator.tokens_of_valid metered.2)
        obtain ⟨st', reg', accounts'⟩ := RateLimiter.accounts_after reg accounts (c := req.call env) later cost
        refine ⟨st', ?_, ?_⟩
        · unfold Main.metered
          rw [if_pos metered]
          exact reg'
        · by_cases yes : (Main.keyed l (Main.rateKey req.tenantId req.clientId) quota (env.clock 0)).accepts
              (req.call env) = true
          · rw [if_pos ⟨rfl, yes⟩] at accounts'
            rw [if_pos ⟨metered, yes⟩]
            exact accounts'
          · rw [if_neg fun h => yes h.2] at accounts'
            rw [if_neg fun h => yes h.2]
            exact accounts'
      · refine ⟨_, now, limited', .head _, ?_⟩
        unfold Main.metered
        rw [if_neg metered, if_neg fun h => metered h.1]
        simpa using counts
    · rw [if_neg fun h => client h.2, if_neg fun h => client h.2]
      refine ⟨_, now, limited', .head _, ?_⟩
      unfold RateLimiter.Counts at counts ⊢
      rw [← own] at counts ⊢
      rw [Main.metered_other l quota env client]
      simpa using counts
  · have idle : call.admission id clientId s = none := by
      unfold ApiCall.admission
      split
      · rename_i env req
        exact if_neg fun h => other env req rfl h.1
      · rfl
    refine ⟨l', now, limited', .head _, ?_⟩
    rw [idle]
    simpa using counts

end

/-! ## The bounds -/

/-- Over a run in which the tenant stays and the client's own readings of the clock do not go back, the limiter
accounts for what it admits of the client. -/
lemma LimitedBy.counts_run (hooks : CustodyHooks γ) {s : Service γ} {l : RateLimiter} {id : String} {quota : QuotaConfig}
    (limited : LimitedBy id quota s l) {clientId : String} {now : ℚ} {taken : List RateLimiter.Call}
    (counts : l.Counts (Main.rateKey id clientId) quota now taken) {calls : List ApiCall}
    (stays : ∀ call ∈ calls, ¬ call.Deletes id)
    (clock : (now :: calls.flatMap (ApiCall.readings id clientId)).Pairwise (· ≤ ·)) :
    ∃ l' now', LimitedBy id quota (run (apiStep hooks) s calls) l' ∧
      l'.Counts (Main.rateKey id clientId) quota now'
        (taken ++ outputs (apiStep hooks) (ApiCall.admission id clientId) s calls) := by
  induction calls generalizing s l now taken with
  | nil => exact ⟨l, now, limited, by simpa [outputs] using counts⟩
  | cons call calls ih =>
    rw [List.flatMap_cons, ← List.cons_append, List.pairwise_append] at clock
    obtain ⟨here, rest, between⟩ := clock
    obtain ⟨l', now', limited', last, counts'⟩ := limited.counts hooks counts (stays call (.head _)) here
    obtain ⟨l'', now'', limited'', counts''⟩ := ih limited' counts' (fun c hc => stays c (.tail _ hc))
      (List.pairwise_cons.2 ⟨between now' last, rest⟩)
    rw [List.append_assoc] at counts''
    exact ⟨l'', now'', limited'', counts''⟩

/-- Under the quota a tenant was registered with, over whatever is served, registered, added and deleted while the
tenant stays: what each client of it is admitted in a stretch of time shorter than a window is within twice the
quota, and what is answered was admitted. -/
theorem served_within_quota (hooks : CustodyHooks γ) {s : Service γ} {id : String} (ctx : TenantContext)
    (known : s.tenants.getStrict id = some ctx) {quota : QuotaConfig} {t : ℚ} (tenant : ctx.tenantId = id)
    (registered : ctx.rateLimiter = ({} : RateLimiter).register id quota t) (clientId : String) {calls : List ApiCall}
    (stays : ∀ call ∈ calls, ¬ call.Deletes id)
    (clock : (t :: calls.flatMap (ApiCall.readings id clientId)).Pairwise (· ≤ ·)) :
    WithinQuota quota (outputs (apiStep hooks) (ApiCall.admission id clientId) s calls) ∧
      (outputs (apiStep hooks) (ApiCall.answered id clientId) s calls).Sublist
        (outputs (apiStep hooks) (ApiCall.admission id clientId) s calls) := by
  have limited : LimitedBy id quota s (({} : RateLimiter).register id quota t) :=
    .of_registered known tenant registered
  have counts : (({} : RateLimiter).register id quota t).Counts (Main.rateKey id clientId) quota t [] := by
    by_cases own : Main.rateKey id clientId = id
    · rw [own]
      exact .inr ⟨_, Function.update_self .., .register quota t⟩
    · exact .inl ⟨Function.update_of_ne own _ _, rfl⟩
  obtain ⟨l', now', -, counts'⟩ := limited.counts_run hooks counts stays clock
  rw [List.nil_append] at counts'
  refine ⟨?_, outputs_mono (ApiCall.answered_sublist id clientId) s calls⟩
  rcases counts' with ⟨-, none⟩ | ⟨st, -, accounts⟩
  · rw [none]
    exact (QuotaState.Accounts.register quota t).within
  · exact accounts.within

/-! ## Waiting -/

end

/-- The quota admits a request of these tokens when nothing is spent. -/
structure QuotaConfig.Admits (config : QuotaConfig) (tokens : Int) : Prop where
  perMinute : 1 ≤ config.requestsPerMinute
  perHour : 1 ≤ config.requestsPerHour
  cost : tokens ≤ config.tokensPerMinute

namespace QuotaState

variable {config : QuotaConfig} {tokens : Int} {s : QuotaState} {now later : ℚ}

/-- A look finds room in the hour. -/
def HourRoom (config : QuotaConfig) (s : QuotaState) (now : ℚ) : Prop :=
  (s.reset now).hourCount < config.requestsPerHour

/-- A look finds room in the minute, for the request and for its tokens. -/
def MinuteRoom (config : QuotaConfig) (tokens : Int) (s : QuotaState) (now : ℚ) : Prop :=
  (s.reset now).minuteCount < config.requestsPerMinute ∧ (s.reset now).tokenCount + tokens ≤ config.tokensPerMinute

/-- A request is let through where the minute and the hour have room. -/
lemma exceeded_reset_eq_none : Quota.exceeded ⟨config, s.reset now⟩ tokens = none ↔
    MinuteRoom config tokens s now ∧ HourRoom config s now := by
  rw [Quota.exceeded_eq_none]
  unfold MinuteRoom HourRoom
  tauto

/-- Room stays where nothing is spent. -/
lemma HourRoom.stays (room : HourRoom config s now) (admits : config.Admits tokens) (le : now ≤ later) :
    HourRoom config s later := by
  unfold HourRoom at room ⊢
  rcases hourCount_later (s := s) le with eq | eq
  · rwa [eq]
  · rw [eq]
    exact admits.perHour

/-- Room in the minute stays, for a request the quota admits at all. -/
lemma MinuteRoom.stays (room : MinuteRoom config tokens s now) (admits : config.Admits tokens) (le : now ≤ later) :
    MinuteRoom config tokens s later := by
  unfold MinuteRoom at room ⊢
  refine ⟨?_, ?_⟩
  · rcases minuteCount_later (s := s) le with eq | eq
    · rw [eq]
      exact room.1
    · rw [eq]
      exact admits.perMinute
  · have look := Window.reset_later 60 s.minuteTokens le
    rw [← minuteTokens_reset, ← minuteTokens_reset] at look
    rcases look with eq | eq
    · exact (congrArg (· + tokens) eq).trans_le room.2
    · exact (congrArg (· + tokens) eq).trans_le (by simpa using admits.cost)

/-- An hour that has lapsed has room. -/
lemma HourRoom.of_lapsed (admits : config.Admits tokens) (lapsed : 3600 ≤ now - s.hourWindowStart) :
    HourRoom config s now := by
  unfold HourRoom
  rw [hourCount_of_lapsed lapsed]
  exact admits.perHour

lemma MinuteRoom.of_lapsed (admits : config.Admits tokens) (lapsed : 60 ≤ now - s.minuteWindowStart) :
    MinuteRoom config tokens s now := by
  unfold MinuteRoom
  rw [minuteCount_of_lapsed lapsed, tokenCount_of_lapsed lapsed, zero_add]
  exact ⟨admits.perMinute, admits.cost⟩

/-- A look leaves the room there is. -/
lemma HourRoom.looked (le : now ≤ later) : HourRoom config (s.reset now) later ↔ HourRoom config s later := by
  unfold HourRoom
  rw [((Idle.refl s now).reset (le_refl now)).hourCount le]

/-- Looking at the windows in between takes no room. -/
lemma MinuteRoom.looked (le : now ≤ later) :
    MinuteRoom config tokens (s.reset now) later ↔ MinuteRoom config tokens s later := by
  have idle := (Idle.refl s now).reset (le_refl now)
  unfold MinuteRoom
  rw [idle.minuteCount le, idle.tokenCount le]

end QuotaState

/-- The hour is blamed where it is exhausted. -/
lemma Quota.hour_of_blamed {q : Quota} {tokens : Int} (hour : q.exceeded tokens = some "Hour request quota exceeded") :
    ¬ q.state.hourCount < q.config.requestsPerHour := by
  intro room
  unfold Quota.exceeded at hour
  rw [if_neg (not_le.2 room)] at hour
  split at hour
  · simp at hour
  · split at hour <;> simp at hour

/-- Where the minute has room it is the hour that is blamed. -/
lemma Quota.blamed_of_room {q : Quota} {tokens : Int} {msg : String}
    (minute : q.state.minuteCount < q.config.requestsPerMinute)
    (cost : q.state.tokenCount + tokens ≤ q.config.tokensPerMinute) (blamed : q.exceeded tokens = some msg) :
    msg = "Hour request quota exceeded" := by
  unfold Quota.exceeded at blamed
  rw [if_neg (not_le.2 minute), if_neg (not_lt.2 cost)] at blamed
  split at blamed
  · exact (Option.some.inj blamed).symm
  · cases blamed

namespace RateLimiter

/-- What a wait is good for: at its end there is room in one of the two windows, and where there was room in one at its
start there is room in the other. -/
structure WaitedOut (config : QuotaConfig) (tokens : Int) (s : QuotaState) (now later : ℚ) : Prop where
  le : now ≤ later
  some : s.HourRoom config later ∨ s.MinuteRoom config tokens later
  minute : s.HourRoom config now → s.MinuteRoom config tokens later
  hour : s.MinuteRoom config tokens now → s.HourRoom config later

/-- A client that has waited as it was told finds room where it was refused. -/
lemma waitedOut {l : RateLimiter} {key : String} {config : QuotaConfig} {s : QuotaState} {tokens : Int}
    (admits : config.Admits tokens) (reg : l.quotas key = some ⟨config, s⟩) {now later : ℚ}
    (waited : now + ((l.retryAfterSeconds now key tokens).getD 0 : Int) ≤ later) :
    WaitedOut config tokens s now later := by
  rw [retryAfterSeconds_eq reg] at waited
  dsimp only at waited
  cases hx : Quota.exceeded ⟨config, s.reset now⟩ tokens with
  | none =>
    rw [hx] at waited
    have le : now ≤ later := by simpa using waited
    obtain ⟨minute, hour⟩ := QuotaState.exceeded_reset_eq_none.1 hx
    exact ⟨le, .inl (hour.stays admits le), fun _ => minute.stays admits le, fun _ => hour.stays admits le⟩
  | some msg =>
    rw [hx, Option.map_some, Option.getD_some] at waited
    have le : now ≤ later := by
      refine le_trans ?_ waited
      have one : (0 : ℚ) ≤ ((if msg = "Hour request quota exceeded" then max 1 ⌈3600 - (now - s.hourWindowStart)⌉
          else max 1 ⌈60 - (now - s.minuteWindowStart)⌉ : Int) : ℚ) := by
        split <;> exact Int.cast_nonneg (le_max_of_le_left zero_le_one)
      linarith
    by_cases blamed : msg = "Hour request quota exceeded"
    · rw [if_pos blamed] at waited
      have room : s.HourRoom config later := .of_lapsed admits (lapsed_of_waited waited)
      refine ⟨le, .inl room, fun had => ?_, fun _ => room⟩
      subst blamed
      exact absurd had (Quota.hour_of_blamed hx)
    · rw [if_neg blamed] at waited
      have room : s.MinuteRoom config tokens later := .of_lapsed admits (lapsed_of_waited waited)
      exact ⟨le, .inr room, fun _ => room, fun had => absurd (Quota.blamed_of_room had.1 had.2 hx) blamed⟩

end RateLimiter

section

variable {γ : Type} [Platform] [Regex] {s : Service γ} {l : RateLimiter} {id : String} {quota : QuotaConfig}

omit [Platform] [Regex] in
/-- The call is one of the client's requests for an evaluation. -/
def ApiCall.By (id clientId : String) : ApiCall → Prop
  | .request _ (.evaluate req) => req.tenantId = id ∧ req.clientId = clientId
  | _ => False

/-- What a client that is refused for its quota is told to wait, which may be not at all. -/
def Main.toldToWait (s : Service γ) (env : RequestEnv) (req : EvaluateRequest) : Option Int :=
  match (evaluate s env req).1 with
  | .error (.http 429 _ wait) => some (wait.getD 0)
  | _ => none

/-- In every run in which it is not deleted a tenant is limited by its quota. -/
lemma LimitedBy.kept (hooks : CustodyHooks γ) (limited : LimitedBy id quota s l) {calls : List ApiCall}
    (stays : ∀ call ∈ calls, ¬ call.Deletes id) : ∃ l', LimitedBy id quota (run (apiStep hooks) s calls) l' := by
  induction calls generalizing s l with
  | nil => exact ⟨l, limited⟩
  | cons call calls ih =>
    obtain ⟨l', limited', -⟩ := limited.step hooks (stays call (.head _))
    exact ih limited' fun c hc => stays c (.tail _ hc)

/-- Over calls of others the client's key is what it was. -/
lemma LimitedBy.others (hooks : CustodyHooks γ) (limited : LimitedBy id quota s l) {clientId : String}
    {calls : List ApiCall} (stays : ∀ call ∈ calls, ¬ call.Deletes id) (others : ∀ call ∈ calls, ¬ call.By id clientId) :
    ∃ l', LimitedBy id quota (run (apiStep hooks) s calls) l' ∧
      l'.quotas (Main.rateKey id clientId) = l.quotas (Main.rateKey id clientId) := by
  induction calls generalizing s l with
  | nil => exact ⟨l, limited, rfl⟩
  | cons call calls ih =>
    obtain ⟨l', limited', moved⟩ := limited.step hooks (stays call (.head _))
    obtain ⟨l'', limited'', same⟩ := ih limited' (fun c hc => stays c (.tail _ hc)) fun c hc => others c (.tail _ hc)
    refine ⟨l'', limited'', same.trans ?_⟩
    rcases moved with ⟨env, req, rfl, own, rfl⟩ | ⟨-, rfl⟩
    · have other : req.clientId ≠ clientId := fun e => others _ (.head _) ⟨own, e⟩
      rw [← own]
      exact Main.metered_other l quota env other
    · rfl

/-- A refusal leaves a look at the key, and the wait is the limiter's. -/
lemma LimitedBy.refused (limited : LimitedBy id quota s l) {env : RequestEnv} {req : EvaluateRequest} {wait : Int}
    (refused : Main.toldToWait s env req = some wait) (own : req.tenantId = id) :
    ∃ st, (Main.metered l quota env req).quotas (Main.rateKey id req.clientId) = some ⟨quota, st.reset (env.clock 1)⟩ ∧
      (∀ st', l.quotas (Main.rateKey id req.clientId) = some ⟨quota, st'⟩ → st = st') ∧
      Quota.exceeded ⟨quota, st.reset (env.clock 1)⟩ req.tokenCount ≠ none ∧
      wait = ((Main.metered l quota env req).retryAfterSeconds (env.clock 2) (Main.rateKey id req.clientId)
        req.tokenCount).getD 0 := by
  subst own
  obtain ⟨ctx, known, tenant, rfl⟩ := limited.there
  obtain ⟨msg, w, answer, rfl⟩ : ∃ msg w, (Main.evaluate s env req).1 = .error (.http 429 msg w) ∧
      w.getD 0 = wait := by
    unfold Main.toldToWait at refused
    split at refused
    · rename_i msg w eq
      exact ⟨msg, w, eq, Option.some.inj refused⟩
    · cases refused
  obtain ⟨ctx', known', metered, no, waits⟩ := evaluate_refused answer
  cases known.symm.trans known'
  rw [Main.consume_eq env req tenant limited.own] at no waits
  have key : ∃ st, (Main.keyed ctx.rateLimiter (Main.rateKey req.tenantId req.clientId) quota (env.clock 0)).quotas
      (Main.rateKey req.tenantId req.clientId) = some ⟨quota, st⟩ ∧
      ∀ st', ctx.rateLimiter.quotas (Main.rateKey req.tenantId req.clientId) = some ⟨quota, st'⟩ → st = st' := by
    unfold Main.keyed
    cases reg : ctx.rateLimiter.quotas (Main.rateKey req.tenantId req.clientId) with
    | none => exact ⟨_, Function.update_self .., nofun⟩
    | some q =>
      obtain ⟨config, st⟩ := q
      have same : config = quota :=
        limited.uniform (Main.rateKey req.tenantId req.clientId) config (by simp [RateLimiter.getQuota, reg])
      subst same
      exact ⟨st, reg, fun st' eq => (Quota.mk.inj (Option.some.inj eq)).2⟩
  obtain ⟨st, reg, held⟩ := key
  rcases RateLimiter.after_eq (c := req.call env) reg with ⟨yes, -, -⟩ | ⟨-, past, eq⟩
  · exact absurd (yes.symm.trans no) (by simp)
  · refine ⟨st, ?_, held, past, ?_⟩
    · unfold Main.metered
      rw [if_pos metered]
      exact eq
    · unfold Main.metered
      rw [if_pos metered, waits]
      rfl

/-- However many requests of a tenant's clients are served: a client that is refused, waits as it is told, asks again,
is refused again and waits again, is not refused a third time, if its request is one the quota admits at all and it
asks for nothing else in between. -/
theorem admitted_after_waits (hooks : CustodyHooks γ) (ctx : TenantContext)
    (known : s.tenants.getStrict id = some ctx) {t : ℚ} (tenant : ctx.tenantId = id)
    (registered : ctx.rateLimiter = ({} : RateLimiter).register id quota t) (req : EvaluateRequest)
    (own : req.tenantId = id) (admits : quota.Admits req.tokenCount) (calls₀ calls₁ calls₂ : List ApiCall)
    (stays : ∀ call ∈ calls₀ ++ calls₁ ++ calls₂, ¬ call.Deletes id)
    (others : ∀ call ∈ calls₁ ++ calls₂, ¬ call.By id req.clientId) (env₀ env₁ env₂ : RequestEnv) (wait₀ wait₁ : Int) :
    let s₀ := run (apiStep hooks) s calls₀
    let s₁ := run (apiStep hooks) s₀ (.request env₀ (.evaluate req) :: calls₁)
    let s₂ := run (apiStep hooks) s₁ (.request env₁ (.evaluate req) :: calls₂)
    Main.toldToWait s₀ env₀ req = some wait₀ → env₀.clock 2 + wait₀ ≤ env₁.clock 1 →
      Main.toldToWait s₁ env₁ req = some wait₁ → env₁.clock 1 ≤ env₁.clock 2 →
        env₁.clock 2 + wait₁ ≤ env₂.clock 1 → Main.toldToWait s₂ env₂ req = none := by
  intro s₀ s₁ s₂ refused₀ waited₀ refused₁ clock₁ waited₁
  by_contra again
  obtain ⟨wait, refused₂⟩ := Option.ne_none_iff_exists'.1 again
  have stay (calls : List ApiCall) (sub : calls ⊆ calls₀ ++ calls₁ ++ calls₂) : ∀ call ∈ calls, ¬ call.Deletes id :=
    fun call mem => stays call (sub mem)
  obtain ⟨l₀, limited₀⟩ := (LimitedBy.of_registered known tenant registered).kept hooks (stay calls₀ (by simp))
  -- the first refusal
  obtain ⟨st, reg₀, -, -, eq₀⟩ := limited₀.refused refused₀ own
  have out₀ := RateLimiter.waitedOut admits reg₀ (eq₀ ▸ waited₀)
  obtain ⟨l₁, limited₁, same₁⟩ := (limited₀.evaluate env₀ own).others hooks (stay calls₁ (by simp))
    fun call mem => others call (List.mem_append_left _ mem)
  rw [reg₀] at same₁
  -- the second, which finds the key as the first left it
  obtain ⟨st₁, reg₁, held₁, -, eq₁⟩ := limited₁.refused refused₁ own
  rw [held₁ _ same₁] at reg₁
  have out₁ := RateLimiter.waitedOut admits reg₁ (eq₁ ▸ waited₁)
  obtain ⟨l₂, limited₂, same₂⟩ := (limited₁.evaluate env₁ own).others hooks (stay calls₂ (by simp))
    fun call mem => others call (List.mem_append_right _ mem)
  rw [reg₁] at same₂
  obtain ⟨st₂, -, held₂, past, -⟩ := limited₂.refused refused₂ own
  rw [held₂ _ same₂] at past
  have room : (QuotaState.reset (st.reset (env₀.clock 1)) (env₁.clock 1)).MinuteRoom quota req.tokenCount
        (env₂.clock 1) ∧
      (QuotaState.reset (st.reset (env₀.clock 1)) (env₁.clock 1)).HourRoom quota (env₂.clock 1) := by
    rcases out₀.some with hour | minute
    · have still := (QuotaState.HourRoom.looked clock₁).2 (hour.stays admits clock₁)
      exact ⟨out₁.minute still, still.stays admits out₁.le⟩
    · have still := (QuotaState.MinuteRoom.looked clock₁).2 (minute.stays admits clock₁)
      exact ⟨still.stays admits out₁.le, out₁.hour still⟩
  exact past (QuotaState.exceeded_reset_eq_none.2 room)

end

section Sample

local instance servedPlatform : Platform := .reference .empty

/-- A text none of the patterns matches. -/
local instance servedRegex : Regex where
  invalid _ := none
  finditer _ _ := []

def quotaContext : TenantContext where
  tenantId := "acme"
  policyEngine := .regex { rules := [] }
  rateLimiter := ({} : RateLimiter).register "acme" ⟨1, 1, 100⟩ 0
  auditChain := ⟨[], some "acme", .InMemoryBackend⟩

/-- A tenant with one request a minute and one an hour. -/
def quotaService : Service Unit where
  tenants :=
    { backend := .InMemoryBackend, tenants := fun id => if id = "acme" then some quotaContext else none }
  gate := {}
  stores := { audit := .empty }

def quotaEnv (now : ℚ) : RequestEnv where
  now := now
  environ _ := none
  server := .ofResults fun _ => .error (.RuntimeError "no server")
  purgedAt := now
  traceId := sampleTraceId
  clock _ := now

def quotaRequest : EvaluateRequest := { clientId := "agent", tenantId := "acme", content := "hello" }

/-- The client's request is admitted once, and refused ten seconds later. -/
def quotaCalls : List ApiCall :=
  [ .request (quotaEnv 0) (.evaluate quotaRequest), .request (quotaEnv 10) (.evaluate quotaRequest)]

/-- A client asks again after the window of its minute. -/
theorem served_within_quota_sample :
    WithinQuota ⟨1, 1, 100⟩
      (outputs (apiStep raisingHooks) (ApiCall.admission "acme" "agent") quotaService quotaCalls) :=
  (served_within_quota raisingHooks (s := quotaService) quotaContext rfl rfl rfl "agent"
    (by simp [quotaCalls, ApiCall.Deletes]) (by decide +kernel)).1

/-- It waits for the minute's end, then for the hour's. -/
theorem admitted_after_waits_sample :
    let s₀ := run (apiStep raisingHooks) quotaService [ .request (quotaEnv 0) (.evaluate quotaRequest)]
    let s₁ := run (apiStep raisingHooks) s₀ [ .request (quotaEnv 10) (.evaluate quotaRequest)]
    let s₂ := run (apiStep raisingHooks) s₁ [ .request (quotaEnv 60) (.evaluate quotaRequest)]
    Main.toldToWait s₀ (quotaEnv 10) quotaRequest = some 50 ∧
      Main.toldToWait s₁ (quotaEnv 60) quotaRequest = some 3540 ∧
        Main.toldToWait s₂ (quotaEnv 3600) quotaRequest = none := by
  intro s₀ s₁ s₂
  have first : Main.toldToWait s₀ (quotaEnv 10) quotaRequest = some 50 := by decide +kernel
  have second : Main.toldToWait s₁ (quotaEnv 60) quotaRequest = some 3540 := by decide +kernel
  refine ⟨first, second, ?_⟩
  exact admitted_after_waits raisingHooks (s := quotaService) quotaContext rfl rfl rfl quotaRequest rfl
    ⟨by decide, by decide, by decide⟩ [ .request (quotaEnv 0) (.evaluate quotaRequest)] [] [] (by simp [ApiCall.Deletes]) (by simp) (quotaEnv 10) (quotaEnv 60) (quotaEnv 3600) 50 3540 first
    (by decide +kernel) second (le_refl _) (by decide +kernel)

end Sample

end Custos
