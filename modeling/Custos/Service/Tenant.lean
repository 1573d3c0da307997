import Custos.Audit.Chain
import Custos.Policy.Citation
import Custos.Service.Admission

/-!
# Tenants

`custos/tenant.py` over the policy store of `custos/policy_store.py`: a context per tenant, with an
engine, a limiter and an audit chain of its own. What the environment selects at startup, the audit
backend and the durability of the policy store, is fixed in the manager.
-/

namespace Custos

/-! ## The policy store -/

/-- `PolicyStore`: rows of tenant and rule in id order. The durable backends hold them under
`UNIQUE(tenant_id, name)`. -/
structure PolicyStore where
  durable : Bool := false
  rows : List (String × PolicyRule) := []

namespace PolicyStore

/-- The exception of a second rule of one name. -/
def uniqueViolation : StoreExc :=
  { typeName := "IntegrityError", text := "UNIQUE constraint failed: policy_rules.tenant_id, policy_rules.name" }

/-- `save`: the tenant's rules are replaced in one transaction, which `fault` makes fail. -/
def save (s : PolicyStore) (fault : Option StoreExc) (tenantId : String) (rules : List PolicyRule) :
    Except Exn Unit × PolicyStore :=
  match fault with
  | some exc => (.error (.Store exc), s)
  | none =>
    if s.durable ∧ ¬ (rules.map (·.name)).Nodup then (.error (.Store uniqueViolation), s)
    else (.ok (), { s with
      rows := s.rows.filter (·.1 ≠ tenantId) ++ rules.map fun rule => (tenantId, rule) })

/-- `load`. -/
def load (s : PolicyStore) (tenantId : String) : List PolicyRule :=
  (s.rows.filter (·.1 = tenantId)).map (·.2)

/-- `delete`. -/
def delete (s : PolicyStore) (fault : Option StoreExc) (tenantId : String) : Except Exn Unit × PolicyStore :=
  match fault with
  | some exc => (.error (.Store exc), s)
  | none => (.ok (), { s with rows := s.rows.filter (·.1 ≠ tenantId) })

end PolicyStore

/-! ## The tenant manager -/

def DEFAULT_QUOTA : QuotaConfig :=
  { requestsPerMinute := 60, requestsPerHour := 1000, tokensPerMinute := 100000 }

structure TenantContext where
  tenantId : String
  policyEngine : Engine
  rateLimiter : RateLimiter
  auditChain : AuditChain

/-- `TenantManager`. -/
structure TenantManager where
  backend : Backend
  tenants : String → Option TenantContext := fun _ => none
  customRules : String → Option (List PolicyRule) := fun _ => none
  policyStore : PolicyStore := {}

namespace TenantManager

/-- The manager with a context in its tenant's place. -/
def setContext (tm : TenantManager) (tenantId : String) (ctx : TenantContext) : TenantManager :=
  { tm with tenants := Function.update tm.tenants tenantId (some ctx) }

/-- `get_strict`, and `get`. -/
def getStrict (tm : TenantManager) (tenantId : String) : Option TenantContext := tm.tenants tenantId

/-- `register`: the persisted rules stand on top of the engine's own, and the chain is scoped to the
tenant. -/
def register (tm : TenantManager) (environ : Environ) (now : ℚ) (audit : AuditTable)
    (tenantId : String) (quota : QuotaConfig) : Except Exn TenantContext × TenantManager :=
  let persisted := tm.policyStore.load tenantId
  let tm := { tm with customRules := Function.update tm.customRules tenantId (some persisted) }
  match AuditChain.init tm.backend (some tenantId) audit with
  | .error e => (.error e, tm)
  | .ok auditChain =>
    let ctx : TenantContext :=
      { tenantId
        policyEngine := persisted.foldl (fun e rule => e.addRule rule) (createPolicyEngine environ)
        rateLimiter := ({} : RateLimiter).register tenantId quota now
        auditChain }
    (.ok ctx, tm.setContext tenantId ctx)

/-- `get_or_default`, with the key the context stands under. -/
def getOrDefault (tm : TenantManager) (tenantId : String) : Except Exn (String × TenantContext) :=
  match tm.tenants tenantId with
  | some ctx => .ok (tenantId, ctx)
  | none =>
    match tm.tenants "default" with
    | some ctx => .ok ("default", ctx)
    | none => .error (.Other "KeyError" "'default'")

/-- `add_policy_rule`: the engine and the custom rules change before the store is asked. -/
def addPolicyRule (tm : TenantManager) (fault : Option StoreExc) (tenantId : String)
    (rule : PolicyRule) : Except Exn TenantContext × TenantManager :=
  match tm.getOrDefault tenantId with
  | .error e => (.error e, tm)
  | .ok (key, ctx) =>
    let ctx := { ctx with policyEngine := ctx.policyEngine.addRule rule }
    let custom := (tm.customRules tenantId).getD [] ++ [rule]
    let tm := { tm.setContext key ctx with
      customRules := Function.update tm.customRules tenantId (some custom) }
    match tm.policyStore.save fault tenantId custom with
    | (.error e, policyStore) => (.error e, { tm with policyStore })
    | (.ok (), policyStore) => (.ok ctx, { tm with policyStore })

/-- `unregister`: the context and the custom rules go before the store is asked. -/
def unregister (tm : TenantManager) (fault : Option StoreExc) (tenantId : String) :
    Except Exn Bool × TenantManager :=
  if tenantId = "default" then (.ok false, tm)
  else
    match tm.tenants tenantId with
    | none => (.ok false, tm)
    | some _ =>
      let tm := { tm with
        tenants := Function.update tm.tenants tenantId none
        customRules := Function.update tm.customRules tenantId none }
      match tm.policyStore.delete fault tenantId with
      | (.error e, policyStore) => (.error e, { tm with policyStore })
      | (.ok (), policyStore) => (.ok true, { tm with policyStore })

/-- `list_policy_rules`. -/
def listPolicyRules (tm : TenantManager) (tenantId : String) : List PolicyRule :=
  (tm.customRules tenantId).getD []

@[simp] lemma setContext_tenants (tm : TenantManager) (id : String) (ctx : TenantContext) :
    (tm.setContext id ctx).tenants = Function.update tm.tenants id (some ctx) := rfl

@[simp] lemma setContext_backend (tm : TenantManager) (id : String) (ctx : TenantContext) :
    (tm.setContext id ctx).backend = tm.backend := rfl

/-- What `get_or_default` finds stands under the key it gives. -/
lemma getStrict_of_getOrDefault {tm : TenantManager} {id key : String} {ctx : TenantContext}
    (found : tm.getOrDefault id = .ok (key, ctx)) : tm.getStrict key = some ctx := by
  unfold getOrDefault at found
  split at found
  · cases found
    assumption
  · split at found
    · cases found
      assumption
    · cases found

/-- Whatever the store answers, the rule is in the engine and among the custom rules. -/
lemma addPolicyRule_of_found {tm : TenantManager} {id key : String} {ctx : TenantContext}
    (found : tm.getOrDefault id = .ok (key, ctx)) (fault : Option StoreExc) (rule : PolicyRule) :
    (tm.addPolicyRule fault id rule).2 =
      { tm.setContext key { ctx with policyEngine := ctx.policyEngine.addRule rule } with
        customRules := Function.update tm.customRules id (some ((tm.customRules id).getD [] ++ [rule]))
        policyStore := (tm.policyStore.save fault id ((tm.customRules id).getD [] ++ [rule])).2 } := by
  unfold addPolicyRule
  rw [found]
  dsimp only [setContext]
  rcases tm.policyStore.save fault id ((tm.customRules id).getD [] ++ [rule]) with ⟨e | ⟨⟩, policyStore⟩
  · rfl
  · rfl

/-- What is not registered, or is the default tenant, stays; else the tenant goes with its rules. -/
lemma unregister_cases (tm : TenantManager) (fault : Option StoreExc) (id : String) :
    (tm.unregister fault id).2 = tm ∨ (tm.unregister fault id).2 = { tm with
      tenants := Function.update tm.tenants id none
      customRules := Function.update tm.customRules id none
      policyStore := (tm.policyStore.delete fault id).2 } := by
  unfold unregister
  split
  · exact .inl rfl
  · cases tm.tenants id with
    | none => exact .inl rfl
    | some ctx =>
      right
      dsimp only
      rcases tm.policyStore.delete fault id with ⟨e | ⟨⟩, policyStore⟩
      · rfl
      · rfl

end TenantManager

end Custos
