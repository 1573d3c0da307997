import Custos.Audit.Writers
import Custos.Library.Run
import Custos.Reference
import Custos.Service.Tenant

/-!
# Tenant isolation

What the calls that name one tenant do to another. Every lookup but one is of the tenant named:
`add_policy_rule` takes the context of `get_or_default`, so a rule for a tenant that is not registered goes
into the default tenant's engine. `Tenancy.run_leaves` says that nothing else of another tenant changes, and
`tenant_isolation` draws from it in which runs no other tenant is touched.
-/

namespace Custos

section

variable [Platform]

/-- A process's tenants and its audit table. -/
structure Tenancy where
  manager : TenantManager
  audit : AuditTable

/-- A call that names a tenant, or goes through the context `get_strict` returns for it. -/
inductive TenantCall where
  | register (environ : Environ) (now : ℚ) (quota : QuotaConfig)
  | unregister (fault : Option StoreExc)
  | addPolicyRule (fault : Option StoreExc) (rule : PolicyRule)
  | evaluate (content : String)
  | checkAndConsume (now : ℚ) (key : String) (tokens : Int)
  | record (env : RecordEnv) (a : RecordArgs)

namespace Tenancy

/-- A call for the tenant `id`. An evaluation reads the engine and changes nothing. -/
def step (id : String) (w : Tenancy) : TenantCall → Tenancy
  | .register environ now quota =>
    { w with manager := (w.manager.register environ now w.audit id quota).2 }
  | .unregister fault => { w with manager := (w.manager.unregister fault id).2 }
  | .addPolicyRule fault rule => { w with manager := (w.manager.addPolicyRule fault id rule).2 }
  | .evaluate _ => w
  | .checkAndConsume now key tokens =>
    match w.manager.getStrict id with
    | none => w
    | some ctx =>
      let rateLimiter := (ctx.rateLimiter.checkAndConsume now key tokens).2
      { w with manager := w.manager.setContext id { ctx with rateLimiter } }
  | .record env a =>
    match w.manager.getStrict id with
    | none => w
    | some ctx =>
      let (_, auditChain, audit) := ctx.auditChain.record w.audit env a
      { manager := w.manager.setContext id { ctx with auditChain }, audit }

/-- The rule that a call for a tenant puts into the default tenant's engine. -/
def borrows (id : String) (w : Tenancy) : TenantCall → Option PolicyRule
  | .addPolicyRule _ rule => if (w.manager.tenants id).isNone then some rule else none
  | _ => none

/-- The rules that a run puts into the default tenant's engine. -/
def borrowed (id : String) : Tenancy → List TenantCall → List PolicyRule
  | _, [] => []
  | w, op :: ops => (w.borrows id op).toList ++ borrowed id (w.step id op) ops

end Tenancy

omit [Platform] in
def TenantContext.addRules (ctx : TenantContext) (rules : List PolicyRule) : TenantContext :=
  { ctx with policyEngine := rules.foldl (fun e rule => e.addRule rule) ctx.policyEngine }

omit [Platform] in
@[simp] lemma TenantContext.addRules_nil (ctx : TenantContext) : ctx.addRules [] = ctx := rfl

omit [Platform] in
/-- Rules are added one list after the other. -/
lemma TenantContext.addRules_append (ctx : TenantContext) (rules rules' : List PolicyRule) :
    ctx.addRules (rules ++ rules') = (ctx.addRules rules).addRules rules' := by
  unfold addRules
  rw [List.foldl_append]

omit [Platform] in
/-- The context with the rules borrowed by another tenant: only the default tenant lends its engine. -/
def TenantContext.lend (id : String) (rules : List PolicyRule) (ctx : TenantContext) : TenantContext :=
  if id = "default" then ctx.addRules rules else ctx

/-! ## What a call leaves of another tenant -/

/-- A record of one tenant's chain is among no other tenant's rows. -/
lemma AuditChain.loadAll_record {c : AuditChain} {id other : String} (own : c.tenantId = some id)
    (ne : other ≠ id) (b : Backend) (t : AuditTable) (env : RecordEnv) (a : RecordArgs) :
    b.loadAll (some other) (c.record t env a).2.2 = b.loadAll (some other) t := by
  rcases c.record_cases t env a with ⟨e, eq⟩ | ⟨r, t', adm, entry, saved, eq⟩
  · rw [eq]
  · rw [eq]
    dsimp only
    by_cases keeps : c.backend.Durable
    · rcases save_cases keeps env.fault t r with ⟨e, refused⟩ | ⟨t'', -, inserted, ok⟩
      · cases saved.symm.trans refused
      · obtain rfl : t' = t'' := congrArg Prod.snd (saved.symm.trans ok)
        by_cases durable : b.Durable
        · have rows := loadAll_insert durable inserted (entry.tenantId own) (entry.ofRow adm.commitment) other
          rw [rows, if_neg ne, List.append_nil]
        · rw [not_not.1 durable]
          rfl
    · rw [not_not.1 keeps] at saved
      obtain rfl : t = t' := congrArg Prod.snd saved
      rfl

/-- What is left of another tenant: all of it, but for the rules that its engine was lent for. -/
structure Leaves (other : String) (rules : List PolicyRule) (w w' : Tenancy) : Prop where
  context : w'.manager.tenants other = (w.manager.tenants other).map (·.lend other rules)
  customRules : w'.manager.customRules other = w.manager.customRules other
  stored : w'.manager.policyStore.load other = w.manager.policyStore.load other
  rows : ∀ b : Backend, b.loadAll (some other) w'.audit = b.loadAll (some other) w.audit

namespace Leaves

variable {other : String} {w w' w'' : Tenancy} {rules rules' : List PolicyRule}

omit [Platform] in
lemma refl (other : String) (w : Tenancy) : Leaves other [] w w where
  context := by
    have same : TenantContext.lend other [] = id := by
      funext ctx
      unfold TenantContext.lend
      split <;> rfl
    rw [same, Option.map_id_fun, id]
  customRules := rfl
  stored := rfl
  rows _ := rfl

omit [Platform] in
/-- Two steps in a row. -/
lemma trans (leaves : Leaves other rules w w') (leaves' : Leaves other rules' w' w'') :
    Leaves other (rules ++ rules') w w'' where
  context := by
    have both : TenantContext.lend other rules' ∘ TenantContext.lend other rules =
        TenantContext.lend other (rules ++ rules') := by
      funext ctx
      dsimp only [Function.comp, TenantContext.lend]
      split
      · rw [TenantContext.addRules_append]
      · rfl
    rw [leaves'.context, leaves.context, Option.map_map, both]
  customRules := leaves'.customRules.trans leaves.customRules
  stored := leaves'.stored.trans leaves.stored
  rows b := (leaves'.rows b).trans (leaves.rows b)

end Leaves

/-- Every tenant's chain is scoped to it. -/
def Tenancy.Own (w : Tenancy) : Prop :=
  ∀ id ctx, w.manager.tenants id = some ctx → ctx.auditChain.tenantId = some id

omit [Platform] in
/-- The rows of one tenant stay when another tenant's are replaced. -/
lemma load_replaced {s : PolicyStore} {id other : String} (ne : other ≠ id) (rules : List PolicyRule) :
    PolicyStore.load { s with
      rows := s.rows.filter (·.1 ≠ id) ++ rules.map fun rule => (id, rule) } other = s.load other := by
  have none : (rules.map fun rule => (id, rule)).filter (fun row => decide (row.1 = other)) = [] := by
    simp [List.filter_eq_nil_iff, Ne.symm ne]
  have kept : (s.rows.filter (·.1 ≠ id)).filter (fun row => decide (row.1 = other)) =
      s.rows.filter (fun row => decide (row.1 = other)) := by
    rw [List.filter_filter]
    refine List.filter_congr fun row _ => ?_
    by_cases e : row.1 = other
    · simp [e, ne]
    · simp [e]
  unfold PolicyStore.load
  rw [List.filter_append, kept, none, List.append_nil]

omit [Platform] in
/-- Another tenant's rules are not saved over. -/
lemma load_save {s : PolicyStore} {id other : String} (ne : other ≠ id) (fault : Option StoreExc)
    (rules : List PolicyRule) : (s.save fault id rules).2.load other = s.load other := by
  unfold PolicyStore.save
  cases fault with
  | some exc => rfl
  | none =>
    dsimp only
    split
    · rfl
    · exact load_replaced ne rules

omit [Platform] in
lemma load_delete {s : PolicyStore} {id other : String} (ne : other ≠ id) (fault : Option StoreExc) :
    (s.delete fault id).2.load other = s.load other := by
  unfold PolicyStore.delete
  cases fault with
  | some exc => rfl
  | none =>
    have kept := load_replaced (s := s) ne []
    rw [List.map_nil, List.append_nil] at kept
    exact kept

namespace Tenancy

omit [Platform] in
/-- A tenant's own context is no other's. -/
lemma leaves_update {w : Tenancy} {id other : String} (ne : other ≠ id) (ctx : Option TenantContext)
    {customRules : String → Option (List PolicyRule)} {policyStore : PolicyStore} {audit : AuditTable}
    (custom : customRules other = w.manager.customRules other)
    (stored : policyStore.load other = w.manager.policyStore.load other)
    (rows : ∀ b : Backend, b.loadAll (some other) audit = b.loadAll (some other) w.audit) :
    Leaves other [] w
      ⟨{ w.manager with tenants := Function.update w.manager.tenants id ctx, customRules, policyStore },
        audit⟩ where
  context := (Function.update_of_ne ne ..).trans (Leaves.refl other w).context
  customRules := custom
  stored := stored
  rows := rows

omit [Platform] in
/-- Only the default tenant's engine is lent. -/
lemma context_of_ne {other : String} (ne : other ≠ "default") (w : Tenancy) (rules : List PolicyRule) :
    w.manager.tenants other = (w.manager.tenants other).map (·.lend other rules) := by
  have same : TenantContext.lend other rules = id := by
    funext ctx
    exact if_neg ne
  rw [same, Option.map_id_fun, id]

/-- A rule goes to the tenant's own engine, or else to the one of the default tenant. -/
lemma addPolicyRule_leaves (w : Tenancy) {id other : String} (ne : other ≠ id) (fault : Option StoreExc)
    (rule : PolicyRule) :
    Leaves other (w.borrows id (.addPolicyRule fault rule)).toList w
      (w.step id (.addPolicyRule fault rule)) := by
  dsimp only [step, borrows]
  have custom : ∀ rules, Function.update w.manager.customRules id rules other =
      w.manager.customRules other := fun rules => Function.update_of_ne ne ..
  have stored := fun rules => load_save (s := w.manager.policyStore) ne fault rules
  cases found : w.manager.tenants id with
  | some ctx =>
    have key : w.manager.getOrDefault id = .ok (id, ctx) := by
      rw [TenantManager.getOrDefault, found]
    rw [TenantManager.addPolicyRule_of_found key]
    exact leaves_update ne _ (custom _) (stored _) fun _ => rfl
  | none =>
    cases lent : w.manager.tenants "default" with
    | none =>
      have key : w.manager.getOrDefault id = .error (.Other "KeyError" "'default'") := by
        rw [TenantManager.getOrDefault, found, lent]
      unfold TenantManager.addPolicyRule
      rw [key]
      refine ⟨?_, rfl, rfl, fun _ => rfl⟩
      by_cases e : other = "default"
      · rw [e, lent]
        rfl
      · exact context_of_ne e w _
    | some ctx =>
      have key : w.manager.getOrDefault id = .ok ("default", ctx) := by
        rw [TenantManager.getOrDefault, found, lent]
      rw [TenantManager.addPolicyRule_of_found key]
      refine ⟨?_, custom _, stored _, fun _ => rfl⟩
      -- the default tenant's engine has the rule now, although the call names another tenant
      by_cases e : other = "default"
      · rw [e, lent]
        show Function.update w.manager.tenants "default" (some (ctx.addRules [rule])) "default" = _
        rw [Function.update_self]
        rfl
      · exact (Function.update_of_ne e ..).trans (context_of_ne e w _)

/-- A call leaves another tenant all but the rule it may borrow. -/
lemma step_leaves {w : Tenancy} (own : w.Own) {id other : String} (ne : other ≠ id) (op : TenantCall) :
    Leaves other (w.borrows id op).toList w (w.step id op) := by
  cases op with
  | evaluate content => exact .refl other w
  | register environ now quota =>
    dsimp only [step, borrows, TenantManager.register]
    rw [init_scoped]
    exact leaves_update ne _ (Function.update_of_ne ne ..) rfl fun _ => rfl
  | unregister fault =>
    dsimp only [step, borrows]
    rcases w.manager.unregister_cases fault id with eq | eq
    · rw [eq]
      exact .refl other w
    · rw [eq]
      exact leaves_update ne none (Function.update_of_ne ne ..) (load_delete ne fault) fun _ => rfl
  | addPolicyRule fault rule => exact w.addPolicyRule_leaves ne fault rule
  | checkAndConsume now key tokens =>
    dsimp only [step, borrows]
    cases w.manager.getStrict id with
    | none => exact .refl other w
    | some ctx => exact leaves_update ne _ rfl rfl fun _ => rfl
  | record env a =>
    dsimp only [step, borrows]
    cases found : w.manager.getStrict id with
    | none => exact .refl other w
    | some ctx =>
      -- the record is a row of the chain's own tenant, so the other loads what it did
      have rows := fun b => AuditChain.loadAll_record (own id ctx found) ne b w.audit env a
      exact leaves_update ne _ rfl rfl rows

omit [Platform] in
/-- A context whose chain is the tenant's own leaves each with its own. -/
lemma Own.update {w w' : Tenancy} (own : w.Own) {key : String} {ctx : TenantContext}
    (same : w'.manager.tenants = Function.update w.manager.tenants key (some ctx))
    (chain : ctx.auditChain.tenantId = some key) : w'.Own := by
  intro id ctx' found
  rw [same] at found
  by_cases e : id = key
  · rw [e, Function.update_self] at found
    cases found
    rw [e]
    exact chain
  · rw [Function.update_of_ne e] at found
    exact own id ctx' found

omit [Platform] in
lemma Own.erase {w w' : Tenancy} (own : w.Own) {key : String}
    (same : w'.manager.tenants = Function.update w.manager.tenants key none) : w'.Own := by
  intro id ctx found
  rw [same] at found
  by_cases e : id = key
  · rw [e, Function.update_self] at found
    cases found
  · rw [Function.update_of_ne e] at found
    exact own id ctx found

lemma step_own {w : Tenancy} (own : w.Own) (id : String) (op : TenantCall) : (w.step id op).Own := by
  cases op with
  | evaluate content => exact own
  | register environ now quota =>
    dsimp only [step, TenantManager.register]
    rw [init_scoped]
    exact own.update rfl rfl
  | unregister fault =>
    dsimp only [step]
    rcases w.manager.unregister_cases fault id with eq | eq
    · rw [eq]
      exact own
    · rw [eq]
      exact own.erase rfl
  | addPolicyRule fault rule =>
    dsimp only [step]
    cases key : w.manager.getOrDefault id with
    | error e =>
      unfold TenantManager.addPolicyRule
      rw [key]
      exact own
    | ok found =>
      obtain ⟨key', ctx⟩ := found
      rw [TenantManager.addPolicyRule_of_found key]
      exact own.update rfl (own key' ctx (TenantManager.getStrict_of_getOrDefault key))
  | checkAndConsume now key tokens =>
    dsimp only [step]
    cases found : w.manager.getStrict id with
    | none => exact own
    | some ctx => exact own.update rfl (own id ctx found)
  | record env a =>
    dsimp only [step]
    cases found : w.manager.getStrict id with
    | none => exact own
    | some ctx =>
      refine own.update rfl ?_
      have chain := own id ctx found
      rcases ctx.auditChain.record_cases w.audit env a with ⟨e, eq⟩ | ⟨r, t', -, -, -, eq⟩
      · rw [eq]
        exact chain
      · rw [eq]
        exact chain

/-- What a run of calls for one tenant leaves of another. -/
theorem run_leaves {w : Tenancy} (own : w.Own) {id other : String} (ne : other ≠ id) (ops : List TenantCall) :
    Leaves other (borrowed id w ops) w (run (step id) w ops) := by
  induction ops generalizing w with
  | nil => exact .refl other w
  | cons op ops ih => exact (step_leaves own ne op).trans (ih (step_own own id op))

/-! ## Isolation -/

/-- The process's state after calls that name any tenants. -/
def reached (backend : Backend) (policyStore : PolicyStore) (audit : AuditTable)
    (history : List (String × TenantCall)) : Tenancy :=
  run (fun w call => w.step call.1 call.2) { manager := { backend, policyStore }, audit } history

/-- In every state that is reached each tenant has a chain of its own. -/
lemma reached_own (backend : Backend) (policyStore : PolicyStore) (audit : AuditTable)
    (history : List (String × TenantCall)) : (reached backend policyStore audit history).Own := by
  refine run_invariant _ (I := Own) ?_ (fun _ call own => step_own own call.1 call.2) history
  intro id ctx found
  cases found

omit [Platform] in
/-- What a tenant's engine decides of a content. An engine with a Rego server behind it answers by
`remote`, which may look at all the engine holds. -/
def decision [Regex] (w : Tenancy) (remote : Engine → String → Except Exn PolicyResult) (id content : String) :
    Option (Except Exn PolicyResult) :=
  (w.manager.getStrict id).map fun ctx => ctx.policyEngine.evaluate (remote ctx.policyEngine) content

omit [Platform] in
/-- Nothing of the tenant has changed. -/
structure Untouched [Regex] (id : String) (w w' : Tenancy) : Prop where
  decisions : ∀ remote content, w'.decision remote id content = w.decision remote id content
  limiter : (w'.manager.getStrict id).map (·.rateLimiter) = (w.manager.getStrict id).map (·.rateLimiter)
  customRules : w'.manager.listPolicyRules id = w.manager.listPolicyRules id
  stored : w'.manager.policyStore.load id = w.manager.policyStore.load id
  chain : (w'.manager.getStrict id).map (·.auditChain) = (w.manager.getStrict id).map (·.auditChain)
  rows : ∀ b : Backend, b.loadAll (some id) w'.audit = b.loadAll (some id) w.audit

omit [Platform] in
/-- No rule is added for a tenant that is not registered. -/
def RegisteredRule (id : String) (w : Tenancy) : TenantCall → Prop
  | .addPolicyRule _ _ => (w.manager.getStrict id).isSome
  | _ => True

/-- Where every rule is for a registered tenant none is borrowed. -/
lemma borrowed_of_registered {id : String} {w : Tenancy} {ops : List TenantCall}
    (registered : Steps (step id) (RegisteredRule id) w ops) : borrowed id w ops = [] := by
  induction ops generalizing w with
  | nil => rfl
  | cons op ops ih =>
    have none : w.borrows id op = none := by
      cases op with
      | addPolicyRule fault rule =>
        obtain ⟨ctx, found⟩ := Option.isSome_iff_exists.1 registered.1
        exact if_neg (by rw [TenantManager.getStrict] at found; simp [found])
      | _ => rfl
    rw [borrowed, none, ih registered.2]
    rfl

end Tenancy

omit [Platform] in
/-- A tenant is untouched unless it is the default one and a rule is borrowed. -/
lemma Leaves.untouched [Regex] {id : String} {w w' : Tenancy} {rules : List PolicyRule}
    (leaves : Leaves id rules w w') (none : id = "default" → rules = []) : Tenancy.Untouched id w w' := by
  have same : w'.manager.getStrict id = w.manager.getStrict id := by
    by_cases e : id = "default"
    · have context := leaves.context
      rw [none e] at context
      exact context.trans (Leaves.refl id w).context.symm
    · exact leaves.context.trans (Tenancy.context_of_ne e w rules).symm
  refine ⟨fun remote content => ?_, by rw [same], ?_, leaves.stored, by rw [same], leaves.rows⟩
  · rw [Tenancy.decision, Tenancy.decision, same]
  · rw [TenantManager.listPolicyRules, TenantManager.listPolicyRules, leaves.customRules]

/-- Calls for one tenant touch no other, and not the default tenant while they add no rule for a tenant that is
not registered. -/
theorem tenant_isolation [Regex] (backend : Backend) (policyStore : PolicyStore) (audit : AuditTable)
    (history : List (String × TenantCall)) (id other : String) (ne : other ≠ id) (ops : List TenantCall)
    (registered : other = "default" → Steps (Tenancy.step id) (Tenancy.RegisteredRule id)
      (Tenancy.reached backend policyStore audit history) ops) :
    ∀ done, done <+: ops → Tenancy.Untouched other (Tenancy.reached backend policyStore audit history)
      (run (Tenancy.step id) (Tenancy.reached backend policyStore audit history) done) := by
  rintro done ⟨rest, rfl⟩
  have own := Tenancy.reached_own backend policyStore audit history
  refine (Tenancy.run_leaves own ne done).untouched fun deflt => ?_
  exact Tenancy.borrowed_of_registered ((steps_append (Tenancy.step id)).1 (registered deflt)).1

end

section Sample

local instance isolationPlatform : Platform := .reference .empty

/-- A pattern without special characters, searched in a text no longer than it. -/
local instance isolationRegex : Regex where
  invalid _ := none
  finditer pattern text := if pattern = text then [text] else []

def quietEnviron : Environ := fun _ => none

/-- A service after its start, with one more tenant. -/
def startedHistory : List (String × TenantCall) :=
  [("default", .register quietEnviron 0 DEFAULT_QUOTA), ("acme", .register quietEnviron 0 DEFAULT_QUOTA)]

def jokeRule : PolicyRule := ⟨"no_jokes", "joke", .DENY, "no jokes"⟩

/-- A tenant is given a rule, consumes of its quota and is deleted. -/
theorem tenant_isolation_sample :
    Tenancy.Untouched "default" (Tenancy.reached .InMemoryBackend {} .empty startedHistory)
      (run (Tenancy.step "acme") (Tenancy.reached .InMemoryBackend {} .empty startedHistory)
        [ .addPolicyRule none jokeRule, .checkAndConsume 1 "acme" 5, .unregister none]) :=
  tenant_isolation .InMemoryBackend {} .empty startedHistory "acme" "default" (by decide)
    [ .addPolicyRule none jokeRule, .checkAndConsume 1 "acme" 5, .unregister none]
    (fun _ => ⟨rfl, trivial, trivial, trivial⟩) _ (List.prefix_refl _)

/-- The service with a rule added for a tenant it does not know. -/
def ghostService : Tenancy :=
  run (Tenancy.step "ghost") (Tenancy.reached .InMemoryBackend {} .empty startedHistory)
    [ .addPolicyRule none jokeRule]

/-- What the default tenant's engine says of a joke. -/
def jokeAllowed (w : Tenancy) : Option Bool :=
  (w.decision (fun _ _ => .error (.Other "unused" "")) "default" "joke").bind fun result =>
    result.toOption.map (·.allowed)

/-- A rule added for a tenant that is not registered refuses the default tenant's content. -/
theorem unregistered_rule_denies_default :
    ¬ Tenancy.Untouched "default" (Tenancy.reached .InMemoryBackend {} .empty startedHistory) ghostService ∧
      jokeAllowed (Tenancy.reached .InMemoryBackend {} .empty startedHistory) = some true ∧
      jokeAllowed ghostService = some false := by
  have before : jokeAllowed (Tenancy.reached .InMemoryBackend {} .empty startedHistory) = some true := by
    decide +kernel
  have after : jokeAllowed ghostService = some false := by decide +kernel
  refine ⟨fun untouched => ?_, before, after⟩
  have same := untouched.decisions (fun _ _ => .error (.Other "unused" "")) "joke"
  unfold jokeAllowed at before after
  rw [same, before] at after
  cases after

end Sample

end Custos
