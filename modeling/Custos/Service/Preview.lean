import Custos.Policy.Diff
import Custos.Service.Administration

/-!
# Previewing a change of rules

`/v1/policy/diff` of `main.py`: what a content comes to under two lists of rules, both of the caller's.

The lists an operator has at hand are those the service returns for a tenant. Whatever has been served, registered,
added and deleted, they are what stands behind the built-in rules of the tenant's engine (`Listed`), for every tenant
but the default one, whose engine is lent the rules of tenants that are not registered. So a diff of what is listed at
two points of a run says what has become of the tenant's decisions in between (`preview_foretells`).
-/

namespace Custos

structure PolicyDiffRequest where
  content : String
  currentRules : List PolicyRuleRequest
  proposedRules : List PolicyRuleRequest

namespace Main

/-- A rule of a diff. -/
def diffRule (r : PolicyRuleRequest) : Except Failure PolicyRule :=
  match ACTION_MAP.lookup r.action with
  | none => .error (.http 422 ("Invalid action: " ++ pyRepr r.action))
  | some action => .ok { name := r.name, pattern := r.pattern, action, reason := r.reason }

/-- `POST /v1/policy/diff`. -/
def policyDiff [Regex] (req : PolicyDiffRequest) : Except Failure DiffResult := do
  let currentRules ← req.currentRules.mapM diffRule
  let proposedRules ← req.proposedRules.mapM diffRule
  match PolicyDiffer.diff req.content currentRules proposedRules with
  | .error e => .error (.raised e)
  | .ok result => .ok result

/-- An action is known by its value. -/
lemma value_of_lookup {name : String} {action : PolicyAction} (is : ACTION_MAP.lookup name = some action) :
    action.value = name := by
  obtain ⟨before, after, split, -⟩ := List.lookup_eq_some_iff.1 is
  have mem : (name, action) ∈ ACTION_MAP := by
    rw [split]
    simp
  have all : ∀ entry ∈ ACTION_MAP, entry.2.value = entry.1 := by decide
  exact all _ mem

/-- A rule as it is listed. -/
def listedRule (r : PolicyRule) : PolicyRuleRequest :=
  { name := r.name, pattern := r.pattern, action := r.action.value, reason := r.reason }

/-- A rule that is listed is read back as it is. -/
lemma diffRule_listed (r : PolicyRule) : diffRule (listedRule r) = .ok r := by
  obtain ⟨name, pattern, action, reason⟩ := r
  cases action with
  | ALLOW => rfl
  | DENY => rfl
  | AUDIT => rfl

/-- Rules that are listed are read back by the diff. -/
lemma diffRules_listed (rules : List PolicyRule) : (rules.map listedRule).mapM diffRule = .ok rules := by
  induction rules with
  | nil => rfl
  | cons rule rules ih =>
    rw [List.map_cons, List.mapM_cons, diffRule_listed, ih]
    rfl

/-- A diff of what is listed is never refused. -/
lemma policyDiff_listed [Regex] (content : String) (currentRules proposedRules : List PolicyRule) :
    policyDiff
        { content, currentRules := currentRules.map listedRule, proposedRules := proposedRules.map listedRule } =
      (PolicyDiffer.diff content currentRules proposedRules).mapError .raised := by
  unfold policyDiff
  dsimp only
  rw [diffRules_listed, diffRules_listed]
  dsimp only [bind, Except.bind]
  cases PolicyDiffer.diff content currentRules proposedRules with
  | error e => rfl
  | ok result => rfl

end Main

/-! ## What is listed is in force -/

namespace TenantManager

/-- The tenants but the default one have what is listed for them on top of an engine of the process. -/
def Listed (tm : TenantManager) : Prop :=
  ∀ id ctx, id ≠ "default" → tm.tenants id = some ctx →
    ∃ environ, ctx.policyEngine = engineOf environ (tm.listPolicyRules id)

variable {tm tm' : TenantManager}

/-- Where engines have the stored rules they have those that are listed. -/
lemma Synced.listed {environ : Environ} (synced : Synced environ tm) : tm.Listed := by
  intro id ctx _ known
  exact ⟨environ, by rw [synced.engine id ctx known, synced.custom id]⟩

/-- Of one tenant the context and the custom rules are changed, and they agree. -/
lemma Listed.update (listed : tm.Listed) {id : String} {ctx : Option TenantContext}
    {rules : Option (List PolicyRule)} (tenants : tm'.tenants = Function.update tm.tenants id ctx)
    (custom : tm'.customRules = Function.update tm.customRules id rules)
    (engine : id ≠ "default" → ∀ c ∈ ctx, ∃ environ, c.policyEngine = engineOf environ (rules.getD [])) :
    tm'.Listed := by
  intro other c own known
  rw [tenants] at known
  unfold listPolicyRules
  rw [custom]
  by_cases e : other = id
  · rw [e, Function.update_self] at known ⊢
    exact engine (e ▸ own) c known
  · rw [Function.update_of_ne e] at known ⊢
    exact listed other c own known

/-- The engine of a context in its tenant's place is as it was. -/
lemma Listed.setContext (listed : tm.Listed) {id : String} {ctx ctx' : TenantContext}
    (known : tm.getStrict id = some ctx) (engine : ctx'.policyEngine = ctx.policyEngine) :
    (tm.setContext id ctx').Listed := by
  refine listed.update rfl (Function.update_eq_self id tm.customRules).symm fun own c same => ?_
  cases same
  rw [engine]
  exact listed id ctx own known

/-- A further rule keeps it so. -/
lemma Listed.addPolicyRule (listed : tm.Listed) (fault : Option StoreExc) (id : String) (rule : PolicyRule) :
    (tm.addPolicyRule fault id rule).2.Listed := by
  cases key : tm.getOrDefault id with
  | error e =>
    unfold TenantManager.addPolicyRule
    rw [key]
    exact listed
  | ok found =>
    obtain ⟨key', ctx⟩ := found
    rw [addPolicyRule_of_found key]
    have held := getStrict_of_getOrDefault key
    by_cases same : key' = id
    · subst same
      refine listed.update rfl rfl fun own c mem => ?_
      cases mem
      obtain ⟨environ, engine⟩ := listed key' ctx own held
      refine ⟨environ, ?_⟩
      dsimp only [Option.getD_some]
      rw [engine, engineOf, engineOf, List.foldl_append]
      rfl
    · -- the tenant is not registered, and the default engine is lent its rule
      have lent : key' = "default" ∧ tm.tenants id = none := by
        unfold getOrDefault at key
        cases known : tm.tenants id with
        | some ctx' =>
          rw [known] at key
          cases key
          exact absurd rfl same
        | none =>
          rw [known] at key
          cases dflt : tm.tenants "default" with
          | none =>
            rw [dflt] at key
            cases key
          | some ctx' =>
            rw [dflt] at key
            cases key
            exact ⟨rfl, rfl⟩
      obtain ⟨rfl, missing⟩ := lent
      intro other c own known
      have elsewhere : tm.tenants other = some c := (Function.update_of_ne own _ _).symm.trans known
      have apart : other ≠ id := by
        rintro rfl
        cases missing.symm.trans elsewhere
      obtain ⟨environ, engine⟩ := listed other c own elsewhere
      refine ⟨environ, engine.trans (congrArg (engineOf environ) ?_)⟩
      unfold listPolicyRules
      exact (congrArg (Option.getD · []) (Function.update_of_ne apart _ _)).symm

/-- The rule is in force where it was added. -/
lemma getStrict_added {id key : String} {ctx : TenantContext} (found : tm.getOrDefault id = .ok (key, ctx))
    (fault : Option StoreExc) (rule : PolicyRule) :
    (tm.addPolicyRule fault id rule).2.getStrict key =
      some { ctx with policyEngine := ctx.policyEngine.addRule rule } := by
  rw [addPolicyRule_of_found found]
  exact Function.update_self ..

lemma Listed.registerFaulty (listed : tm.Listed) {id : String} (unknown : tm.getStrict id = none)
    (fault : Option RegisterFault) (environ : Environ) (now : ℚ) (audit : AuditTable) (quota : QuotaConfig) :
    (tm.registerFaulty fault environ now audit id quota).2.Listed := by
  unfold TenantManager.registerFaulty
  cases fault with
  | none =>
    obtain ⟨ctx, engine, registered⟩ := tm.register_eq environ now audit id quota
    rw [registered]
    refine listed.update rfl rfl fun _ c mem => ?_
    cases mem
    exact ⟨environ, engine⟩
  | some fault =>
    cases fault with
    | load exc => exact listed
    | chain exc =>
      have same : Function.update tm.tenants id none = tm.tenants := by
        rw [← unknown, getStrict, Function.update_eq_self]
      refine listed.update same.symm rfl fun _ c mem => ?_
      cases mem

lemma Listed.unregister (listed : tm.Listed) (fault : Option StoreExc) (id : String) :
    (tm.unregister fault id).2.Listed := by
  rcases tm.unregister_cases fault id with eq | eq
  · rw [eq]
    exact listed
  · rw [eq]
    refine listed.update rfl rfl fun _ c mem => ?_
    cases mem

/-- A regex engine has the rules on top behind the built-in ones. -/
lemma engineOf_regex {environ : Environ} {rules : List PolicyRule} {p : PolicyEngine}
    (regex : engineOf environ rules = .regex p) : p = { rules := DEFAULT_RULES ++ rules } := by
  induction rules using List.reverseRecOn generalizing p with
  | nil =>
    rw [List.append_nil]
    unfold engineOf createPolicyEngine at regex
    dsimp only [List.foldl_nil] at regex
    split_ifs at regex
    cases regex
    rfl
  | append_singleton rules rule ih =>
    rw [engineOf, List.foldl_append, ← engineOf] at regex
    cases top : engineOf environ rules with
    | regex q =>
      rw [top] at regex
      cases regex
      rw [ih top, ← List.append_assoc]
      rfl
    | opa q =>
      rw [top] at regex
      cases regex
    | hybrid q =>
      rw [top] at regex
      cases regex

end TenantManager

section

variable {γ : Type} [Platform] [Regex]

/-- A call keeps what is listed in force. -/
lemma apiStep_listed (hooks : CustodyHooks γ) {s : Service γ} (listed : s.tenants.Listed) (call : ApiCall) :
    (apiStep hooks s call).tenants.Listed := by
  cases call with
  | request env req =>
    dsimp only [apiStep]
    have served := serve_served hooks s env req
    generalize serve hooks s env req = s' at served ⊢
    cases served with
    | unknown _ tenants =>
      rw [tenants]
      exact listed
    | known ctx rateLimiter auditChain _ known tenants =>
      rw [tenants]
      exact listed.setContext known rfl
  | registerTools tenantId tools => exact listed
  | addTenantPolicyRule fault tenantId req =>
    dsimp only [apiStep, Main.addTenantPolicyRule]
    cases Main.ACTION_MAP.lookup req.action with
    | none => exact listed
    | some action => exact listed.addPolicyRule fault tenantId _
  | registerTenant fault environ now req =>
    dsimp only [apiStep, Main.registerTenant]
    split
    · exact listed
    · cases unknown : s.tenants.getStrict req.tenantId with
      | some ctx => exact listed
      | none => exact listed.registerFaulty unknown fault environ now _ _
  | deleteTenant fault tenantId =>
    dsimp only [apiStep, Main.deleteTenant]
    split
    · exact listed
    · exact listed.unregister fault tenantId

/-! ## What a diff says of the decisions -/

/-- What a diff says of a decision before and after, by what the built-in rules come to. -/
structure Foretells (builtin before after : Except Exn PolicyResult) (result : DiffResult) : Prop where
  answers : (∃ b, builtin = .ok b) → (∃ d, before = .ok d) ∧ ∃ d, after = .ok d
  denies : ∀ d, after = .ok d →
    (d.action = .DENY ↔ (∃ b, builtin = .ok b ∧ b.action = .DENY) ∨ result.proposedAction = "deny")
  unchanged : result.decisionChanged = false → ∀ d d', before = .ok d → after = .ok d' →
    d'.action = d.action ∧ d'.triggeredRule = d.triggeredRule

omit [Platform] in
/-- What rules behind the built-in ones come to where a diff has answered. -/
lemma evaluate_behind {content : String} {rules : List PolicyRule} {d : PolicyResult}
    (behind : PolicyEngine.evaluate { rules } content = .ok d) :
    PolicyEngine.evaluate { rules := DEFAULT_RULES ++ rules } content =
      (PolicyEngine.evaluate {} content).map fun b => if b.action = .DENY then b else b.over d := by
  rw [PolicyEngine.evaluate_append, behind]
  cases PolicyEngine.evaluate {} content with
  | error e => rfl
  | ok b =>
    dsimp only [Except.bind, Except.map]
    split
    · rfl
    · rfl

omit [Platform] in
/-- What a diff says of two lists. -/
lemma DiffResult.foretells {content : String} {currentRules proposedRules : List PolicyRule} {result : DiffResult}
    (ok : PolicyDiffer.diff content currentRules proposedRules = .ok result) :
    Foretells (PolicyEngine.evaluate {} content)
      (PolicyEngine.evaluate { rules := DEFAULT_RULES ++ currentRules } content)
      (PolicyEngine.evaluate { rules := DEFAULT_RULES ++ proposedRules } content) result := by
  obtain ⟨current, proposed, now, next, action, changed⟩ := PolicyDiffer.diff_ok ok
  rw [evaluate_behind now, evaluate_behind next]
  cases PolicyEngine.evaluate {} content with
  | error e => exact ⟨fun ⟨_, no⟩ => (nomatch no), nofun, fun _ => nofun⟩
  | ok b =>
    refine ⟨fun _ => ⟨⟨_, rfl⟩, _, rfl⟩, fun d after => ?_, fun same d d' before after => ?_⟩
    · cases after
      dsimp only
      have deny : proposed.action.value = "deny" ↔ proposed.action = .DENY := by
        cases proposed.action <;> decide
      rw [action, deny]
      split
      · rename_i denies
        exact iff_of_true denies (.inl ⟨b, rfl, denies⟩)
      · rw [PolicyResult.over_denies]
        refine or_congr_left ⟨fun denies => ⟨b, rfl, denies⟩, ?_⟩
        rintro ⟨b', ⟨⟩, denies⟩
        exact denies
    · cases before
      cases after
      dsimp only
      split
      · exact ⟨rfl, rfl⟩
      · obtain ⟨sameAction, sameRule⟩ := changed.1 same
        exact PolicyResult.over_congr b sameAction.symm sameRule.symm

omit [Platform] in
/-- What is listed for a tenant on the regex engine decides behind the built-in rules. -/
lemma TenantManager.Listed.decision {tm : TenantManager} (listed : tm.Listed) {id : String} (own : id ≠ "default")
    {ctx : TenantContext} (known : tm.getStrict id = some ctx) (regex : ctx.policyEngine.kind = "regex")
    (remote : Engine → String → Except Exn PolicyResult) (content : String) :
    tm.decision remote id content =
      some (PolicyEngine.evaluate { rules := DEFAULT_RULES ++ tm.listPolicyRules id } content) := by
  obtain ⟨environ, engine⟩ := listed id ctx own known
  obtain ⟨p, is⟩ := Engine.kind_eq_regex.1 regex
  have rules := engineOf_regex (engine.symm.trans is)
  unfold TenantManager.decision
  rw [known, Option.map_some, is, rules]
  rfl

/-- A tenant of the service that is not the default one, on the regex engine. -/
def Service.OnRegex (s : Service γ) (id : String) : Prop :=
  id ≠ "default" ∧ ∃ ctx, s.tenants.getStrict id = some ctx ∧ ctx.policyEngine.kind = "regex"

/-- A rule that is added for the tenant is listed behind the others, whether the store takes it or not. -/
lemma listed_append (hooks : CustodyHooks γ) {s : Service γ} {id : String} {ctx : TenantContext}
    (known : s.tenants.getStrict id = some ctx) (fault : Option StoreExc) {rule : PolicyRuleRequest}
    (valid : (Main.ACTION_MAP.lookup rule.action).isSome) :
    (Main.listTenantPolicyRules (apiStep hooks s (.addTenantPolicyRule fault id rule)) id).rules =
      (Main.listTenantPolicyRules s id).rules ++ [rule] := by
  obtain ⟨action, is⟩ := Option.isSome_iff_exists.1 valid
  have lookup : s.tenants.getOrDefault id = .ok (id, ctx) := by
    rw [TenantManager.getStrict] at known
    rw [TenantManager.getOrDefault, known]
  dsimp only [apiStep, Main.addTenantPolicyRule]
  rw [is]
  dsimp only [Main.listTenantPolicyRules]
  rw [TenantManager.listPolicyRules_add lookup, List.map_append]
  have read : action.value = rule.action := Main.value_of_lookup is
  rw [List.map_singleton, read]

omit [Platform] in
/-- The diff of what is listed for a tenant at two points. -/
def Service.preview (s s' : Service γ) (id content : String) : Except Failure DiffResult :=
  Main.policyDiff
    { content, currentRules := (Main.listTenantPolicyRules s id).rules
      proposedRules := (Main.listTenantPolicyRules s' id).rules }

/-- What a diff of the rules listed at two points of a run says of a tenant's decision of a content. -/
structure Previews (hooks : CustodyHooks γ) (s s' : Service γ) (id content : String)
    (remote : Engine → String → Except Exn PolicyResult) : Prop where
  appended : ∀ fault rule, (Main.ACTION_MAP.lookup rule.action).isSome →
    (Main.listTenantPolicyRules (apiStep hooks s (.addTenantPolicyRule fault id rule)) id).rules =
      (Main.listTenantPolicyRules s id).rules ++ [rule]
  foretold : ∃ before after,
    s.tenants.decision remote id content = some before ∧ s'.tenants.decision remote id content = some after ∧
      match s.preview s' id content with
      | .ok result => Foretells (PolicyEngine.evaluate {} content) before after result
      | .error failure => ∃ e, failure = .raised e

/-- In every run, what is listed of a tenant on the regex engine is what a change of its rules is previewed with: the
diff of what is listed at two points is not refused, and where it answers it says what has become of the tenant's
decision in between. -/
theorem preview_foretells (hooks : CustodyHooks γ) {backend : Backend} {policyStore : PolicyStore} {environ : Environ}
    {now : ℚ} {audit : AuditTable} {tm : TenantManager}
    (booted : TenantManager.boot backend policyStore environ now audit = .ok tm) (gate : ActionGate γ)
    (stores : Stores) (calls more : List ApiCall) (id content : String)
    (remote : Engine → String → Except Exn PolicyResult) :
    let s := run (apiStep hooks) { tenants := tm, gate, stores } calls
    let s' := run (apiStep hooks) s more
    s.OnRegex id → s'.OnRegex id → Previews hooks s s' id content remote := by
  intro s s' here there
  have start : tm.Listed := by
    obtain ⟨tm', eq, synced, -⟩ := TenantManager.boot_spec backend policyStore environ now audit
    cases booted.symm.trans eq
    exact synced.listed
  have keep : ∀ s call, s.tenants.Listed → (apiStep hooks s call).tenants.Listed := fun s call listed =>
    apiStep_listed hooks listed call
  have listed : s.tenants.Listed := run_invariant (apiStep hooks) (I := fun s => s.tenants.Listed) start keep calls
  have listed' : s'.tenants.Listed := run_invariant (apiStep hooks) (I := fun s => s.tenants.Listed) listed keep more
  obtain ⟨own, ctx, known, regex⟩ := here
  obtain ⟨-, ctx', known', regex'⟩ := there
  refine ⟨fun fault rule valid => listed_append hooks known fault valid, _, _,
    listed.decision own known regex remote content, listed'.decision own known' regex' remote content, ?_⟩
  have diffed : s.preview s' id content = _ :=
    Main.policyDiff_listed content (s.tenants.listPolicyRules id) (s'.tenants.listPolicyRules id)
  cases result : PolicyDiffer.diff content (s.tenants.listPolicyRules id) (s'.tenants.listPolicyRules id) with
  | error e =>
    rw [result] at diffed
    rw [diffed]
    exact ⟨e, rfl⟩
  | ok result' =>
    rw [result] at diffed
    rw [diffed]
    exact DiffResult.foretells result

end

section Sample

local instance previewPlatform : Platform := .reference .empty

/-- A pattern is found where it is the text. -/
local instance previewRegex : Regex where
  invalid _ := none
  finditer pattern text := if pattern = text then [text] else []

def punsRule : PolicyRule := { name := "no_puns", pattern := "pun", action := .DENY, reason := "no puns" }

/-- A tenant comes up with a rule and is given another. -/
theorem preview_foretells_sample :
    ∃ tm, TenantManager.boot .SQLiteBackend { rows := [ ("acme", jokeRule)] } quietEnviron 0 .empty = .ok tm ∧
      let s : Service Unit := { tenants := tm, gate := {}, stores := { audit := .empty } }
      Previews raisingHooks s
        (run (apiStep raisingHooks) s [ .addTenantPolicyRule none "acme" (Main.listedRule punsRule)]) "acme" "pun"
        fun _ _ => .error (.Other "URLError" "refused") := by
  obtain ⟨tm, booted, synced, store⟩ :=
    TenantManager.boot_spec .SQLiteBackend { rows := [ ("acme", jokeRule)] } quietEnviron 0 .empty
  have rules : tm.policyStore.load "acme" = [jokeRule] := by
    rw [store]
    decide
  obtain ⟨ctx, known⟩ : ∃ ctx, tm.tenants "acme" = some ctx := by
    refine Option.ne_none_iff_exists'.1 fun missing => ?_
    cases rules.symm.trans (synced.unregistered "acme" missing)
  have regex : ctx.policyEngine.kind = "regex" := by
    rw [synced.engine "acme" ctx known, rules]
    decide +kernel
  have lookup : tm.getOrDefault "acme" = .ok ("acme", ctx) := by
    rw [TenantManager.getOrDefault, known]
  refine ⟨tm, booted, preview_foretells raisingHooks booted {} { audit := .empty } []
    [ .addTenantPolicyRule none "acme" (Main.listedRule punsRule)] "acme" "pun" _ ⟨by decide, ctx, known, regex⟩ ⟨by decide, ?_⟩⟩
  refine ⟨{ ctx with policyEngine := ctx.policyEngine.addRule punsRule }, ?_, ?_⟩
  · exact TenantManager.getStrict_added lookup none punsRule
  · obtain ⟨p, is⟩ := Engine.kind_eq_regex.1 regex
    rw [is]
    rfl

end Sample

end Custos
