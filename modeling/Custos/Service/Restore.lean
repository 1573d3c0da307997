import Custos.Service.PolicyRules

/-!
# Policy rules across a restart

A `TenantManager` built on the policy store of an earlier one (`boot`), and the rule pack of
`packs/surplus_recovery.py`, whose `load_pack` registers its tenant and adds its rules one by one.

The invariant is `Synced`: each tenant's engine and list hold what the store holds for it. Every call keeps it
but one that fails after the engine has changed, one that adds rules to a tenant that is not registered, and
one that fails to delete (`step_synced`). `restart_fidelity_iff` says that a restart is faithful at every point
of exactly those runs that make no such call.
-/

namespace Custos

/-- `pack_rules`. -/
def packRules : List PolicyRule :=
  [{ name := "surplus_guarantee_language"
     pattern :=
       "(?i)\\b(guarantee[ds]?|guaranteed|risk[-\\s]?free|no risk|100% (?:success|guaranteed))\\b"
     action := .DENY
     reason := "Guaranteed-outcome language is prohibited in surplus-recovery outreach." },
   { name := "surplus_upl_risk"
     pattern :=
       "(?i)\\b(legal advice|(?:i am|we are|we're) (?:an? )?(?:lawyers?|law firm|attorneys?)" ++
       "|represent (?:you|the owner) in court)\\b"
     action := .DENY
     reason := "UPL risk: outreach must not claim legal advice, attorney identity, or court representation." },
   { name := "surplus_predatory_urgency"
     pattern :=
       "(?i)\\b(act now|final notice|last chance|immediately or (?:you'?ll|you will) lose)\\b"
     action := .DENY
     reason := "Predatory urgency/pressure tactics are prohibited in owner outreach." },
   { name := "surplus_fee_structure"
     -- (?i)\b\d{1,3}\s*%\s*(?:of|commission|contingency|fee)\b
     pattern := "(?i)\\b\\d\x7b1,3\x7d\\s*%\\s*(?:of|commission|contingency|fee)\\b"
     action := .AUDIT
     reason :=
       "Fee-structure claim: owner must verify against the executed fee agreement before sending." }]

lemma packRules_distinct : (packRules.map (·.name)).Nodup := by decide

/-- `list_tenants` of a durable backend. -/
def PolicyStore.listTenants (s : PolicyStore) : List String := (s.rows.map (·.1)).dedup

/-- Where a registration fails: in loading the rules, or in opening the audit chain. -/
inductive RegisterFault where
  | load (exc : StoreExc)
  | chain (exc : StoreExc)

namespace TenantManager

/-- `register`, where what it reads may fail. -/
def registerFaulty (tm : TenantManager) (fault : Option RegisterFault) (environ : Environ) (now : ℚ)
    (audit : AuditTable) (tenantId : String) (quota : QuotaConfig) : Except Exn TenantContext × TenantManager :=
  match fault with
  | none => tm.register environ now audit tenantId quota
  | some (.load exc) => (.error (.Store exc), tm)
  | some (.chain exc) =>
    (.error (.Store exc), { tm with
      customRules := Function.update tm.customRules tenantId (some (tm.policyStore.load tenantId)) })

/-- `load_pack` with the rules still to add. -/
def addPack (tm : TenantManager) (faults : PolicyRule → Option StoreExc) (tenantId : String) :
    List PolicyRule → Except Exn Unit × TenantManager
  | [] => (.ok (), tm)
  | rule :: rules =>
    match tm.addPolicyRule (faults rule) tenantId rule with
    | (.error e, tm) => (.error e, tm)
    | (.ok _, tm) => tm.addPack faults tenantId rules

/-- `load_pack`. -/
def loadPack (tm : TenantManager) (registerFault : Option RegisterFault) (faults : PolicyRule → Option StoreExc)
    (environ : Environ) (now : ℚ) (audit : AuditTable) (tenantId : String) :
    Except Exn (Option TenantContext) × TenantManager :=
  let registered : Except Exn TenantContext × TenantManager :=
    match tm.getStrict tenantId with
    | some ctx => (.ok ctx, tm)
    | none => tm.registerFaulty registerFault environ now audit tenantId DEFAULT_QUOTA
  match registered with
  | (.error e, tm) => (.error e, tm)
  | (.ok _, tm) =>
    match tm.addPack faults tenantId packRules with
    | (.error e, tm) => (.error e, tm)
    | (.ok (), tm) => (.ok (tm.getStrict tenantId), tm)

/-- The tenants with stored rules that `__init__` registers. -/
def registerStored (tm : TenantManager) (environ : Environ) (now : ℚ) (audit : AuditTable) :
    List String → Except Exn TenantManager
  | [] => .ok tm
  | tenantId :: tenantIds =>
    match tm.getStrict tenantId with
    | some _ => tm.registerStored environ now audit tenantIds
    | none =>
      match tm.register environ now audit tenantId DEFAULT_QUOTA with
      | (.error e, _) => .error e
      | (.ok _, tm) => tm.registerStored environ now audit tenantIds

/-- `TenantManager.__init__` on a policy store. -/
def boot (backend : Backend) (policyStore : PolicyStore) (environ : Environ) (now : ℚ) (audit : AuditTable) :
    Except Exn TenantManager :=
  match register { backend, policyStore } environ now audit "default" DEFAULT_QUOTA with
  | (.error e, _) => .error e
  | (.ok _, tm) => tm.registerStored environ now audit policyStore.listTenants

/-! ## What a manager holds for a tenant -/

/-- An engine of the process with a tenant's rules on top. -/
def engineOf (environ : Environ) (rules : List PolicyRule) : Engine :=
  rules.foldl (fun e rule => e.addRule rule) (createPolicyEngine environ)

/-- The custom rules of the tenants are those stored, in the engine and in the list. -/
structure Synced (environ : Environ) (tm : TenantManager) : Prop where
  default : (tm.tenants "default").isSome
  engine : ∀ id ctx, tm.tenants id = some ctx → ctx.policyEngine = engineOf environ (tm.policyStore.load id)
  custom : ∀ id, tm.listPolicyRules id = tm.policyStore.load id
  unregistered : ∀ id, tm.tenants id = none → tm.policyStore.load id = []

/-- A manager under construction: its contexts have the rules that are stored. -/
structure Loaded (environ : Environ) (tm : TenantManager) : Prop where
  engine : ∀ id ctx, tm.tenants id = some ctx → ctx.policyEngine = engineOf environ (tm.policyStore.load id)
  custom : ∀ id ctx, tm.tenants id = some ctx → tm.listPolicyRules id = tm.policyStore.load id
  none : ∀ id, tm.tenants id = none → tm.listPolicyRules id = []

/-- A registration succeeds, and gives the tenant the rules that are stored for it. -/
lemma register_eq (tm : TenantManager) (environ : Environ) (now : ℚ) (audit : AuditTable) (id : String)
    (quota : QuotaConfig) :
    ∃ ctx, ctx.policyEngine = engineOf environ (tm.policyStore.load id) ∧
      tm.register environ now audit id quota = (.ok ctx, { tm with
        tenants := Function.update tm.tenants id (some ctx)
        customRules := Function.update tm.customRules id (some (tm.policyStore.load id)) }) := by
  unfold register
  dsimp only
  rw [init_scoped]
  exact ⟨_, rfl, rfl⟩

section

variable {environ : Environ} {tm : TenantManager}

/-- A tenant that is registered has the stored rules. -/
lemma Loaded.register (loaded : Loaded environ tm) {id : String} {ctx : TenantContext}
    (engine : ctx.policyEngine = engineOf environ (tm.policyStore.load id)) :
    Loaded environ { tm with
      tenants := Function.update tm.tenants id (some ctx)
      customRules := Function.update tm.customRules id (some (tm.policyStore.load id)) } where
  engine other ctx' found := by
    dsimp only at found ⊢
    by_cases e : other = id
    · rw [e, Function.update_self] at found
      cases found
      rw [e]
      exact engine
    · rw [Function.update_of_ne e] at found
      exact loaded.engine other ctx' found
  custom other ctx' found := by
    dsimp only [listPolicyRules] at found ⊢
    by_cases e : other = id
    · rw [e, Function.update_self]
      rfl
    · rw [Function.update_of_ne e] at found ⊢
      exact loaded.custom other ctx' found
  none other none := by
    dsimp only [listPolicyRules] at none ⊢
    by_cases e : other = id
    · rw [e, Function.update_self] at none
      cases none
    · rw [Function.update_of_ne e] at none ⊢
      exact loaded.none other none

/-- The loop of the constructor registers what is listed and leaves the store. -/
lemma registerStored_spec (loaded : Loaded environ tm) (now : ℚ) (audit : AuditTable) (ids : List String) :
    ∃ tm', tm.registerStored environ now audit ids = .ok tm' ∧ Loaded environ tm' ∧
      tm'.policyStore = tm.policyStore ∧
      ∀ id, (tm'.tenants id).isSome = true ↔ (tm.tenants id).isSome = true ∨ id ∈ ids := by
  induction ids generalizing tm with
  | nil => exact ⟨tm, rfl, loaded, rfl, by simp⟩
  | cons id ids ih =>
    unfold registerStored
    cases known : tm.getStrict id with
    | some ctx =>
      obtain ⟨tm', eq, loaded', store, covers⟩ := ih loaded
      refine ⟨tm', eq, loaded', store, fun other => (covers other).trans ?_⟩
      have here : other = id → (tm.tenants other).isSome = true := by
        rintro rfl
        exact Option.isSome_of_eq_some known
      rw [List.mem_cons]
      tauto
    | none =>
      obtain ⟨ctx, engine, registered⟩ := tm.register_eq environ now audit id DEFAULT_QUOTA
      rw [registered]
      obtain ⟨tm', eq, loaded', store, covers⟩ := ih (loaded.register engine)
      refine ⟨tm', eq, loaded', store, fun other => (covers other).trans ?_⟩
      dsimp only
      rw [List.mem_cons]
      by_cases e : other = id
      · rw [e, Function.update_self]
        simp
      · rw [Function.update_of_ne e]
        simp [e]

end

/-- The constructor succeeds on every store, with the rules it holds in force. -/
theorem boot_spec (backend : Backend) (policyStore : PolicyStore) (environ : Environ) (now : ℚ)
    (audit : AuditTable) :
    ∃ tm, boot backend policyStore environ now audit = .ok tm ∧ Synced environ tm ∧
      tm.policyStore = policyStore := by
  have empty : Loaded environ { backend, policyStore } := ⟨nofun, nofun, fun _ _ => rfl⟩
  obtain ⟨ctx, engine, registered⟩ :=
    register_eq { backend, policyStore } environ now audit "default" DEFAULT_QUOTA
  obtain ⟨tm, eq, loaded, store, covers⟩ :=
    registerStored_spec (empty.register engine) now audit policyStore.listTenants
  have gone : ∀ id, tm.tenants id = none → tm.policyStore.load id = [] := by
    intro id none
    have unlisted : id ∉ policyStore.listTenants := by
      intro mem
      have some := (covers id).2 (.inr mem)
      rw [none] at some
      cases some
    rw [store, PolicyStore.load, List.map_eq_nil_iff, List.filter_eq_nil_iff]
    intro row mem own
    exact unlisted (List.mem_dedup.2 (List.mem_map.2 ⟨row, mem, of_decide_eq_true own⟩))
  refine ⟨tm, ?_, ⟨?_, loaded.engine, fun id => ?_, gone⟩, store⟩
  · unfold boot
    rw [registered]
    exact eq
  · refine (covers "default").2 (.inl ?_)
    dsimp only
    rw [Function.update_self]
    rfl
  · cases known : tm.tenants id with
    | none => rw [loaded.none id known, gone id known]
    | some ctx => exact loaded.custom id ctx known

/-! ## A restart -/

/-- The rules in force for a tenant. -/
def inForce (tm : TenantManager) (id : String) : List PolicyRule :=
  ((tm.getStrict id).map fun ctx => ctx.policyEngine.citationRules).getD []

/-- What the second manager has of the first: each tenant's custom rules, the decisions of the tenants that
have any, and no rule that was in force for another tenant only. -/
structure Restored [Regex] (environ : Environ) (tm tm' : TenantManager) : Prop where
  customRules : ∀ id, tm'.listPolicyRules id = tm.listPolicyRules id
  decisions : ∀ id, tm.listPolicyRules id ≠ [] →
    ∀ remote content, tm'.decision remote id content = tm.decision remote id content
  gains : ∀ id rule, rule ∈ tm'.inForce id → rule ∉ (createPolicyEngine environ).citationRules →
    rule ∉ tm.inForce id → ∀ other, rule ∉ tm.inForce other

/-- Whenever a manager is built on the store, it has what this one has. -/
def Restores [Regex] (environ : Environ) (tm : TenantManager) : Prop :=
  ∀ now audit, ∃ tm', boot tm.backend tm.policyStore environ now audit = .ok tm' ∧ Restored environ tm tm'

section

variable [Regex] {environ : Environ} {tm : TenantManager}

/-- The rules that are listed are the stored ones. -/
lemma Restores.stored (restores : Restores environ tm) (id : String) :
    tm.listPolicyRules id = tm.policyStore.load id := by
  obtain ⟨tm', eq, restored⟩ := restores 0 .empty
  obtain ⟨tm'', eq', synced, store⟩ := boot_spec tm.backend tm.policyStore environ 0 .empty
  cases eq.symm.trans eq'
  rw [← restored.customRules id, synced.custom id, store]

omit [Regex] in
/-- An engine cites the rules it was made with behind its own. -/
lemma inForce_engineOf (rules : List PolicyRule) :
    (engineOf environ rules).citationRules = (createPolicyEngine environ).citationRules ++ rules := by
  unfold engineOf
  induction rules using List.reverseRecOn with
  | nil => rw [List.append_nil]; rfl
  | append_singleton rules rule ih =>
    rw [List.foldl_append, ← List.append_assoc, ← ih]
    generalize rules.foldl (fun e rule => e.addRule rule) (createPolicyEngine environ) = e
    cases e <;> rfl

/-- A manager whose rules are those stored is restored. -/
lemma Synced.restores (synced : Synced environ tm) : Restores environ tm := by
  intro now audit
  obtain ⟨tm', eq, synced', store⟩ := boot_spec tm.backend tm.policyStore environ now audit
  -- a tenant with stored rules is registered in both, with one engine
  have same : ∀ id, tm.policyStore.load id ≠ [] → ∃ ctx ctx', tm.tenants id = some ctx ∧
      tm'.tenants id = some ctx' ∧ ctx'.policyEngine = ctx.policyEngine := by
    intro id some
    cases known : tm.tenants id with
    | none => exact absurd (synced.unregistered id known) some
    | some ctx =>
      cases known' : tm'.tenants id with
      | none =>
        have none := synced'.unregistered id known'
        rw [store] at none
        exact absurd none some
      | some ctx' =>
        refine ⟨ctx, ctx', rfl, rfl, ?_⟩
        rw [synced'.engine id ctx' known', synced.engine id ctx known, store]
  refine ⟨tm', eq, fun id => ?_, fun id custom remote content => ?_, fun id rule here new old other there => ?_⟩
  · rw [synced'.custom, synced.custom, store]
  · rw [synced.custom] at custom
    obtain ⟨ctx, ctx', known, known', engine⟩ := same id custom
    rw [decision, decision, getStrict, getStrict, known, known']
    simp only [Option.map_some, engine]
  · cases known' : tm'.tenants id with
    | none =>
      rw [inForce, getStrict, known'] at here
      cases here
    | some ctx' =>
      have rules := here
      rw [inForce, getStrict, known'] at rules
      simp only [Option.map_some, Option.getD_some] at rules
      rw [synced'.engine id ctx' known', inForce_engineOf, store] at rules
      have stored := (List.mem_append.1 rules).resolve_left new
      obtain ⟨ctx, ctx'', known, known'', engine⟩ := same id (List.ne_nil_of_mem stored)
      obtain rfl := Option.some.inj (known'.symm.trans known'')
      refine old ?_
      rw [inForce, getStrict, known', Option.map_some, engine] at here
      rw [inForce, getStrict, known, Option.map_some]
      exact here

end

/-! ## Runs -/

/-- A call that changes rules or tenants, and the building of a new manager in the old one's place. -/
inductive PolicyCall where
  | register (id : String) (now : ℚ) (audit : AuditTable) (quota : QuotaConfig) (fault : Option RegisterFault)
  | addPolicyRule (id : String) (fault : Option StoreExc) (rule : PolicyRule)
  | unregister (id : String) (fault : Option StoreExc)
  | loadPack (id : String) (now : ℚ) (audit : AuditTable) (registerFault : Option RegisterFault)
      (faults : PolicyRule → Option StoreExc)
  | restart (now : ℚ) (audit : AuditTable)

/-- One call, whether it raises or not. -/
def step (environ : Environ) (tm : TenantManager) : PolicyCall → TenantManager
  | .register id now audit quota fault => (tm.registerFaulty fault environ now audit id quota).2
  | .addPolicyRule id fault rule => (tm.addPolicyRule fault id rule).2
  | .unregister id fault => (tm.unregister fault id).2
  | .loadPack id now audit registerFault faults => (tm.loadPack registerFault faults environ now audit id).2
  | .restart now audit =>
    match boot tm.backend tm.policyStore environ now audit with
    | .ok tm' => tm'
    | .error _ => tm

/-- The rule is new to the tenant, and saving it does not fail. -/
def CleanRule (tm : TenantManager) (id : String) (fault : Option StoreExc) (rule : PolicyRule) : Prop :=
  fault = none ∧ rule.name ∉ (tm.listPolicyRules id).map (·.name)

instance (tm : TenantManager) (id : String) (fault : Option StoreExc) (rule : PolicyRule) :
    Decidable (tm.CleanRule id fault rule) := inferInstanceAs (Decidable (_ ∧ _))

/-- A rule is added only for a registered tenant and where it is new, a deletion does not fail where there is
something to delete, and a pack adds its rules so, unless it ends with the registration of its tenant. -/
def Clean (tm : TenantManager) : PolicyCall → Prop
  | .addPolicyRule id fault rule => (tm.getStrict id).isSome ∧ tm.CleanRule id fault rule
  | .unregister id fault => id = "default" ∨ fault = none ∨ tm.policyStore.load id = []
  | .loadPack id _ _ registerFault faults =>
    (tm.getStrict id = none ∧ registerFault ≠ none) ∨ ∀ rule ∈ packRules, tm.CleanRule id (faults rule) rule
  | _ => True

/-- A durable store, whose rows are unique by tenant and name. -/
structure Keyed (s : PolicyStore) : Prop where
  durable : s.durable = true
  unique : ∀ id, ((s.load id).map (·.name)).Nodup

section

variable {environ : Environ} {tm : TenantManager}

/-- The store takes a rule where it is clean. -/
lemma accepts_iff_cleanRule (synced : Synced environ tm) (keyed : Keyed tm.policyStore) {id : String}
    {fault : Option StoreExc} {rule : PolicyRule} :
    tm.policyStore.Accepts fault (tm.listPolicyRules id ++ [rule]) ↔ tm.CleanRule id fault rule := by
  have distinct := keyed.unique id
  rw [← synced.custom id] at distinct
  unfold PolicyStore.Accepts CleanRule
  rw [List.map_append, List.map_singleton, List.nodup_append]
  simp only [keyed.durable, forall_const, distinct, true_and, List.nodup_singleton]
  refine and_congr_right fun _ => ⟨fun apart mem => apart _ mem _ (.head _) rfl, fun fresh a mem b mem' e => ?_⟩
  rw [List.mem_singleton.1 mem'] at e
  exact fresh (e ▸ mem)

/-- Only one tenant's context, rules and rows are changed, and they agree. -/
lemma Synced.update (synced : Synced environ tm) {id : String} {ctx : Option TenantContext}
    {rules : Option (List PolicyRule)} {policyStore : PolicyStore} (dflt : id = "default" → ctx.isSome = true)
    (engine : ∀ c, ctx = some c → c.policyEngine = engineOf environ (policyStore.load id))
    (custom : rules.getD [] = policyStore.load id) (gone : ctx = none → policyStore.load id = [])
    (others : ∀ other, other ≠ id → policyStore.load other = tm.policyStore.load other) :
    Synced environ { tm with
      tenants := Function.update tm.tenants id ctx
      customRules := Function.update tm.customRules id rules
      policyStore } where
  default := by
    dsimp only
    by_cases e : "default" = id
    · rw [e, Function.update_self]
      exact dflt e.symm
    · rw [Function.update_of_ne e]
      exact synced.default
  engine other c found := by
    dsimp only at found ⊢
    by_cases e : other = id
    · rw [e, Function.update_self] at found
      rw [e]
      exact engine c found
    · rw [Function.update_of_ne e] at found
      rw [others other e]
      exact synced.engine other c found
  custom other := by
    dsimp only [listPolicyRules]
    by_cases e : other = id
    · rw [e, Function.update_self]
      exact custom
    · rw [Function.update_of_ne e, others other e]
      exact synced.custom other
  unregistered other none := by
    dsimp only at none ⊢
    by_cases e : other = id
    · rw [e, Function.update_self] at none
      rw [e]
      exact gone none
    · rw [Function.update_of_ne e] at none
      rw [others other e]
      exact synced.unregistered other none

/-- Rules that are saved are under one key. -/
lemma Keyed.save {s : PolicyStore} (keyed : Keyed s) (fault : Option StoreExc) (id : String)
    (rules : List PolicyRule) : Keyed (s.save fault id rules).2 := by
  by_cases accepts : s.Accepts fault rules
  · refine ⟨?_, fun other => ?_⟩
    · rw [PolicyStore.save_of_accepts accepts]
      exact keyed.durable
    · rw [PolicyStore.load_saved accepts]
      split
      · exact accepts.2 keyed.durable
      · exact keyed.unique other
  · obtain ⟨e, refused⟩ := PolicyStore.save_of_not_accepts accepts id
    rw [refused]
    exact keyed

/-- A rule that is added for a registered tenant. -/
lemma addPolicyRule_synced (synced : Synced environ tm) (keyed : Keyed tm.policyStore) {id : String}
    {ctx : TenantContext} (known : tm.getStrict id = some ctx) {fault : Option StoreExc} {rule : PolicyRule}
    (clean : tm.CleanRule id fault rule) :
    Synced environ (tm.addPolicyRule fault id rule).2 ∧
      ∃ ctx', (tm.addPolicyRule fault id rule).2.getStrict id = some ctx' := by
  have lookup : tm.getOrDefault id = .ok (id, ctx) := by
    rw [getStrict] at known
    rw [getOrDefault, known]
  have accepts := (accepts_iff_cleanRule synced keyed).2 clean
  have stored := PolicyStore.load_save_self accepts id
  have others := fun other (ne : other ≠ id) =>
    load_save (s := tm.policyStore) ne fault (tm.listPolicyRules id ++ [rule])
  rw [addPolicyRule_of_found lookup]
  refine ⟨synced.update (fun _ => rfl) ?_ stored.symm (fun missing => by cases missing) others, _,
    Function.update_self ..⟩
  intro ctx' same
  cases same
  have engine := synced.engine id ctx known
  rw [← synced.custom id] at engine
  refine Eq.trans ?_ (congrArg (engineOf environ) stored.symm)
  rw [engineOf, List.foldl_append, ← engineOf, ← engine]
  rfl

/-- After a rule that is refused, or that is added for a tenant that is not registered, a restart is not
faithful. -/
lemma not_restores_add [Regex] (synced : Synced environ tm) (keyed : Keyed tm.policyStore) {id : String}
    {fault : Option StoreExc} {rule : PolicyRule}
    (unclean : ¬ ((tm.getStrict id).isSome ∧ tm.CleanRule id fault rule)) :
    ¬ Restores environ (tm.addPolicyRule fault id rule).2 := by
  intro restores
  obtain ⟨⟨key, owner⟩, lookup⟩ : ∃ found, tm.getOrDefault id = .ok found := by
    obtain ⟨ctx, dflt⟩ := Option.isSome_iff_exists.1 synced.default
    unfold getOrDefault
    cases tm.tenants id with
    | some ctx' => exact ⟨_, rfl⟩
    | none => exact ⟨_, by rw [dflt]⟩
  have grown := listPolicyRules_add lookup fault rule
  have stored := restores.stored id
  rw [grown] at stored
  by_cases accepts : tm.policyStore.Accepts fault (tm.listPolicyRules id ++ [rule])
  · -- the store has the rule, for a tenant that is not registered
    have clean := (accepts_iff_cleanRule synced keyed).1 accepts
    have missing : tm.tenants id = none := by
      by_contra known
      exact unclean ⟨Option.isSome_iff_ne_none.2 known, clean⟩
    obtain ⟨ctx, dflt⟩ := Option.isSome_iff_exists.1 synced.default
    have ne : id ≠ "default" := by
      rintro rfl
      cases missing.symm.trans dflt
    have unknown : (tm.addPolicyRule fault id rule).2.getStrict id = none := by
      have lookup : tm.getOrDefault id = .ok ("default", ctx) := by
        rw [getOrDefault, missing, dflt]
      rw [addPolicyRule_of_found lookup]
      exact (Function.update_of_ne ne ..).trans missing
    obtain ⟨tm', eq, restored⟩ := restores 0 .empty
    obtain ⟨tm'', eq', synced', -⟩ := boot_spec (tm.addPolicyRule fault id rule).2.backend
      (tm.addPolicyRule fault id rule).2.policyStore environ 0 .empty
    cases eq.symm.trans eq'
    have custom := restored.customRules id
    rw [grown, synced'.custom] at custom
    have same := restored.decisions id (by rw [grown]; simp) (fun _ _ => .error (.Other "" "")) ""
    rw [decision, decision, unknown, Option.map_none, Option.map_eq_none_iff] at same
    rw [synced'.unregistered id same] at custom
    exact absurd custom (by simp)
  · obtain ⟨e, refused⟩ := PolicyStore.save_of_not_accepts accepts id
    rw [listPolicyRules] at refused
    rw [addPolicyRule_of_found lookup, refused, synced.custom] at stored
    exact absurd stored (by simp)

/-- A deletion leaves each key once. -/
lemma Keyed.delete {s : PolicyStore} (keyed : Keyed s) (fault : Option StoreExc) (id : String) :
    Keyed (s.delete fault id).2 := by
  cases fault with
  | some exc => exact keyed
  | none =>
    refine ⟨keyed.durable, fun other => ?_⟩
    by_cases e : other = id
    · rw [e, PolicyStore.load_delete_self]
      exact List.nodup_nil
    · rw [load_delete e]
      exact keyed.unique other

/-- A tenant that goes with its rules, or had none. -/
lemma unregister_synced (synced : Synced environ tm) {id : String} {fault : Option StoreExc}
    (clean : id = "default" ∨ fault = none ∨ tm.policyStore.load id = []) :
    Synced environ (tm.unregister fault id).2 := by
  by_cases dflt : id = "default"
  · rw [unregister, if_pos dflt]
    exact synced
  · rcases tm.unregister_cases fault id with eq | eq
    · rw [eq]
      exact synced
    · have gone : (tm.policyStore.delete fault id).2.load id = [] := by
        cases fault with
        | none => exact tm.policyStore.load_delete_self id
        | some exc => exact (clean.resolve_left dflt).resolve_left nofun
      rw [eq]
      exact synced.update (fun e => absurd e dflt) nofun gone.symm (fun _ => gone) fun other ne => load_delete ne fault

/-- After a deletion that failed, the rules of a tenant that is no more come back. -/
lemma not_restores_unregister [Regex] (synced : Synced environ tm) {id : String} {exc : StoreExc}
    (ne : id ≠ "default") (some : tm.policyStore.load id ≠ []) :
    ¬ Restores environ (tm.unregister (.some exc) id).2 := by
  intro restores
  have stored := restores.stored id
  unfold unregister at stored
  rw [if_neg ne] at stored
  cases known : tm.tenants id with
  | none => exact some (synced.unregistered id known)
  | some ctx =>
    rw [known] at stored
    dsimp only [PolicyStore.delete, listPolicyRules] at stored
    rw [Function.update_self] at stored
    exact some stored.symm

/-- Registering, and failing to, keeps the rules as they are stored. -/
lemma registerFaulty_synced (synced : Synced environ tm) (fault : Option RegisterFault) (now : ℚ)
    (audit : AuditTable) (id : String) (quota : QuotaConfig) :
    Synced environ (tm.registerFaulty fault environ now audit id quota).2 ∧
      (tm.registerFaulty fault environ now audit id quota).2.policyStore = tm.policyStore := by
  unfold registerFaulty
  cases fault with
  | none =>
    obtain ⟨ctx, engine, registered⟩ := tm.register_eq environ now audit id quota
    rw [registered]
    refine ⟨synced.update (fun _ => rfl) ?_ rfl nofun fun _ _ => rfl, rfl⟩
    intro c same
    cases same
    exact engine
  | some fault =>
    cases fault with
    | load exc => exact ⟨synced, rfl⟩
    | chain exc =>
      -- the list is filled before the chain is opened
      have same : Synced environ { tm with
          tenants := Function.update tm.tenants id (tm.tenants id)
          customRules := Function.update tm.customRules id (some (tm.policyStore.load id))
          policyStore := tm.policyStore } := by
        refine synced.update (fun e => ?_) (synced.engine id) rfl (synced.unregistered id) fun _ _ => rfl
        rw [e]
        exact synced.default
      rw [Function.update_eq_self] at same
      exact ⟨same, rfl⟩

lemma addPolicyRule_keyed (keyed : Keyed tm.policyStore) (fault : Option StoreExc) (id : String)
    (rule : PolicyRule) : Keyed (tm.addPolicyRule fault id rule).2.policyStore := by
  cases lookup : tm.getOrDefault id with
  | error e =>
    unfold addPolicyRule
    rw [lookup]
    exact keyed
  | ok found =>
    obtain ⟨key, ctx⟩ := found
    rw [addPolicyRule_of_found lookup]
    exact keyed.save fault id _

/-- A pack: one rule after the other, until one is refused. -/
lemma addPack_spec [Regex] (synced : Synced environ tm) (keyed : Keyed tm.policyStore) {id : String}
    {ctx : TenantContext} (known : tm.getStrict id = some ctx) (faults : PolicyRule → Option StoreExc)
    {rules : List PolicyRule} (distinct : (rules.map (·.name)).Nodup) :
    Keyed (tm.addPack faults id rules).2.policyStore ∧
      ((∀ rule ∈ rules, tm.CleanRule id (faults rule) rule) → Synced environ (tm.addPack faults id rules).2) ∧
      (Restores environ (tm.addPack faults id rules).2 →
        ∀ rule ∈ rules, tm.CleanRule id (faults rule) rule) := by
  induction rules generalizing tm ctx with
  | nil => exact ⟨keyed, fun _ => synced, fun _ => List.forall_mem_nil _⟩
  | cons rule rules ih =>
    obtain ⟨unlike, distinct⟩ := List.nodup_cons.1 distinct
    have lookup : tm.getOrDefault id = .ok (id, ctx) := by
      rw [getStrict] at known
      rw [getOrDefault, known]
    have keyed' := addPolicyRule_keyed keyed (faults rule) id rule
    have grown := listPolicyRules_add lookup (faults rule) rule
    have answers : (∃ ctx', (tm.addPolicyRule (faults rule) id rule).1 = .ok ctx') ↔
        tm.CleanRule id (faults rule) rule :=
      addPolicyRule_ok_iff.trans ((and_iff_right ⟨_, lookup⟩).trans (accepts_iff_cleanRule synced keyed))
    rw [List.forall_mem_cons]
    unfold addPack
    by_cases clean : tm.CleanRule id (faults rule) rule
    · obtain ⟨synced', ctx', known'⟩ := addPolicyRule_synced synced keyed known clean
      obtain ⟨ctx'', ok⟩ := answers.2 clean
      -- the rule that was added takes no other rule's name
      have rest : (∀ r ∈ rules, (tm.addPolicyRule (faults rule) id rule).2.CleanRule id (faults r) r) ↔
          ∀ r ∈ rules, tm.CleanRule id (faults r) r := by
        refine forall₂_congr fun r mem => and_congr_right fun _ => ?_
        have ne : r.name ≠ rule.name := fun e => unlike (List.mem_map.2 ⟨r, mem, e⟩)
        rw [grown, List.map_append, List.mem_append]
        simp [ne]
      have after := ih synced' keyed' known' distinct
      rw [rest] at after
      generalize tm.addPolicyRule (faults rule) id rule = out at ok after
      obtain ⟨result, tm'⟩ := out
      obtain rfl : result = .ok ctx'' := ok
      exact ⟨after.1, fun all => after.2.1 all.2, fun restores => ⟨clean, after.2.2 restores⟩⟩
    · have lost : ¬ Restores environ (tm.addPolicyRule (faults rule) id rule).2 :=
        not_restores_add synced keyed fun both => clean both.2
      have refused : ∃ e, (tm.addPolicyRule (faults rule) id rule).1 = .error e := by
        cases result : (tm.addPolicyRule (faults rule) id rule).1 with
        | error e => exact ⟨e, rfl⟩
        | ok ctx' => exact absurd (answers.1 ⟨ctx', result⟩) clean
      obtain ⟨e, error⟩ := refused
      generalize tm.addPolicyRule (faults rule) id rule = out at error lost keyed'
      obtain ⟨result, tm'⟩ := out
      obtain rfl : result = .error e := error
      exact ⟨keyed', fun all => absurd all.1 clean, fun restores => absurd restores lost⟩

/-- A pack is added to its tenant once that is registered. -/
lemma loadPack_of_known {id : String} {ctx : TenantContext} (known : tm.getStrict id = some ctx) (now : ℚ)
    (audit : AuditTable) (fault : Option RegisterFault) (faults : PolicyRule → Option StoreExc) :
    (tm.loadPack fault faults environ now audit id).2 = (tm.addPack faults id packRules).2 := by
  unfold loadPack
  rw [known]
  dsimp only
  rcases tm.addPack faults id packRules with ⟨e | ⟨⟩, tm'⟩
  · rfl
  · rfl

/-- The pack registers its tenant where it is unknown. -/
lemma loadPack_of_unknown {id : String} (unknown : tm.getStrict id = none) {now : ℚ} {audit : AuditTable}
    {fault : Option RegisterFault} {out : Except Exn TenantContext × TenantManager}
    (registers : tm.registerFaulty fault environ now audit id DEFAULT_QUOTA = out)
    (faults : PolicyRule → Option StoreExc) :
    (tm.loadPack fault faults environ now audit id).2 =
      match out.1 with
      | .error _ => out.2
      | .ok _ => (out.2.addPack faults id packRules).2 := by
  unfold loadPack
  rw [unknown]
  dsimp only
  rw [registers]
  obtain ⟨e | ctx, tm'⟩ := out
  · rfl
  · dsimp only
    rcases tm'.addPack faults id packRules with ⟨e | ⟨⟩, tm''⟩
    · rfl
    · rfl

/-- A pack loaded by a manager whose rules are those stored. -/
lemma loadPack_spec [Regex] (synced : Synced environ tm) (keyed : Keyed tm.policyStore) (id : String)
    (now : ℚ) (audit : AuditTable) (fault : Option RegisterFault) (faults : PolicyRule → Option StoreExc) :
    Keyed (tm.loadPack fault faults environ now audit id).2.policyStore ∧
      (tm.Clean (.loadPack id now audit fault faults) →
        Synced environ (tm.loadPack fault faults environ now audit id).2) ∧
      (Restores environ (tm.loadPack fault faults environ now audit id).2 →
        tm.Clean (.loadPack id now audit fault faults)) := by
  cases known : tm.getStrict id with
  | some ctx =>
    have spec := addPack_spec synced keyed known faults packRules_distinct
    rw [loadPack_of_known known]
    refine ⟨spec.1, fun clean => spec.2.1 (clean.resolve_left fun new => ?_), fun restores => .inr (spec.2.2 restores)⟩
    cases known.symm.trans new.1
  | none =>
    obtain ⟨synced', store⟩ := registerFaulty_synced synced fault now audit id DEFAULT_QUOTA
    have keyed' : Keyed (tm.registerFaulty fault environ now audit id DEFAULT_QUOTA).2.policyStore := by
      rw [store]
      exact keyed
    cases fault with
    | some fault =>
      -- the load ends with the registration, before a rule is added
      have raises : ∃ e, (tm.registerFaulty (some fault) environ now audit id DEFAULT_QUOTA).1 = .error e := by
        cases fault with
        | load exc => exact ⟨_, rfl⟩
        | chain exc => exact ⟨_, rfl⟩
      obtain ⟨e, raised⟩ := raises
      rw [loadPack_of_unknown known rfl, raised]
      exact ⟨keyed', fun _ => synced', fun _ => .inl ⟨known, nofun⟩⟩
    | none =>
      obtain ⟨ctx, engine, registered⟩ := tm.register_eq environ now audit id DEFAULT_QUOTA
      have registered : tm.registerFaulty none environ now audit id DEFAULT_QUOTA = _ := registered
      rw [loadPack_of_unknown known registered]
      rw [registered] at synced' keyed' store
      have spec := addPack_spec synced' keyed' (Function.update_self ..) faults packRules_distinct
      -- the registration leaves the stored rules, so a rule is new after it if it was before
      have same : ∀ rule, CleanRule _ id (faults rule) rule ↔ tm.CleanRule id (faults rule) rule := fun rule => by
        unfold CleanRule
        rw [synced'.custom id, store, synced.custom id]
      simp only [same] at spec
      exact ⟨spec.1, fun clean => spec.2.1 (clean.resolve_left fun faulty => faulty.2 rfl),
        fun restores => .inr (spec.2.2 restores)⟩

/-- What each call does to a manager whose rules are those stored. -/
lemma step_spec [Regex] (synced : Synced environ tm) (keyed : Keyed tm.policyStore) (call : PolicyCall) :
    Keyed (tm.step environ call).policyStore ∧ (tm.Clean call → Synced environ (tm.step environ call)) ∧
      (Restores environ (tm.step environ call) → tm.Clean call) := by
  cases call with
  | register id now audit quota fault =>
    obtain ⟨synced', store⟩ := registerFaulty_synced synced fault now audit id quota
    refine ⟨?_, fun _ => synced', fun _ => trivial⟩
    show Keyed (tm.registerFaulty fault environ now audit id quota).2.policyStore
    rw [store]
    exact keyed
  | addPolicyRule id fault rule =>
    refine ⟨addPolicyRule_keyed keyed fault id rule, fun clean => ?_, fun restores => ?_⟩
    · obtain ⟨ctx, known⟩ := Option.isSome_iff_exists.1 clean.1
      exact (addPolicyRule_synced synced keyed known clean.2).1
    -- a call that is not clean leaves the list and the store apart
    · exact by_contra fun unclean => not_restores_add synced keyed unclean restores
  | unregister id fault =>
    refine ⟨?_, unregister_synced synced, fun restores => ?_⟩
    · show Keyed (tm.unregister fault id).2.policyStore
      rcases tm.unregister_cases fault id with eq | eq
      · rw [eq]
        exact keyed
      · rw [eq]
        exact keyed.delete fault id
    · by_contra unclean
      obtain ⟨ne, faulty, some⟩ := not_or.1 unclean |>.imp_right not_or.1
      obtain ⟨exc, rfl⟩ := Option.ne_none_iff_exists'.1 faulty
      exact not_restores_unregister synced ne some restores
  | loadPack id now audit registerFault faults =>
    exact loadPack_spec synced keyed id now audit registerFault faults
  | restart now audit =>
    obtain ⟨tm', eq, synced', store⟩ := boot_spec tm.backend tm.policyStore environ now audit
    have goes : tm.step environ (.restart now audit) = tm' := by
      unfold step
      dsimp only
      rw [eq]
    rw [goes, store]
    exact ⟨keyed, fun _ => synced', fun _ => trivial⟩

end

/-- A restart is faithful at every point of exactly those runs whose calls are clean. -/
theorem restart_fidelity_iff [Regex] {backend : Backend} {policyStore : PolicyStore} (keyed : Keyed policyStore)
    {environ : Environ} {now : ℚ} {audit : AuditTable} {tm : TenantManager}
    (boots : boot backend policyStore environ now audit = .ok tm) (calls : List PolicyCall) :
    Steps (step environ) (fun tm call => Restores environ (tm.step environ call)) tm calls ↔
      Steps (step environ) Clean tm calls := by
  obtain ⟨tm', eq, synced, store⟩ := boot_spec backend policyStore environ now audit
  cases boots.symm.trans eq
  rw [← store] at keyed
  refine steps_congr (I := fun tm => Synced environ tm ∧ Keyed tm.policyStore) ⟨synced, keyed⟩ ?_ ?_ calls
  · rintro tm call ⟨synced, keyed⟩
    obtain ⟨-, keeps, only⟩ := step_spec synced keyed call
    exact ⟨only, fun clean => (keeps clean).restores⟩
  · rintro tm call ⟨synced, keyed⟩ clean
    obtain ⟨keyed', keeps, -⟩ := step_spec synced keyed call
    exact ⟨keeps clean, keyed'⟩

end TenantManager

section Sample

open TenantManager

local instance restoreRegex : Regex where
  invalid _ := none
  finditer pattern text := if pattern = text then [text] else []

/-- The first manager on an empty durable store. -/
def firstBoot : TenantManager :=
  match boot .InMemoryBackend { durable := true } quietEnviron 0 .empty with
  | .ok tm => tm
  | .error _ => { backend := .InMemoryBackend }

lemma boot_empty : boot .InMemoryBackend { durable := true } quietEnviron 0 .empty = .ok firstBoot := rfl

lemma keyed_empty : Keyed { durable := true } := ⟨rfl, fun _ => List.nodup_nil⟩

/-- A pack and a rule survive a restart. -/
theorem restart_fidelity_iff_sample :
    Steps (step quietEnviron) (fun tm call => Restores quietEnviron (tm.step quietEnviron call)) firstBoot
      [ .loadPack "surplus_recovery" 0 .empty none (fun _ => none), .addPolicyRule "default" none jokeRule,
        .restart 1 .empty] :=
  (restart_fidelity_iff keyed_empty boot_empty _).2
    ⟨.inr (by decide), ⟨by decide, by decide⟩, trivial, trivial⟩

/-- A service that loads the pack when it starts. -/
def loadAtBoot (now : ℚ) : PolicyCall := .loadPack "surplus_recovery" now .empty none fun _ => none

/-- The second start of a service that loads the pack: the engine and the list have the pack's first rule
twice, the store has it once, and so will the manager after the next restart. -/
theorem pack_loaded_again :
    ¬ Steps (step quietEnviron) (fun tm call => Restores quietEnviron (tm.step quietEnviron call)) firstBoot
      [loadAtBoot 0, .restart 1 .empty, loadAtBoot 1] := by
  rintro ⟨-, -, restores, -⟩
  have stored := congrArg List.length (restores.stored "surplus_recovery")
  exact absurd stored (by decide)

end Sample

end Custos
