import Custos.Library.Run
import Custos.Service.Citations

/-!
# Fresh citations

The gate keeps the digest it last computed for a tenant, under a key of what the digest was computed
over. The regex engine puts the digest of its rules into the key; the other two have no such digest, so
a rule added to one of them leaves the key as it was. `gate_cites_in_force_iff` says which records cite
the policy in force, in every run of the operations that change a policy and of those that cite one.
-/

namespace Custos

variable {γ : Type}

/-! ## The operations -/

inductive GateOp where
  | registerTools (tenantId : String) (tools : List String)
  /-- `add_rule` of the engine of a tenant's context -/
  | addRule (tenantId : String) (rule : PolicyRule)
  | addPolicyRule (fault : Option StoreExc) (tenantId : String) (rule : PolicyRule)
  | evaluateAction (env : GateEnv) (tenantId : String) (action : ActionRequest) (clientId : String)
      (traceId : Option String)
  | recordReconciliation (env : RecordEnv) (tenantId clientId traceId rule reason content : String)

namespace GateOp

/-- The tenant an operation cites a policy for, and the environment it reads the pin from. -/
def citing : GateOp → Option (Environ × String)
  | .evaluateAction env id _ _ _ => some (env.environ, id)
  | .recordReconciliation env id _ _ _ _ _ => some (env.environ, id)
  | _ => none

/-- The tenant to whose engine the operation adds a rule. -/
def edits (tm : TenantManager) : GateOp → Option String
  | .addRule id _ => (tm.getStrict id).map fun _ => id
  | .addPolicyRule _ id _ => (tm.getOrDefault id).toOption.map (·.1)
  | _ => none

end GateOp

/-- `add_rule` on the engine of a context. -/
def TenantManager.addRule (tm : TenantManager) (tenantId : String) (rule : PolicyRule) : TenantManager :=
  match tm.getStrict tenantId with
  | none => tm
  | some ctx => tm.setContext tenantId { ctx with policyEngine := ctx.policyEngine.addRule rule }

section

variable [Platform]

def gateStep [Regex] (hooks : CustodyHooks γ) (s : Service γ) : GateOp → Service γ
  | .registerTools id tools => { s with gate := s.gate.registerTools id tools }
  | .addRule id rule => { s with tenants := s.tenants.addRule id rule }
  | .addPolicyRule fault id rule => { s with tenants := (s.tenants.addPolicyRule fault id rule).2 }
  | .evaluateAction env id action clientId traceId =>
    (s.evaluateAction hooks env id action clientId traceId).2
  | .recordReconciliation env id clientId traceId rule reason content =>
    (s.recordReconciliation env id clientId traceId rule reason content).2

/-- What the gate looks a digest up under. -/
def ActionGate.key (g : ActionGate γ) (environ : Environ) (id : String) (e : Engine) : CacheKey :=
  ⟨g.tools id, e.kind, e.rulesDigest, e.opaPolicyDigest environ⟩

/-- The cached digest is one under the key of now. -/
def ActionGate.Hits (g : ActionGate γ) (environ : Environ) (id : String) (e : Engine) : Prop :=
  (g.digestCache id).map (·.1) = some (g.key environ id e)

instance (g : ActionGate γ) (environ : Environ) (id : String) (e : Engine) :
    Decidable (g.Hits environ id e) :=
  inferInstanceAs (Decidable (_ = _))

/-- `engine_policy_digest` of the policy in force. -/
def ActionGate.inForce (g : ActionGate γ) (environ : Environ) (id : String) (e : Engine) :
    Option String :=
  enginePolicyDigest (g.tools id) e.citationRules e.kind (e.opaPolicyDigest environ)

/-! ## What is watched -/

omit [Platform] in
/-- The process, and of each tenant whether its engine has been given a rule since the gate last computed
its digest. No function reads the second: it is there to be spoken of. -/
structure Watched (γ : Type) where
  service : Service γ
  edited : String → Bool := fun _ => false

/-- What has been edited since, after an operation: citing computes the digest anew unless the cache
has it. -/
def Watched.editedAfter (w : Watched γ) (op : GateOp) : String → Bool :=
  match op.edits w.service.tenants, op.citing with
  | some id, _ => Function.update w.edited id true
  | none, some (environ, id) =>
    match w.service.tenants.getStrict id with
    | none => w.edited
    | some ctx =>
      if w.service.gate.Hits environ id ctx.policyEngine then w.edited
      else Function.update w.edited id false
  | none, none => w.edited

def watchStep [Regex] (hooks : CustodyHooks γ) (w : Watched γ) (op : GateOp) : Watched γ where
  service := gateStep hooks w.service op
  edited := w.editedAfter op

/-- The digest the gate would cite for the tenant is out of date: the engine consults a pinned Rego
bundle, it has been given a rule since the digest was computed, and nothing that is in the key has
changed. -/
structure StaleCitation (w : Watched γ) (environ : Environ) (id : String) (e : Engine) : Prop where
  engine : e.kind ≠ REGEX_ENGINE
  pinned : e.Citable environ
  hits : w.service.gate.Hits environ id e
  edited : w.edited id = true

/-! ## What a cached digest says -/

omit [Platform] in
/-- An engine given rules, in order. -/
def Engine.addRules (e : Engine) (rules : List PolicyRule) : Engine :=
  rules.foldl (fun e rule => e.addRule rule) e

omit [Platform] in
/-- Rules leave the kind of the engine. -/
@[simp] lemma Engine.kind_addRules (e : Engine) (rules : List PolicyRule) :
    (e.addRules rules).kind = e.kind := by
  induction rules generalizing e with
  | nil => rfl
  | cons rule rules ih => exact (ih (e.addRule rule)).trans (by cases e <;> rfl)

omit [Platform] in
/-- Rules that are added are cited behind the others. -/
@[simp] lemma Engine.citationRules_addRules (e : Engine) (rules : List PolicyRule) :
    (e.addRules rules).citationRules = e.citationRules ++ rules := by
  induction rules generalizing e with
  | nil => exact (List.append_nil _).symm
  | cons rule rules ih =>
    have one : (e.addRule rule).citationRules = e.citationRules ++ [rule] := by cases e <;> rfl
    have rest := ih (e.addRule rule)
    rw [one, List.append_assoc] at rest
    exact rest

omit [Platform] in
/-- A further rule is added last. -/
lemma Engine.addRules_snoc (e : Engine) (rules : List PolicyRule) (rule : PolicyRule) :
    e.addRules (rules ++ [rule]) = (e.addRules rules).addRule rule := by
  simp [addRules]

/-- The entry was computed over the engine before it was given the rules added since. -/
structure Computed (entry : CacheKey × Option String) (e before : Engine) (added : List PolicyRule) :
    Prop where
  engine : e = before.addRules added
  kind : entry.1.kind = before.kind
  rulesDigest : entry.1.rulesDigest = before.rulesDigest
  digest : entry.2 = enginePolicyDigest entry.1.tools before.citationRules before.kind entry.1.pin

/-- An entry under the key of now is the digest of the policy in force, unless the engine hides the rules
it has been given since. -/
lemma Computed.eq_inForce_iff (free : CollisionFree)
    (inj : Function.Injective (dumpsCompact : Json → String)) {g : ActionGate γ} {environ : Environ}
    {id : String} {e before : Engine} {added : List PolicyRule} {entry : CacheKey × Option String}
    (comp : Computed entry e before added) (key : entry.1 = g.key environ id e) :
    entry.2 = g.inForce environ id e ↔
      ¬ (e.kind ≠ REGEX_ENGINE ∧ e.Citable environ ∧ added ≠ []) := by
  have kind : before.kind = e.kind := by rw [comp.engine, Engine.kind_addRules]
  have rules : e.citationRules = before.citationRules ++ added := by
    rw [comp.engine, Engine.citationRules_addRules]
  have digest : entry.2 = enginePolicyDigest (g.tools id) before.citationRules e.kind
      (e.opaPolicyDigest environ) := by
    rw [comp.digest, key, kind]
    rfl
  by_cases regex : e.kind = REGEX_ENGINE
  · -- the key holds the digest of the rules
    have same : canonicalRules before.citationRules = canonicalRules e.citationRules := by
      have known : before.rulesDigest = e.rulesDigest := by
        rw [← comp.rulesDigest, key]
        rfl
      obtain ⟨p, rfl⟩ := Engine.kind_eq_regex.1 regex
      obtain ⟨p', rfl⟩ := Engine.kind_eq_regex.1 (kind.trans regex)
      exact canonicalRules_of_rulesCanonicalDigest free inj (Option.some.inj known)
    refine iff_of_true ?_ fun stale => stale.1 regex
    rw [digest, enginePolicyDigest_congr same]
    rfl
  · by_cases citable : e.Citable environ
    · have some : (enginePolicyDigest (g.tools id) e.citationRules e.kind (e.opaPolicyDigest environ)).isSome :=
        enginePolicyDigest_isSome.2 citable
      constructor
      · rintro eq ⟨-, -, ne⟩
        have lengths := length_eq_of_canonicalRules
          (canonicalRules_of_enginePolicyDigest free inj some (eq.symm.trans digest))
        rw [rules, List.length_append] at lengths
        exact ne (List.length_eq_zero_iff.1 (by omega))
      · intro fresh
        have none : added = [] := by_contra fun ne => fresh ⟨regex, citable, ne⟩
        rw [digest, ActionGate.inForce, rules, none, List.append_nil]
    · -- there is no digest, whatever the rules
      have absent : ∀ rs, enginePolicyDigest (g.tools id) rs e.kind (e.opaPolicyDigest environ) = none := by
        intro rs
        unfold enginePolicyDigest
        rw [if_pos (not_or.1 citable)]
      refine iff_of_true ?_ fun stale => citable stale.2.1
      rw [digest, ActionGate.inForce, absent, absent]

/-! ## What citing does -/

/-- Where the key is that of the cache's entry, the entry's digest is cited. -/
lemma ActionGate.citedPolicyDigest_of_hits {g : ActionGate γ} {environ : Environ} {id : String}
    {e : Engine} (hits : g.Hits environ id e) :
    ∃ entry, g.digestCache id = some entry ∧ entry.1 = g.key environ id e ∧
      g.citedPolicyDigest environ id e = (entry.2, g) := by
  obtain ⟨entry, cached, key⟩ := Option.map_eq_some_iff.1 hits
  refine ⟨entry, cached, key, ?_⟩
  unfold citedPolicyDigest
  rw [cached]
  exact if_pos key

lemma ActionGate.citedPolicyDigest_of_not_hits {g : ActionGate γ} {environ : Environ} {id : String}
    {e : Engine} (no : ¬ g.Hits environ id e) :
    g.citedPolicyDigest environ id e = (g.inForce environ id e, { g with
      digestCache := Function.update g.digestCache id
        (some (g.key environ id e, g.inForce environ id e)) }) := by
  unfold citedPolicyDigest
  cases cached : g.digestCache id with
  | none => rfl
  | some entry =>
    have other : entry.1 ≠ g.key environ id e := fun key => no (by
      unfold Hits
      rw [cached, Option.map_some, key])
    exact if_neg other

/-- What an operation that cites leaves: of the tenant's context the engine is as it was, of the gate the
tools are, and the cache is as citing leaves it; a record it appended carries what was cited. -/
inductive Cited (s : Service γ) (environ : Environ) (id : String) : Service γ → Prop
  | unknown : s.tenants.getStrict id = none → Cited s environ id s
  | known (ctx ctx' : TenantContext) (gate : ActionGate γ) (stores : Stores) :
      s.tenants.getStrict id = some ctx →
      ctx'.policyEngine = ctx.policyEngine →
      gate.toolAllowlists = s.gate.toolAllowlists →
      gate.digestCache = (s.gate.citedPolicyDigest environ id ctx.policyEngine).2.digestCache →
      (∀ r, ctx'.auditChain.records = ctx.auditChain.records ++ [r] →
        r.policyDigest = s.cites environ id ctx.policyEngine) →
      Cited s environ id { tenants := s.tenants.setContext id ctx', gate, stores }

/-- What a decision of the gate does to the cache. -/
lemma evaluateAction_cited [Regex] (hooks : CustodyHooks γ) (s : Service γ) (env : GateEnv)
    (id : String) (action : ActionRequest) (clientId : String) (traceId : Option String) :
    Cited s env.environ id (s.evaluateAction hooks env id action clientId traceId).2 := by
  have evaluated := s.evaluateAction_evaluated hooks env id action clientId traceId
  generalize s.evaluateAction hooks env id action clientId traceId = out at evaluated ⊢
  have anchoring : ∀ {ctx : TenantContext} {gate : ActionGate γ},
      gate = ((s.gate.citedPolicyDigest env.environ id ctx.policyEngine).2.maybeAnchorPolicyCommit hooks
        env.environ id ctx.policyEngine (s.gate.citedPolicyDigest env.environ id ctx.policyEngine).1) →
      gate.toolAllowlists = s.gate.toolAllowlists ∧
        gate.digestCache = (s.gate.citedPolicyDigest env.environ id ctx.policyEngine).2.digestCache := by
    rintro ctx _ rfl
    obtain ⟨cache, cites⟩ := s.gate.citedPolicyDigest_gate env.environ id ctx.policyEngine
    obtain ⟨custody, anchored, anchors⟩ := ActionGate.maybeAnchorPolicyCommit_gate hooks
      (s.gate.citedPolicyDigest env.environ id ctx.policyEngine).2 env.environ id ctx.policyEngine
      (s.gate.citedPolicyDigest env.environ id ctx.policyEngine).1
    rw [anchors, cites]
    exact ⟨rfl, rfl⟩
  cases evaluated with
  | unknown none => exact .unknown none
  | raised ctx e gate known same _ =>
    have kept := Cited.known ctx ctx gate s.stores known rfl (anchoring same).1 (anchoring same).2
      fun r grown => absurd grown (by simp)
    rwa [setContext_self known] at kept
  | decided ctx d gate res s' known same _ settled =>
    cases settled with
    | recorded r stores rec =>
      exact .known ctx _ gate stores known rfl (anchoring same).1 (anchoring same).2 fun r' grown =>
        (rec.fields grown).2.2.2.1
    | unrecorded stores _ =>
      exact .known ctx ctx gate stores known rfl (anchoring same).1 (anchoring same).2 fun r grown =>
        absurd grown (by simp)

lemma recordReconciliation_cited (s : Service γ) (env : RecordEnv)
    (id clientId traceId rule reason content : String) :
    Cited s env.environ id (s.recordReconciliation env id clientId traceId rule reason content).2 := by
  unfold Service.recordReconciliation
  cases known : s.tenants.getStrict id with
  | none => exact .unknown known
  | some ctx =>
    obtain ⟨cache, cites⟩ := s.gate.citedPolicyDigest_gate env.environ id ctx.policyEngine
    refine .known ctx _ _ _ known rfl (by rw [cites]) rfl fun r grown => ?_
    by_cases no : traceId = "" ∨ rule = ""
    · obtain ⟨e, refused⟩ := reconcileIn_of_unnamed no ctx.auditChain s.stores env clientId content reason
        (s.gate.citedPolicyDigest env.environ id ctx.policyEngine).1 (some id)
      rw [refused] at grown
      exact absurd grown (by simp)
    · obtain ⟨trace, named⟩ := not_or.1 no
      have recorded := (recordIn_outcome trivial ctx.auditChain s.stores env (reconciliationArgs clientId traceId
        rule content reason (s.cites env.environ id ctx.policyEngine) (some id)) none_mem_forms).1
      rw [reconcileIn_of_named trace named] at grown
      exact (recorded.fields grown).2.2.2.1

/-! ## What a run keeps -/

/-- What is cached for a tenant was computed over its engine as it was before the rules it has been given
since, if it has been given any. -/
def Coherent (w : Watched γ) : Prop :=
  ∀ id ctx entry, w.service.tenants.getStrict id = some ctx →
    w.service.gate.digestCache id = some entry →
    ∃ before added, Computed entry ctx.policyEngine before added ∧ (w.edited id = true ↔ added ≠ [])

omit [Platform] in
/-- A context that is put back is found under its name, and the others under theirs. -/
lemma TenantManager.getStrict_setContext {tm : TenantManager} {id x : String} {ctx c : TenantContext}
    (known : (tm.setContext id ctx).getStrict x = some c) :
    x = id ∧ c = ctx ∨ x ≠ id ∧ tm.getStrict x = some c := by
  by_cases e : x = id
  · subst e
    rw [getStrict, setContext_tenants, Function.update_self] at known
    exact .inl ⟨rfl, (Option.some.inj known).symm⟩
  · rw [getStrict, setContext_tenants, Function.update_of_ne e] at known
    exact .inr ⟨e, known⟩

/-- A step that edits a tenant's rules is noted. -/
lemma Watched.editedAfter_of_edits {w : Watched γ} {op : GateOp} {id : String}
    (edits : op.edits w.service.tenants = some id) :
    w.editedAfter op = Function.update w.edited id true := by
  unfold editedAfter
  rw [edits]

/-- A step that neither edits nor cites changes no note. -/
lemma Watched.editedAfter_of_idle {w : Watched γ} {op : GateOp}
    (still : op.edits w.service.tenants = none) (quiet : op.citing = none) :
    w.editedAfter op = w.edited := by
  unfold editedAfter
  rw [still, quiet]

/-- A gate that has cached nothing is coherent. -/
lemma coherent_of_empty {s : Service γ} (empty : ∀ id, s.gate.digestCache id = none) :
    Coherent { service := s } := by
  intro id ctx entry _ cached
  have cached : s.gate.digestCache id = some entry := cached
  rw [empty id] at cached
  cases cached

/-- A tenant's engine is given a rule. -/
lemma Coherent.addRule {w : Watched γ} (coh : Coherent w) {id : String} {ctx : TenantContext}
    (known : w.service.tenants.getStrict id = some ctx) (rule : PolicyRule) {tm : TenantManager}
    (same : tm.tenants = (w.service.tenants.setContext id
      { ctx with policyEngine := ctx.policyEngine.addRule rule }).tenants) :
    Coherent ⟨{ w.service with tenants := tm }, Function.update w.edited id true⟩ := by
  intro x c entry known' cached
  have known' : (w.service.tenants.setContext id
      { ctx with policyEngine := ctx.policyEngine.addRule rule }).getStrict x = some c := by
    rw [TenantManager.getStrict, ← same]
    exact known'
  rcases TenantManager.getStrict_setContext known' with ⟨rfl, rfl⟩ | ⟨ne, known'⟩
  · obtain ⟨before, added, comp, -⟩ := coh x ctx entry known cached
    refine ⟨before, added ++ [rule], { comp with engine := ?_ }, ?_⟩
    · rw [Engine.addRules_snoc, ← comp.engine]
    · simp
  · obtain ⟨before, added, comp, edited⟩ := coh x c entry known' cached
    refine ⟨before, added, comp, ?_⟩
    show Function.update w.edited id true x = true ↔ added ≠ []
    rw [Function.update_of_ne ne]
    exact edited

/-- A tenant's policy is cited. -/
lemma Coherent.cited {w : Watched γ} (coh : Coherent w) {environ : Environ} {id : String}
    {s : Service γ} (cited : Cited w.service environ id s) {op : GateOp}
    (cites : op.citing = some (environ, id)) (still : op.edits w.service.tenants = none) :
    Coherent ⟨s, w.editedAfter op⟩ := by
  have after : w.editedAfter op =
      match w.service.tenants.getStrict id with
      | none => w.edited
      | some ctx =>
        if w.service.gate.Hits environ id ctx.policyEngine then w.edited
        else Function.update w.edited id false := by
    unfold Watched.editedAfter
    rw [still, cites]
  cases cited with
  | unknown none =>
    rw [none] at after
    rw [after]
    exact coh
  | known ctx ctx' gate stores known engine _ cache _ =>
    rw [known] at after
    dsimp only at after
    rw [after]
    intro x c entry known' cached
    have cached : gate.digestCache x = some entry := cached
    -- the engine is the one of the state before
    have before : ∃ c₀, w.service.tenants.getStrict x = some c₀ ∧ c.policyEngine = c₀.policyEngine ∧
        (x = id → c₀ = ctx) := by
      rcases TenantManager.getStrict_setContext known' with ⟨rfl, rfl⟩ | ⟨ne, known'⟩
      · exact ⟨ctx, known, engine, fun _ => rfl⟩
      · exact ⟨c, known', rfl, fun e => absurd e ne⟩
    obtain ⟨c₀, known₀, same, at_id⟩ := before
    rw [same]
    by_cases hits : w.service.gate.Hits environ id ctx.policyEngine
    · rw [if_pos hits]
      obtain ⟨_, -, -, eq⟩ := ActionGate.citedPolicyDigest_of_hits hits
      rw [cache, eq] at cached
      exact coh x c₀ entry known₀ cached
    · rw [if_neg hits]
      rw [cache, ActionGate.citedPolicyDigest_of_not_hits hits] at cached
      by_cases e : x = id
      · subst e
        obtain rfl := at_id rfl
        have entry_eq : (w.service.gate.key environ x c₀.policyEngine,
            w.service.gate.inForce environ x c₀.policyEngine) = entry := by
          simpa using cached
        refine ⟨c₀.policyEngine, [], ?_, by simp⟩
        rw [← entry_eq]
        exact ⟨rfl, rfl, rfl, rfl⟩
      · have cached : w.service.gate.digestCache x = some entry := by
          simpa [Function.update_of_ne e] using cached
        obtain ⟨before, added, comp, edited⟩ := coh x c₀ entry known₀ cached
        refine ⟨before, added, comp, ?_⟩
        show Function.update w.edited id false x = true ↔ added ≠ []
        rw [Function.update_of_ne e]
        exact edited

/-- Every operation keeps the cache coherent. -/
theorem Coherent.step [Regex] (hooks : CustodyHooks γ) {w : Watched γ} (coh : Coherent w)
    (op : GateOp) : Coherent (watchStep hooks w op) := by
  cases op with
  | registerTools id tools =>
    intro x c entry known cached
    have cached : Function.update w.service.gate.digestCache id none x = some entry := cached
    -- the tenant's own entry is gone, and no other tenant's engine changes
    have ne : x ≠ id := by
      rintro rfl
      rw [Function.update_self] at cached
      cases cached
    rw [Function.update_of_ne ne] at cached
    exact coh x c entry known cached
  | addRule id rule =>
    cases known : w.service.tenants.getStrict id with
    | none =>
      have still : (GateOp.addRule id rule).edits w.service.tenants = none := by
        rw [GateOp.edits, known]
        rfl
      show Coherent ⟨{ w.service with tenants := w.service.tenants.addRule id rule }, _⟩
      rw [Watched.editedAfter_of_idle still rfl, TenantManager.addRule, known]
      exact coh
    | some ctx =>
      have edits : (GateOp.addRule id rule).edits w.service.tenants = some id := by
        rw [GateOp.edits, known]
        rfl
      show Coherent ⟨{ w.service with tenants := w.service.tenants.addRule id rule }, _⟩
      rw [Watched.editedAfter_of_edits edits, TenantManager.addRule, known]
      exact coh.addRule known rule rfl
  | addPolicyRule fault id rule =>
    cases found : w.service.tenants.getOrDefault id with
    | error e =>
      have still : (GateOp.addPolicyRule fault id rule).edits w.service.tenants = none := by
        rw [GateOp.edits, found]
        rfl
      have same : (w.service.tenants.addPolicyRule fault id rule).2 = w.service.tenants := by
        rw [TenantManager.addPolicyRule, found]
      show Coherent ⟨{ w.service with tenants := (w.service.tenants.addPolicyRule fault id rule).2 }, _⟩
      rw [Watched.editedAfter_of_idle still rfl, same]
      exact coh
    | ok out =>
      obtain ⟨key, ctx⟩ := out
      have edits : (GateOp.addPolicyRule fault id rule).edits w.service.tenants = some key := by
        rw [GateOp.edits, found]
        rfl
      show Coherent ⟨{ w.service with tenants := (w.service.tenants.addPolicyRule fault id rule).2 }, _⟩
      rw [Watched.editedAfter_of_edits edits, TenantManager.addPolicyRule_of_found found]
      exact coh.addRule (TenantManager.getStrict_of_getOrDefault found) rule rfl
  | evaluateAction env id action clientId traceId =>
    exact coh.cited (evaluateAction_cited hooks w.service env id action clientId traceId) rfl rfl
  | recordReconciliation env id clientId traceId rule reason content =>
    exact coh.cited
      (recordReconciliation_cited w.service env id clientId traceId rule reason content) rfl rfl

/-- A record that is appended cites what the step cites. -/
lemma Appended.cited {s s' : Service γ} {environ : Environ} {id : String} {ctx : TenantContext}
    {r : AuditRecord} (cited : Cited s environ id s') (known : s.tenants.getStrict id = some ctx)
    (appended : Appended s s' id r) : r.policyDigest = s.cites environ id ctx.policyEngine := by
  obtain ⟨ctx₀, known₀, same⟩ := appended
  obtain rfl := Option.some.inj (known.symm.trans known₀)
  cases cited with
  | unknown none => exact absurd (known.symm.trans none) nofun
  | known ctx₁ ctx' gate stores known₁ _ _ _ digest =>
    obtain rfl := Option.some.inj (known.symm.trans known₁)
    have here := congrFun (congrArg TenantManager.tenants same) id
    simp only [TenantManager.setContext_tenants, Function.update_self, Option.some.injEq] at here
    exact digest r (by rw [here])

/-- A step that cites does so by the cache. -/
lemma gateStep_cited [Regex] (hooks : CustodyHooks γ) (s : Service γ) {op : GateOp} {environ : Environ}
    {id : String} (cites : op.citing = some (environ, id)) :
    Cited s environ id (gateStep hooks s op) := by
  cases op with
  | evaluateAction env id action clientId traceId =>
    cases cites
    exact evaluateAction_cited hooks s env id action clientId traceId
  | recordReconciliation env id clientId traceId rule reason content =>
    cases cites
    exact recordReconciliation_cited s env id clientId traceId rule reason content
  | _ => cases cites

/-- What the gate cites where its cache is coherent. -/
lemma Coherent.cites (free : CollisionFree) (inj : Function.Injective (dumpsCompact : Json → String))
    {w : Watched γ} (coh : Coherent w) (environ : Environ) {id : String} {ctx : TenantContext}
    (known : w.service.tenants.getStrict id = some ctx) :
    let digest := w.service.cites environ id ctx.policyEngine
    (digest = none ↔ ¬ ctx.policyEngine.Citable environ) ∧
      (digest = w.service.gate.inForce environ id ctx.policyEngine ↔
        ¬ StaleCitation w environ id ctx.policyEngine) := by
  intro digest
  have inForce := @enginePolicyDigest_isSome _ environ ctx.policyEngine (w.service.gate.tools id)
  by_cases hits : w.service.gate.Hits environ id ctx.policyEngine
  · obtain ⟨entry, cached, key, eq⟩ := ActionGate.citedPolicyDigest_of_hits hits
    -- a hit cites what was computed over the engine before its later rules
    have eq : digest = entry.2 := congrArg Prod.fst eq
    obtain ⟨before, added, comp, edited⟩ := coh id ctx entry known cached
    constructor
    · have kind : before.kind = ctx.policyEngine.kind := by rw [comp.engine, Engine.kind_addRules]
      have some := enginePolicyDigest_isSome_congr (w.service.gate.tools id) before.citationRules
        ctx.policyEngine.citationRules ctx.policyEngine.kind (ctx.policyEngine.opaPolicyDigest environ)
      rw [← inForce, ← some, eq, comp.digest, key, kind, Bool.not_eq_true, Option.isSome_eq_false_iff,
        Option.isNone_iff_eq_none]
      rfl
    · rw [eq, comp.eq_inForce_iff free inj key, not_iff_not]
      constructor
      · rintro ⟨engine, pinned, ne⟩
        exact ⟨engine, pinned, hits, edited.2 ne⟩
      · intro stale
        exact ⟨stale.engine, stale.pinned, edited.1 stale.edited⟩
  · have eq : digest = w.service.gate.inForce environ id ctx.policyEngine :=
      congrArg Prod.fst (ActionGate.citedPolicyDigest_of_not_hits hits)
    refine ⟨?_, iff_of_true eq fun stale => hits stale.hits⟩
    rw [← inForce, eq, Bool.not_eq_true, Option.isSome_eq_false_iff, Option.isNone_iff_eq_none]
    rfl

/-- In every run from a gate that has cached nothing, a record the gate appends for a tenant carries no
digest exactly when there is none to carry, and carries the digest of the policy in force exactly when
the one it would cite is not stale. -/
theorem gate_cites_in_force_iff [Regex] (free : CollisionFree)
    (inj : Function.Injective (dumpsCompact : Json → String)) (hooks : CustodyHooks γ) (s : Service γ)
    (empty : ∀ id, s.gate.digestCache id = none) (ops : List GateOp) :
    Steps (watchStep hooks) (fun w op => ∀ environ id ctx r, op.citing = some (environ, id) →
        w.service.tenants.getStrict id = some ctx →
        Appended w.service (gateStep hooks w.service op) id r →
          (r.policyDigest = none ↔ ¬ ctx.policyEngine.Citable environ) ∧
          (r.policyDigest = w.service.gate.inForce environ id ctx.policyEngine ↔
            ¬ StaleCitation w environ id ctx.policyEngine))
      { service := s } ops := by
  refine steps_of_invariant (coherent_of_empty empty) (fun w op coh => coh.step hooks op)
    (fun w op coh => ?_) ops
  intro environ id ctx r cites known appended
  rw [appended.cited (gateStep_cited hooks w.service cites) known]
  exact coh.cites free inj environ known

end

section Sample

local instance freshnessPlatform : Platform := .reference citationDigests

/-- A text none of the patterns matches. -/
local instance freshnessRegex : Regex where
  invalid _ := none
  finditer _ _ := []

/-- A tenant whose engine consults a pinned bundle. -/
def pinnedService : Service Unit where
  tenants :=
    { backend := .InMemoryBackend
      tenants := fun id => if id = "acme" then
        some { tenantId := "acme", policyEngine := .opa { rules := [] }, rateLimiter := {}
               auditChain := ⟨[], some "acme", .InMemoryBackend⟩ } else none }
  gate := {}
  stores := { audit := .empty }

/-- An action that is refused, and so recorded. -/
def refusedOp : GateOp := .evaluateAction citationEnv.toGateEnv "acme" { tool := "search" } "agent" none

def ruleOp : GateOp := .addPolicyRule none "acme" ⟨"no_secrets", "secret", .DENY, "secret"⟩

/-- A rule is added between two decisions of a tenant on an engine behind a server. -/
theorem gate_cites_in_force_iff_sample :
    Steps (watchStep raisingHooks) (fun w op => ∀ environ id ctx r, op.citing = some (environ, id) →
        w.service.tenants.getStrict id = some ctx →
        Appended w.service (gateStep raisingHooks w.service op) id r →
          (r.policyDigest = none ↔ ¬ ctx.policyEngine.Citable environ) ∧
          (r.policyDigest = w.service.gate.inForce environ id ctx.policyEngine ↔
            ¬ StaleCitation w environ id ctx.policyEngine))
      { service := pinnedService } [refusedOp, ruleOp, refusedOp] :=
  gate_cites_in_force_iff (collisionFree_reference citationDigests)
    (dumpsCompact_injective_reference citationDigests) raisingHooks pinnedService (fun _ => rfl) _

/-- The process once its policy was cited and its engine was given a rule. -/
def staleState : Watched Unit := run (watchStep raisingHooks) { service := pinnedService } [refusedOp, ruleOp]

lemma staleState_known : (staleState.service.tenants.getStrict "acme").isSome := by decide +kernel

def staleContext : TenantContext :=
  (staleState.service.tenants.getStrict "acme").get staleState_known

lemma staleContext_known : staleState.service.tenants.getStrict "acme" = some staleContext :=
  (Option.some_get staleState_known).symm

lemma staleContext_engine :
    staleContext.policyEngine = .opa { rules := [⟨"no_secrets", "secret", .DENY, "secret"⟩] } := by
  decide +kernel

/-- What is cached is the policy without the rule. -/
lemma staleState_cached :
    staleState.service.gate.tools "acme" = ∅ ∧ staleState.service.gate.digestCache "acme" =
      some (pinnedService.gate.key opaEnviron "acme" (.opa { rules := [] }),
        pinnedService.gate.inForce opaEnviron "acme" (.opa { rules := [] })) := by
  have cites : refusedOp.citing = some (opaEnviron, "acme") := rfl
  have cited := gateStep_cited raisingHooks pinnedService cites
  have gate : staleState.service.gate = (gateStep raisingHooks pinnedService refusedOp).gate := rfl
  rw [gate, ActionGate.tools]
  generalize gateStep raisingHooks pinnedService refusedOp = s at cited
  cases cited with
  | unknown none => exact absurd none (by decide)
  | known ctx ctx' gate stores known engine tools cache _ =>
    cases known
    rw [tools, cache]
    exact ⟨rfl, rfl⟩

/-- The cache has the engine's key. -/
lemma staleState_hits : staleState.service.gate.Hits opaEnviron "acme" staleContext.policyEngine := by
  obtain ⟨tools, cached⟩ := staleState_cached
  rw [staleContext_engine, ActionGate.Hits, ActionGate.key, tools, cached]
  rfl

lemma staleState_stale : StaleCitation staleState opaEnviron "acme" staleContext.policyEngine := by
  have hits := staleState_hits
  rw [staleContext_engine] at hits ⊢
  exact ⟨by decide, by decide +kernel, hits, by decide +kernel⟩

/-- The gate's next decision is recorded. -/
lemma staleState_records : ∃ g h, (staleState.service.evaluateAction raisingHooks citationEnv.toGateEnv
    "acme" { tool := "search" } "agent" none).1 = .ok g ∧ g.auditRecordHash = some h := by
  obtain ⟨entry, here, -, cites⟩ := ActionGate.citedPolicyDigest_of_hits staleState_hits
  obtain rfl := Option.some.inj (staleState_cached.2.symm.trans here)
  have hashed : (staleState.service.evaluateAction raisingHooks citationEnv.toGateEnv "acme"
      { tool := "search" } "agent" none).1.toOption.map (·.auditRecordHash.isSome) = some true := by
    unfold Service.evaluateAction
    rw [staleContext_known]
    dsimp only
    rw [show citationEnv.environ = opaEnviron from rfl, cites, staleContext_engine]
    decide +kernel
  generalize (staleState.service.evaluateAction raisingHooks citationEnv.toGateEnv "acme"
    { tool := "search" } "agent" none).1 = result at hashed
  cases result with
  | error e => cases hashed
  | ok g =>
    obtain ⟨h, hash⟩ := Option.isSome_iff_exists.1 (Option.some.inj hashed)
    exact ⟨g, h, rfl, hash⟩

/-- After a rule is added, the gate cites the policy from before. -/
theorem gate_cites_stale :
    ¬ Steps (watchStep raisingHooks) (fun w op => ∀ environ id ctx r, op.citing = some (environ, id) →
        w.service.tenants.getStrict id = some ctx →
        Appended w.service (gateStep raisingHooks w.service op) id r →
          r.policyDigest = w.service.gate.inForce environ id ctx.policyEngine)
      { service := pinnedService } ([refusedOp, ruleOp] ++ [refusedOp]) := by
  rw [steps_snoc]
  rintro ⟨-, fresh⟩
  have coh : Coherent staleState := run_invariant _ (coherent_of_empty fun _ => rfl)
    (fun w op coh => coh.step raisingHooks op) [refusedOp, ruleOp]
  obtain ⟨-, cites⟩ := coh.cites (collisionFree_reference citationDigests)
    (dumpsCompact_injective_reference citationDigests) opaEnviron staleContext_known
  obtain ⟨g, h, returned, hash⟩ := staleState_records
  have closed := failClosed_of_returned raisingHooks staleState.service citationEnv.toGateEnv "acme"
    { tool := "search" } "agent" none returned
  obtain ⟨r, appended, -⟩ := closed.recorded h hash
  have citing : refusedOp.citing = some (opaEnviron, "acme") := rfl
  have digest := appended.cited (gateStep_cited raisingHooks staleState.service citing) staleContext_known
  have force := fresh opaEnviron "acme" staleContext r rfl staleContext_known appended
  exact cites.1 (digest.symm.trans force) staleState_stale

end Sample

end Custos
