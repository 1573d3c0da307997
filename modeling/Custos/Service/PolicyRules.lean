import Mathlib.Data.Fintype.EquivFin
import Custos.Policy.Backends
import Custos.Service.Isolation

/-!
# Adding a policy rule

`add_policy_rule` changes the engine, then the list of custom rules, and asks the store last. So what the
store refuses is in force all the same, and the list it is offered at every later call still holds it.
`add_policy_rule_atomic_iff` says that a call is atomic exactly where it does not raise.
-/

namespace Custos

namespace PolicyStore

/-- The store takes these rules as a tenant's. -/
def Accepts (s : PolicyStore) (fault : Option StoreExc) (rules : List PolicyRule) : Prop :=
  fault = none ∧ (s.durable = true → (rules.map (·.name)).Nodup)

/-- What the store accepts replaces the tenant's rows. -/
lemma save_of_accepts {s : PolicyStore} {fault : Option StoreExc} {rules : List PolicyRule}
    (accepts : s.Accepts fault rules) (id : String) :
    s.save fault id rules = (.ok (), { s with
      rows := s.rows.filter (·.1 ≠ id) ++ rules.map fun rule => (id, rule) }) := by
  obtain ⟨rfl, distinct⟩ := accepts
  have fine : ¬ (s.durable ∧ ¬ (rules.map (·.name)).Nodup) := fun bad => bad.2 (distinct bad.1)
  unfold save
  dsimp only
  rw [if_neg fine]

/-- What the store refuses leaves it as it was. -/
lemma save_of_not_accepts {s : PolicyStore} {fault : Option StoreExc} {rules : List PolicyRule}
    (refuses : ¬ s.Accepts fault rules) (id : String) : ∃ e, s.save fault id rules = (.error e, s) := by
  cases fault with
  | some exc => exact ⟨.Store exc, rfl⟩
  | none =>
    have bad : s.durable ∧ ¬ (rules.map (·.name)).Nodup := by
      by_contra fine
      exact refuses ⟨rfl, fun durable => by_contra fun no => fine ⟨durable, no⟩⟩
    refine ⟨.Store uniqueViolation, ?_⟩
    unfold save
    dsimp only
    rw [if_pos bad]

/-- The rows a tenant has after its rules are replaced. -/
lemma load_replacement (s : PolicyStore) (id : String) (rules : List PolicyRule) :
    load { s with rows := s.rows.filter (·.1 ≠ id) ++ rules.map fun rule => (id, rule) } id = rules := by
  unfold load
  simp [List.filter_append, List.filter_filter, List.filter_map, Function.comp_def]

/-- Rules that are saved are loaded. -/
lemma load_save_self {s : PolicyStore} {fault : Option StoreExc} {rules : List PolicyRule}
    (accepts : s.Accepts fault rules) (id : String) : (s.save fault id rules).2.load id = rules := by
  rw [save_of_accepts accepts]
  exact s.load_replacement id rules

/-- What the store holds once it has taken a tenant's rules. -/
lemma load_saved {s : PolicyStore} {fault : Option StoreExc} {rules : List PolicyRule}
    (accepts : s.Accepts fault rules) (id other : String) :
    (s.save fault id rules).2.load other = if other = id then rules else s.load other := by
  split
  · rename_i e
    rw [e]
    exact load_save_self accepts id
  · rename_i ne
    exact load_save ne fault rules

/-- Rules that are deleted are not. -/
lemma load_delete_self (s : PolicyStore) (id : String) : (s.delete none id).2.load id = [] := by
  have gone := s.load_replacement id []
  rw [List.map_nil, List.append_nil] at gone
  exact gone

end PolicyStore

/-! ## The store over a table -/

/-- The table of an SQL backend holds the rules of a policy store. -/
def PolicyStore.Represents (s : PolicyStore) (t : PolicyTable) : Prop :=
  ∀ id, t.contents id = (s.load id).map PolicyRule.toDict

namespace SqlBackend

variable {b : SqlBackend} {s : PolicyStore} {t : PolicyTable}

/-- The backend loads what the store does. -/
lemma loadRules_refines (rep : s.Represents t) {id : String} (accepted : b.refuses [id] = none) :
    b.loadRules t id = .ok (s.load id) := by
  unfold loadRules
  rw [accepted]
  dsimp only
  rw [PolicyTable.select_eq, rep id, mapM_fromDict]

/-- A save into the table is one into a durable store, under some fault or none. -/
lemma saveRules_refines (rep : s.Represents t) (id : String)
    (rules : List PolicyRule) :
    ∃ fault, (b.saveRules t id rules).1.toOption = (s.save fault id rules).1.toOption ∧
      (s.save fault id rules).2.Represents (b.saveRules t id rules).2 := by
  rcases b.saveRules_cases t id rules with ⟨storable, t', eq, after⟩ | ⟨no, e, t', eq, kept⟩
  · have accepts : s.Accepts none rules := ⟨rfl, fun _ => storable.distinct⟩
    refine ⟨none, ?_, fun other => ?_⟩
    · rw [eq, PolicyStore.save_of_accepts accepts]
    · rw [eq, after, PolicyStore.load_saved accepts]
      split
      · rfl
      · exact rep other
  · refine ⟨some PolicyStore.uniqueViolation, ?_, fun other => ?_⟩
    · rw [eq]
      rfl
    · rw [eq]
      refine Eq.trans ?_ (rep other)
      unfold PolicyTable.contents
      rw [kept]

lemma deleteTenant_refines (rep : s.Represents t) (id : String) :
    ∃ fault, (b.deleteTenant t id).1.toOption = (s.delete fault id).1.toOption ∧
      (s.delete fault id).2.Represents (b.deleteTenant t id).2 := by
  unfold deleteTenant
  cases b.refuses [id] with
  | some exc => exact ⟨some exc, rfl, rep⟩
  | none =>
    refine ⟨none, rfl, fun other => ?_⟩
    rw [t.contents_delete]
    split
    · rename_i e
      rw [e, PolicyStore.load_delete_self]
      rfl
    · rename_i ne
      rw [load_delete ne]
      exact rep other

end SqlBackend

namespace TenantManager

/-- What a tenant's engine decides of a content; `remote` is what a Rego server behind the engine answers. -/
def decision [Regex] (tm : TenantManager) (remote : Engine → String → Except Exn PolicyResult)
    (id content : String) : Option (Except Exn PolicyResult) :=
  (tm.getStrict id).map fun ctx => ctx.policyEngine.evaluate (remote ctx.policyEngine) content

/-- The call of `add_policy_rule` returns exactly when there is a context to add to and the store takes the
custom rules with the new one. -/
lemma addPolicyRule_ok_iff {tm : TenantManager} {fault : Option StoreExc} {id : String} {rule : PolicyRule} :
    (∃ ctx, (tm.addPolicyRule fault id rule).1 = .ok ctx) ↔
      (∃ found, tm.getOrDefault id = .ok found) ∧
        tm.policyStore.Accepts fault (tm.listPolicyRules id ++ [rule]) := by
  unfold addPolicyRule
  cases tm.getOrDefault id with
  | error e => exact iff_of_false nofun nofun
  | ok found =>
    obtain ⟨key, ctx⟩ := found
    dsimp only [setContext]
    by_cases accepts : tm.policyStore.Accepts fault (tm.listPolicyRules id ++ [rule])
    · have saved := PolicyStore.save_of_accepts accepts id
      rw [listPolicyRules] at saved
      rw [saved]
      exact iff_of_true ⟨_, rfl⟩ ⟨⟨_, rfl⟩, accepts⟩
    · obtain ⟨e, refused⟩ := PolicyStore.save_of_not_accepts accepts id
      rw [listPolicyRules] at refused
      rw [refused]
      refine iff_of_false ?_ fun both => accepts both.2
      rintro ⟨_, ⟨⟩⟩

/-- Once a context is found, the custom rules end with the new one. -/
lemma listPolicyRules_add {tm : TenantManager} {id : String} {found : String × TenantContext}
    (lookup : tm.getOrDefault id = .ok found) (fault : Option StoreExc) (rule : PolicyRule) :
    (tm.addPolicyRule fault id rule).2.listPolicyRules id = tm.listPolicyRules id ++ [rule] := by
  obtain ⟨key, ctx⟩ := found
  rw [addPolicyRule_of_found lookup]
  dsimp only [listPolicyRules]
  rw [Function.update_self]
  rfl

/-! ## Atomicity -/

/-- The tenant's decisions, its custom rules and its stored rules are as they were. -/
structure SameRules [Regex] (id : String) (tm tm' : TenantManager) : Prop where
  decisions : ∀ remote content, tm'.decision remote id content = tm.decision remote id content
  customRules : tm'.listPolicyRules id = tm.listPolicyRules id
  stored : tm'.policyStore.load id = tm.policyStore.load id

/-- If the call raises, the tenant's rules are as before, and a later rule with a fresh name can be added. -/
def AddsAtomically [Regex] (tm : TenantManager) (fault : Option StoreExc) (id : String)
    (rule : PolicyRule) : Prop :=
  ∀ e, (tm.addPolicyRule fault id rule).1 = .error e →
    SameRules id tm (tm.addPolicyRule fault id rule).2 ∧
      ∀ later : PolicyRule, later.name ∉ (tm.listPolicyRules id).map (·.name) → later.name ≠ rule.name →
        ∃ ctx, ((tm.addPolicyRule fault id rule).2.addPolicyRule none id later).1 = .ok ctx

/-- There is a name that is not taken. -/
lemma exists_fresh_name (names : List String) : ∃ name : String, name ∉ names := by
  obtain ⟨name, fresh⟩ := Infinite.exists_notMem_finset names.toFinset
  exact ⟨name, by simpa using fresh⟩

/-- A call is atomic exactly where it does not raise: there is a context to add to, the store does not fail,
and on a durable store no two of the tenant's custom rules with the new one share a name. -/
theorem add_policy_rule_atomic_iff [Regex] (tm : TenantManager) (fault : Option StoreExc) (id : String)
    (rule : PolicyRule) :
    tm.AddsAtomically fault id rule ↔
      (∃ found, tm.getOrDefault id = .ok found) ∧ fault = none ∧
        (tm.policyStore.durable = true → ((tm.listPolicyRules id ++ [rule]).map (·.name)).Nodup) := by
  refine Iff.trans ?_ addPolicyRule_ok_iff
  constructor
  · intro atomic
    cases result : (tm.addPolicyRule fault id rule).1 with
    | ok ctx => exact ⟨ctx, rfl⟩
    | error e =>
      obtain ⟨same, laterOk⟩ := atomic e result
      cases lookup : tm.getOrDefault id with
      | ok found =>
        -- the rule that was refused is among the custom rules
        have grown := listPolicyRules_add lookup fault rule
        rw [same.customRules] at grown
        exact absurd grown (by simp)
      | error e' =>
        obtain ⟨name, fresh⟩ := exists_fresh_name (rule.name :: (tm.listPolicyRules id).map (·.name))
        obtain ⟨ne, unused⟩ := not_or.1 (List.mem_cons.not.1 fresh)
        have later := laterOk { rule with name } unused ne
        have still : (tm.addPolicyRule fault id rule).2 = tm := by
          rw [addPolicyRule, lookup]
        rw [still, addPolicyRule_ok_iff, lookup] at later
        exact nomatch later.1
  · rintro ⟨ctx, ok⟩ e error
    cases ok.symm.trans error

end TenantManager

section Sample

local instance rulesRegex : Regex where
  invalid _ := none
  finditer pattern text := if pattern = text then [text] else []

/-- A manager on a durable store with a tenant and one custom rule. -/
def oneRule : TenantManager :=
  ((TenantManager.register { backend := .InMemoryBackend, policyStore := { durable := true } } quietEnviron 0
    .empty "acme" DEFAULT_QUOTA).2.addPolicyRule none "acme" jokeRule).2

/-- The same rule added once more: the call raises, the list holds the rule twice, the store once, and a rule
with a fresh name can no longer be added. -/
theorem add_policy_rule_twice :
    ¬ oneRule.AddsAtomically none "acme" jokeRule ∧
      ((oneRule.addPolicyRule none "acme" jokeRule).1.toOption.isNone = true ∧
        (oneRule.addPolicyRule none "acme" jokeRule).2.listPolicyRules "acme" = [jokeRule, jokeRule] ∧
        (oneRule.addPolicyRule none "acme" jokeRule).2.policyStore.load "acme" = [jokeRule] ∧
        ((oneRule.addPolicyRule none "acme" jokeRule).2.addPolicyRule none "acme"
          { jokeRule with name := "no_puns" }).1.toOption.isNone = true) := by
  have raised : (oneRule.addPolicyRule none "acme" jokeRule).1 = .error (.Store PolicyStore.uniqueViolation) := rfl
  have list : (oneRule.addPolicyRule none "acme" jokeRule).2.listPolicyRules "acme" = [jokeRule, jokeRule] := by
    decide
  refine ⟨fun atomic => ?_, by rw [raised]; rfl, list, by decide, by decide⟩
  have same := (atomic _ raised).1.customRules
  rw [list] at same
  exact absurd same (by decide)

end Sample

end Custos
