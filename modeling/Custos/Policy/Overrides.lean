import Custos.Policy.Opa
import Mathlib.Order.Bounds.Basic

/-!
# Deny overrides

What the rule loops decide, in the order ALLOW < AUDIT < DENY: for any notion of a rule hitting the content
a decision is the least upper bound of the actions of the rules that hit. `PolicyEngine.evaluate` is this
decision for the rules that fire, and the engine behind an OPA server joins it with the server's verdict.

`deny_overrides` collects what follows of both: which rule is named, that the order of the rules does not
matter for the action, and that a further rule never lowers it.
-/

namespace Custos

/-! ## The order of the actions -/

def PolicyAction.rank : PolicyAction → Nat
  | .ALLOW => 0
  | .AUDIT => 1
  | .DENY => 2

/-- The rank tells the actions apart. -/
lemma PolicyAction.rank_injective : Function.Injective PolicyAction.rank := by
  intro a b same
  cases a <;> cases b <;> first | rfl | cases same

/-- A deny is above an audit, and an audit above an allow. -/
instance : PartialOrder PolicyAction := PartialOrder.lift PolicyAction.rank PolicyAction.rank_injective

namespace PolicyAction

lemma allow_le (a : PolicyAction) : .ALLOW ≤ a := Nat.zero_le a.rank

/-- DENY is the greatest. -/
lemma le_deny (a : PolicyAction) : a ≤ .DENY := by
  show a.rank ≤ 2
  cases a <;> simp [rank]

end PolicyAction

/-! ## The decision of a rule list -/

section Overrides

variable (hits : PolicyRule → Bool)

/-- The rule hits, and this is what it does. -/
def PolicyRule.Acts (action : PolicyAction) (rule : PolicyRule) : Prop :=
  rule.action = action ∧ hits rule = true

instance (action : PolicyAction) : DecidablePred (PolicyRule.Acts hits action) := fun rule =>
  inferInstanceAs (Decidable (rule.action = action ∧ hits rule = true))

/-- A rule that denies decides, else one that audits. -/
def decision (deny audit : Option PolicyRule) : PolicyResult :=
  match deny, audit with
  | some rule, _ =>
    { allowed := false, action := .DENY, triggeredRule := some rule.name, reason := rule.reason }
  | none, some rule =>
    { allowed := true, action := .AUDIT, triggeredRule := some rule.name, reason := rule.reason }
  | none, none =>
    { allowed := true, action := .ALLOW, triggeredRule := none, reason := "No policy violations detected" }

/-- The first rule that hits and does so. -/
def firstActing (action : PolicyAction) (rules : List PolicyRule) : Option PolicyRule :=
  rules.find? fun rule => PolicyRule.Acts hits action rule

/-- The decision of a rule list. -/
def overrides (rules : List PolicyRule) : PolicyResult :=
  decision (firstActing hits .DENY rules) (firstActing hits .AUDIT rules)

/-- What the rules that hit do. -/
def hitActions (rules : List PolicyRule) : Set PolicyAction :=
  { a | ∃ rule ∈ rules, PolicyRule.Acts hits a rule }

variable {hits} {rules : List PolicyRule}

/-- A rule that acts is the first. -/
lemma firstActing_cons_of_acts {action : PolicyAction} {rule : PolicyRule}
    (acts : PolicyRule.Acts hits action rule) : firstActing hits action (rule :: rules) = some rule :=
  List.find?_cons_of_pos (decide_eq_true acts)

lemma firstActing_cons_of_not_acts {action : PolicyAction} {rule : PolicyRule}
    (no : ¬ PolicyRule.Acts hits action rule) :
    firstActing hits action (rule :: rules) = firstActing hits action rules :=
  List.find?_cons_of_neg fun acts => no (of_decide_eq_true acts)

/-- Some rule acts where its action is among those that hit. -/
lemma firstActing_isSome {action : PolicyAction} :
    (∃ rule, firstActing hits action rules = some rule) ↔ action ∈ hitActions hits rules := by
  rw [← Option.isSome_iff_exists, firstActing, List.find?_isSome]
  simp [hitActions]

lemma firstActing_eq_none {action : PolicyAction} :
    firstActing hits action rules = none ↔ action ∉ hitActions hits rules := by
  rw [← firstActing_isSome, not_exists, Option.eq_none_iff_forall_ne_some]

/-- The action is the least one that no rule that hits is above. -/
lemma overrides_isLUB (hits : PolicyRule → Bool) (rules : List PolicyRule) :
    IsLUB (hitActions hits rules) (overrides hits rules).action := by
  unfold overrides
  cases denies : firstActing hits .DENY rules with
  | some rule => exact ⟨fun a _ => a.le_deny, fun b upper => upper (firstActing_isSome.1 ⟨rule, denies⟩)⟩
  | none =>
    have noDeny := firstActing_eq_none.1 denies
    cases audits : firstActing hits .AUDIT rules with
    | some rule =>
      refine ⟨fun a mem => ?_, fun b upper => upper (firstActing_isSome.1 ⟨rule, audits⟩)⟩
      cases a with
      | DENY => exact absurd mem noDeny
      | AUDIT => exact le_rfl
      | ALLOW => exact PolicyAction.allow_le _
    | none =>
      have noAudit := firstActing_eq_none.1 audits
      refine ⟨fun a mem => ?_, fun b _ => b.allow_le⟩
      cases a with
      | DENY => exact absurd mem noDeny
      | AUDIT => exact absurd mem noAudit
      | ALLOW => exact le_rfl

/-- A rule that denies overrides all others. -/
lemma overrides_action_eq_deny :
    (overrides hits rules).action = .DENY ↔ .DENY ∈ hitActions hits rules := by
  rw [← firstActing_isSome, overrides]
  cases firstActing hits .DENY rules with
  | some rule => simp [decision]
  | none => cases firstActing hits .AUDIT rules <;> simp [decision]

lemma overrides_action_eq_audit : (overrides hits rules).action = .AUDIT ↔
    .DENY ∉ hitActions hits rules ∧ .AUDIT ∈ hitActions hits rules := by
  rw [← firstActing_eq_none, ← firstActing_isSome, overrides]
  cases firstActing hits .DENY rules with
  | some rule => simp [decision]
  | none => cases firstActing hits .AUDIT rules <;> simp [decision]

/-- What no rule denies or audits is allowed. -/
lemma overrides_action_eq_allow : (overrides hits rules).action = .ALLOW ↔
    .DENY ∉ hitActions hits rules ∧ .AUDIT ∉ hitActions hits rules := by
  rw [← firstActing_eq_none, ← firstActing_eq_none, overrides]
  cases firstActing hits .DENY rules with
  | some rule => simp [decision]
  | none => cases firstActing hits .AUDIT rules <;> simp [decision]

/-- The rule named is the first that hits and does what is decided. -/
lemma overrides_triggeredRule : (overrides hits rules).triggeredRule =
    if (overrides hits rules).action = .ALLOW then none
    else (firstActing hits (overrides hits rules).action rules).map (·.name) := by
  unfold overrides
  cases denies : firstActing hits .DENY rules with
  | some rule => simp [decision, denies]
  | none => cases audits : firstActing hits .AUDIT rules <;> simp [decision, audits]

/-- The actions that hit depend on which rules there are. -/
lemma hitActions_congr {rules' : List PolicyRule} (same : ∀ rule, rule ∈ rules ↔ rule ∈ rules') :
    hitActions hits rules = hitActions hits rules' :=
  Set.ext fun _ => exists_congr fun rule => and_congr_left' (same rule)

/-- So neither the order of the rules nor a rule that is listed again matters for it. -/
lemma overrides_action_congr {rules' : List PolicyRule} (same : ∀ rule, rule ∈ rules ↔ rule ∈ rules') :
    (overrides hits rules).action = (overrides hits rules').action :=
  (overrides_isLUB hits rules).unique (hitActions_congr same ▸ overrides_isLUB hits rules')

/-- More rules decide no lower. -/
lemma overrides_action_mono {rules' : List PolicyRule} (more : rules ⊆ rules') :
    (overrides hits rules).action ≤ (overrides hits rules').action :=
  (overrides_isLUB hits rules).mono (overrides_isLUB hits rules') fun _ ⟨rule, mem, acts⟩ =>
    ⟨rule, more mem, acts⟩

end Overrides

/-! ## The regex engine -/

section

variable [Regex]

instance (rule : PolicyRule) (content : String) : Decidable (rule.Fires content) :=
  decidable_of_iff (∃ matched ∈ (Regex.search rule.pattern content).toOption.join,
      rule.name ∈ POST_VALIDATION_RULES → luhnValid (String.ofList (matched.toList.filter (·.isDigit)))) <| by
    refine exists_congr fun matched => and_congr_left' ?_
    cases Regex.search rule.pattern content <;> simp [Except.toOption]

/-- The rules that hit are those that fire. -/
def fires (content : String) (rule : PolicyRule) : Bool := decide (rule.Fires content)

/-- A rule acts by firing. -/
lemma acts_fires {action : PolicyAction} {content : String} {rule : PolicyRule} :
    PolicyRule.Acts (fires content) action rule ↔ rule.action = action ∧ rule.Fires content := by
  rw [PolicyRule.Acts, fires, decide_eq_true_iff]

namespace PolicyEngine

/-- The loop decides so, with the first audit hit it has carried so far. -/
lemma evaluateFrom_decision {content : String} {d : PolicyResult} {rules : List PolicyRule}
    {hit : Option PolicyRule} (ok : evaluateFrom content hit rules = .ok d) :
    d = decision (firstActing (fires content) .DENY rules)
      (hit.or (firstActing (fires content) .AUDIT rules)) := by
  induction rules generalizing hit with
  | nil =>
    cases hit with
    | none =>
      cases ok
      rfl
    | some rule =>
      cases ok
      rfl
  | cons rule rules ih =>
    rcases evaluateFrom_cons content hit rule rules with
      ⟨e, -, eq⟩ | ⟨-, ⟨denies, eq⟩ | ⟨noDeny, hit', audited, unaudited, eq⟩⟩
    · cases eq.symm.trans ok
    · cases eq.symm.trans ok
      rw [firstActing_cons_of_acts (acts_fires.2 denies)]
      rfl
    · rw [ih (eq.symm.trans ok), firstActing_cons_of_not_acts fun acts => noDeny (acts_fires.1 acts)]
      by_cases audits : rule.Audits content
      · rw [firstActing_cons_of_acts (acts_fires.2 audits), audited audits, Option.or_assoc, Option.some_or]
      · rw [firstActing_cons_of_not_acts fun acts => audits (acts_fires.1 acts), unaudited audits]

/-- What the engine decides is what the rules that fire decide. -/
lemma evaluate_overrides {e : PolicyEngine} {content : String} {d : PolicyResult}
    (ok : e.evaluate content = .ok d) : d = overrides (fires content) e.rules :=
  evaluateFrom_decision ok

/-- Rules that compile can be evaluated. -/
lemma evaluable_of_compiles {rules : List PolicyRule}
    (compile : ∀ rule ∈ rules, Regex.invalid rule.pattern = none) (content : String) :
    Evaluable rules content := by
  intro earlier rule later at_rule invalid
  exact absurd (compile rule (at_rule ▸ List.mem_append_right _ (.head _))) invalid

/-- Where every pattern compiles, the engine answers. -/
lemma evaluate_of_compiles {e : PolicyEngine} (compile : ∀ rule ∈ e.rules, Regex.invalid rule.pattern = none)
    (content : String) : e.evaluate content = .ok (overrides (fires content) e.rules) := by
  obtain ⟨d, ok⟩ := evaluate_ok_iff.2 (evaluable_of_compiles compile content)
  rw [ok, evaluate_overrides ok]

omit [Regex] in
@[simp] lemma addRule_rules (e : PolicyEngine) (rule : PolicyRule) :
    (e.addRule rule).rules = e.rules ++ [rule] := rfl

/-- With a further rule the engine decides no lower. -/
lemma evaluate_addRule_le {e : PolicyEngine} {rule : PolicyRule} {content : String} {d d' : PolicyResult}
    (before : e.evaluate content = .ok d) (after : (e.addRule rule).evaluate content = .ok d') :
    d.action ≤ d'.action := by
  rw [evaluate_overrides before, evaluate_overrides after]
  exact overrides_action_mono (List.subset_append_left _ _)

end PolicyEngine

end

/-! ## The engine behind an OPA server -/

/-- `add_rule`: the rule is enforced locally, before the server is asked. -/
def OPAPolicyEngine.addRule (e : OPAPolicyEngine) (rule : PolicyRule) : OPAPolicyEngine :=
  { e with customRules := e.customRules.addRule rule }

/-- What a reply that is read decides, where an audit flag counts or does not. -/
def Interpreted.verdict (audits : Bool) (v : Interpreted) : PolicyAction :=
  if ¬ v.allowed then .DENY else if audits ∧ v.auditFlag.IsTrue then .AUDIT else .ALLOW

/-- What a reply decides. No decision is read from a body that raises. -/
def Reply.verdict (audits : Bool) (reply : Reply) : PolicyAction :=
  match reply.data with
  | .error _ => .DENY
  | .ok data =>
    match interpret data with
    | .error _ => .DENY
    | .ok v => v.verdict audits

/-- No reply is a denial. -/
lemma Reply.verdict_of_error {audits : Bool} {reply : Reply} {exc : String} (fails : reply.data = .error exc) :
    reply.verdict audits = .DENY := by
  unfold Reply.verdict
  rw [fails]

/-- The verdict of a reply is that of what is read of it. -/
lemma Reply.verdict_of_ok {audits : Bool} {reply : Reply} {data : Json} (body : reply.data = .ok data)
    {v : Interpreted} (read : interpret data = .ok v) : reply.verdict audits = v.verdict audits := by
  unfold Reply.verdict
  rw [body]
  dsimp only
  rw [read]

/-- The greater of two actions is their least upper bound. -/
lemma isLUB_pair_of_le {a b : PolicyAction} (le : a ≤ b) : IsLUB {a, b} b := by
  refine ⟨?_, fun c upper => upper (.inr rfl)⟩
  rintro c (rfl | rfl)
  · exact le
  · exact le_rfl

namespace OPAPolicyEngine

/-- A reply that is read is joined with what the engine's own rules decided. -/
lemma resolve_isLUB {audits : Bool} {custom : PolicyResult} {v : Interpreted} {r : OpaResult}
    (no : custom.action ≠ .DENY) (ok : resolve audits custom v = .ok r) :
    IsLUB {custom.action, v.verdict audits} r.action := by
  unfold resolve at ok
  unfold Interpreted.verdict
  split at ok
  · rename_i denied
    rw [if_pos denied, (v.denied_ok ok).1]
    exact isLUB_pair_of_le (PolicyAction.le_deny _)
  · rename_i allowed
    rw [if_neg allowed]
    have le_audit : custom.action ≤ .AUDIT := by
      cases action : custom.action with
      | DENY => exact absurd action no
      | AUDIT => exact le_rfl
      | ALLOW => exact PolicyAction.allow_le _
    split at ok
    · rename_i flagged
      rw [if_pos flagged, (v.audited_ok ok).1]
      exact isLUB_pair_of_le le_audit
    · rename_i unflagged
      rw [if_neg unflagged, Set.pair_comm]
      cases ok
      have action : (v.allowedOver custom).action = custom.action := by
        unfold Interpreted.allowedOver
        split
        · rename_i audit
          exact audit.symm
        · rename_i noAudit
          cases action : custom.action with
          | DENY => exact absurd action no
          | AUDIT => exact absurd action noAudit
          | ALLOW => rfl
      rw [action]
      exact isLUB_pair_of_le (PolicyAction.allow_le _)

variable [Regex]

/-- The engine joins what its own rules decide with the verdict of the server. -/
lemma answer_isLUB {e : OPAPolicyEngine} {audits : Bool} {reply : Reply} {content : String}
    {custom : PolicyResult} {r : OpaResult} (own : e.customRules.evaluate content = .ok custom)
    (ok : e.answer audits reply content = .ok r) : IsLUB {custom.action, reply.verdict audits} r.action := by
  by_cases deny : custom.action = .DENY
  · rw [answer_of_deny own deny] at ok
    cases ok
    rw [Set.pair_comm]
    exact isLUB_pair_of_le (deny ▸ PolicyAction.le_deny _)
  · cases body : reply.data with
    | error exc =>
      rw [answer_of_unavailable own deny body] at ok
      cases ok
      rw [Reply.verdict_of_error body]
      exact isLUB_pair_of_le (PolicyAction.le_deny _)
    | ok data =>
      rw [answer_of_data own deny body] at ok
      cases read : interpret data with
      | error exn =>
        rw [read] at ok
        cases ok
      | ok v =>
        rw [read] at ok
        rw [Reply.verdict_of_ok body read]
        exact resolve_isLUB deny ok

/-- With a further rule the engine decides no lower on the same reply. -/
lemma answer_addRule_le {e : OPAPolicyEngine} {rule : PolicyRule} {audits : Bool} {reply : Reply}
    {content : String} {r r' : OpaResult} (before : e.answer audits reply content = .ok r)
    (after : (e.addRule rule).answer audits reply content = .ok r') : r.action ≤ r'.action := by
  cases own : e.customRules.evaluate content with
  | error exn => cases (answer_of_error own).symm.trans before
  | ok custom =>
    cases own' : (e.addRule rule).customRules.evaluate content with
    | error exn => cases (answer_of_error own').symm.trans after
    | ok custom' =>
      have joined := answer_isLUB own' after
      refine (answer_isLUB own before).2 ?_
      rintro a (rfl | rfl)
      · exact (PolicyEngine.evaluate_addRule_le own own').trans (joined.1 (.inl rfl))
      · exact joined.1 (.inr rfl)

/-- The engine answers where its rules compile and the reply is readable. -/
lemma exists_answer {e : OPAPolicyEngine} {audits : Bool} {reply : Reply}
    (compile : ∀ rule ∈ e.customRules.rules, Regex.invalid rule.pattern = none) (readable : reply.Readable audits)
    (content : String) : ∃ r, e.answer audits reply content = .ok r := by
  obtain ⟨r, ok, -⟩ := (e.answer_closed_iff audits reply content).2
    ⟨PolicyEngine.evaluable_of_compiles compile content, .inr readable⟩
  exact ⟨r, ok⟩

end OPAPolicyEngine

/-! ## Every engine -/

section

variable [Regex]

/-- Rules that compile still do with a further one that does. -/
lemma forall_mem_append_rule {rules : List PolicyRule} {rule : PolicyRule}
    (compile : ∀ rule ∈ rules, Regex.invalid rule.pattern = none) (compiles : Regex.invalid rule.pattern = none) :
    ∀ r ∈ rules ++ [rule], Regex.invalid r.pattern = none := by
  intro r mem
  rcases List.mem_append.1 mem with mem | mem
  · exact compile r mem
  · exact List.mem_singleton.1 mem ▸ compiles

/-- The engine decides, and where it still decides with the further rule, as it does if the rule's pattern
compiles, it decides no lower. -/
def Tightens (rule : PolicyRule) (before after : Except Exn PolicyAction) : Prop :=
  ∃ a, before = .ok a ∧ (Regex.invalid rule.pattern = none → ∃ b, after = .ok b) ∧ ∀ b, after = .ok b → a ≤ b

/-- A further rule never lowers what the engine decides. -/
lemma PolicyEngine.addRule_tightens {e : PolicyEngine}
    (compile : ∀ rule ∈ e.rules, Regex.invalid rule.pattern = none) (rule : PolicyRule) (content : String) :
    Tightens rule ((e.evaluate content).map (·.action)) (((e.addRule rule).evaluate content).map (·.action)) := by
  have before := evaluate_of_compiles compile content
  refine ⟨_, by rw [before]; rfl, fun compiles => ?_, fun b after => ?_⟩
  · have after := evaluate_of_compiles (e := e.addRule rule) (forall_mem_append_rule compile compiles) content
    exact ⟨_, by rw [after]; rfl⟩
  · cases answered : (e.addRule rule).evaluate content with
    | error exn =>
      rw [answered] at after
      cases after
    | ok d' =>
      rw [answered] at after
      cases after
      exact evaluate_addRule_le before answered

lemma OPAPolicyEngine.addRule_tightens {e : OPAPolicyEngine}
    (compile : ∀ rule ∈ e.customRules.rules, Regex.invalid rule.pattern = none) {audits : Bool} {reply : Reply}
    (readable : reply.Readable audits) (rule : PolicyRule) (content : String) :
    Tightens rule ((e.answer audits reply content).map (·.action))
      (((e.addRule rule).answer audits reply content).map (·.action)) := by
  obtain ⟨r, before⟩ := exists_answer compile readable content
  refine ⟨r.action, by rw [before]; rfl, fun compiles => ?_, fun b after => ?_⟩
  · obtain ⟨r', after⟩ := exists_answer (e := e.addRule rule) (forall_mem_append_rule compile compiles) readable content
    exact ⟨r'.action, by rw [after]; rfl⟩
  · cases answered : (e.addRule rule).answer audits reply content with
    | error exn =>
      rw [answered] at after
      cases after
    | ok r' =>
      rw [answered] at after
      cases after
      exact answer_addRule_le before answered

end

/-- Decisions are deny-overrides and monotone in the rules. -/
theorem deny_overrides [Regex] (rules : List PolicyRule)
    (compile : ∀ rule ∈ rules, Regex.invalid rule.pattern = none) (content : String) :
    (∃ d, ({ rules } : PolicyEngine).evaluate content = .ok d ∧
      (d.action = .DENY ↔ ∃ rule ∈ rules, rule.Denies content) ∧
      (d.action = .AUDIT ↔ (¬ ∃ rule ∈ rules, rule.Denies content) ∧ ∃ rule ∈ rules, rule.Audits content) ∧
      (d.action = .ALLOW ↔ (¬ ∃ rule ∈ rules, rule.Denies content) ∧ ¬ ∃ rule ∈ rules, rule.Audits content) ∧
      d.triggeredRule = (if d.action = .ALLOW then none
        else (rules.find? fun rule => rule.action = d.action ∧ rule.Fires content).map (·.name)) ∧
      ∀ rules', rules.Perm rules' →
        ∃ d', ({ rules := rules' } : PolicyEngine).evaluate content = .ok d' ∧ d'.action = d.action) ∧
    ∀ rule, Tightens rule ((({ rules } : PolicyEngine).evaluate content).map (·.action))
        (((({ rules } : PolicyEngine).addRule rule).evaluate content).map (·.action)) ∧
      ∀ opaUrl post, let opa : OPAPolicyEngine := { opaUrl, customRules := { rules } }
        ((post opa.url (OPAPolicyEngine.input content)).Readable true →
          Tightens rule ((opa.evaluate post content).map (·.action))
            (((opa.addRule rule).evaluate post content).map (·.action))) ∧
        ∀ clientId actionType,
          (post opa.url (OPAPolicyEngine.inputWithMetadata content clientId actionType)).Readable false →
          Tightens rule ((opa.evaluateWithMetadata post content clientId actionType).map (·.action))
            (((opa.addRule rule).evaluateWithMetadata post content clientId actionType).map (·.action)) := by
  refine ⟨⟨_, PolicyEngine.evaluate_of_compiles compile content, ?_, ?_, ?_, ?_, ?_⟩, fun rule =>
    ⟨PolicyEngine.addRule_tightens compile rule content, fun opaUrl post => ⟨fun readable => ?_,
      fun clientId actionType readable => ?_⟩⟩⟩
  · rw [overrides_action_eq_deny]
    simp [hitActions, acts_fires, PolicyRule.Denies]
  · rw [overrides_action_eq_audit]
    simp [hitActions, acts_fires, PolicyRule.Denies, PolicyRule.Audits]
  · rw [overrides_action_eq_allow]
    simp [hitActions, acts_fires, PolicyRule.Denies, PolicyRule.Audits]
  · rw [overrides_triggeredRule]
    simp only [firstActing, acts_fires]
  · intro rules' perm
    refine ⟨_, PolicyEngine.evaluate_of_compiles (fun rule mem => compile rule (perm.mem_iff.2 mem)) content, ?_⟩
    exact overrides_action_congr fun rule => perm.mem_iff.symm
  · rw [OPAPolicyEngine.evaluate_eq, OPAPolicyEngine.evaluate_eq]
    exact OPAPolicyEngine.addRule_tightens compile readable rule content
  · rw [OPAPolicyEngine.evaluateWithMetadata_eq, OPAPolicyEngine.evaluateWithMetadata_eq]
    exact OPAPolicyEngine.addRule_tightens compile readable rule content

section Sample

/-- A pattern without special characters. -/
local instance overridesRegex : Regex := opaRegex

/-- An audit that stands before a deny. -/
def auditThenDeny : List PolicyRule :=
  [{ name := "flag_hello", pattern := "hello", action := .AUDIT, reason := "A greeting" },
   { name := "block_hello", pattern := "hello", action := .DENY, reason := "No greetings" }]

/-- A rule that denies behind one that audits. -/
theorem deny_overrides_sample : ∃ d, ({ rules := auditThenDeny } : PolicyEngine).evaluate "hello" = .ok d ∧
    d.action = .DENY ∧ d.triggeredRule = some "block_hello" ∧
    ∃ d', ({ rules := auditThenDeny.reverse } : PolicyEngine).evaluate "hello" = .ok d' ∧ d'.action = .DENY := by
  obtain ⟨⟨d, ok, deny, -, -, named, permuted⟩, -⟩ := deny_overrides auditThenDeny (fun _ _ => rfl) "hello"
  have denies : d.action = .DENY := by
    refine deny.2 ⟨_, .tail _ (.head _), rfl, "hello", rfl, fun listed => ?_⟩
    simp [POST_VALIDATION_RULES] at listed
  obtain ⟨d', ok', same⟩ := permuted _ (List.reverse_perm _).symm
  exact ⟨d, ok, denies, by rw [named, denies]; decide, d', ok', same.trans denies⟩

end Sample

end Custos
