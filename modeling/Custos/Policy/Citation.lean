import Custos.Policy.Engine
import Mathlib.Data.Finset.Basic
import Mathlib.Data.List.Sort
import Mathlib.Data.String.Basic

/-!
# Policy citation

`custos/policy_citation.py`: the canonical bytes of a policy set and the digest a record may cite. A
digest exists for an engine exactly when everything it consults is held in the process or pinned
(`enginePolicyDigest_isSome`), whatever the tools.
-/

namespace Custos

/-- `sorted(s)`, of a set of strings. -/
def sortedSet (s : Finset String) : List String :=
  Quotient.liftOn s.val (fun l => l.insertionSort (· ≤ ·)) fun _ _ perm =>
    List.Perm.eq_of_pairwise (fun _ _ _ _ => le_antisymm) (List.pairwise_insertionSort _ _)
      (List.pairwise_insertionSort _ _)
      ((List.perm_insertionSort _ _).trans (perm.trans (List.perm_insertionSort _ _).symm))

/-- `_rule_to_dict`. -/
def ruleToDict (rule : PolicyRule) : Json :=
  .obj [("name", .str rule.name), ("pattern", .str rule.pattern), ("action", .str rule.action.value),
    ("reason", .str rule.reason)]

def REGEX_ENGINE : String := "regex"

section

variable [Platform]

/-- `_rule_to_canonical`. -/
def ruleToCanonical (rule : PolicyRule) : String := dumpsCanonical (ruleToDict rule)

/-- `sorted(_rule_to_canonical(r) for r in rules)`. -/
def canonicalRules (rules : List PolicyRule) : Json :=
  .arr (((rules.map ruleToCanonical).insertionSort (· ≤ ·)).map .str)

/-- `canonical_policy_bytes`. -/
def canonicalPolicyBytes (tools : Finset String) (rules : List PolicyRule) : String :=
  dumpsCanonical <| .obj
    [("tools", .arr ((sortedSet tools).map .str)), ("rules", canonicalRules rules)]

/-- `rules_canonical_digest`. -/
def rulesCanonicalDigest (rules : List PolicyRule) : String :=
  sha256 (dumpsCanonical (canonicalRules rules))

/-- `engine_citation_bytes`. -/
def engineCitationBytes (tools : Finset String) (rules : List PolicyRule) (engineKind : String)
    (opaPolicyDigest : Option String) : String :=
  if engineKind = REGEX_ENGINE then canonicalPolicyBytes tools rules
  else
    dumpsCanonical <| .obj
      [("tools", .arr ((sortedSet tools).map .str)), ("engine", .str engineKind),
       ("rules", canonicalRules rules), ("opa_policy", .ofOption opaPolicyDigest)]

/-- `engine_policy_digest`: none where the engine consults a policy that cannot be hashed. -/
def enginePolicyDigest (tools : Finset String) (rules : List PolicyRule) (engineKind : String)
    (opaPolicyDigest : Option String) : Option String :=
  if engineKind ≠ REGEX_ENGINE ∧ ¬ truthy opaPolicyDigest then none
  else some (sha256 (engineCitationBytes tools rules engineKind opaPolicyDigest))

/-- `content_engine_digest`: the digest over no tools. -/
def contentEngineDigest (environ : Environ) (e : Engine) : Option String :=
  enginePolicyDigest ∅ e.citationRules e.kind (e.opaPolicyDigest environ)

/-- `rules_digest`, of the engine that has one. -/
def Engine.rulesDigest : Engine → Option String
  | .regex e => some (rulesCanonicalDigest e.rules)
  | _ => none

omit [Platform] in
/-- Everything the engine consults is in the process or pinned. -/
def Engine.Citable (environ : Environ) (e : Engine) : Prop :=
  e.kind = REGEX_ENGINE ∨ truthy (e.opaPolicyDigest environ)

omit [Platform] in
instance (environ : Environ) (e : Engine) : Decidable (e.Citable environ) :=
  inferInstanceAs (Decidable (_ ∨ _))

/-- There is a digest exactly where the engine can be cited. -/
lemma enginePolicyDigest_isSome {environ : Environ} {e : Engine} {tools : Finset String} :
    (enginePolicyDigest tools e.citationRules e.kind (e.opaPolicyDigest environ)).isSome ↔
      e.Citable environ := by
  unfold enginePolicyDigest Engine.Citable
  by_cases kind : e.kind = REGEX_ENGINE
  · simp [kind]
  · by_cases pin : truthy (e.opaPolicyDigest environ) = true
    · simp [pin]
    · simp [kind, pin]

/-- Whether there is a digest does not depend on the rules. -/
lemma enginePolicyDigest_isSome_congr (tools : Finset String) (rules rules' : List PolicyRule)
    (kind : String) (pin : Option String) :
    (enginePolicyDigest tools rules kind pin).isSome = (enginePolicyDigest tools rules' kind pin).isSome := by
  unfold enginePolicyDigest
  split_ifs <;> rfl

/-! ## What a digest determines -/

/-- What the text of a policy says of the rules is their canonical form. -/
lemma sortKeys_canonicalRules (rules : List PolicyRule) :
    (canonicalRules rules).sortKeys = canonicalRules rules := by
  unfold canonicalRules
  exact Json.sortKeys_map_str _

lemma length_eq_of_canonicalRules {rules rules' : List PolicyRule}
    (e : canonicalRules rules = canonicalRules rules') : rules.length = rules'.length := by
  have same := congrArg List.length (Json.arr.inj e)
  simpa using same

/-- The digest depends on the canonical form. -/
lemma enginePolicyDigest_congr {rules rules' : List PolicyRule}
    (e : canonicalRules rules = canonicalRules rules') (tools : Finset String) (kind : String)
    (pin : Option String) :
    enginePolicyDigest tools rules kind pin = enginePolicyDigest tools rules' kind pin := by
  unfold enginePolicyDigest engineCitationBytes canonicalPolicyBytes
  rw [e]

/-- Where the digest and the encoder are injective, the digest of the rules determines their canonical
form. -/
lemma canonicalRules_of_rulesCanonicalDigest (free : CollisionFree)
    (inj : Function.Injective (dumpsCompact : Json → String)) {rules rules' : List PolicyRule}
    (e : rulesCanonicalDigest rules = rulesCanonicalDigest rules') :
    canonicalRules rules = canonicalRules rules' := by
  have sorted := inj (free.sha256 e)
  rwa [sortKeys_canonicalRules, sortKeys_canonicalRules] at sorted

/-- And so does the digest of a policy. -/
lemma canonicalRules_of_enginePolicyDigest (free : CollisionFree)
    (inj : Function.Injective (dumpsCompact : Json → String)) {rules rules' : List PolicyRule}
    {tools : Finset String} {kind : String} {pin : Option String}
    (some : (enginePolicyDigest tools rules kind pin).isSome)
    (e : enginePolicyDigest tools rules kind pin = enginePolicyDigest tools rules' kind pin) :
    canonicalRules rules = canonicalRules rules' := by
  have look : ∀ {kvs kvs' : List (String × Json)}, (kvs.map Prod.fst).Nodup →
      kvs.lookup "rules" = .some (canonicalRules rules) →
      kvs'.lookup "rules" = .some (canonicalRules rules') →
      dumpsCanonical (.obj kvs) = dumpsCanonical (.obj kvs') →
      canonicalRules rules = canonicalRules rules' := by
    intro kvs kvs' nd h h' texts
    have same := Json.lookup_eq_of_sortKeys_eq nd (inj texts) "rules"
    rw [h, h'] at same
    simpa [sortKeys_canonicalRules] using same
  unfold enginePolicyDigest at some e
  split_ifs at some e
  · cases some
  · have texts := free.sha256 (Option.some.inj e)
    unfold engineCitationBytes canonicalPolicyBytes at texts
    split_ifs at texts
    · exact look (by simp) rfl rfl texts
    · exact look (by simp) rfl rfl texts

/-! ## The engine's memo -/

/-- The regex engine as the source holds it, with the digest of its rules once it has been asked for. -/
structure MemoEngine extends PolicyEngine where
  rulesDigestCache : Option String := none
  valid : ∀ dg ∈ rulesDigestCache, dg = rulesCanonicalDigest rules := by nofun

namespace MemoEngine

/-- `add_rule`. -/
def addRule (e : MemoEngine) (rule : PolicyRule) : MemoEngine :=
  { e.toPolicyEngine.addRule rule with }

/-- `rules_digest`. -/
def rulesDigest (e : MemoEngine) : String × MemoEngine :=
  match e.rulesDigestCache with
  | some dg => (dg, e)
  | none =>
    (rulesCanonicalDigest e.rules,
      { e.toPolicyEngine with
        rulesDigestCache := some (rulesCanonicalDigest e.rules)
        valid := fun _ mem => (Option.some.inj mem).symm })

@[simp] lemma addRule_toPolicyEngine (e : MemoEngine) (rule : PolicyRule) :
    (e.addRule rule).toPolicyEngine = e.toPolicyEngine.addRule rule := rfl

/-- The memo is not to be seen: what the engine answers is the digest of the rules it holds. -/
theorem rulesDigest_eq (e : MemoEngine) :
    some e.rulesDigest.1 = (Engine.regex e.toPolicyEngine).rulesDigest ∧
      e.rulesDigest.2.toPolicyEngine = e.toPolicyEngine := by
  unfold rulesDigest
  cases memo : e.rulesDigestCache with
  | none => exact ⟨rfl, rfl⟩
  | some dg => exact ⟨congrArg some (e.valid dg memo), rfl⟩

end MemoEngine

end

end Custos
