import Custos.Policy.Citation
import Custos.Policy.Overrides
import Custos.Reference
import Mathlib.Data.Finset.Dedup
import Mathlib.Data.List.Perm.Basic

/-!
# A policy digest identifies the policy

`engine_policy_digest` of `custos/policy_citation.py`, of the tools in the order in which they come in. Two
policies have one digest exactly when they have the same kind of engine, the same pin where that engine has
a server behind it, and the same tools and rules up to their order (`enginePolicyDigestOf_eq_iff`). Regex
engines with one digest therefore decide alike on every content (`policy_identified`).
-/

namespace Custos

/-! ## Sorting forgets the order and nothing else -/

/-- Two lists are sorted alike where one is the other in another order. -/
lemma insertionSort_eq_iff_perm {xs ys : List String} :
    xs.insertionSort (· ≤ ·) = ys.insertionSort (· ≤ ·) ↔ xs.Perm ys := by
  constructor
  · intro same
    exact (List.perm_insertionSort (· ≤ ·) xs).symm.trans (same ▸ List.perm_insertionSort (· ≤ ·) ys)
  · intro perm
    refine List.Perm.eq_of_pairwise (fun _ _ _ _ => le_antisymm) (List.pairwise_insertionSort _ _)
      (List.pairwise_insertionSort _ _) ?_
    exact (List.perm_insertionSort _ _).trans (perm.trans (List.perm_insertionSort _ _).symm)

/-- A list of distinct names is sorted as the set of them. -/
lemma sortedSet_toFinset {tools : List String} (nd : tools.Nodup) :
    sortedSet tools.toFinset = tools.insertionSort (· ≤ ·) := by
  have listed : tools.toFinset.val = (tools : Multiset String) := by
    rw [List.toFinset_val, nd.dedup]
  unfold sortedSet
  rw [listed]
  rfl

lemma map_str_injective : Function.Injective (List.map Json.str) :=
  List.map_injective_iff.2 fun _ _ same => Json.str.inj same

/-- The texts tell the actions apart. -/
lemma PolicyAction.value_injective : Function.Injective PolicyAction.value := by
  intro a b same
  cases a <;> cases b <;> first | rfl | exact absurd same (by decide)

section

variable [Platform]

/-! ## The digest of the tools as they come in -/

/-- `engine_citation_bytes`, of the tools in the order in which they come in. -/
def engineCitationBytesOf (tools : List String) (rules : List PolicyRule) (engineKind : String)
    (opaPolicyDigest : Option String) : String :=
  let tools := Json.arr ((tools.insertionSort (· ≤ ·)).map .str)
  if engineKind = REGEX_ENGINE then
    dumpsCanonical <| .obj [("tools", tools), ("rules", canonicalRules rules)]
  else
    dumpsCanonical <| .obj
      [("tools", tools), ("engine", .str engineKind), ("rules", canonicalRules rules),
       ("opa_policy", .ofOption opaPolicyDigest)]

/-- `engine_policy_digest`, of the tools in the order in which they come in. -/
def enginePolicyDigestOf (tools : List String) (rules : List PolicyRule) (engineKind : String)
    (opaPolicyDigest : Option String) : Option String :=
  if engineKind ≠ REGEX_ENGINE ∧ ¬ truthy opaPolicyDigest then none
  else some (sha256 (engineCitationBytesOf tools rules engineKind opaPolicyDigest))

/-- However a set of tools is listed, the digest is that of the set. -/
theorem enginePolicyDigestOf_eq {tools : List String} (nd : tools.Nodup) (rules : List PolicyRule)
    (engineKind : String) (opaPolicyDigest : Option String) :
    enginePolicyDigestOf tools rules engineKind opaPolicyDigest =
      enginePolicyDigest tools.toFinset rules engineKind opaPolicyDigest := by
  unfold enginePolicyDigestOf enginePolicyDigest engineCitationBytesOf engineCitationBytes canonicalPolicyBytes
  rw [sortedSet_toFinset nd]

/-! ## What the canonical forms determine -/

section

variable (inj : Function.Injective (dumpsCompact : Json → String))

include inj

/-- A rule's text says all of it. -/
lemma ruleToCanonical_injective : Function.Injective ruleToCanonical := by
  intro rule rule' same
  have field := Json.lookup_eq_of_scalar (by simp) (by simp [Json.IsScalar]) (by simp [Json.IsScalar]) (by simp)
    (inj same)
  have name := field "name"
  have pattern := field "pattern"
  have action := field "action"
  have reason := field "reason"
  simp [List.lookup_cons] at name pattern action reason
  obtain ⟨_, _, _, _⟩ := rule
  obtain ⟨_, _, _, _⟩ := rule'
  cases name
  cases pattern
  cases PolicyAction.value_injective action
  cases reason
  rfl

/-- Rules have one canonical form where they are the same up to their order. -/
lemma canonicalRules_eq_iff {rules rules' : List PolicyRule} :
    canonicalRules rules = canonicalRules rules' ↔ rules.Perm rules' := by
  unfold canonicalRules
  rw [Json.arr.injEq, map_str_injective.eq_iff, insertionSort_eq_iff_perm,
    List.map_perm_map_iff (ruleToCanonical_injective inj)]

/-- The text of a policy is that of another exactly when the two are the same policy. -/
lemma engineCitationBytesOf_eq_iff {tools tools' : List String} {rules rules' : List PolicyRule}
    {kind kind' : String} {pin pin' : Option String} :
    engineCitationBytesOf tools rules kind pin = engineCitationBytesOf tools' rules' kind' pin' ↔
      kind = kind' ∧ (kind ≠ REGEX_ENGINE → pin = pin') ∧ tools.Perm tools' ∧ rules.Perm rules' := by
  have field : ∀ {kvs kvs' : List (String × Json)}, (kvs.map Prod.fst).Nodup →
      dumpsCanonical (.obj kvs) = dumpsCanonical (.obj kvs') →
      ∀ k, (kvs.lookup k).map Json.sortKeys = (kvs'.lookup k).map Json.sortKeys :=
    fun nd texts k => Json.lookup_eq_of_sortKeys_eq nd (inj texts) k
  have tools_iff : Json.arr ((tools.insertionSort (· ≤ ·)).map .str) =
      .arr ((tools'.insertionSort (· ≤ ·)).map .str) ↔ tools.Perm tools' := by
    rw [Json.arr.injEq, map_str_injective.eq_iff, insertionSort_eq_iff_perm]
  have tools_of : some (Json.arr ((tools.insertionSort (· ≤ ·)).map .str)).sortKeys =
      some (Json.arr ((tools'.insertionSort (· ≤ ·)).map .str)).sortKeys → tools.Perm tools' := by
    rw [Json.sortKeys_map_str, Json.sortKeys_map_str, Option.some.injEq]
    exact tools_iff.1
  have rules_of : some (canonicalRules rules).sortKeys = some (canonicalRules rules').sortKeys →
      rules.Perm rules' := by
    rw [sortKeys_canonicalRules, sortKeys_canonicalRules, Option.some.injEq]
    exact (canonicalRules_eq_iff inj).1
  constructor
  · intro texts
    unfold engineCitationBytesOf at texts
    dsimp only at texts
    split_ifs at texts with regex regex' regex'
    · exact ⟨regex.trans regex'.symm, fun no => absurd regex no, tools_of (field (by simp) texts "tools"),
        rules_of (field (by simp) texts "rules")⟩
    -- only an engine with a server names itself
    · cases field (by simp) texts "engine"
    · cases field (by simp) texts "engine"
    · have kinds : some (Json.str kind) = some (Json.str kind') := field (by simp) texts "engine"
      have pins : some (Json.ofOption pin).sortKeys = some (Json.ofOption pin').sortKeys :=
        field (by simp) texts "opa_policy"
      rw [(Json.isScalar_ofOption pin).sortKeys_eq, (Json.isScalar_ofOption pin').sortKeys_eq] at pins
      exact ⟨Json.str.inj (Option.some.inj kinds), fun _ => Json.ofOption_injective (Option.some.inj pins),
        tools_of (field (by simp) texts "tools"), rules_of (field (by simp) texts "rules")⟩
  · rintro ⟨rfl, pins, toolsPerm, rulesPerm⟩
    unfold engineCitationBytesOf
    rw [tools_iff.2 toolsPerm, (canonicalRules_eq_iff inj).2 rulesPerm]
    dsimp only
    split_ifs with regex
    · rfl
    · rw [pins regex]

/-- And so is its digest, where it has one. -/
lemma enginePolicyDigestOf_eq_iff (free : CollisionFree) {tools tools' : List String}
    {rules rules' : List PolicyRule} {kind kind' : String} {pin pin' : Option String}
    (cited : (enginePolicyDigestOf tools rules kind pin).isSome) :
    enginePolicyDigestOf tools rules kind pin = enginePolicyDigestOf tools' rules' kind' pin' ↔
      kind = kind' ∧ (kind ≠ REGEX_ENGINE → pin = pin') ∧ tools.Perm tools' ∧ rules.Perm rules' := by
  rw [← engineCitationBytesOf_eq_iff inj]
  constructor
  · intro same
    rw [same] at cited
    unfold enginePolicyDigestOf at same cited
    split_ifs at same cited
    · cases cited
    · exact free.sha256 (Option.some.inj same)
  · intro texts
    obtain ⟨rfl, pins, -, -⟩ := (engineCitationBytesOf_eq_iff inj).1 texts
    unfold enginePolicyDigestOf at cited ⊢
    split_ifs at cited with unpinned
    · cases cited
    · rw [texts, if_neg unpinned, if_neg]
      rintro ⟨served, no⟩
      exact unpinned ⟨served, pins served ▸ no⟩

end

end

/-! ## What follows for the decisions -/

/-- Regex engines whose rules are the same up to their order decide alike. -/
lemma PolicyEngine.evaluate_perm [Regex] {rules rules' : List PolicyRule} (perm : rules.Perm rules')
    (compile : ∀ rule ∈ rules, Regex.invalid rule.pattern = none) (content : String) :
    ∃ d d', ({ rules } : PolicyEngine).evaluate content = .ok d ∧
      ({ rules := rules' } : PolicyEngine).evaluate content = .ok d' ∧
      d.allowed = d'.allowed ∧ d.action = d'.action := by
  have compile' : ∀ rule ∈ rules', Regex.invalid rule.pattern = none :=
    fun rule mem => compile rule (perm.mem_iff.2 mem)
  have same : (overrides (fires content) rules).action = (overrides (fires content) rules').action :=
    overrides_action_congr fun _ => perm.mem_iff
  refine ⟨_, _, evaluate_of_compiles compile content, evaluate_of_compiles compile' content, ?_, same⟩
  rw [PolicyResult.consistent, PolicyResult.consistent, same]

/-- Two policies with one digest are the same policy, and their regex engines decide alike; the order in
which the rules and the tools come in does not change the digest. -/
theorem policy_identified [Platform] [Regex] (free : CollisionFree)
    (inj : Function.Injective (dumpsCompact : Json → String)) (tools tools' : List String)
    (rules rules' : List PolicyRule) (kind kind' : String) (pin pin' : Option String) :
    ((enginePolicyDigestOf tools rules kind pin).isSome →
      enginePolicyDigestOf tools rules kind pin = enginePolicyDigestOf tools' rules' kind' pin' →
      kind = kind' ∧ (kind ≠ REGEX_ENGINE → pin = pin') ∧ tools.Perm tools' ∧ rules.Perm rules' ∧
        (kind = REGEX_ENGINE → (∀ rule ∈ rules, Regex.invalid rule.pattern = none) → ∀ content,
          ∃ d d', ({ rules } : PolicyEngine).evaluate content = .ok d ∧
            ({ rules := rules' } : PolicyEngine).evaluate content = .ok d' ∧
            d.allowed = d'.allowed ∧ d.action = d'.action)) ∧
    (tools.Perm tools' → rules.Perm rules' →
      enginePolicyDigestOf tools rules kind pin = enginePolicyDigestOf tools' rules' kind pin) := by
  refine ⟨fun cited same => ?_, fun toolsPerm rulesPerm => ?_⟩
  · obtain ⟨kinds, pins, toolsPerm, rulesPerm⟩ := (enginePolicyDigestOf_eq_iff inj free cited).1 same
    exact ⟨kinds, pins, toolsPerm, rulesPerm, fun _ compile content =>
      PolicyEngine.evaluate_perm rulesPerm compile content⟩
  · unfold enginePolicyDigestOf
    rw [(engineCitationBytesOf_eq_iff inj).2 ⟨rfl, fun _ => rfl, toolsPerm, rulesPerm⟩]

section Sample

local instance identityPlatform : Platform := .reference .empty

local instance identityRegex : Regex := opaRegex

/-- Tools and rules in another order have one digest. -/
theorem policy_identified_sample :
    enginePolicyDigestOf ["search", "fetch"] auditThenDeny "regex" none =
        enginePolicyDigestOf ["fetch", "search"] auditThenDeny.reverse "regex" none ∧
      ∃ d d', ({ rules := auditThenDeny } : PolicyEngine).evaluate "hello" = .ok d ∧
        ({ rules := auditThenDeny.reverse } : PolicyEngine).evaluate "hello" = .ok d' ∧
        d.allowed = d'.allowed ∧ d.action = d'.action := by
  obtain ⟨identified, permuted⟩ := policy_identified (collisionFree_reference .empty)
    (dumpsCompact_injective_reference .empty) ["search", "fetch"] ["fetch", "search"] auditThenDeny
    auditThenDeny.reverse "regex" "regex" none none
  have same := permuted (List.Perm.swap _ _ _) (List.reverse_perm _).symm
  obtain ⟨-, -, -, -, decides⟩ := identified rfl same
  exact ⟨same, decides rfl (fun _ _ => rfl) "hello"⟩

end Sample

end Custos
