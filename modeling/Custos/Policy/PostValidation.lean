import Custos.Policy.Engine

/-!
# Post-match validation

A rule of `POST_VALIDATION_RULES` counts as hit where a match passes the Luhn check. `evaluate` asks
`re.search` for the match, so it is the first one that is validated, and a number that fails the check hides
every later match of the rule.
-/

namespace Custos

/-- The validation of `evaluate`: of the digits of the match. -/
def passesPostValidation (matched : String) : Bool :=
  luhnValid (String.ofList (matched.toList.filter (·.isDigit)))

section

variable [Regex]

/-- The non-overlapping matches of the rule's pattern. -/
def PolicyRule.matchesIn (rule : PolicyRule) (content : String) : List String :=
  Regex.finditer rule.pattern content

/-- Some match passes the validation. -/
def PolicyRule.AnyPasses (rule : PolicyRule) (content : String) : Prop :=
  ∃ matched ∈ rule.matchesIn content, passesPostValidation matched

/-- The first match passes the validation, or none does. -/
def PolicyRule.FirstDecides (rule : PolicyRule) (content : String) : Prop :=
  (∃ matched, (rule.matchesIn content).head? = some matched ∧ passesPostValidation matched) ∨
    ∀ matched ∈ rule.matchesIn content, ¬ passesPostValidation matched

namespace PolicyRule

variable {rule : PolicyRule} {content : String}

/-- A post-validated rule fires on its first match alone. -/
lemma fires_iff_first (post : rule.name ∈ POST_VALIDATION_RULES)
    (compiles : Regex.invalid rule.pattern = none) :
    rule.Fires content ↔
      ∃ matched, (rule.matchesIn content).head? = some matched ∧ passesPostValidation matched := by
  have search : Regex.search rule.pattern content = .ok (rule.matchesIn content).head? := by
    simp [Regex.search, compiles, matchesIn]
  constructor
  · rintro ⟨matched, found, valid⟩
    rw [search] at found
    exact ⟨matched, Except.ok.inj found, valid post⟩
  · rintro ⟨matched, found, valid⟩
    exact ⟨matched, by rw [search, found], fun _ => valid⟩

/-- The first match decides where the rule fires whenever some match passes. -/
lemma firstDecides_iff (post : rule.name ∈ POST_VALIDATION_RULES)
    (compiles : Regex.invalid rule.pattern = none) :
    rule.FirstDecides content ↔ (rule.AnyPasses content → rule.Fires content) := by
  rw [fires_iff_first post compiles]
  constructor
  · rintro (first | none) ⟨matched, mem, valid⟩
    · exact first
    · exact absurd valid (none matched mem)
  · intro hit
    by_cases any : rule.AnyPasses content
    · exact .inl (hit any)
    · exact .inr fun matched mem valid => any ⟨matched, mem, valid⟩

end PolicyRule

/-- An engine whose patterns compile denies exactly what one of its rules denies. -/
lemma PolicyEngine.denied_iff {e : PolicyEngine} {content : String}
    (compile : ∀ r ∈ e.rules, Regex.invalid r.pattern = none) :
    (∃ d, e.evaluate content = .ok d ∧ d.allowed = false) ↔ ∃ r ∈ e.rules, r.Denies content := by
  have evaluable : Evaluable e.rules content := fun earlier r later eq invalid =>
    absurd (compile r (by simp [eq])) invalid
  obtain ⟨d, ok⟩ := evaluate_ok_iff.2 evaluable
  rw [← evaluate_denies_iff ok]
  constructor
  · rintro ⟨d', ok', denied⟩
    cases ok.symm.trans ok'
    have := d.consistent
    rw [denied] at this
    exact not_not.1 (of_decide_eq_false this.symm)
  · intro denies
    refine ⟨d, ok, ?_⟩
    rw [d.consistent, denies]
    rfl

/-- A post-validated rule counts as hit by any match that passes exactly where the first match passes or none
does, and its engine denies then, as it does where another of its rules denies. -/
theorem hit_by_any_match_iff {rule : PolicyRule} {content : String}
    (post : rule.name ∈ POST_VALIDATION_RULES) (compiles : Regex.invalid rule.pattern = none) :
    ((rule.AnyPasses content → rule.Fires content) ↔ rule.FirstDecides content) ∧
    ∀ e : PolicyEngine, rule ∈ e.rules → rule.action = .DENY →
      (∀ r ∈ e.rules, Regex.invalid r.pattern = none) →
      ((rule.AnyPasses content → ∃ d, e.evaluate content = .ok d ∧ d.allowed = false) ↔
        rule.FirstDecides content ∨ ∃ r ∈ e.rules, r ≠ rule ∧ r.Denies content) := by
  refine ⟨(PolicyRule.firstDecides_iff post compiles).symm, fun e mem deny compile => ?_⟩
  rw [PolicyEngine.denied_iff compile, PolicyRule.firstDecides_iff post compiles]
  constructor
  · intro denied
    by_cases other : ∃ r ∈ e.rules, r ≠ rule ∧ r.Denies content
    · exact .inr other
    · refine .inl fun any => ?_
      obtain ⟨r, mem', denies⟩ := denied any
      by_cases same : r = rule
      · exact same ▸ denies.2
      · exact absurd ⟨r, mem', same, denies⟩ other
  · rintro (hit | ⟨r, mem', -, denies⟩) any
    · exact ⟨rule, mem, deny, hit any⟩
    · exact ⟨r, mem', denies⟩

end

section Sample

/-- A number that fails the check, and a card number behind it. -/
def decoyThenCard : String := "order 1234567890123456, card 4111 1111 1111 1111"

/-- The card pattern in that text; no other default pattern is found in it. -/
local instance cardRegex : Regex where
  invalid _ := none
  finditer pattern text :=
    if pattern = "\\b(?:\\d[ \\-.\\n]*?)\x7b13,19\x7d\\b" ∧ text = decoyThenCard then
      ["1234567890123456", "4111 1111 1111 1111"]
    else []

/-- `block_pii_credit_card`. -/
def cardRule : PolicyRule where
  name := "block_pii_credit_card"
  pattern := "\\b(?:\\d[ \\-.\\n]*?)\x7b13,19\x7d\\b"
  action := .DENY
  reason := "Credit card pattern detected"

/-- A decoy before a card number. -/
theorem hit_by_any_match_iff_sample :
    (cardRule.AnyPasses decoyThenCard → cardRule.Fires decoyThenCard) ↔
      cardRule.FirstDecides decoyThenCard :=
  (hit_by_any_match_iff (.head _) rfl : _ ∧ _).1

/-- The default rules allow the text, card number and all. -/
theorem card_behind_decoy_allowed :
    cardRule ∈ DEFAULT_RULES ∧
      (cardRule.matchesIn decoyThenCard).map passesPostValidation = [false, true] ∧
        ∃ d, PolicyEngine.evaluate {} decoyThenCard = .ok d ∧ d.action = .ALLOW :=
  ⟨by decide +kernel, by decide +kernel, _, rfl, rfl⟩

end Sample

end Custos
