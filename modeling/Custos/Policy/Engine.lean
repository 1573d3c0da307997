import Custos.Platform
import Mathlib.Algebra.Order.Ring.Nat

/-!
# Policy engines

`custos/policy_engine.py` and what the other two engines of `custos/policy_factory.py` show to a caller
that cites them. The regex engine is given in full over `re` (`Regex`); what an engine with a Rego server
behind it answers is an input of `Engine.evaluate`, because the server is outside.

A `PolicyResult` carries the agreement of its two decision fields: every result the source builds is
allowed exactly when its action is not a deny.
-/

namespace Custos

/-- Python's `re`. -/
class Regex where
  /-- the text of the `re.error` a pattern that does not compile raises -/
  invalid : String → Option String
  /-- the texts of `re.finditer(pattern, text)`, first match first -/
  finditer : String → String → List String

/-- `re.search(pattern, text)`: the text of the first match. -/
def Regex.search [Regex] (pattern text : String) : Except Exn (Option String) :=
  match invalid pattern with
  | some msg => .error (.Other "error" msg)
  | none => .ok (finditer pattern text).head?

inductive PolicyAction where
  | ALLOW
  | DENY
  | AUDIT
  deriving DecidableEq

def PolicyAction.value : PolicyAction → String
  | .ALLOW => "allow"
  | .DENY => "deny"
  | .AUDIT => "audit"

structure PolicyRule where
  name : String
  pattern : String
  action : PolicyAction
  reason : String
  deriving DecidableEq

structure PolicyResult where
  allowed : Bool
  action : PolicyAction
  triggeredRule : Option String
  reason : String
  consistent : allowed = decide (action ≠ .DENY) := by rfl
  deriving DecidableEq

/-- What is allowed is not denied. -/
lemma PolicyResult.action_ne_deny {d : PolicyResult} (ok : d.allowed = true) : d.action ≠ .DENY := by
  have := d.consistent
  rw [ok] at this
  exact of_decide_eq_true this.symm

/-- `_luhn_valid`. -/
def luhnValid (cardDigits : String) : Bool :=
  let digits := (cardDigits.toList.filter (·.isDigit)).map fun c => c.toNat - '0'.toNat
  if digits.length < 13 ∨ 19 < digits.length then false
  else
    let parity := digits.length % 2
    let checksum := (digits.mapIdx fun i d =>
      if i % 2 = parity then (if 9 < d * 2 then d * 2 - 9 else d * 2) else d).sum
    checksum % 10 = 0

/-- `DEFAULT_RULES`. The braces of a pattern are written `\x7b` and `\x7d`; a pattern with some has a comment that gives
it as it is. -/
def DEFAULT_RULES : List PolicyRule :=
  [{ name := "block_pii_ssn"
     -- \b(?!000|666|9\d{2})\d{3}[- .]\d{2}[- .]\d{4}\b
     pattern := "\\b(?!000|666|9\\d\x7b2\x7d)" ++ "\\d\x7b3\x7d[- .]\\d\x7b2\x7d[- .]\\d\x7b4\x7d\\b"
     action := .DENY
     reason := "SSN pattern detected" },
   { name := "block_pii_ssn_compact"
     -- (?i)\b(?:ssn|social\s+security)\s*(?:#|no\.?|number)?\s*:?\s*\d{9}\b
     pattern := "(?i)\\b(?:ssn|social\\s+security)\\s*(?:#|no\\.?|number)?\\s*:?\\s*\\d\x7b9\x7d\\b"
     action := .DENY
     reason := "SSN pattern detected (compact format)" },
   { name := "block_pii_credit_card"
     -- \b(?:\d[ \-.\n]*?){13,19}\b
     pattern := "\\b(?:\\d[ \\-.\\n]*?)\x7b13,19\x7d\\b"
     action := .DENY
     reason := "Credit card pattern detected" },
   { name := "block_prompt_injection"
     pattern :=
       "(?i)(" ++
       "ignore\\s+(?:previous|prior|all|the\\s+above)\\s+instructions?" ++
       "|disregard\\s+(?:your|the|all|previous)\\s+(?:instructions?|rules?|guidelines?)" ++
       "|forget\\s+(?:your|all|previous)\\s+(?:instructions?|rules?|prompt)" ++
       "|override\\s+(?:your|the|system)\\s+(?:system\\s+)?(?:instructions?|prompt|rules?)" ++
       "|you\\s+are\\s+now\\s+(?:a|an|in)" ++
       "|act\\s+as\\s+(?:if\\s+you\\s+are|a|an)" ++
       "|pretend\\s+(?:you\\s+are|to\\s+be)" ++
       "|jailbreak|dan\\s+mode|developer\\s+mode" ++
       "|system\\s*:\\s*(?:new|override|ignore)" ++
       "|new\\s+instructions?\\s*:" ++
       "|stop\\s+following\\s+(?:your|the|all)\\s+rules?" ++
       "|reveal\\s+(?:your|the|all)\\s+(?:system\\s+)?(?:prompt|instructions?|rules?)" ++
       "|(?:you\\s+are|you'?re|your)\\s+(?:a|an)\\s+(?:principal|distinguished|chief|senior|staff" ++
       "|expert|world[-\\s]class|elite)\\s+(?:engineer|fellow|analyst|scientist|architect" ++
       "|researcher)s?" ++
       "|(?:respond|reply)\\s+to\\s+(?:this|the)\\s+other\\s+(?:model|ai|assistant)" ++
       "|relay\\s+(?:this|it|that)\\s+to\\s+(?:another|the\\s+other|a\\s+different)\\s+" ++
       "(?:model|ai|assistant)" ++
       "|forward\\s+(?:this|it|that)\\s+to\\s+(?:another|the\\s+other)\\s+(?:model|ai|assistant)" ++
       "|show\\s+(?:me\\s+)?(?:your|the)\\s+(?:system\\s+)?prompt" ++
       ")"
     action := .DENY
     reason := "Prompt injection attempt detected" },
   { name := "audit_sensitive_keywords"
     pattern :=
       "(?i)\\b(password|passwd|secret|token|api[_\\s-]?key|credentials?|private[_\\s-]?key)\\b"
     action := .AUDIT
     reason := "Sensitive keyword flagged for audit" }]

/-- `_POST_VALIDATION_RULES`. -/
def POST_VALIDATION_RULES : List String := ["block_pii_credit_card"]

/-! ## The regex engine -/

/-- `PolicyEngine`. Its memo of the rules' digest is not kept: `add_rule`, the one mutator, clears it. -/
structure PolicyEngine where
  rules : List PolicyRule := DEFAULT_RULES
  deriving DecidableEq

namespace PolicyEngine

variable [Regex]

/-- The loop of `evaluate` over the rules, with the first audit hit so far. -/
def evaluateFrom (content : String) : Option PolicyRule → List PolicyRule → Except Exn PolicyResult
  | some hit, [] =>
    .ok { allowed := true, action := .AUDIT, triggeredRule := some hit.name, reason := hit.reason }
  | none, [] =>
    .ok { allowed := true, action := .ALLOW, triggeredRule := none,
          reason := "No policy violations detected" }
  | auditHit, rule :: rules => do
    match ← Regex.search rule.pattern content with
    | none => evaluateFrom content auditHit rules
    | some matched =>
      let digitsOnly := String.ofList (matched.toList.filter (·.isDigit))
      if rule.name ∈ POST_VALIDATION_RULES ∧ ¬ luhnValid digitsOnly then
        -- a false positive of the pattern
        evaluateFrom content auditHit rules
      else
        match rule.action with
        | .DENY =>
          .ok { allowed := false, action := .DENY, triggeredRule := some rule.name,
                reason := rule.reason }
        | .AUDIT => evaluateFrom content (auditHit.or (some rule)) rules
        | .ALLOW => evaluateFrom content auditHit rules

/-- `evaluate`. -/
def evaluate (e : PolicyEngine) (content : String) : Except Exn PolicyResult :=
  evaluateFrom content none e.rules

omit [Regex] in
/-- `add_rule`. -/
def addRule (e : PolicyEngine) (rule : PolicyRule) : PolicyEngine := { e with rules := e.rules ++ [rule] }

end PolicyEngine

/-! ## What the regex engine answers -/

section

variable [Regex]

/-- The rule's pattern is found in the content, and what it found is no false positive. -/
def PolicyRule.Fires (rule : PolicyRule) (content : String) : Prop :=
  ∃ matched, Regex.search rule.pattern content = .ok (some matched) ∧
    (rule.name ∈ POST_VALIDATION_RULES → luhnValid (String.ofList (matched.toList.filter (·.isDigit))))

/-- The rule denies the content. -/
def PolicyRule.Denies (rule : PolicyRule) (content : String) : Prop :=
  rule.action = .DENY ∧ rule.Fires content

/-- The rule audits the content. -/
def PolicyRule.Audits (rule : PolicyRule) (content : String) : Prop :=
  rule.action = .AUDIT ∧ rule.Fires content

namespace PolicyEngine

/-- Every rule whose pattern does not compile stands behind one that denies the content. -/
def Evaluable (rules : List PolicyRule) (content : String) : Prop :=
  ∀ earlier rule later, rules = earlier ++ rule :: later → Regex.invalid rule.pattern ≠ none →
    ∃ r ∈ earlier, r.Denies content

/-- Without rules there is nothing to raise. -/
lemma evaluable_nil (content : String) : Evaluable [] content := by
  intro earlier rule later e
  cases List.eq_nil_of_append_eq_nil e.symm |>.2

/-- The rules are tried up to the first that denies. -/
lemma evaluable_cons {rule : PolicyRule} {rules : List PolicyRule} {content : String} :
    Evaluable (rule :: rules) content ↔
      Regex.invalid rule.pattern = none ∧ (rule.Denies content ∨ Evaluable rules content) := by
  constructor
  · intro all
    have compiles : Regex.invalid rule.pattern = none := by
      by_contra invalid
      obtain ⟨r, mem, -⟩ := all [] rule rules rfl invalid
      cases mem
    refine ⟨compiles, or_iff_not_imp_left.2 fun no earlier r later e invalid => ?_⟩
    obtain ⟨r', mem, denies⟩ := all (rule :: earlier) r later (by rw [e]; rfl) invalid
    rcases List.mem_cons.1 mem with rfl | mem
    · exact absurd denies no
    · exact ⟨r', mem, denies⟩
  · rintro ⟨compiles, rest⟩ earlier r later e invalid
    cases earlier with
    | nil =>
      cases e
      exact absurd compiles invalid
    | cons r' earlier =>
      cases e
      rcases rest with denies | rest
      · exact ⟨rule, .head _, denies⟩
      · obtain ⟨r', mem, denies⟩ := rest earlier r later rfl invalid
        exact ⟨r', .tail _ mem, denies⟩

/-- One round of the loop: a pattern that does not compile raises, a deny ends it, and every other rule
counts as the first audit hit or not at all. -/
lemma evaluateFrom_cons (content : String) (hit : Option PolicyRule) (rule : PolicyRule)
    (rules : List PolicyRule) :
    (∃ e, Regex.invalid rule.pattern ≠ none ∧ evaluateFrom content hit (rule :: rules) = .error e) ∨
    Regex.invalid rule.pattern = none ∧
      ((rule.Denies content ∧ evaluateFrom content hit (rule :: rules) =
          .ok { allowed := false, action := .DENY, triggeredRule := some rule.name, reason := rule.reason }) ∨
        (¬ rule.Denies content ∧ ∃ hit', (rule.Audits content → hit' = hit.or (some rule)) ∧
          (¬ rule.Audits content → hit' = hit) ∧
          evaluateFrom content hit (rule :: rules) = evaluateFrom content hit' rules)) := by
  generalize round : evaluateFrom content hit (rule :: rules) = out
  unfold evaluateFrom at round
  cases compiles : Regex.invalid rule.pattern with
  | some msg =>
    refine .inl ⟨.Other "error" msg, nofun, ?_⟩
    rw [← round]
    simp [Regex.search, compiles, bind, Except.bind]
  | none =>
    refine .inr ⟨rfl, ?_⟩
    have search : Regex.search rule.pattern content = .ok (Regex.finditer rule.pattern content).head? := by
      simp [Regex.search, compiles]
    -- a rule that does not fire leaves the first audit hit as it was
    have silent (no : ¬ rule.Fires content) (eq : out = evaluateFrom content hit rules) :
        ¬ rule.Denies content ∧ ∃ hit', (rule.Audits content → hit' = hit.or (some rule)) ∧
          (¬ rule.Audits content → hit' = hit) ∧ out = evaluateFrom content hit' rules :=
      ⟨fun denies => no denies.2, hit, fun audits => absurd audits.2 no, fun _ => rfl, eq⟩
    cases found : (Regex.finditer rule.pattern content).head? with
    | none =>
      simp only [search, found, bind, Except.bind] at round
      refine .inr (silent ?_ round.symm)
      rintro ⟨matched, fires, -⟩
      rw [search, found] at fires
      cases fires
    | some matched =>
      -- the search has one answer, so a match that is valid is this one
      have only : ∀ m, Regex.search rule.pattern content = .ok (some m) → m = matched := by
        intro m at_m
        rw [search, found] at at_m
        exact (Option.some.inj (Except.ok.inj at_m)).symm
      simp only [search, found, bind, Except.bind] at round
      split at round
      · rename_i falsePositive
        refine .inr (silent ?_ round.symm)
        rintro ⟨m, at_m, valid⟩
        rw [only m at_m] at valid
        exact falsePositive.2 (valid falsePositive.1)
      · rename_i genuine
        have fires : rule.Fires content :=
          ⟨matched, by rw [search, found], fun named => by_contra fun no => genuine ⟨named, no⟩⟩
        cases action : rule.action with
        | DENY =>
          rw [action] at round
          exact .inl ⟨⟨action, fires⟩, round.symm⟩
        | AUDIT =>
          rw [action] at round
          exact .inr ⟨fun denies => (nomatch action.symm.trans denies.1), _, fun _ => rfl,
            fun no => absurd ⟨action, fires⟩ no, round.symm⟩
        | ALLOW =>
          rw [action] at round
          exact .inr ⟨fun denies => (nomatch action.symm.trans denies.1), hit,
            fun audits => (nomatch action.symm.trans audits.1), fun _ => rfl, round.symm⟩

/-- The engine answers exactly when no pattern that does not compile is reached. -/
theorem evaluate_ok_iff {e : PolicyEngine} {content : String} :
    (∃ d, e.evaluate content = .ok d) ↔ Evaluable e.rules content := by
  have main : ∀ rules hit, (∃ d, evaluateFrom content hit rules = .ok d) ↔ Evaluable rules content := by
    intro rules
    induction rules with
    | nil =>
      intro hit
      refine iff_of_true ?_ (evaluable_nil content)
      cases hit with
      | none => exact ⟨_, rfl⟩
      | some rule => exact ⟨_, rfl⟩
    | cons rule rules ih =>
      intro hit
      rw [evaluable_cons]
      rcases evaluateFrom_cons content hit rule rules with
        ⟨e, invalid, eq⟩ | ⟨compiles, ⟨denies, eq⟩ | ⟨no, hit', -, -, eq⟩⟩
      · rw [eq]
        exact iff_of_false nofun fun all => invalid all.1
      · exact iff_of_true ⟨_, eq⟩ ⟨compiles, .inl denies⟩
      · rw [eq, ih hit']
        exact ⟨fun rest => ⟨compiles, .inr rest⟩, fun all => all.2.resolve_left no⟩
  exact main e.rules none

/-- And where it answers, it denies exactly what one of its rules denies. -/
theorem evaluate_denies_iff {e : PolicyEngine} {content : String} {d : PolicyResult}
    (ok : e.evaluate content = .ok d) : d.action = .DENY ↔ ∃ rule ∈ e.rules, rule.Denies content := by
  have main : ∀ rules hit d, evaluateFrom content hit rules = .ok d →
      (d.action = .DENY ↔ ∃ rule ∈ rules, rule.Denies content) := by
    intro rules
    induction rules with
    | nil =>
      intro hit d ok
      refine iff_of_false (fun denies => ?_) fun ⟨_, mem, _⟩ => nomatch mem
      cases hit with
      | none =>
        cases ok
        cases denies
      | some rule =>
        cases ok
        cases denies
    | cons rule rules ih =>
      intro hit d ok
      rcases evaluateFrom_cons content hit rule rules with
        ⟨e, invalid, eq⟩ | ⟨compiles, ⟨denies, eq⟩ | ⟨no, hit', -, -, eq⟩⟩
      · cases ok.symm.trans eq
      · cases ok.symm.trans eq
        exact iff_of_true rfl ⟨rule, .head _, denies⟩
      · rw [ih hit' d (eq.symm.trans ok)]
        simp [no]
  exact main e.rules none d ok

end PolicyEngine

end

/-! ## The three engines -/

/-- What `create_policy_engine` returns: each engine with the rules it holds in the process. -/
inductive Engine where
  | regex (engine : PolicyEngine)
  | opa (customRules : PolicyEngine)
  | hybrid (regex : PolicyEngine)
  deriving DecidableEq

/-- `create_policy_engine`. -/
def createPolicyEngine (environ : Environ) : Engine :=
  let engineType := strip ((environ "CUSTOS_POLICY_ENGINE").getD "regex").toLower
  if engineType = "opa" then .opa { rules := [] }
  else if engineType = "hybrid" then .hybrid {}
  else .regex {}

namespace Engine

/-- `engine_kind`. -/
def kind : Engine → String
  | .regex _ => "regex"
  | .opa _ => "opa"
  | .hybrid _ => "hybrid"

/-- `citation_rules`. -/
def citationRules : Engine → List PolicyRule
  | .regex e => e.rules
  | .opa e => e.rules
  | .hybrid e => e.rules

/-- `add_rule`. -/
def addRule (rule : PolicyRule) : Engine → Engine
  | .regex e => .regex (e.addRule rule)
  | .opa e => .opa (e.addRule rule)
  | .hybrid e => .hybrid (e.addRule rule)

/-- The sha256 the operator pins for the Rego bundle, if it is one. -/
def regoPin (environ : Environ) : Option String :=
  let raw := (strip ((environ "CUSTOS_OPA_POLICY_DIGEST").getD "")).toLower
  if raw = "" then none
  else if raw.length ≠ 64 ∨ ¬ raw.toList.all ("0123456789abcdef".toList.contains ·) then none
  else some raw

/-- `opa_policy_digest`: the regex engine has nothing to pin. -/
def opaPolicyDigest (environ : Environ) : Engine → Option String
  | .regex _ => none
  | _ => regoPin environ

/-- `evaluate`. `remote` is what an engine with a Rego server answers. -/
def evaluate [Regex] (remote : String → Except Exn PolicyResult) (content : String) :
    Engine → Except Exn PolicyResult
  | .regex e => e.evaluate content
  | _ => remote content

@[simp] lemma kind_eq_regex {e : Engine} : e.kind = "regex" ↔ ∃ p, e = .regex p := by
  cases e <;> simp [kind]

end Engine

end Custos
