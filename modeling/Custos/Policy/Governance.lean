import Custos.Policy.Hybrid
import Mathlib.Data.List.Dedup

/-!
# The policy behind the OPA server

`policies/custos_governance.rego`, and what the two engines that ask a server make of it. They ask for one document of
the policy, `allow`, to which a server answers a truth value and nothing else (`Serves`). So a denial of the policy
gets through under the engine's own name for it, and neither the messages of the policy nor what it would have audited
get through at all (`policy_governs`).
-/

namespace Custos

/-- What the rules of `deny` take of Rego's builtins: `lower`, and `regex.match` of a pattern in a text. -/
class Rego where
  lower : String → String
  regexMatch : String → String → Bool

namespace Governance

/-- The phrases of prompt injection, in the policy's order. -/
def INJECTION_PHRASES : List String :=
  [ "ignore previous instructions", "disregard your instructions", "forget your instructions",
    "override system prompt", "you are now a", "act as if you are", "jailbreak", "developer mode",
    "reveal your system prompt", "you are a principal", "you are a distinguished", "you are a chief",
    "you are a senior", "you are a staff engineer", "you are an expert", "you are a world",
    "you are an elite", "you're a principal", "you're a distinguished", "your a principal",
    "your a distinguished", "respond to this other model", "respond to the other model",
    "respond to this other ai", "respond to the other ai", "relay this to another", "relay it to another",
    "relay that to another", "forward this to another model", "forward it to another model"]

section

variable [Rego]

/-- A condition on `input.content`, which fails where there is none or it is no string. -/
def onContent (holds : String → Bool) (input : List (String × Json)) : Bool :=
  match Json.field input "content" with
  | .str content => holds content
  | _ => false

/-- `contains(lower(input.content), phrase)`. -/
def mentions (phrase content : String) : Bool := isIn phrase (Rego.lower content)

/-- The patterns of the rules, in the policy's order, with the braces written `\x7b` and `\x7d`: this one is
`\d{3}[- .]\d{2}[- .]\d{4}`. -/
def SSN : String := "\\d\x7b3\x7d[- .]\\d\x7b2\x7d[- .]\\d\x7b4\x7d"

/-- `(?i)\b(?:ssn|social\s+security)\s*(?:#|no\.?|number)?\s*:?\s*\d{9}\b`. -/
def SSN_COMPACT : String := "(?i)\\b(?:ssn|social\\s+security)\\s*(?:#|no\\.?|number)?\\s*:?\\s*\\d\x7b9\x7d\\b"

/-- `\b(?:\d[ \-.\n]*?){13,19}\b`. -/
def CREDIT_CARD : String := "\\b(?:\\d[ \\-.\\n]*?)\x7b13,19\x7d\\b"

/-- The rules of `deny`: a message, and when it is in the set. -/
def denyRules : List (String × (List (String × Json) → Bool)) :=
  [ ("SSN pattern detected", onContent fun content => mentions "ssn" content && Rego.regexMatch SSN content),
    ("SSN pattern detected (compact format)", onContent (Rego.regexMatch SSN_COMPACT)),
    ("Credit card pattern detected", onContent (Rego.regexMatch CREDIT_CARD))] ++
  INJECTION_PHRASES.map (fun phrase => ("Prompt injection attempt detected", onContent (mentions phrase))) ++
  [ ("Unregistered client", fun input =>
      decide ((Json.field input "client_id").IsStr "" ∧ (Json.field input "action_type").IsStr "custos_execute"))]

/-- `deny`: the messages whose rules hold, each once. -/
def deny (input : List (String × Json)) : List String := ((denyRules.filter (·.2 input)).map (·.1)).dedup

/-- `allow`. -/
def allow (input : List (String × Json)) : Bool := (deny input).length = 0

/-- What the policy has against a content. -/
def Refuses (content : String) : Prop :=
  mentions "ssn" content ∧ Rego.regexMatch SSN content ∨ Rego.regexMatch SSN_COMPACT content ∨
    Rego.regexMatch CREDIT_CARD content ∨ ∃ phrase ∈ INJECTION_PHRASES, mentions phrase content

/-- The policy allows what it has nothing against, unless it is to be executed for a client without a name. -/
lemma allow_iff {input : List (String × Json)} {content : String}
    (has : Json.field input "content" = .str content) :
    allow input = true ↔ ¬ Refuses content ∧
      ¬ ((Json.field input "client_id").IsStr "" ∧ (Json.field input "action_type").IsStr "custos_execute") := by
  have on (holds : String → Bool) : onContent holds input = holds content := by
    unfold onContent
    rw [has]
  have empty : allow input = true ↔ ∀ rule ∈ denyRules, ¬ rule.2 input = true := by
    unfold allow deny
    rw [decide_eq_true_iff, List.length_eq_zero_iff, List.dedup_eq_nil, List.map_eq_nil_iff, List.filter_eq_nil_iff]
  rw [empty]
  unfold denyRules Refuses
  simp only [List.forall_mem_append, List.forall_mem_cons, List.forall_mem_map, on, Bool.and_eq_true,
    decide_eq_true_eq, not_or, not_exists, not_and]
  tauto

end

end Governance

/-! ## The server -/

/-- A server that holds the policy: what it is asked for the document `allow`, it answers with the document's value,
under the name `result` and beside nothing the engines read. -/
def Serves [Rego] (post : String → Json → Reply) (opaUrl : String) : Prop :=
  ∀ input, ∃ status statusError fields,
    post (opaUrl ++ "/v1/data/custos/governance/allow") (.obj [ ("input", .obj input)]) =
      .response status statusError (.ok (.obj fields)) ∧
    (200 ≤ status ∧ status < 300) ∧ Json.field fields "result" = .bool (Governance.allow input) ∧
    Json.field fields "deny" = .null ∧ Json.field fields "triggered_rule" = .null

/-- What is read of the server's answer. -/
def served (allowed : Bool) : Interpreted :=
  { allowed, denyReasons := [], triggered := .null, auditFlag := .null }

section

variable [Rego] {post : String → Json → Reply} {opaUrl : String}

/-- What is read of the server's answer is the document's value. -/
lemma Serves.data (serves : Serves post opaUrl) (input : List (String × Json)) :
    ∃ data, (post (opaUrl ++ "/v1/data/custos/governance/allow") (.obj [ ("input", .obj input)])).data = .ok data ∧
      interpret data = .ok (served (Governance.allow input)) ∧
      HybridPolicyEngine.interpret data = .ok (some (served (Governance.allow input))) := by
  obtain ⟨status, statusError, fields, answer, success, result, deny, triggered⟩ := serves input
  refine ⟨.obj fields, ?_, ?_, ?_⟩
  · rw [answer]
    exact if_pos success
  · unfold interpret
    dsimp only
    rw [result]
    dsimp only
    rw [deny, triggered]
    rfl
  · unfold HybridPolicyEngine.interpret
    dsimp only
    rw [result]
    dsimp only
    rw [deny, triggered]
    rfl

end

/-! ## The engines before it -/

section

variable [Regex]

/-- How an engine decides over the policy: its own rules deny, then the policy under the engine's name for it, and
else its own rules decide. -/
structure OverPolicy (rules : List PolicyRule) (refused : Prop) (content : String) (out : Except Exn OpaResult) :
    Prop where
  raises : ∀ e, PolicyEngine.evaluate { rules } content = .error e → out = .error e
  own : ∀ d, PolicyEngine.evaluate { rules } content = .ok d → d.action = .DENY → out = .ok (.ofLocal d)
  policy : ∀ d, PolicyEngine.evaluate { rules } content = .ok d → d.action ≠ .DENY → refused → ∃ r, out = .ok r ∧
    r.action = .DENY ∧ r.triggeredRule = .str "opa_deny" ∧ r.reason = "Denied by OPA policy"
  passed : ∀ d, PolicyEngine.evaluate { rules } content = .ok d → d.action ≠ .DENY → ¬ refused → ∃ r, out = .ok r ∧
    r.action = d.action ∧ r.triggeredRule = .ofOption d.triggeredRule

/-- An allow names no rule. -/
lemma PolicyEngine.evaluate_allows {e : PolicyEngine} {content : String} {d : PolicyResult}
    (ok : e.evaluate content = .ok d) (allows : d.action = .ALLOW) : d.triggeredRule = none := by
  have main : ∀ rules hit, evaluateFrom content hit rules = .ok d → d.triggeredRule = none := by
    intro rules
    induction rules with
    | nil =>
      intro hit ok
      cases hit with
      | none =>
        cases ok
        rfl
      | some rule =>
        cases ok
        cases allows
    | cons rule rules ih =>
      intro hit ok
      rcases evaluateFrom_cons content hit rule rules with ⟨e, -, eq⟩ | ⟨-, ⟨-, eq⟩ | ⟨-, hit', -, -, eq⟩⟩
      · cases ok.symm.trans eq
      · cases ok.symm.trans eq
        cases allows
      · exact ih hit' (eq.symm.trans ok)
  exact main e.rules none ok

/-- What is refused, said otherwise. -/
lemma OverPolicy.of_iff {rules : List PolicyRule} {refused refused' : Prop} (iff : refused ↔ refused') {content : String}
    {out : Except Exn OpaResult} (governed : OverPolicy rules refused content out) :
    OverPolicy rules refused' content out := propext iff ▸ governed

/-- The OPA engine, of an answer that is read. -/
lemma OPAPolicyEngine.answer_governed (e : OPAPolicyEngine) (audits : Bool) {reply : Reply} {data : Json}
    (body : reply.data = .ok data) {allowed : Bool} (read : interpret data = .ok (served allowed)) (content : String) :
    OverPolicy e.customRules.rules (allowed = false) content (e.answer audits reply content) where
  raises exn raises := answer_of_error raises
  own d ok denies := answer_of_deny ok denies
  policy d ok no refused := by
    rw [answer_of_data ok no body, read, refused]
    exact ⟨_, rfl, rfl, rfl, rfl⟩
  passed d ok no passed := by
    rw [answer_of_data ok no body, read, eq_true_of_ne_false passed]
    refine ⟨(served true).allowedOver d, by cases audits <;> rfl, ?_⟩
    unfold Interpreted.allowedOver
    cases action : d.action with
    | DENY => exact absurd action no
    | AUDIT => exact ⟨rfl, rfl⟩
    | ALLOW =>
      rw [PolicyEngine.evaluate_allows ok action]
      exact ⟨rfl, rfl⟩

namespace HybridPolicyEngine

variable (h : HybridPolicyEngine) {content : String}

/-- The hybrid engine, of an answer that `evaluate` reads. -/
lemma evaluate_governed {post : String → Json → Reply} {allowed : Bool}
    (read : ∀ d, ∃ data, (post h.opa.url (input content d)).data = .ok data ∧
      HybridPolicyEngine.interpret data = .ok (some (served allowed))) :
    OverPolicy h.regex.rules (allowed = false) content (h.evaluate post content) := by
  have asks : ∀ d, h.regex.evaluate content = .ok d → d.action ≠ .DENY →
      h.evaluate post content = combine d (served allowed) := by
    intro d ok no
    obtain ⟨data, body, read⟩ := read d
    have passes : d.allowed = true := by
      rw [d.consistent]
      exact decide_eq_true no
    unfold evaluate
    rw [ok]
    simp only [bind, Except.bind, passes, not_true_eq_false, if_false, body, read]
  refine ⟨fun exn raises => evaluate_of_error raises post, fun d ok denies => ?_, fun d ok no refused => ?_,
    fun d ok no passed => ?_⟩
  · refine evaluate_of_deny ok ?_ post
    rw [d.consistent, denies]
    rfl
  · rw [asks d ok no, refused]
    have denies : combine d (served false) = denied (served false) := by
      simp [combine, served]
    rw [denies]
    exact ⟨_, rfl, rfl, rfl, rfl⟩
  · rw [asks d ok no, eq_true_of_ne_false passed]
    unfold combine
    cases action : d.action with
    | DENY => exact absurd action no
    | AUDIT => exact ⟨.ofLocal d, by simp [served], action, rfl⟩
    | ALLOW => exact ⟨_, by simp [served, Json.IsTrue]; rfl, rfl, rfl⟩

/-- And of one that `evaluate_with_metadata` has the OPA engine read. -/
lemma evaluateWithMetadata_governed {post : String → Json → Reply} {allowed : Bool} {clientId actionType : String}
    (governed : OverPolicy [] (allowed = false) content (h.opa.evaluateWithMetadata post content clientId actionType)) :
    OverPolicy h.regex.rules (allowed = false) content (h.evaluateWithMetadata post content clientId actionType) := by
  have plain : PolicyEngine.evaluate { rules := [] } content = .ok
      { allowed := true, action := .ALLOW, triggeredRule := none, reason := "No policy violations detected" } := rfl
  refine ⟨fun exn raises => ?_, fun d ok denies => ?_, fun d ok no refused => ?_, fun d ok no passed => ?_⟩
  · unfold evaluateWithMetadata
    rw [raises]
    rfl
  · refine evaluateWithMetadata_of_deny ok ?_ post clientId actionType
    rw [d.consistent, denies]
    rfl
  · obtain ⟨r, answered, denies, named, reason⟩ := governed.policy _ plain nofun refused
    have allowed : d.allowed = true := by
      rw [d.consistent]
      exact decide_eq_true no
    have denied : r.allowed = false := by
      rw [r.consistent, denies]
      rfl
    refine ⟨r, ?_, denies, named, reason⟩
    unfold evaluateWithMetadata
    rw [ok]
    simp only [bind, Except.bind, allowed, not_true_eq_false, if_false, answered, denied, named, Bool.false_eq_true,
      and_false]
    rfl
  · obtain ⟨r, answered, allows, named⟩ := governed.passed _ plain nofun passed
    have allowed : d.allowed = true := by
      rw [d.consistent]
      exact decide_eq_true no
    have through : r.allowed = true := by
      rw [r.consistent, allows]
      rfl
    have available : ¬ r.triggeredRule.IsStr "opa_unavailable" := by
      rw [named]
      exact id
    unfold evaluateWithMetadata
    rw [ok]
    simp only [bind, Except.bind, allowed, not_true_eq_false, if_false, answered, available, through, and_true]
    cases action : d.action with
    | DENY => exact absurd action no
    | AUDIT => exact ⟨.ofLocal d, rfl, action, rfl⟩
    | ALLOW => exact ⟨r, rfl, allows, by rw [named, PolicyEngine.evaluate_allows ok action]⟩

end HybridPolicyEngine

/-- With the policy behind them, both engines decide by their own rules and what the policy has against the content:
its messages and its audits do not get through, and its rule for clients without a name holds of
`evaluate_with_metadata` only. -/
theorem policy_governs [Rego] (e : OPAPolicyEngine) (h : HybridPolicyEngine) {post : String → Json → Reply}
    (serves : Serves post e.opaUrl) (serves' : Serves post h.opaUrl) (content clientId actionType : String) :
    (OverPolicy e.customRules.rules (Governance.Refuses content) content (e.evaluate post content) ∧
      OverPolicy h.regex.rules (Governance.Refuses content) content (h.evaluate post content)) ∧
    (OverPolicy e.customRules.rules (Governance.Refuses content ∨ clientId = "" ∧ actionType = "custos_execute") content
        (e.evaluateWithMetadata post content clientId actionType) ∧
      OverPolicy h.regex.rules (Governance.Refuses content ∨ clientId = "" ∧ actionType = "custos_execute") content
        (h.evaluateWithMetadata post content clientId actionType)) := by
  -- `evaluate` names no client
  have plain (input : List (String × Json)) (has : Json.field input "content" = .str content)
      (nobody : Json.field input "client_id" = .null) :
      Governance.allow input = false ↔ Governance.Refuses content := by
    rw [← Bool.not_eq_true, Governance.allow_iff has, nobody]
    simp [Json.IsStr]
  have named : Governance.allow
      [ ("content", .str content), ("client_id", .str clientId), ("action_type", .str actionType)] = false ↔
        Governance.Refuses content ∨ clientId = "" ∧ actionType = "custos_execute" := by
    rw [← Bool.not_eq_true, Governance.allow_iff rfl]
    change ¬ (_ ∧ ¬ (clientId = "" ∧ actionType = "custos_execute")) ↔ _
    tauto
  have metadata {e : OPAPolicyEngine} (serves : Serves post e.opaUrl) :
      OverPolicy e.customRules.rules (Governance.allow
        [ ("content", .str content), ("client_id", .str clientId), ("action_type", .str actionType)] = false) content
        (e.evaluateWithMetadata post content clientId actionType) := by
    obtain ⟨data, body, read, -⟩ := serves.data
      [ ("content", .str content), ("client_id", .str clientId), ("action_type", .str actionType)]
    rw [e.evaluateWithMetadata_eq]
    exact e.answer_governed false body read content
  refine ⟨⟨?_, ?_⟩, (metadata serves).of_iff named, ?_⟩
  · obtain ⟨data, body, read, -⟩ := serves.data [ ("content", .str content), ("action_type", .str "custos_evaluate")]
    rw [e.evaluate_eq]
    exact (e.answer_governed true body read content).of_iff (plain _ rfl rfl)
  · refine OverPolicy.of_iff (plain [ ("content", .str content), ("action_type", .str "custos_evaluate")] rfl rfl)
      (h.evaluate_governed fun d => ?_)
    obtain ⟨data, body, -, read⟩ := serves'.data
      [ ("content", .str content),
        ("regex_result", .obj
          [ ("allowed", .bool d.allowed), ("action", .str d.action.value),
            ("triggered_rule", .ofOption d.triggeredRule), ("reason", .str d.reason)]),
        ("action_type", .str "custos_evaluate")]
    -- the policy is told what the rules said, and does not look at it
    refine ⟨data, body, read.trans (congrArg (fun allowed => Except.ok (some (served allowed))) ?_)⟩
    rw [Bool.eq_iff_iff, ← not_iff_not, Bool.not_eq_true, Bool.not_eq_true]
    exact (plain _ rfl rfl).trans (plain _ rfl rfl).symm
  · exact (h.evaluateWithMetadata_governed (metadata (e := h.opa) serves')).of_iff named

end

section Sample

/-- A pattern is found where it is the text. -/
local instance governanceRegex : Regex where
  invalid _ := none
  finditer pattern text := if pattern = text then [text] else []

local instance governanceRego : Rego where
  lower := String.toLower
  regexMatch pattern text := pattern = text

/-- What a server that holds the policy answers, as a data API does. -/
def policyServer (_ : String) : Json → Reply
  | .obj [ ("input", .obj input)] => okReply (.obj [ ("result", .bool (Governance.allow input))])
  | _ => okReply (.obj [])

/-- A jailbreak is refused by the policy of a server, and nothing else. -/
theorem policy_governs_sample :
    OverPolicy [] (Governance.Refuses "Jailbreak") "Jailbreak" (plainOpa.evaluate policyServer "Jailbreak") ∧
      Governance.Refuses "Jailbreak" ∧ ¬ Governance.Refuses "My password" :=
  have serves : ∀ opaUrl, Serves policyServer opaUrl := fun _ input =>
    ⟨200, "", [ ("result", .bool (Governance.allow input))], rfl, by decide, rfl, rfl, rfl⟩
  ⟨(policy_governs plainOpa plainHybrid (serves _) (serves _) "Jailbreak" "acme" "custos_evaluate").1.1,
    .inr (.inr (.inr ⟨"jailbreak", by decide, by decide +kernel⟩)), by unfold Governance.Refuses; decide +kernel⟩

end Sample

end Custos
