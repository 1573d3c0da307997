import Custos.Policy.Opa

/-!
# The engine of rules and server

`custos/hybrid_engine.py`: the regex rules decide first, and what they let through is put to an OPA server
whose outage leaves their decision. `evaluate` reads the reply itself, and by what counts as true;
`evaluate_with_metadata` asks the OPA engine and knows an outage by the name of its rule.
`hybrid_denies_iff` says when neither mistakes a reply that does not allow.
-/

namespace Custos

/-- `HybridPolicyEngine`. Its OPA engine holds no rules: `add_rule` gives them to the regex engine. -/
structure HybridPolicyEngine where
  regex : PolicyEngine := {}
  opaUrl : String

namespace HybridPolicyEngine

def opa (h : HybridPolicyEngine) : OPAPolicyEngine := { opaUrl := h.opaUrl }

/-- What `evaluate` asks the server. -/
def input (content : String) (d : PolicyResult) : Json :=
  .obj [("input", .obj
    [("content", .str content),
     ("regex_result", .obj
       [("allowed", .bool d.allowed), ("action", .str d.action.value),
        ("triggered_rule", .ofOption d.triggeredRule), ("reason", .str d.reason)]),
     ("action_type", .str "custos_evaluate")])]

/-- How `evaluate` reads a body: any allow that counts as true allows. None where it falls back. -/
def interpret (data : Json) : Except Exn (Option Interpreted) :=
  match data with
  | .obj fields =>
    match Json.field fields "result" with
    | .obj result => do
      let denyReasons ← pyList (denyField result)
      return some { allowed := (Json.field result "allow").truthy, denyReasons
                    triggered := Json.field result "triggered_rule"
                    auditFlag := Json.field result "audit" }
    | .bool b => do
      let denyReasons ← pyList ((Json.field fields "deny").or (.arr []))
      return some { allowed := b, denyReasons, triggered := Json.field fields "triggered_rule"
                    auditFlag := .null }
    | _ => return none
  | _ => .error (noGet data)

/-- The server denies, and no audit flag is looked at. -/
def denied (v : Interpreted) : Except Exn OpaResult := do
  let reason ← v.reason "Denied by OPA policy"
  return { allowed := false, action := .DENY, triggeredRule := v.triggered.or (.str "opa_deny"), reason }

/-- What `evaluate` makes of a body it has read, after rules that let the content through. -/
def combine (regexResult : PolicyResult) (v : Interpreted) : Except Exn OpaResult :=
  if regexResult.action = .AUDIT ∧ v.allowed then .ok (.ofLocal regexResult)
  else if v.allowed ∧ v.auditFlag.IsTrue then v.audited
  else if ¬ v.allowed then denied v
  else .ok { allowed := true, action := .ALLOW
             triggeredRule := v.triggered.or (.ofOption regexResult.triggeredRule)
             reason := "Allowed by regex + OPA" }

variable [Regex]

/-- `evaluate`. -/
def evaluate (h : HybridPolicyEngine) (post : String → Json → Reply) (content : String) :
    Except Exn OpaResult := do
  let regexResult ← h.regex.evaluate content
  if ¬ regexResult.allowed then return .ofLocal regexResult
  else
    match (post h.opa.url (input content regexResult)).data with
    | .error _ => return .ofLocal regexResult
    | .ok data =>
      match ← interpret data with
      | none => return .ofLocal regexResult
      | some v => combine regexResult v

/-- `evaluate_with_metadata`. -/
def evaluateWithMetadata (h : HybridPolicyEngine) (post : String → Json → Reply)
    (content clientId actionType : String) : Except Exn OpaResult := do
  let regexResult ← h.regex.evaluate content
  if ¬ regexResult.allowed then return .ofLocal regexResult
  else
    let opaResult ← h.opa.evaluateWithMetadata post content clientId actionType
    if opaResult.triggeredRule.IsStr "opa_unavailable" then return .ofLocal regexResult
    else if regexResult.action = .AUDIT ∧ opaResult.allowed then return .ofLocal regexResult
    else return opaResult

end HybridPolicyEngine

/-! ## Replies that do not allow -/

/-- Deny messages as a server has them: none, a string, or a list of strings. -/
def Messages (j : Json) : Prop := j = .null ∨ (∃ s, j = .str s) ∨ ∃ ss : List String, j = .arr (ss.map .str)

/-- A body that is well formed and does not allow, literally. -/
inductive Refusing : Json → Prop
  | object (fields result : List (String × Json)) : Json.field fields "result" = .obj result →
      Messages (Json.field result "deny") → Messages (Json.field result "deny_messages") →
      ¬ (Json.field result "allow").IsTrue → Refusing (.obj fields)
  | boolean (fields : List (String × Json)) : Json.field fields "result" = .bool false →
      Messages (Json.field fields "deny") → Refusing (.obj fields)

/-- The value of allow, where the result is an object that has one. -/
def allowField : Json → Json
  | .obj fields =>
    match Json.field fields "result" with
    | .obj result => Json.field result "allow"
    | _ => .null
  | _ => .null

/-- Messages or else others are messages. -/
lemma Messages.or {a b : Json} (ha : Messages a) (hb : Messages b) : Messages (a.or b) := by
  unfold Json.or
  split
  · exact ha
  · exact hb

/-- Deny messages are iterated to strings. -/
lemma Messages.items {j : Json} (messages : Messages j) :
    ∃ ss : List String, (j.or (.arr [])).items = some (ss.map .str) := by
  rcases messages with rfl | ⟨s, rfl⟩ | ⟨ss, rfl⟩
  · exact ⟨[], rfl⟩
  · by_cases empty : s = ""
    · exact ⟨[], by simp [Json.or, Json.truthy, empty, Json.items]⟩
    · exact ⟨s.toList.map (·.toString), by simp [Json.or, Json.truthy, empty, Json.items]⟩
  · cases ss with
    | nil => exact ⟨[], rfl⟩
    | cons s ss => exact ⟨s :: ss, rfl⟩

/-- The items of a list of strings are strings. -/
lemma forall_mem_map_str (ss : List String) : ∀ x ∈ ss.map Json.str, ∃ s, x = .str s := by
  intro x mem
  obtain ⟨s, -, rfl⟩ := List.mem_map.1 mem
  exact ⟨s, rfl⟩

/-- The OPA engine reads such a body as a deny. -/
lemma Refusing.interpret {data : Json} (refusing : Refusing data) :
    ∃ v, Custos.interpret data = .ok v ∧ v.allowed = false ∧ v.triggered = triggeredField data ∧
      ∀ x ∈ v.denyReasons, ∃ s, x = .str s := by
  cases refusing with
  | object fields result field deny messages no =>
    obtain ⟨ss, items⟩ := (deny.or messages).items
    refine ⟨_, interpret_object field items, decide_eq_false no, ?_, forall_mem_map_str ss⟩
    unfold triggeredField
    dsimp only
    rw [field]
  | boolean fields field deny =>
    obtain ⟨ss, items⟩ := deny.items
    refine ⟨⟨false, ss.map .str, Json.field fields "triggered_rule", .null⟩, ?_, rfl, ?_, forall_mem_map_str ss⟩
    · unfold Custos.interpret
      dsimp only
      rw [field]
      dsimp only
      rw [pyList_eq_ok.2 items]
      rfl
    · unfold triggeredField
      dsimp only
      rw [field]

/-- The hybrid engine reads it as a deny unless its allow counts as true. -/
lemma Refusing.interpretHybrid {data : Json} (refusing : Refusing data) :
    ∃ v, HybridPolicyEngine.interpret data = .ok (some v) ∧ v.allowed = (allowField data).truthy ∧
      ∀ x ∈ v.denyReasons, ∃ s, x = .str s := by
  cases refusing with
  | object fields result field deny messages no =>
    obtain ⟨ss, items⟩ := (deny.or messages).items
    refine ⟨⟨(Json.field result "allow").truthy, ss.map .str, Json.field result "triggered_rule",
      Json.field result "audit"⟩, ?_, ?_, forall_mem_map_str ss⟩
    · unfold HybridPolicyEngine.interpret
      dsimp only
      rw [field]
      dsimp only
      rw [denyField, pyList_eq_ok.2 items]
      rfl
    · unfold allowField
      dsimp only
      rw [field]
  | boolean fields field deny =>
    obtain ⟨ss, items⟩ := deny.items
    refine ⟨⟨false, ss.map .str, Json.field fields "triggered_rule", .null⟩, ?_, ?_, forall_mem_map_str ss⟩
    · unfold HybridPolicyEngine.interpret
      dsimp only
      rw [field]
      dsimp only
      rw [pyList_eq_ok.2 items]
      rfl
    · unfold allowField
      dsimp only
      rw [field]
      rfl

/-! ## Never overriding a deny -/

/-- The call returns, with a deny. -/
def Denying (out : Except Exn OpaResult) : Prop := ∃ r, out = .ok r ∧ r.action = .DENY

namespace HybridPolicyEngine

/-- A denial with strings for messages denies. -/
lemma denied_ok {v : Interpreted} (strings : ∀ x ∈ v.denyReasons, ∃ s, x = .str s) : Denying (denied v) := by
  obtain ⟨s, reason⟩ := (Interpreted.reason_ok_iff "Denied by OPA policy").2 strings
  unfold denied
  rw [reason]
  exact ⟨_, rfl, rfl⟩

/-- After rules that let the content through, what is read as an allow is never a deny. -/
lemma combine_denying_iff {d : PolicyResult} (passed : d.action ≠ .DENY) {v : Interpreted}
    (strings : ∀ x ∈ v.denyReasons, ∃ s, x = .str s) : Denying (combine d v) ↔ v.allowed = false := by
  unfold combine
  cases v.allowed with
  | false => simpa using denied_ok strings
  | true =>
    refine iff_of_false ?_ nofun
    rintro ⟨r, answered, denies⟩
    split at answered
    · cases answered
      exact passed denies
    · split at answered
      · cases (v.audited_ok answered).1.symm.trans denies
      · cases answered
        cases denies

/-- The rule a body is read with is the one it names. -/
lemma interpret_triggered {data : Json} {v : Interpreted} (ok : interpret data = .ok (some v)) :
    v.triggered = triggeredField data := by
  unfold interpret at ok
  unfold triggeredField
  cases data with
  | obj fields =>
    dsimp only at ok ⊢
    split at ok
    · rename_i result field
      cases reasons : pyList (denyField result) with
      | error e => rw [reasons] at ok; cases ok
      | ok xs =>
        rw [reasons] at ok
        cases ok
        rw [field]
    · rename_i b field
      cases reasons : pyList ((Json.field fields "deny").or (.arr [])) with
      | error e => rw [reasons] at ok; cases ok
      | ok xs =>
        rw [reasons] at ok
        cases ok
        rw [field]
    · cases ok
  | _ => cases ok

/-- What is combined names its rule by a string where the reply did. -/
lemma combine_isRule {d : PolicyResult} {v : Interpreted} {r : OpaResult} (ok : combine d v = .ok r)
    (rule : v.triggered.IsRule) : r.triggeredRule.IsRule := by
  unfold combine at ok
  split at ok
  · cases ok
    exact ⟨d.triggeredRule, rfl⟩
  · split at ok
    · rw [(v.audited_ok ok).2]
      exact rule.or _
    · split at ok
      · unfold denied at ok
        cases reason : v.reason "Denied by OPA policy" with
        | error e => rw [reason] at ok; cases ok
        | ok s =>
          rw [reason] at ok
          cases ok
          exact rule.or _
      · cases ok
        dsimp only
        unfold Json.or
        split
        · exact rule
        · exact ⟨d.triggeredRule, rfl⟩

variable [Regex] {h : HybridPolicyEngine} {reply : Reply} {content : String} {d : PolicyResult}

/-- The engine names its rule by a string where the server does. -/
lemma evaluate_isRule {post : String → Json → Reply} {r : OpaResult}
    (names : ∀ d, (post h.opa.url (input content d)).NamesRule) (ok : h.evaluate post content = .ok r) :
    r.triggeredRule.IsRule := by
  unfold evaluate at ok
  cases own : h.regex.evaluate content with
  | error e => rw [own] at ok; cases ok
  | ok d =>
    rw [own] at ok
    simp only [bind, Except.bind] at ok
    split at ok
    · cases ok
      exact ⟨d.triggeredRule, rfl⟩
    · split at ok
      · cases ok
        exact ⟨d.triggeredRule, rfl⟩
      · rename_i data body
        cases read : interpret data with
        | error e => rw [read] at ok; cases ok
        | ok v =>
          rw [read] at ok
          cases v with
          | none =>
            cases ok
            exact ⟨d.triggeredRule, rfl⟩
          | some v =>
            refine combine_isRule ok ?_
            rw [interpret_triggered read]
            exact names d data body

/-- What the rules deny, or cannot decide, the server is not asked about. -/
lemma evaluate_of_error {exn : Exn} (raises : h.regex.evaluate content = .error exn)
    (post : String → Json → Reply) : h.evaluate post content = .error exn := by
  unfold evaluate
  rw [raises]
  rfl

/-- What the rules deny is denied. -/
lemma evaluate_of_deny (ok : h.regex.evaluate content = .ok d) (denies : d.allowed = false)
    (post : String → Json → Reply) : h.evaluate post content = .ok (.ofLocal d) := by
  unfold evaluate
  rw [ok]
  exact if_pos (by simp [denies])

lemma evaluateWithMetadata_of_deny (ok : h.regex.evaluate content = .ok d) (denies : d.allowed = false)
    (post : String → Json → Reply) (clientId actionType : String) :
    h.evaluateWithMetadata post content clientId actionType = .ok (.ofLocal d) := by
  unfold evaluateWithMetadata
  rw [ok]
  exact if_pos (by simp [denies])

/-- What the rules let through is denied by `evaluate` exactly when the reply's allow does not count as
true. -/
lemma evaluate_denying_iff {data : Json} (body : reply.data = .ok data) (refusing : Refusing data)
    (ok : h.regex.evaluate content = .ok d) (passed : d.action ≠ .DENY) :
    Denying (h.evaluate (fun _ _ => reply) content) ↔ (allowField data).truthy = false := by
  obtain ⟨v, read, allows, strings⟩ := refusing.interpretHybrid
  have allowed : d.allowed = true := by
    rw [d.consistent]
    exact decide_eq_true passed
  have asks : h.evaluate (fun _ _ => reply) content = combine d v := by
    unfold evaluate
    rw [ok]
    simp only [bind, Except.bind, allowed, not_true_eq_false, if_false, body, read]
  rw [asks, combine_denying_iff passed strings, allows]

/-- And by `evaluate_with_metadata` exactly when the reply does not bear the name of an outage. -/
lemma evaluateWithMetadata_denying_iff {data : Json} (body : reply.data = .ok data) (refusing : Refusing data)
    (ok : h.regex.evaluate content = .ok d) (passed : d.action ≠ .DENY) (clientId actionType : String) :
    Denying (h.evaluateWithMetadata (fun _ _ => reply) content clientId actionType) ↔
      ¬ (triggeredField data).IsStr "opa_unavailable" := by
  obtain ⟨v, read, refuses, named, strings⟩ := refusing.interpret
  have allowed : d.allowed = true := by
    rw [d.consistent]
    exact decide_eq_true passed
  obtain ⟨r, denied⟩ := v.denied_ok_iff.2 strings
  obtain ⟨denies, triggered⟩ := v.denied_ok denied
  have opa : h.opa.evaluateWithMetadata (fun _ _ => reply) content clientId actionType = .ok r := by
    have empty : h.opa.customRules.evaluate content = .ok
        { allowed := true, action := .ALLOW, triggeredRule := none
          reason := "No policy violations detected" } := rfl
    rw [OPAPolicyEngine.evaluateWithMetadata_eq, OPAPolicyEngine.answer_of_data empty nofun body, read]
    simp only [Except.bind, OPAPolicyEngine.resolve, refuses, Bool.false_eq_true, not_false_eq_true,
      if_true, denied]
  -- the OPA engine keeps the reply's rule where it counts as true, and else gives its own
  have outage : r.triggeredRule.IsStr "opa_unavailable" ↔ (triggeredField data).IsStr "opa_unavailable" := by
    rw [triggered, named, Json.isStr_iff, Json.isStr_iff]
    unfold Json.or
    cases counts : (triggeredField data).truthy with
    | true => simp
    | false =>
      refine iff_of_false (by simp) fun same => ?_
      rw [same] at counts
      cases counts
  have refused : r.allowed = false := by
    rw [r.consistent, denies]
    rfl
  unfold evaluateWithMetadata
  rw [ok]
  simp only [bind, Except.bind, allowed, not_true_eq_false, if_false, opa, refused, Bool.false_eq_true,
    and_false]
  rw [← outage]
  split
  -- taken for an outage, the deny is dropped for what the rules said
  · rename_i unavailable
    refine iff_of_false ?_ fun no => no unavailable
    rintro ⟨r', answered, denies'⟩
    cases answered
    exact passed denies'
  · rename_i available
    exact iff_of_true ⟨r, rfl, denies⟩ available

end HybridPolicyEngine

/-- Whatever the rules are, a reply that does not allow is denied both ways exactly when no pattern that does
not compile is reached, and either a rule denies the content or the reply's allow does not count as true and
its rule does not bear the name of an outage. -/
theorem hybrid_denies_iff [Regex] (h : HybridPolicyEngine) (reply : Reply) (data : Json)
    (body : reply.data = .ok data) (refusing : Refusing data) (content clientId actionType : String) :
    (Denying (h.evaluate (fun _ _ => reply) content) ∧
      Denying (h.evaluateWithMetadata (fun _ _ => reply) content clientId actionType)) ↔
    PolicyEngine.Evaluable h.regex.rules content ∧
      ((∃ rule ∈ h.regex.rules, rule.Denies content) ∨
        (allowField data).truthy = false ∧ ¬ (triggeredField data).IsStr "opa_unavailable") := by
  rw [← PolicyEngine.evaluate_ok_iff]
  cases ok : h.regex.evaluate content with
  | error exn =>
    refine iff_of_false ?_ ?_
    · rintro ⟨⟨r, answered, -⟩, -⟩
      rw [HybridPolicyEngine.evaluate_of_error ok] at answered
      cases answered
    · rintro ⟨⟨d, answered⟩, -⟩
      cases answered
  | ok d =>
    have denies := PolicyEngine.evaluate_denies_iff ok
    by_cases deny : d.action = .DENY
    · have refused : d.allowed = false := by
        rw [d.consistent, deny]
        rfl
      refine iff_of_true ⟨⟨_, HybridPolicyEngine.evaluate_of_deny ok refused _, deny⟩,
        ⟨_, HybridPolicyEngine.evaluateWithMetadata_of_deny ok refused _ clientId actionType, deny⟩⟩
        ⟨⟨d, rfl⟩, .inl (denies.1 deny)⟩
    · rw [HybridPolicyEngine.evaluate_denying_iff body refusing ok deny,
        HybridPolicyEngine.evaluateWithMetadata_denying_iff body refusing ok deny]
      exact ⟨fun both => ⟨⟨d, rfl⟩, .inr both⟩, fun all => all.2.resolve_left fun yes => deny (denies.2 yes)⟩

section Sample

/-- A pattern without special characters, searched in a text no longer than it. -/
local instance hybridRegex : Regex where
  invalid _ := none
  finditer pattern text := if pattern = text then [text] else []

def plainHybrid : HybridPolicyEngine := { regex := { rules := [] }, opaUrl := "http://localhost:8181" }

/-- A body that denies. -/
def denyBody : Json :=
  .obj [("result", .obj [("allow", .bool false), ("deny", .arr [.str "not on the list"])])]

/-- A server that denies a greeting. -/
theorem hybrid_denies_iff_sample :
    (Denying (plainHybrid.evaluate (fun _ _ => okReply denyBody) "hello") ∧
      Denying (plainHybrid.evaluateWithMetadata (fun _ _ => okReply denyBody) "hello" "acme" "custos_evaluate")) ↔
    PolicyEngine.Evaluable plainHybrid.regex.rules "hello" ∧
      ((∃ rule ∈ plainHybrid.regex.rules, rule.Denies "hello") ∨
        (allowField denyBody).truthy = false ∧ ¬ (triggeredField denyBody).IsStr "opa_unavailable") :=
  hybrid_denies_iff plainHybrid (okReply denyBody) denyBody rfl
    (.object _ _ rfl (.inr (.inr ⟨["not on the list"], rfl⟩)) (.inl rfl) nofun) "hello" "acme" "custos_evaluate"

/-- A body whose allow is a string, and one that denies under the name of an outage. -/
def yesBody : Json := .obj [("result", .obj [("allow", .str "no")])]

def outageBody : Json :=
  .obj [("result", .obj [("allow", .bool false), ("triggered_rule", .str "opa_unavailable")])]

/-- One way allows the first, the other the second. -/
theorem hybrid_overrides_deny :
    (Refusing yesBody ∧ (plainHybrid.evaluate (fun _ _ => okReply yesBody) "hello").map OpaResult.key =
        .ok (true, .ALLOW, .null)) ∧
      (Refusing outageBody ∧ (plainHybrid.evaluateWithMetadata (fun _ _ => okReply outageBody) "hello" "acme"
        "custos_evaluate").map OpaResult.key = .ok (true, .ALLOW, .null)) :=
  ⟨⟨.object _ _ rfl (.inl rfl) (.inl rfl) nofun, rfl⟩, .object _ _ rfl (.inl rfl) (.inl rfl) nofun, rfl⟩

end Sample

end Custos
