import Custos.Library.JsonRead
import Custos.Policy.Engine

/-!
# The engine behind an OPA server

`custos/opa_engine.py`. Rules of its own are consulted first, and the server's reply is an arbitrary JSON
value that `interpret` reads. The two ways to ask (`evaluate`, `evaluate_with_metadata`) read it alike and
part only where an allow is flagged for audit.

`opa_closed_iff` says for which replies the engine answers at all, and that it then fails closed;
`opa_paths_agree_iff` says when the two ways decide alike.
-/

namespace Custos

/-! ## The server's reply -/

/-- What a post to the server comes to: an error of the client, or a response, whose status may be an error
and whose body may be no JSON. -/
inductive Reply where
  | error (text : String)
  | response (status : Nat) (statusError : String) (body : Except String Json)

/-- The body, or the text of the exception that is caught. -/
def Reply.data : Reply → Except String Json
  | .error text => .error text
  | .response status statusError body => if 200 ≤ status ∧ status < 300 then body else .error statusError

/-- A `PolicyResult` whose rule may be whatever the server named. -/
structure OpaResult where
  allowed : Bool
  action : PolicyAction
  triggeredRule : Json
  reason : String
  consistent : allowed = decide (action ≠ .DENY) := by rfl

def OpaResult.ofLocal (d : PolicyResult) : OpaResult :=
  { allowed := d.allowed, action := d.action, triggeredRule := .ofOption d.triggeredRule
    reason := d.reason, consistent := d.consistent }

/-- The value is a string or none, as `PolicyResult` declares its rule. -/
def Json.IsRule (j : Json) : Prop := ∃ rule : Option String, j = .ofOption rule

/-- The string, of a value that is one. -/
def Json.asRule : Json → Option String
  | .str s => some s
  | _ => none

/-- The result as the callers of an engine take it. -/
def OpaResult.toResult (r : OpaResult) : PolicyResult :=
  { allowed := r.allowed, action := r.action, triggeredRule := r.triggeredRule.asRule
    reason := r.reason, consistent := r.consistent }

/-- A default for a rule is a rule. -/
lemma Json.IsRule.or {j : Json} (rule : j.IsRule) (default : String) : (j.or (.str default)).IsRule := by
  unfold Json.or
  split
  · exact rule
  · exact ⟨some default, rfl⟩

lemma Json.asRule_ofOption (rule : Option String) : (Json.ofOption rule).asRule = rule := by
  cases rule <;> rfl

/-- A result of the engine's own rules is told whole. -/
@[simp] lemma OpaResult.toResult_ofLocal (d : PolicyResult) : (OpaResult.ofLocal d).toResult = d := by
  unfold ofLocal toResult
  simp only [Json.asRule_ofOption]

/-- A result whose rule is a string or none is told whole to the caller. -/
lemma OpaResult.ofLocal_toResult {r : OpaResult} (rule : r.triggeredRule.IsRule) : .ofLocal r.toResult = r := by
  obtain ⟨rule, named⟩ := rule
  unfold ofLocal toResult
  simp only [named, Json.asRule_ofOption]
  rw [← named]

/-- What an engine with a Rego server behind it answers. The engine passes on whatever rule the server names;
`PolicyResult` declares it a string or none, and the record of a decision, its column in the store and its listing
take it for that. It is the server that has to name its rules so. -/
structure Remote where
  answer : String → Except Exn OpaResult
  named : ∀ content r, answer content = .ok r → r.triggeredRule.IsRule

/-- The answer as the callers of the engine take it. -/
def Remote.read (remote : Remote) (content : String) : Except Exn PolicyResult :=
  (remote.answer content).map OpaResult.toResult

/-- Answers whose rules are strings. -/
def Remote.ofResults (results : String → Except Exn PolicyResult) : Remote where
  answer content := (results content).map .ofLocal
  named content r answered := by
    cases result : results content with
    | error e =>
      rw [result] at answered
      cases answered
    | ok d =>
      rw [result] at answered
      cases answered
      exact ⟨d.triggeredRule, rfl⟩

/-- Nothing the engine answers is lost to its caller. -/
lemma Remote.read_ok {remote : Remote} {content : String} {r : OpaResult} (answered : remote.answer content = .ok r) :
    remote.read content = .ok r.toResult ∧ .ofLocal r.toResult = r := by
  refine ⟨?_, OpaResult.ofLocal_toResult (remote.named content r answered)⟩
  unfold read
  rw [answered]
  rfl

/-- Any answers with strings for rules can be those of an engine with a server behind it. -/
@[simp] lemma Remote.read_ofResults (results : String → Except Exn PolicyResult) :
    (Remote.ofResults results).read = results := by
  funext content
  show ((results content).map .ofLocal).map OpaResult.toResult = results content
  cases results content with
  | error e => rfl
  | ok d => exact congrArg Except.ok (OpaResult.toResult_ofLocal d)

/-! ## What Python raises at a value of the wrong kind -/

/-- `for x in value`, and so `list(value)`. -/
def pyList (j : Json) : Except Exn (List Json) :=
  match j.items with
  | some xs => .ok xs
  | none => .error (.Other "TypeError" ("'" ++ j.typeName ++ "' object is not iterable"))

/-- `"; ".join(items)`: the first item that is no string raises. -/
def pyJoin (xs : List Json) : Except Exn String :=
  match Json.strings xs, xs.findIdx? (·.isString = false) with
  | some ss, _ => .ok ("; ".intercalate ss)
  | none, i => .error (.Other "TypeError" ("sequence item " ++ toString (i.getD 0) ++
      ": expected str instance, " ++ ((xs.find? (·.isString = false)).getD .null).typeName ++ " found"))

/-- `value.get`, of a value that is no dict. -/
def noGet (j : Json) : Exn := .Other "AttributeError" ("'" ++ j.typeName ++ "' object has no attribute 'get'")

/-! ## Reading the reply -/

/-- What a reply says: `allowed`, `deny_reasons`, `triggered` and `audit_flag`. -/
structure Interpreted where
  allowed : Bool
  denyReasons : List Json
  triggered : Json
  auditFlag : Json

/-- The reasons a result that is an object gives: `deny`, else `deny_messages`. -/
def denyField (result : List (String × Json)) : Json :=
  ((Json.field result "deny").or (Json.field result "deny_messages")).or (.arr [])

/-- The rule the body names. -/
def triggeredField : Json → Json
  | .obj fields =>
    match Json.field fields "result" with
    | .obj result => Json.field result "triggered_rule"
    | _ => Json.field fields "triggered_rule"
  | _ => .null

/-- How the engine reads the body. Only the literal true allows. -/
def interpret (data : Json) : Except Exn Interpreted :=
  match data with
  | .obj fields =>
    match Json.field fields "result" with
    | .obj result => do
      let denyReasons ← pyList (denyField result)
      return { allowed := (Json.field result "allow").IsTrue, denyReasons
               triggered := Json.field result "triggered_rule", auditFlag := Json.field result "audit" }
    | .bool b => do
      let denyReasons ← pyList ((Json.field fields "deny").or (.arr []))
      return { allowed := b, denyReasons, triggered := Json.field fields "triggered_rule"
               auditFlag := .null }
    | _ => return { allowed := false, denyReasons := [.str "OPA returned unexpected response format"]
                    triggered := .str "opa_parse_error", auditFlag := .null }
  | _ => .error (noGet data)

/-- `"; ".join(deny_reasons) if deny_reasons else default`. -/
def Interpreted.reason (v : Interpreted) (default : String) : Except Exn String :=
  if v.denyReasons = [] then .ok default else pyJoin v.denyReasons

/-- The reply denies. An audit flag changes no more than the reason. -/
def Interpreted.denied (v : Interpreted) : Except Exn OpaResult := do
  let reason ← v.reason "Denied by OPA policy"
  return { allowed := false, action := .DENY, triggeredRule := v.triggered.or (.str "opa_deny")
           reason := if v.auditFlag.IsTrue then reason ++ " (audit flag also set)" else reason }

/-- The reply allows and flags for audit. -/
def Interpreted.audited (v : Interpreted) : Except Exn OpaResult := do
  let reason ← v.reason "Flagged for audit by OPA"
  return { allowed := true, action := .AUDIT, triggeredRule := v.triggered.or (.str "opa_audit"), reason }

/-- The reply allows: an audit of the engine's own rules stands. -/
def Interpreted.allowedOver (v : Interpreted) (custom : PolicyResult) : OpaResult :=
  if custom.action = .AUDIT then
    { allowed := true, action := .AUDIT, triggeredRule := .ofOption custom.triggeredRule
      reason := "Custom rule '" ++ custom.triggeredRule.getD "None" ++ "' flagged for audit: "
        ++ custom.reason }
  else
    { allowed := true, action := .ALLOW, triggeredRule := v.triggered, reason := "Allowed by OPA policy" }

/-- `opa_unavailable`: no reply denies. -/
def opaUnavailable (exc : String) : OpaResult :=
  { allowed := false, action := .DENY, triggeredRule := .str "opa_unavailable"
    reason := "OPA policy server unavailable — failing closed: " ++ exc }

/-- Items are joined where all of them are strings. -/
lemma pyJoin_ok_iff {xs : List Json} : (∃ s, pyJoin xs = .ok s) ↔ ∀ x ∈ xs, ∃ s, x = .str s := by
  rw [← Json.strings_isSome_iff]
  unfold pyJoin
  cases Json.strings xs with
  | none => exact iff_of_false nofun nofun
  | some ss => exact iff_of_true ⟨_, rfl⟩ rfl

/-- A value is listed where it can be iterated. -/
lemma pyList_eq_ok {j : Json} {xs : List Json} : pyList j = .ok xs ↔ j.items = some xs := by
  unfold pyList
  cases j.items with
  | none => exact iff_of_false nofun nofun
  | some ys => simp

/-- The bodies that are read, by what their result is. -/
inductive Reads : Json → Interpreted → Prop
  | object (fields result : List (String × Json)) (xs : List Json) :
      Json.field fields "result" = .obj result → (denyField result).items = some xs →
      Reads (.obj fields) ⟨(Json.field result "allow").IsTrue, xs, Json.field result "triggered_rule",
        Json.field result "audit"⟩
  | boolean (fields : List (String × Json)) (b : Bool) (xs : List Json) :
      Json.field fields "result" = .bool b →
      ((Json.field fields "deny").or (.arr [])).items = some xs →
      Reads (.obj fields) ⟨b, xs, Json.field fields "triggered_rule", .null⟩
  | unexpected (fields : List (String × Json)) :
      (∀ result, Json.field fields "result" ≠ .obj result) → (∀ b, Json.field fields "result" ≠ .bool b) →
      Reads (.obj fields) ⟨false, [.str "OPA returned unexpected response format"], .str "opa_parse_error", .null⟩

/-- What is read of a reply was in it. -/
lemma interpret_reads {data : Json} {v : Interpreted} (ok : interpret data = .ok v) : Reads data v := by
  unfold interpret at ok
  cases data with
  | obj fields =>
    dsimp only at ok
    split at ok
    · rename_i result field
      cases reasons : pyList (denyField result) with
      | error e => rw [reasons] at ok; cases ok
      | ok xs =>
        rw [reasons] at ok
        cases ok
        exact .object fields result xs field (pyList_eq_ok.1 reasons)
    · rename_i b field
      cases reasons : pyList ((Json.field fields "deny").or (.arr [])) with
      | error e => rw [reasons] at ok; cases ok
      | ok xs =>
        rw [reasons] at ok
        cases ok
        exact .boolean fields b xs field (pyList_eq_ok.1 reasons)
    · rename_i noObject noBool
      cases ok
      exact .unexpected fields (fun result => noObject result) fun b => noBool b
  | _ => cases ok

/-- The rule a body is read with is the one it names, or says that it could not be read. -/
lemma Reads.isRule {data : Json} {v : Interpreted} (reads : Reads data v) (rule : (triggeredField data).IsRule) :
    v.triggered.IsRule := by
  cases reads with
  | object fields result xs field _ =>
    unfold triggeredField at rule
    dsimp only at rule
    rwa [field] at rule
  | boolean fields b xs field _ =>
    unfold triggeredField at rule
    dsimp only at rule
    rwa [field] at rule
  | unexpected fields _ _ => exact ⟨some "opa_parse_error", rfl⟩

/-- A result that is an object is read field by field. -/
lemma interpret_object {fields result : List (String × Json)} {xs : List Json}
    (field : Json.field fields "result" = .obj result) (items : (denyField result).items = some xs) :
    interpret (.obj fields) = .ok ⟨(Json.field result "allow").IsTrue, xs,
      Json.field result "triggered_rule", Json.field result "audit"⟩ := by
  unfold interpret
  dsimp only
  rw [field]
  dsimp only
  rw [pyList_eq_ok.2 items]
  rfl

namespace Interpreted

/-- There is a reason where all messages are strings. -/
lemma reason_ok_iff {v : Interpreted} (default : String) :
    (∃ s, v.reason default = .ok s) ↔ ∀ x ∈ v.denyReasons, ∃ s, x = .str s := by
  unfold reason
  split
  · rename_i none
    rw [none]
    exact iff_of_true ⟨_, rfl⟩ (List.forall_mem_nil _)
  · exact pyJoin_ok_iff

/-- A denial is made where all messages are strings. -/
lemma denied_ok_iff {v : Interpreted} :
    (∃ r, v.denied = .ok r) ↔ ∀ x ∈ v.denyReasons, ∃ s, x = .str s := by
  rw [← reason_ok_iff "Denied by OPA policy"]
  unfold denied
  cases v.reason "Denied by OPA policy" with
  | error e => exact iff_of_false nofun nofun
  | ok s => exact iff_of_true ⟨_, rfl⟩ ⟨s, rfl⟩

lemma denied_ok {v : Interpreted} {r : OpaResult} (ok : v.denied = .ok r) :
    r.action = .DENY ∧ r.triggeredRule = v.triggered.or (.str "opa_deny") := by
  unfold denied at ok
  cases reason : v.reason "Denied by OPA policy" with
  | error e => rw [reason] at ok; cases ok
  | ok s => rw [reason] at ok; cases ok; exact ⟨rfl, rfl⟩

/-- An audit is made where all messages are strings. -/
lemma audited_ok_iff {v : Interpreted} :
    (∃ r, v.audited = .ok r) ↔ ∀ x ∈ v.denyReasons, ∃ s, x = .str s := by
  rw [← reason_ok_iff "Flagged for audit by OPA"]
  unfold audited
  cases v.reason "Flagged for audit by OPA" with
  | error e => exact iff_of_false nofun nofun
  | ok s => exact iff_of_true ⟨_, rfl⟩ ⟨s, rfl⟩

lemma audited_ok {v : Interpreted} {r : OpaResult} (ok : v.audited = .ok r) :
    r.action = .AUDIT ∧ r.triggeredRule = v.triggered.or (.str "opa_audit") := by
  unfold audited at ok
  cases reason : v.reason "Flagged for audit by OPA" with
  | error e => rw [reason] at ok; cases ok
  | ok s => rw [reason] at ok; cases ok; exact ⟨rfl, rfl⟩

end Interpreted

/-! ## What a reply says -/

namespace Reply

/-- The reply allows, literally. -/
def Allows (reply : Reply) : Prop :=
  ∃ fields, reply.data = .ok (.obj fields) ∧ ((Json.field fields "result").IsTrue ∨
    ∃ result, Json.field fields "result" = .obj result ∧ (Json.field result "allow").IsTrue)

/-- A body is an object whose deny messages can be iterated, and are strings where they are joined: where the
reply denies, and where an audit flag counts and is set. -/
def Readable (audits : Bool) (reply : Reply) : Prop :=
  ∀ data, reply.data = .ok data → ∃ fields, data = .obj fields ∧
    match Json.field fields "result" with
    | .obj result => ∃ xs, (denyField result).items = some xs ∧
        (¬ (Json.field result "allow").IsTrue ∨ audits ∧ (Json.field result "audit").IsTrue →
          ∀ x ∈ xs, ∃ s, x = .str s)
    | .bool b => ∃ xs, ((Json.field fields "deny").or (.arr [])).items = some xs ∧
        (b = false → ∀ x ∈ xs, ∃ s, x = .str s)
    | _ => True

/-- A reply is readable exactly when it is read, and joined where it has to be. -/
lemma readable_iff {audits : Bool} {reply : Reply} :
    reply.Readable audits ↔ ∀ data, reply.data = .ok data → ∃ v, interpret data = .ok v ∧
      (v.allowed = false ∨ audits ∧ v.auditFlag.IsTrue → ∀ x ∈ v.denyReasons, ∃ s, x = .str s) := by
  refine forall₂_congr fun data _ => ?_
  unfold interpret
  cases data with
  | obj fields =>
    dsimp only
    simp only [Json.obj.injEq, exists_eq_left']
    cases Json.field fields "result" with
    | obj result =>
      unfold pyList
      dsimp only
      cases (denyField result).items with
      | none => simp [bind, Except.bind]
      | some xs => simp [bind, Except.bind, pure, Except.pure]
    | bool b =>
      unfold pyList
      dsimp only
      cases ((Json.field fields "deny").or (.arr [])).items with
      | none => simp [bind, Except.bind]
      | some xs => simp [bind, Except.bind, pure, Except.pure, Json.IsTrue]
    | _ => simp [pure, Except.pure]
  | _ => simp

/-- What is read as an allow is one, literally. -/
lemma allows_of_interpret {reply : Reply} {data : Json} (body : reply.data = .ok data) {v : Interpreted}
    (ok : interpret data = .ok v) (allowed : v.allowed = true) : reply.Allows := by
  cases interpret_reads ok with
  | object fields result xs field _ =>
    exact ⟨fields, body, .inr ⟨result, field, of_decide_eq_true allowed⟩⟩
  | boolean fields b xs field _ => exact ⟨fields, body, .inl (by rw [field]; exact allowed)⟩
  | unexpected fields _ _ => cases allowed

/-- The rule a body names is a string, if it names one. -/
def NamesRule (reply : Reply) : Prop := ∀ data, reply.data = .ok data → (triggeredField data).IsRule

/-- The reply allows and flags for audit, both literally, and its messages can be iterated. -/
def FlagsAllow (reply : Reply) (reasons : List Json) (triggered : Json) : Prop :=
  ∃ fields result, reply.data = .ok (.obj fields) ∧ Json.field fields "result" = .obj result ∧
    (Json.field result "allow").IsTrue ∧ (Json.field result "audit").IsTrue ∧
    (denyField result).items = some reasons ∧ Json.field result "triggered_rule" = triggered

/-- That is what an allow with an audit flag is read from. -/
lemma flagsAllow_iff {reply : Reply} {reasons : List Json} {triggered : Json} :
    reply.FlagsAllow reasons triggered ↔ ∃ data v, reply.data = .ok data ∧ interpret data = .ok v ∧
      v.allowed = true ∧ v.auditFlag.IsTrue ∧ v.denyReasons = reasons ∧ v.triggered = triggered := by
  constructor
  · rintro ⟨fields, result, body, field, allow, audit, items, rfl⟩
    exact ⟨.obj fields, _, body, interpret_object field items, decide_eq_true allow, audit, rfl, rfl⟩
  · rintro ⟨data, v, body, read, allowed, audit, rfl, rfl⟩
    cases interpret_reads read with
    | object fields result xs field items =>
      exact ⟨fields, result, body, field, of_decide_eq_true allowed, audit, items, rfl⟩
    | boolean fields b xs field _ => cases audit
    | unexpected fields _ _ => cases audit

end Reply

/-! ## The engine -/

/-- `OPAPolicyEngine`. -/
structure OPAPolicyEngine where
  opaUrl : String
  customRules : PolicyEngine := { rules := [] }

namespace OPAPolicyEngine

/-- Where the engine asks. -/
def url (e : OPAPolicyEngine) : String := e.opaUrl ++ "/v1/data/custos/governance/allow"

/-- What `evaluate` asks. -/
def input (content : String) : Json :=
  .obj [("input", .obj [("content", .str content), ("action_type", .str "custos_evaluate")])]

/-- What `evaluate_with_metadata` asks. -/
def inputWithMetadata (content clientId actionType : String) : Json :=
  .obj [("input", .obj
    [("content", .str content), ("client_id", .str clientId), ("action_type", .str actionType)])]

variable [Regex]

/-- `evaluate`: a deny of its own rules is terminal, and no reply is a deny. -/
def evaluate (e : OPAPolicyEngine) (post : String → Json → Reply) (content : String) :
    Except Exn OpaResult := do
  let custom ← e.customRules.evaluate content
  if custom.action = .DENY then return .ofLocal custom
  else
    match (post e.url (input content)).data with
    | .error exc => return opaUnavailable exc
    | .ok data =>
      let v ← interpret data
      if ¬ v.allowed then v.denied
      else if v.auditFlag.IsTrue then v.audited
      else return v.allowedOver custom

/-- `evaluate_with_metadata`. -/
def evaluateWithMetadata (e : OPAPolicyEngine) (post : String → Json → Reply)
    (content clientId actionType : String) : Except Exn OpaResult := do
  let custom ← e.customRules.evaluate content
  if custom.action = .DENY then return .ofLocal custom
  else
    match (post e.url (inputWithMetadata content clientId actionType)).data with
    | .error exc => return opaUnavailable exc
    | .ok data =>
      let v ← interpret data
      if ¬ v.allowed then v.denied
      else return v.allowedOver custom

/-! ## What the two ways share -/

omit [Regex] in
/-- What becomes of a reply that is read, where an audit flag counts or does not. -/
def resolve (audits : Bool) (custom : PolicyResult) (v : Interpreted) : Except Exn OpaResult :=
  if ¬ v.allowed then v.denied
  else if audits ∧ v.auditFlag.IsTrue then v.audited
  else .ok (v.allowedOver custom)

/-- What the engine answers to a reply. -/
def answer (e : OPAPolicyEngine) (audits : Bool) (reply : Reply) (content : String) : Except Exn OpaResult := do
  let custom ← e.customRules.evaluate content
  if custom.action = .DENY then return .ofLocal custom
  else
    match reply.data with
    | .error exc => return opaUnavailable exc
    | .ok data =>
      let v ← interpret data
      resolve audits custom v

/-- `evaluate` heeds the audit flag. -/
lemma evaluate_eq (e : OPAPolicyEngine) (post : String → Json → Reply) (content : String) :
    e.evaluate post content = e.answer true (post e.url (input content)) content := by
  unfold evaluate answer resolve
  simp only [true_and]
  rfl

/-- `evaluate_with_metadata` does not. -/
lemma evaluateWithMetadata_eq (e : OPAPolicyEngine) (post : String → Json → Reply)
    (content clientId actionType : String) :
    e.evaluateWithMetadata post content clientId actionType =
      e.answer false (post e.url (inputWithMetadata content clientId actionType)) content := by
  unfold evaluateWithMetadata answer resolve
  simp only [Bool.false_eq_true, false_and, if_false]
  rfl

omit [Regex] in
/-- What was read resolves where the messages it has to join are strings. -/
lemma resolve_ok_iff {audits : Bool} {custom : PolicyResult} {v : Interpreted} :
    (∃ r, resolve audits custom v = .ok r) ↔
      (v.allowed = false ∨ audits ∧ v.auditFlag.IsTrue → ∀ x ∈ v.denyReasons, ∃ s, x = .str s) := by
  unfold resolve
  cases v.allowed with
  | false => simpa using v.denied_ok_iff
  | true =>
    simp only [not_true_eq_false, if_false, Bool.true_eq_false, false_or]
    split
    · rename_i flagged
      simpa [flagged] using v.audited_ok_iff
    · rename_i no
      exact iff_of_true ⟨_, rfl⟩ fun flagged => absurd flagged no

omit [Regex] in
/-- The two ways part only where the reply allows and flags for audit. -/
lemma resolve_unflagged {custom : PolicyResult} {v : Interpreted}
    (no : ¬ (v.allowed = true ∧ v.auditFlag.IsTrue)) : resolve true custom v = resolve false custom v := by
  unfold resolve
  cases allowed : v.allowed with
  | false => rfl
  | true =>
    have unflagged : ¬ v.auditFlag.IsTrue := fun flagged => no ⟨allowed, flagged⟩
    simp [unflagged]

omit [Regex] in
/-- What resolves to no denial was allowed by the server. -/
lemma resolve_action_ne_deny {audits : Bool} {custom : PolicyResult} {v : Interpreted} {r : OpaResult}
    (ok : resolve audits custom v = .ok r) (no : r.action ≠ .DENY) : v.allowed = true := by
  by_contra refused
  unfold resolve at ok
  rw [if_pos refused] at ok
  exact no (v.denied_ok ok).1

section Cases

variable {e : OPAPolicyEngine} {audits : Bool} {reply : Reply} {content : String}

/-- Rules that raise are not put to the server. -/
lemma answer_of_error {exn : Exn} (raises : e.customRules.evaluate content = .error exn) :
    e.answer audits reply content = .error exn := by
  unfold answer
  rw [raises]
  rfl

variable {custom : PolicyResult}

/-- What the rules deny is denied. -/
lemma answer_of_deny (ok : e.customRules.evaluate content = .ok custom) (denies : custom.action = .DENY) :
    e.answer audits reply content = .ok (.ofLocal custom) := by
  unfold answer
  rw [ok]
  exact if_pos denies

/-- A server that is not available denies. -/
lemma answer_of_unavailable (ok : e.customRules.evaluate content = .ok custom) (no : custom.action ≠ .DENY)
    {exc : String} (fails : reply.data = .error exc) :
    e.answer audits reply content = .ok (opaUnavailable exc) := by
  unfold answer
  rw [ok, fails]
  exact if_neg no

/-- A reply with a body is interpreted and resolved. -/
lemma answer_of_data (ok : e.customRules.evaluate content = .ok custom) (no : custom.action ≠ .DENY)
    {data : Json} (body : reply.data = .ok data) :
    e.answer audits reply content = (interpret data).bind (resolve audits custom) := by
  unfold answer
  rw [ok, body]
  exact if_neg no

end Cases

/-! ## The rule it names -/

omit [Regex] in
/-- What resolves names its rule by a string where the reply did. -/
lemma resolve_isRule {audits : Bool} {custom : PolicyResult} {v : Interpreted} {r : OpaResult}
    (ok : resolve audits custom v = .ok r) (rule : v.triggered.IsRule) : r.triggeredRule.IsRule := by
  unfold resolve at ok
  split at ok
  · rw [(v.denied_ok ok).2]
    exact rule.or _
  · split at ok
    · rw [(v.audited_ok ok).2]
      exact rule.or _
    · cases ok
      unfold Interpreted.allowedOver
      split
      · exact ⟨custom.triggeredRule, rfl⟩
      · exact rule

/-- The engine names its rule by a string where the server does. -/
lemma answer_isRule {e : OPAPolicyEngine} {audits : Bool} {reply : Reply} {content : String} {r : OpaResult}
    (names : reply.NamesRule) (ok : e.answer audits reply content = .ok r) : r.triggeredRule.IsRule := by
  cases own : e.customRules.evaluate content with
  | error exn =>
    rw [answer_of_error own] at ok
    cases ok
  | ok custom =>
    by_cases denies : custom.action = .DENY
    · rw [answer_of_deny own denies] at ok
      cases ok
      exact ⟨custom.triggeredRule, rfl⟩
    · cases body : reply.data with
      | error exc =>
        rw [answer_of_unavailable own denies body] at ok
        cases ok
        exact ⟨some "opa_unavailable", rfl⟩
      | ok data =>
        rw [answer_of_data own denies body] at ok
        cases read : interpret data with
        | error exn =>
          rw [read] at ok
          cases ok
        | ok v =>
          rw [read] at ok
          exact resolve_isRule ok ((interpret_reads read).isRule (names data body))

lemma evaluate_isRule {e : OPAPolicyEngine} {post : String → Json → Reply} {content : String} {r : OpaResult}
    (names : (post e.url (input content)).NamesRule) (ok : e.evaluate post content = .ok r) :
    r.triggeredRule.IsRule := by
  rw [evaluate_eq] at ok
  exact answer_isRule names ok

/-! ## Failing closed -/

/-- The engine answers, and with a deny unless the server literally allows and no rule of its own denies. -/
def Closed (e : OPAPolicyEngine) (reply : Reply) (content : String) (out : Except Exn OpaResult) : Prop :=
  ∃ r, out = .ok r ∧
    (r.action ≠ .DENY → reply.Allows ∧ ∀ rule ∈ e.customRules.rules, ¬ rule.Denies content)

/-- The engine is closed where its rules can be evaluated and deny, or the reply is readable. -/
lemma answer_closed_iff (e : OPAPolicyEngine) (audits : Bool) (reply : Reply) (content : String) :
    e.Closed reply content (e.answer audits reply content) ↔
      PolicyEngine.Evaluable e.customRules.rules content ∧
        ((∃ rule ∈ e.customRules.rules, rule.Denies content) ∨ reply.Readable audits) := by
  cases ok : e.customRules.evaluate content with
  | error exn =>
    rw [answer_of_error ok, ← PolicyEngine.evaluate_ok_iff, ok]
    refine iff_of_false ?_ ?_
    · rintro ⟨r, raised, -⟩
      cases raised
    · rintro ⟨⟨d, answered⟩, -⟩
      cases answered
  | ok custom =>
    have evaluable := PolicyEngine.evaluate_ok_iff.1 ⟨custom, ok⟩
    have denies := PolicyEngine.evaluate_denies_iff ok
    by_cases deny : custom.action = .DENY
    · rw [answer_of_deny ok deny]
      exact iff_of_true ⟨_, rfl, fun no => absurd deny no⟩ ⟨evaluable, .inl (denies.1 deny)⟩
    -- no rule of its own denies, so all is up to the reply
    · have none : ∀ rule ∈ e.customRules.rules, ¬ rule.Denies content :=
        fun rule mem yes => deny (denies.2 ⟨rule, mem, yes⟩)
      have only : (PolicyEngine.Evaluable e.customRules.rules content ∧
          ((∃ rule ∈ e.customRules.rules, rule.Denies content) ∨ reply.Readable audits)) ↔
            reply.Readable audits :=
        ⟨fun all => all.2.resolve_left fun ⟨rule, mem, yes⟩ => none rule mem yes,
          fun readable => ⟨evaluable, .inr readable⟩⟩
      rw [only, Reply.readable_iff]
      cases body : reply.data with
      | error exc =>
        rw [answer_of_unavailable ok deny body]
        exact iff_of_true ⟨_, rfl, fun no => absurd rfl no⟩ nofun
      | ok data =>
        rw [answer_of_data ok deny body]
        cases read : interpret data with
        | error exn =>
          refine iff_of_false ?_ fun readable => ?_
          · rintro ⟨r, raised, -⟩
            cases raised
          · obtain ⟨v, ok, -⟩ := readable data rfl
            cases read.symm.trans ok
        | ok v =>
          rw [Except.bind]
          constructor
          · rintro ⟨r, answered, -⟩ data' same
            cases same
            exact ⟨v, read, resolve_ok_iff.1 ⟨r, answered⟩⟩
          · intro readable
            obtain ⟨v', read', joined⟩ := readable data rfl
            cases read.symm.trans read'
            obtain ⟨r, answered⟩ := resolve_ok_iff.2 joined
            exact ⟨r, answered, fun no =>
              ⟨Reply.allows_of_interpret body read (resolve_action_ne_deny answered no), none⟩⟩

end OPAPolicyEngine

/-! ## The two ways -/

/-- What the two ways are compared in. -/
def OpaResult.key (r : OpaResult) : Bool × PolicyAction × Json := (r.allowed, r.action, r.triggeredRule)

/-- Either way the engine answers, and fails closed, exactly when no pattern that does not compile is reached
and each reply it reads is readable. -/
theorem opa_closed_iff [Regex] (e : OPAPolicyEngine) (post : String → Json → Reply)
    (content clientId actionType : String) :
    (e.Closed (post e.url (OPAPolicyEngine.input content)) content (e.evaluate post content) ∧
      e.Closed (post e.url (OPAPolicyEngine.inputWithMetadata content clientId actionType)) content
        (e.evaluateWithMetadata post content clientId actionType)) ↔
    PolicyEngine.Evaluable e.customRules.rules content ∧
      ((∃ rule ∈ e.customRules.rules, rule.Denies content) ∨
        (post e.url (OPAPolicyEngine.input content)).Readable true ∧
          (post e.url (OPAPolicyEngine.inputWithMetadata content clientId actionType)).Readable false) := by
  rw [e.evaluate_eq, e.evaluateWithMetadata_eq, e.answer_closed_iff, e.answer_closed_iff, ← and_and_left,
    ← or_and_left]

/-- A local audit under the name the reply has for it, where the reply's messages are strings. -/
def PolicyResult.AuditsAs (custom : PolicyResult) (reasons : List Json) (triggered : Json) : Prop :=
  custom.action = .AUDIT ∧ .ofOption custom.triggeredRule = triggered.or (.str "opa_audit") ∧
    ∀ x ∈ reasons, ∃ s, x = .str s

namespace OPAPolicyEngine

/-- If the reply flags an allow for audit, a rule of the engine's own audits the content alike. -/
def AuditsAlike [Regex] (e : OPAPolicyEngine) (reply : Reply) (content : String) : Prop :=
  ∀ reasons triggered, reply.FlagsAllow reasons triggered → ∀ custom,
    e.customRules.evaluate content = .ok custom → custom.action ≠ .DENY → custom.AuditsAs reasons triggered

/-- The two calls audit alike where no allowed reply asks for an audit the rules do not make. -/
lemma auditsAlike_iff [Regex] {e : OPAPolicyEngine} {reply : Reply} {content : String}
    {custom : PolicyResult} (ok : e.customRules.evaluate content = .ok custom)
    (no : custom.action ≠ .DENY) {data : Json} (body : reply.data = .ok data) :
    e.AuditsAlike reply content ↔ ∀ v, interpret data = .ok v → v.allowed = true ∧ v.auditFlag.IsTrue →
      custom.AuditsAs v.denyReasons v.triggered := by
  constructor
  · rintro all v read ⟨allowed, flagged⟩
    exact all _ _ (Reply.flagsAllow_iff.2 ⟨data, v, body, read, allowed, flagged, rfl, rfl⟩) custom ok no
  · intro all reasons triggered flags custom' answered _
    cases ok.symm.trans answered
    obtain ⟨data', v, body', read, allowed, flagged, rfl, rfl⟩ := Reply.flagsAllow_iff.1 flags
    cases body.symm.trans body'
    exact all v read ⟨allowed, flagged⟩

/-- Where the reply allows, with an audit flag, the two ways part unless both audit alike. -/
lemma resolve_agree_iff {custom : PolicyResult} {v : Interpreted} (allowed : v.allowed = true)
    (flagged : v.auditFlag.IsTrue) :
    (resolve true custom v).map OpaResult.key = (resolve false custom v).map OpaResult.key ↔
      custom.AuditsAs v.denyReasons v.triggered := by
  have audited : resolve true custom v = v.audited := by
    simp [resolve, allowed, flagged]
  have plain : resolve false custom v = .ok (v.allowedOver custom) := by
    simp [resolve, allowed]
  rw [audited, plain, PolicyResult.AuditsAs, ← v.audited_ok_iff]
  cases answered : v.audited with
  | error exn => exact iff_of_false nofun fun all => nomatch all.2.2
  | ok r =>
    obtain ⟨action, named⟩ := v.audited_ok answered
    have isAllowed : r.allowed = true := by
      rw [r.consistent, action]
      rfl
    have key : r.key = (true, .AUDIT, v.triggered.or (.str "opa_audit")) := by
      rw [OpaResult.key, isAllowed, action, named]
    show Except.ok r.key = Except.ok (v.allowedOver custom).key ↔ _
    rw [key, Except.ok.injEq]
    unfold Interpreted.allowedOver
    by_cases audits : custom.action = .AUDIT
    · simp [audits, OpaResult.key, eq_comm]
    · simp [audits, OpaResult.key]

end OPAPolicyEngine

/-- To the same reply the two ways give the same decision exactly when they audit alike. -/
theorem opa_paths_agree_iff [Regex] (e : OPAPolicyEngine) (reply : Reply)
    (content clientId actionType : String) :
    (e.evaluate (fun _ _ => reply) content).map OpaResult.key =
        (e.evaluateWithMetadata (fun _ _ => reply) content clientId actionType).map OpaResult.key ↔
      e.AuditsAlike reply content := by
  rw [e.evaluate_eq, e.evaluateWithMetadata_eq]
  cases ok : e.customRules.evaluate content with
  | error exn =>
    rw [OPAPolicyEngine.answer_of_error ok, OPAPolicyEngine.answer_of_error ok]
    exact iff_of_true rfl fun _ _ _ custom answered => nomatch ok.symm.trans answered
  | ok custom =>
    by_cases deny : custom.action = .DENY
    · rw [OPAPolicyEngine.answer_of_deny ok deny, OPAPolicyEngine.answer_of_deny ok deny]
      refine iff_of_true rfl fun _ _ _ custom' answered no => ?_
      cases ok.symm.trans answered
      exact absurd deny no
    · cases body : reply.data with
      | error exc =>
        rw [OPAPolicyEngine.answer_of_unavailable ok deny body,
          OPAPolicyEngine.answer_of_unavailable ok deny body]
        refine iff_of_true rfl fun _ _ flags => ?_
        obtain ⟨fields, result, data, -⟩ := flags
        cases body.symm.trans data
      | ok data =>
        rw [OPAPolicyEngine.answer_of_data ok deny body, OPAPolicyEngine.answer_of_data ok deny body,
          OPAPolicyEngine.auditsAlike_iff ok deny body]
        cases read : interpret data with
        | error exn => exact iff_of_true rfl nofun
        | ok v =>
          -- the two part only over an allow that is flagged for audit
          by_cases flagged : v.allowed = true ∧ v.auditFlag.IsTrue
          · refine (OPAPolicyEngine.resolve_agree_iff flagged.1 flagged.2).trans ⟨fun same v' eq _ => ?_, fun all =>
              all v rfl flagged⟩
            cases eq
            exact same
          · refine iff_of_true ?_ fun v' eq flagged' => ?_
            · rw [Except.bind, Except.bind, OPAPolicyEngine.resolve_unflagged flagged]
            · cases eq
              exact absurd flagged' flagged

section Sample

/-- A pattern without special characters, searched in a text no longer than it. -/
local instance opaRegex : Regex where
  invalid _ := none
  finditer pattern text := if pattern = text then [text] else []

def plainOpa : OPAPolicyEngine := { opaUrl := "http://localhost:8181" }

def okReply (body : Json) : Reply := .response 200 "" (.ok body)

/-- A body that is a list raises in the engine that is to fail closed. -/
theorem opa_list_body_raises :
    plainOpa.evaluate (fun _ _ => okReply (.arr [])) "hello" =
        .error (.Other "AttributeError" "'list' object has no attribute 'get'") ∧
      ¬ plainOpa.Closed (okReply (.arr [])) "hello"
        (plainOpa.evaluate (fun _ _ => okReply (.arr [])) "hello") := by
  have raises : plainOpa.evaluate (fun _ _ => okReply (.arr [])) "hello" =
      .error (.Other "AttributeError" "'list' object has no attribute 'get'") := rfl
  refine ⟨raises, ?_⟩
  rintro ⟨r, answered, -⟩
  cases raises.symm.trans answered

/-- An allow that is flagged for audit. -/
def flaggedBody : Json := .obj [("result", .obj [("allow", .bool true), ("audit", .bool true)])]

/-- One way audits it, the other allows. -/
theorem opa_audit_flag_lost :
    (plainOpa.evaluate (fun _ _ => okReply flaggedBody) "hello").map OpaResult.key =
        .ok (true, .AUDIT, .str "opa_audit") ∧
      (plainOpa.evaluateWithMetadata (fun _ _ => okReply flaggedBody) "hello" "acme" "custos_evaluate").map
        OpaResult.key = .ok (true, .ALLOW, .null) ∧
      (plainOpa.evaluate (fun _ _ => okReply flaggedBody) "hello").map OpaResult.key ≠
        (plainOpa.evaluateWithMetadata (fun _ _ => okReply flaggedBody) "hello" "acme" "custos_evaluate").map
          OpaResult.key := by
  have audits : (plainOpa.evaluate (fun _ _ => okReply flaggedBody) "hello").map OpaResult.key =
      .ok (true, .AUDIT, .str "opa_audit") := rfl
  have allows : (plainOpa.evaluateWithMetadata (fun _ _ => okReply flaggedBody) "hello" "acme"
      "custos_evaluate").map OpaResult.key = .ok (true, .ALLOW, .null) := rfl
  refine ⟨audits, allows, fun same => ?_⟩
  rw [audits, allows] at same
  cases same

end Sample

end Custos
