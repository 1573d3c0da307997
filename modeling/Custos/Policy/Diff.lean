import Custos.Policy.Engine

/-!
# The policy diff

`PolicyDiffer` of `custos/policy_diff.py`: one content under two lists of rules.

The lists it is given need not be the rules in force, which stand behind the built-in ones. `evaluate_append` says what
the regex engine makes of one list behind another in terms of what it makes of each (`PolicyResult.over`), so that a
diff of the rules behind says what the engine with both answers.
-/

namespace Custos

/-- What two lists of rules come to, one behind the other: the first denial, else the first audit hit. -/
def PolicyResult.over (first second : PolicyResult) : PolicyResult :=
  if first.action = .DENY then first
  else if second.action = .DENY then second
  else if first.action = .AUDIT then first
  else second

/-- Where the second results agree, what they come to behind the first agrees. -/
lemma PolicyResult.over_congr (first : PolicyResult) {second second' : PolicyResult}
    (action : second.action = second'.action) (rule : second.triggeredRule = second'.triggeredRule) :
    (first.over second).action = (first.over second').action ∧
      (first.over second).triggeredRule = (first.over second').triggeredRule := by
  unfold PolicyResult.over
  rw [action]
  split_ifs
  · exact ⟨rfl, rfl⟩
  · exact ⟨action, rule⟩
  · exact ⟨rfl, rfl⟩
  · exact ⟨action, rule⟩

/-- A denial stands. -/
lemma PolicyResult.over_denies {first second : PolicyResult} :
    (first.over second).action = .DENY ↔ first.action = .DENY ∨ second.action = .DENY := by
  unfold PolicyResult.over
  split_ifs with denies denies' audits
  · simp [denies]
  · simp [denies']
  · simp [denies', audits]
  · simp [denies, denies']

section

variable [Regex]

namespace PolicyEngine

omit [Regex] in
/-- What a first audit hit comes to. -/
def audited (hit : PolicyRule) : PolicyResult where
  allowed := true
  action := .AUDIT
  triggeredRule := some hit.name
  reason := hit.reason

omit [Regex] in
/-- A rule that audits is not named behind another that does. -/
lemma audited_over (hit rule : PolicyRule) (d : PolicyResult) :
    (audited hit).over ((audited rule).over d) = (audited hit).over d := by
  unfold PolicyResult.over audited
  cases action : d.action <;> simp [action]

/-- One round of the loop. -/
lemma evaluateFrom_round (content : String) (hit : Option PolicyRule) (rule : PolicyRule) (rules : List PolicyRule) :
    evaluateFrom content hit (rule :: rules) =
      (Regex.search rule.pattern content).bind fun found =>
        match found with
        | none => evaluateFrom content hit rules
        | some matched =>
          if rule.name ∈ POST_VALIDATION_RULES ∧ ¬ luhnValid (String.ofList (matched.toList.filter (·.isDigit))) then
            evaluateFrom content hit rules
          else
            match rule.action with
            | .DENY =>
              .ok { allowed := false, action := .DENY, triggeredRule := some rule.name, reason := rule.reason }
            | .AUDIT => evaluateFrom content (hit.or (some rule)) rules
            | .ALLOW => evaluateFrom content hit rules := by
  conv_lhs => unfold evaluateFrom
  cases hit <;> rfl

/-- An audit hit so far stands before what the rest comes to. -/
lemma evaluateFrom_some (content : String) (hit : PolicyRule) (rules : List PolicyRule) :
    evaluateFrom content (some hit) rules = (evaluateFrom content none rules).map (audited hit).over := by
  induction rules generalizing hit with
  | nil => rfl
  | cons rule rules ih =>
    rw [evaluateFrom_round, evaluateFrom_round]
    rcases Regex.search rule.pattern content with e | _ | matched
    · rfl
    · exact ih hit
    · dsimp only [Except.bind]
      split_ifs with falsePositive
      · exact ih hit
      · cases rule.action with
        | DENY => rfl
        | ALLOW => exact ih hit
        | AUDIT =>
          dsimp only [Option.some_or, Option.none_or]
          rw [ih hit, ih rule]
          cases evaluateFrom content none rules with
          | error e => rfl
          | ok d => exact congrArg Except.ok (audited_over hit rule d).symm

omit [Regex] in
/-- Where nothing has been hit, what comes behind is what it comes to. -/
lemma allowed_over {first second : PolicyResult} (allowed : first.action = .ALLOW) : first.over second = second := by
  unfold PolicyResult.over
  simp [allowed]

/-- What the loop makes of one list behind another. -/
lemma evaluateFrom_append (content : String) (hit : Option PolicyRule) (first second : List PolicyRule) :
    evaluateFrom content hit (first ++ second) = (evaluateFrom content hit first).bind fun d =>
      if d.action = .DENY then .ok d else (evaluateFrom content none second).map d.over := by
  induction first generalizing hit with
  | nil =>
    cases hit with
    | none =>
      rw [List.nil_append]
      change _ = (evaluateFrom content none second).map _
      cases evaluateFrom content none second with
      | error e => rfl
      | ok d => exact congrArg Except.ok (allowed_over rfl).symm
    | some hit => exact evaluateFrom_some content hit second
  | cons rule first ih =>
    rw [List.cons_append, evaluateFrom_round, evaluateFrom_round]
    rcases Regex.search rule.pattern content with e | _ | matched
    · rfl
    · exact ih hit
    · dsimp only [Except.bind]
      split_ifs with falsePositive
      · exact ih hit
      · cases rule.action with
        | DENY => rfl
        | ALLOW => exact ih hit
        | AUDIT => exact ih _

/-- What the engine makes of one list of rules behind another. -/
theorem evaluate_append (content : String) (first second : List PolicyRule) :
    evaluate { rules := first ++ second } content = (evaluate { rules := first } content).bind fun d =>
      if d.action = .DENY then .ok d else (evaluate { rules := second } content).map d.over :=
  evaluateFrom_append content none first second

end PolicyEngine

end

/-! ## The differ -/

structure DiffResult where
  contentPreview : String
  currentAction : String
  currentTriggeredRule : Option String
  currentReason : String
  proposedAction : String
  proposedTriggeredRule : Option String
  proposedReason : String
  decisionChanged : Bool
  changeSummary : String
  deriving DecidableEq

namespace PolicyDiffer

/-- `_summarize`. -/
def summarize (current proposed : PolicyResult) (changed : Bool) : String :=
  if ¬ changed then "No change — both rule sets produce '" ++ current.action.value ++ "'"
  else
    "Decision changed: '" ++ current.action.value ++ "' (rule: " ++ orElse current.triggeredRule "none" ++ ") → '" ++
    proposed.action.value ++ "' (rule: " ++ orElse proposed.triggeredRule "none" ++ ")"

/-- `diff`. -/
def diff [Regex] (content : String) (currentRules proposedRules : List PolicyRule) : Except Exn DiffResult := do
  let current ← PolicyEngine.evaluate { rules := currentRules } content
  let proposed ← PolicyEngine.evaluate { rules := proposedRules } content
  let decisionChanged : Bool :=
    current.action ≠ proposed.action ∨ current.triggeredRule ≠ proposed.triggeredRule
  return {
    contentPreview := .ofList (content.toList.take 100)
    currentAction := current.action.value
    currentTriggeredRule := current.triggeredRule
    currentReason := current.reason
    proposedAction := proposed.action.value
    proposedTriggeredRule := proposed.triggeredRule
    proposedReason := proposed.reason
    decisionChanged
    changeSummary := summarize current proposed decisionChanged }

/-- A diff is of what the engine answers under each list. -/
lemma diff_ok [Regex] {content : String} {currentRules proposedRules : List PolicyRule} {result : DiffResult}
    (ok : diff content currentRules proposedRules = .ok result) :
    ∃ current proposed, PolicyEngine.evaluate { rules := currentRules } content = .ok current ∧
      PolicyEngine.evaluate { rules := proposedRules } content = .ok proposed ∧
      result.proposedAction = proposed.action.value ∧
      (result.decisionChanged = false ↔
        current.action = proposed.action ∧ current.triggeredRule = proposed.triggeredRule) := by
  unfold diff at ok
  rcases now : PolicyEngine.evaluate { rules := currentRules } content with e | current
  · rw [now] at ok
    cases ok
  · rcases then_ : PolicyEngine.evaluate { rules := proposedRules } content with e | proposed
    · rw [now, then_] at ok
      cases ok
    · rw [now, then_] at ok
      cases ok
      refine ⟨current, proposed, rfl, rfl, rfl, ?_⟩
      simp

end PolicyDiffer

end Custos
