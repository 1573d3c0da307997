import Custos.Platform
import Custos.Library.Json
import Mathlib.Logic.Function.Basic

/-!
# The proxy

`custos/mcp_proxy.py`: `McpProxy.call_tool` and the circuit breaker its calls share, over any gate. Calls
overlap: between two points where a call waits it runs alone, so what a call does is cut into steps at
the points where it waits (for the gate, for the hook that records a refusal, for the upstream), and a
step says which call goes on, and what its wait came to. How long a wait takes is not modelled: it ends
with an answer, by the time limit, with an exception or by a cancellation, in any order with the steps
of the other calls, and the clock may read anything.
-/

namespace Custos

def REASON_TIMEOUT : String := "mcp_proxy_gate_timeout"
def REASON_ERROR : String := "mcp_proxy_gate_error"
def REASON_MALFORMED : String := "mcp_proxy_malformed_verdict"
def REASON_CIRCUIT_OPEN : String := "mcp_proxy_gate_circuit_open"

def DEFAULT_CONSECUTIVE_TIMEOUT_LIMIT : Nat := 3
def DEFAULT_BREAKER_COOLDOWN_SECONDS : ℚ := 5

/-! ## Verdicts -/

/-- What stands under `allowed` in a gate's answer: a boolean, or anything else, by its `repr`. -/
inductive Allowed where
  | literal (b : Bool)
  | other (repr : String)
  deriving DecidableEq

/-- A gate's answer, as `getattr` reads it. -/
structure GateAnswer where
  allowed : Allowed
  recordHash : Option String := none
  rule : Option String := none
  reason : String := ""
  deriving DecidableEq

structure ProxyOutcome where
  forwarded : Bool
  traceId : String
  recordHash : Option String := none
  rule : Option String := none
  reason : String := ""
  reconciled : Bool := false
  deriving DecidableEq

/-- `_refusal`: none for the literal `True` alone. -/
def refusal (verdict : Option GateAnswer) (traceId : String) : Option ProxyOutcome :=
  match verdict with
  | none =>
    some { forwarded := false, traceId, reason := REASON_MALFORMED, rule := some REASON_MALFORMED }
  | some v =>
    match v.allowed with
    | .literal true => none
    | .literal false =>
      some { forwarded := false, traceId, recordHash := v.recordHash, rule := v.rule,
             reason := orElse (some v.reason) "denied" }
    | .other repr =>
      some { forwarded := false, traceId, reason := REASON_MALFORMED ++ ": allowed=" ++ repr,
             rule := some REASON_MALFORMED }

/-- A refusal is not reconciled as it is made. -/
lemma refusal_reconciled {verdict : Option GateAnswer} {traceId : String} {o : ProxyOutcome}
    (refused : refusal verdict traceId = some o) : o.reconciled = false := by
  unfold refusal at refused
  split at refused
  · cases refused
    rfl
  · split at refused <;> cases refused <;> rfl

/-- The two refusals the proxy makes alone. -/
inductive OwnRefusal where
  | timeout
  | circuitOpen
  deriving DecidableEq

def OwnRefusal.rule : OwnRefusal → String
  | .timeout => REASON_TIMEOUT
  | .circuitOpen => REASON_CIRCUIT_OPEN

/-- The reason its record carries. -/
def OwnRefusal.reason : OwnRefusal → String
  | .timeout =>
    "proxy timeout: the gate was asked and did not answer within the " ++
    "bound, so the call was not forwarded"
  | .circuitOpen =>
    "proxy circuit breaker open: the gate did not answer the last " ++
    "calls within the bound, so this one was not forwarded and the " ++ "gate was not asked"

/-! ## The breaker -/

/-- What a proxy is configured with. -/
structure McpProxy where
  tenantId : String
  timeoutLimit : Nat := DEFAULT_CONSECUTIVE_TIMEOUT_LIMIT
  cooldown : ℚ := DEFAULT_BREAKER_COOLDOWN_SECONDS
  tenant_named : tenantId ≠ ""
  limit_pos : 1 ≤ timeoutLimit := by decide
  cooldown_nonneg : 0 ≤ cooldown := by decide

/-- `__init__`, as far as the proxy's own settings go. -/
def McpProxy.init [Platform] (tenantId : String) (consecutiveTimeoutLimit : Int) (cooldown : ℚ) :
    Except Exn McpProxy :=
  if named : tenantId = "" then
    .error (.ValueError "tenant_id is required: an unlabelled call has no policy to apply")
  else if low : consecutiveTimeoutLimit < 1 then
    .error (.ValueError "consecutive_timeout_limit must be at least 1")
  else if negative : cooldown < 0 then
    .error (.ValueError
      ("breaker_cooldown_seconds must be finite and >= 0, got " ++ dumps (.float cooldown)))
  else
    .ok
      { tenantId, timeoutLimit := consecutiveTimeoutLimit.toNat, cooldown, tenant_named := named
        limit_pos := by omega
        cooldown_nonneg := Rat.not_lt.1 negative }

/-- The breaker's state: the proxy's `_breakers`. -/
structure Breaker where
  probing : Bool := false
  consecutive : Nat := 0
  openUntil : Option ℚ := none
  deriving DecidableEq

namespace Breaker

/-- `_record_answer`. -/
def recordAnswer (p : McpProxy) (b : Breaker) (timedOut : Bool) (now : ℚ) : Breaker :=
  if timedOut then
    { probing := false
      consecutive := b.consecutive + 1
      openUntil := if p.timeoutLimit ≤ b.consecutive + 1 then some (now + p.cooldown) else b.openUntil }
  else { probing := false, consecutive := 0, openUntil := none }

/-- `_breaker_denies`. -/
def denies (p : McpProxy) (b : Breaker) (now : ℚ) : Bool × Breaker :=
  if b.probing then (true, b)
  else
    match b.openUntil with
    | none => (false, b)
    | some t =>
      if now < t then (true, b)
      else (false, { probing := true, openUntil := none, consecutive := p.timeoutLimit - 1 })

end Breaker

/-! ## Calls -/

/-- How a call of `call_tool` ends. -/
inductive CallEnd where
  | returned (outcome : ProxyOutcome)
  | raised (e : Exn)
  | cancelled
  deriving DecidableEq

/-- Where a call waits, or how it has ended. -/
inductive Phase where
  | asking
  | reconciling (refusal : OwnRefusal)
  | forwarding (recordHash : Option String)
  | ended (how : CallEnd)
  deriving DecidableEq

lemma Phase.ended_ne_asking (how : CallEnd) : Phase.ended how ≠ .asking := nofun

/-- A call that has minted its trace id. -/
structure Call where
  tool : String
  arguments : List (String × Json)
  /-- it was given a `forward` -/
  forward : Bool
  traceId : String
  traced : traceId ≠ ""
  phase : Phase

def Call.Waiting (c : Call) : Prop := c.phase = .asking

def Call.Ended (c : Call) : Prop := ∃ how, c.phase = .ended how

/-- What the wait for the gate comes to. -/
inductive WaitEnd where
  | answered (verdict : Option GateAnswer)
  | timedOut
  | raised (typeName : String)
  | cancelled

/-- What the call of the hook that records a refusal comes to. -/
inductive HookEnd where
  | missing
  | returned (value : Bool)
  | raised
  | cancelled

/-- What the call of the upstream comes to. -/
inductive ForwardEnd where
  | returned
  | raised (e : Exn)
  | cancelled

/-- `_reconcile`, of a hook that was not cancelled: what it returns is not looked at. -/
def HookEnd.reconciled : HookEnd → Bool
  | .returned _ => true
  | _ => false

/-- The calls of a proxy and their breaker, with the upstream's invocations in their order, each under
the call that made it. -/
structure ProxyState where
  breaker : Breaker := {}
  calls : Nat → Option Call := fun _ => none
  forwards : List Nat := []

inductive ProxyOp where
  | call (id : Nat) (tool : String) (arguments : List (String × Json)) (forward : Bool)
      (traceId : String) (now : ℚ)
  | wait (id : Nat) (how : WaitEnd) (now : ℚ)
  | reconcile (id : Nat) (how : HookEnd)
  | forward (id : Nat) (how : ForwardEnd)

/-- The call whose step it is. -/
def ProxyOp.id : ProxyOp → Nat
  | .call id _ _ _ _ _ => id
  | .wait id _ _ => id
  | .reconcile id _ => id
  | .forward id _ => id

namespace ProxyState

/-- The call goes on to a phase. -/
def setPhase (s : ProxyState) (id : Nat) (c : Call) (phase : Phase) : ProxyState :=
  { s with calls := Function.update s.calls id (some { c with phase }) }

/-- `call_tool` up to its first wait. A trace id that is empty is refused before anything else. -/
def begin (p : McpProxy) (s : ProxyState) (id : Nat) (tool : String)
    (arguments : List (String × Json)) (forward : Bool) (traceId : String) (now : ℚ) : ProxyState :=
  if traced : traceId = "" then s
  else
    let c : Call := { tool, arguments, forward, traceId, traced, phase := .asking }
    let (denied, breaker) := s.breaker.denies p now
    { s with breaker }.setPhase id c (if denied then .reconciling .circuitOpen else .asking)

/-- What `call_tool` does when its wait for the gate is over. -/
def afterWait (p : McpProxy) (s : ProxyState) (id : Nat) (c : Call) (how : WaitEnd) (now : ℚ) :
    ProxyState :=
  match how with
  | .timedOut =>
    { s with breaker := s.breaker.recordAnswer p true now }.setPhase id c (.reconciling .timeout)
  | .raised typeName =>
    s.setPhase id c (.ended (.returned
      { forwarded := false, traceId := c.traceId, reason := REASON_ERROR ++ ": " ++ typeName,
        rule := some REASON_ERROR }))
  | .cancelled => s.setPhase id c (.ended .cancelled)
  | .answered verdict =>
    let s := { s with breaker := s.breaker.recordAnswer p false now }
    match refusal verdict c.traceId with
    | some outcome => s.setPhase id c (.ended (.returned outcome))
    | none =>
      let recordHash := verdict.bind (·.recordHash)
      if c.forward then
        { s with forwards := s.forwards ++ [id] }.setPhase id c (.forwarding recordHash)
      else
        s.setPhase id c (.ended (.returned { forwarded := true, traceId := c.traceId, recordHash }))

/-- How a call ends whose refusal was reconciled. -/
def reconcileEnd (c : Call) (refusal : OwnRefusal) : HookEnd → CallEnd
  | .cancelled => .cancelled
  | how => .returned
    { forwarded := false, traceId := c.traceId, reason := refusal.rule, rule := some refusal.rule
      reconciled := how.reconciled }

/-- How a call ends that was forwarded. -/
def forwardEnd (c : Call) (recordHash : Option String) : ForwardEnd → CallEnd
  | .returned => .returned { forwarded := true, traceId := c.traceId, recordHash }
  | .raised e => .raised e
  | .cancelled => .cancelled

/-- A step of a call. One that the call is not waiting for does nothing. -/
def step (p : McpProxy) (s : ProxyState) : ProxyOp → ProxyState
  | .call id tool arguments forward traceId now =>
    match s.calls id with
    | none => s.begin p id tool arguments forward traceId now
    | some _ => s
  | .wait id how now =>
    match s.calls id with
    | some c => if c.phase = .asking then s.afterWait p id c how now else s
    | none => s
  | .reconcile id how =>
    match s.calls id with
    | some c =>
      match c.phase with
      | .reconciling refusal => s.setPhase id c (.ended (reconcileEnd c refusal how))
      | _ => s
    | none => s
  | .forward id how =>
    match s.calls id with
    | some c =>
      match c.phase with
      | .forwarding recordHash => s.setPhase id c (.ended (forwardEnd c recordHash how))
      | _ => s
    | none => s

end ProxyState

/-! ## What a step does -/

/-- What the end of a wait comes to for the breaker: an exception and a cancellation do not get to it. -/
def WaitEnd.breaker (p : McpProxy) (b : Breaker) (now : ℚ) : WaitEnd → Breaker
  | .answered _ => b.recordAnswer p false now
  | .timedOut => b.recordAnswer p true now
  | _ => b

/-- And for the call. -/
def WaitEnd.phase (c : Call) : WaitEnd → Phase
  | .answered verdict =>
    match refusal verdict c.traceId with
    | some outcome => .ended (.returned outcome)
    | none =>
      let recordHash := verdict.bind (·.recordHash)
      if c.forward then .forwarding recordHash
      else .ended (.returned { forwarded := true, traceId := c.traceId, recordHash })
  | .timedOut => .reconciling .timeout
  | .raised typeName =>
    .ended (.returned
      { forwarded := false, traceId := c.traceId, reason := REASON_ERROR ++ ": " ++ typeName,
        rule := some REASON_ERROR })
  | .cancelled => .ended .cancelled

/-- The call goes on to invoke the upstream. -/
def Phase.Forwards (phase : Phase) : Prop := ∃ recordHash, phase = .forwarding recordHash

/-- What the proxy returns at the end of a wait does not say that it was reconciled. -/
lemma WaitEnd.phase_returned {c : Call} {how : WaitEnd} {o : ProxyOutcome}
    (returned : how.phase c = .ended (.returned o)) : o.reconciled = false := by
  cases how with
  | timedOut => cases returned
  | cancelled => cases returned
  | raised typeName =>
    cases returned
    rfl
  | answered verdict =>
    cases refused : refusal verdict c.traceId with
    | none =>
      cases forward : c.forward with
      | true => simp [phase, refused, forward] at returned
      | false =>
        simp only [phase, refused, forward, Bool.false_eq_true, if_false, Phase.ended.injEq,
          CallEnd.returned.injEq] at returned
        rw [← returned]
    | some outcome =>
      simp only [phase, refused, Phase.ended.injEq, CallEnd.returned.injEq] at returned
      rw [← returned]
      exact refusal_reconciled refused

/-- A call that is allowed is forwarded, where there is an upstream. -/
lemma WaitEnd.phase_of_allowed {v : GateAnswer} (allowed : v.allowed = .literal true) (c : Call) :
    (WaitEnd.answered (some v)).phase c =
      if c.forward then .forwarding v.recordHash
      else .ended (.returned { forwarded := true, traceId := c.traceId, recordHash := v.recordHash }) := by
  simp [WaitEnd.phase, refusal, allowed]

lemma WaitEnd.phase_of_denied {v : GateAnswer} (denied : v.allowed = .literal false) (c : Call) :
    ∃ o : ProxyOutcome, (WaitEnd.answered (some v)).phase c = .ended (.returned o) ∧
      o.forwarded = false := by
  simp [WaitEnd.phase, refusal, denied]

/-- Only a timeout leaves the call to be reconciled. -/
lemma WaitEnd.eq_timedOut_of_phase {c : Call} {how : WaitEnd} {refusal : OwnRefusal}
    (phase : how.phase c = .reconciling refusal) : how = .timedOut := by
  cases how with
  | timedOut => rfl
  | cancelled => cases phase
  | raised typeName => cases phase
  | answered verdict =>
    cases refused : Custos.refusal verdict c.traceId with
    | none => cases forward : c.forward <;> simp [WaitEnd.phase, refused, forward] at phase
    | some outcome => simp [WaitEnd.phase, refused] at phase

namespace ProxyState

/-- The call waits for this step. -/
def Takes (s : ProxyState) : ProxyOp → Prop
  | .call id _ _ _ traceId _ => s.calls id = none ∧ traceId ≠ ""
  | .wait id _ _ => ∃ c, s.calls id = some c ∧ c.Waiting
  | .reconcile id _ => ∃ c refusal, s.calls id = some c ∧ c.phase = .reconciling refusal
  | .forward id _ => ∃ c recordHash, s.calls id = some c ∧ c.phase = .forwarding recordHash

/-- What a step comes to. -/
inductive Stepped (p : McpProxy) (s : ProxyState) : ProxyOp → ProxyState → Prop
  | idle {op : ProxyOp} : ¬ s.Takes op → Stepped p s op s
  | begun {id : Nat} {tool : String} {arguments : List (String × Json)} {forward : Bool}
      {traceId : String} {now : ℚ} (traced : traceId ≠ "") :
      s.calls id = none →
      Stepped p s (.call id tool arguments forward traceId now)
        ({ s with breaker := (s.breaker.denies p now).2 }.setPhase id
          ⟨tool, arguments, forward, traceId, traced, .asking⟩
          (if (s.breaker.denies p now).1 then .reconciling .circuitOpen else .asking))
  | waited {id : Nat} {how : WaitEnd} {now : ℚ} (c : Call) (forwards : List Nat) :
      s.calls id = some c → c.Waiting →
      ((how.phase c).Forwards ∧ forwards = s.forwards ++ [id] ∨
        ¬ (how.phase c).Forwards ∧ forwards = s.forwards) →
      Stepped p s (.wait id how now)
        ({ s with breaker := how.breaker p s.breaker now, forwards }.setPhase id c (how.phase c))
  | reconciled {id : Nat} {how : HookEnd} (c : Call) (refusal : OwnRefusal) :
      s.calls id = some c → c.phase = .reconciling refusal →
      Stepped p s (.reconcile id how) (s.setPhase id c (.ended (reconcileEnd c refusal how)))
  | forwarded {id : Nat} {how : ForwardEnd} (c : Call) (recordHash : Option String) :
      s.calls id = some c → c.phase = .forwarding recordHash →
      Stepped p s (.forward id how) (s.setPhase id c (.ended (forwardEnd c recordHash how)))

/-- The end of a wait, by what it comes to. -/
lemma afterWait_stepped (p : McpProxy) (s : ProxyState) {id : Nat} {c : Call} (how : WaitEnd) (now : ℚ)
    (known : s.calls id = some c) (waiting : c.Waiting) :
    Stepped p s (.wait id how now) (s.afterWait p id c how now) := by
  -- every end but an answer that forwards leaves the upstream alone
  have still : ∀ {how : WaitEnd}, ¬ (how.phase c).Forwards → Stepped p s (.wait id how now)
      ({ s with breaker := how.breaker p s.breaker now }.setPhase id c (how.phase c)) :=
    fun no => .waited c s.forwards known waiting (.inr ⟨no, rfl⟩)
  cases how with
  | timedOut => exact still (by simp [WaitEnd.phase, Phase.Forwards])
  | raised typeName => exact still (by simp [WaitEnd.phase, Phase.Forwards])
  | cancelled => exact still (by simp [WaitEnd.phase, Phase.Forwards])
  | answered verdict =>
    let answered : ProxyState := { s with breaker := s.breaker.recordAnswer p false now }
    cases refused : refusal verdict c.traceId with
    | some outcome =>
      have phase : (WaitEnd.answered verdict).phase c = .ended (.returned outcome) := by
        simp [WaitEnd.phase, refused]
      have goes : s.afterWait p id c (.answered verdict) now =
          answered.setPhase id c ((WaitEnd.answered verdict).phase c) := by
        rw [phase]
        simp [afterWait, refused, answered]
      rw [goes]
      exact still (by simp [phase, Phase.Forwards])
    | none =>
      cases forward : c.forward with
      | true =>
        have phase : (WaitEnd.answered verdict).phase c =
            .forwarding (verdict.bind (·.recordHash)) := by
          simp [WaitEnd.phase, refused, forward]
        have goes : s.afterWait p id c (.answered verdict) now =
            { answered with forwards := s.forwards ++ [id] }.setPhase id c
              ((WaitEnd.answered verdict).phase c) := by
          rw [phase]
          simp [afterWait, refused, forward, answered]
        rw [goes]
        exact .waited c _ known waiting (.inl ⟨⟨_, phase⟩, rfl⟩)
      | false =>
        have phase : (WaitEnd.answered verdict).phase c = .ended (.returned
            { forwarded := true, traceId := c.traceId
              recordHash := verdict.bind (·.recordHash) }) := by
          simp [WaitEnd.phase, refused, forward]
        have goes : s.afterWait p id c (.answered verdict) now =
            answered.setPhase id c ((WaitEnd.answered verdict).phase c) := by
          rw [phase]
          simp [afterWait, refused, forward, answered]
        rw [goes]
        exact still (by simp [phase, Phase.Forwards])

/-- Every step comes to one of these. -/
theorem step_stepped (p : McpProxy) (s : ProxyState) (op : ProxyOp) : Stepped p s op (s.step p op) := by
  have idle : ¬ s.Takes op → s.step p op = s → Stepped p s op (s.step p op) := by
    intro no same
    rw [same]
    exact .idle no
  cases op with
  | call id tool arguments forward traceId now =>
    cases known : s.calls id with
    | some c => exact idle (by simp [Takes, known]) (by simp [step, known])
    | none =>
      by_cases traced : traceId = ""
      · exact idle (by simp [Takes, traced]) (by simp [step, known, begin, traced])
      · have goes : s.step p (.call id tool arguments forward traceId now) =
            s.begin p id tool arguments forward traceId now := by
          simp [step, known]
        rw [goes, begin, dif_neg traced]
        exact .begun traced known
  | wait id how now =>
    cases known : s.calls id with
    | none => exact idle (by simp [Takes, known]) (by simp [step, known])
    | some c =>
      by_cases waiting : c.phase = .asking
      · have goes : s.step p (.wait id how now) = s.afterWait p id c how now := by
          simp [step, known, waiting]
        rw [goes]
        exact afterWait_stepped p s how now known waiting
      · exact idle (by simp [Takes, known, Call.Waiting, waiting]) (by simp [step, known, waiting])
  | reconcile id how =>
    cases known : s.calls id with
    | none => exact idle (by simp [Takes, known]) (by simp [step, known])
    | some c =>
      cases phase : c.phase with
      | reconciling refusal =>
        have goes : s.step p (.reconcile id how) =
            s.setPhase id c (.ended (reconcileEnd c refusal how)) := by
          simp [step, known, phase]
        rw [goes]
        exact .reconciled c refusal known phase
      | _ => exact idle (by simp [Takes, known, phase]) (by simp [step, known, phase])
  | forward id how =>
    cases known : s.calls id with
    | none => exact idle (by simp [Takes, known]) (by simp [step, known])
    | some c =>
      cases phase : c.phase with
      | forwarding recordHash =>
        have goes : s.step p (.forward id how) =
            s.setPhase id c (.ended (forwardEnd c recordHash how)) := by
          simp [step, known, phase]
        rw [goes]
        exact .forwarded c recordHash known phase
      | _ => exact idle (by simp [Takes, known, phase]) (by simp [step, known, phase])

@[simp] lemma setPhase_self (s : ProxyState) (id : Nat) (c : Call) (phase : Phase) :
    (s.setPhase id c phase).calls id = some { c with phase } := Function.update_self ..

lemma setPhase_of_ne {s : ProxyState} {id other : Nat} (ne : other ≠ id) (c : Call) (phase : Phase) :
    (s.setPhase id c phase).calls other = s.calls other := Function.update_of_ne ne ..

@[simp] lemma setPhase_breaker (s : ProxyState) (id : Nat) (c : Call) (phase : Phase) :
    (s.setPhase id c phase).breaker = s.breaker := rfl

@[simp] lemma setPhase_forwards (s : ProxyState) (id : Nat) (c : Call) (phase : Phase) :
    (s.setPhase id c phase).forwards = s.forwards := rfl

/-- A step is of one call. -/
lemma step_calls_of_ne (p : McpProxy) (s : ProxyState) {op : ProxyOp} {other : Nat}
    (ne : other ≠ op.id) : (s.step p op).calls other = s.calls other := by
  have stepped := s.step_stepped p op
  generalize s.step p op = s' at stepped
  cases stepped with
  | idle _ => rfl
  | begun traced _ => exact setPhase_of_ne ne ..
  | waited c forwards _ _ _ => exact setPhase_of_ne ne ..
  | reconciled c refusal _ _ => exact setPhase_of_ne ne ..
  | forwarded c recordHash _ _ => exact setPhase_of_ne ne ..

/-- What is not taken changes nothing. -/
lemma step_of_not_takes {p : McpProxy} {s : ProxyState} {op : ProxyOp} (no : ¬ s.Takes op) :
    s.step p op = s := by
  have stepped := s.step_stepped p op
  generalize s.step p op = s' at stepped ⊢
  cases stepped with
  | idle _ => rfl
  | begun traced new => exact absurd ⟨new, traced⟩ no
  | waited c forwards known waiting _ => exact absurd ⟨c, known, waiting⟩ no
  | reconciled c refusal known phase => exact absurd ⟨c, refusal, known, phase⟩ no
  | forwarded c recordHash known phase => exact absurd ⟨c, recordHash, known, phase⟩ no

/-- No wait ends for a call that is not waiting. -/
lemma step_wait_of_not {p : McpProxy} {s : ProxyState} {id : Nat} {c : Call} (known : s.calls id = some c)
    (no : ¬ c.Waiting) (how : WaitEnd) (now : ℚ) : s.step p (.wait id how now) = s := by
  refine step_of_not_takes ?_
  rintro ⟨c', known', waiting⟩
  cases known.symm.trans known'
  exact no waiting

/-- The end of a wait. -/
lemma step_wait (p : McpProxy) {s : ProxyState} {id : Nat} {c : Call} (how : WaitEnd) (now : ℚ)
    (known : s.calls id = some c) (waiting : c.Waiting) :
    (s.step p (.wait id how now)).calls id = some { c with phase := how.phase c } ∧
      (¬ (how.phase c).Forwards → (s.step p (.wait id how now)).forwards = s.forwards) := by
  have stepped := s.step_stepped p (.wait id how now)
  generalize s.step p (.wait id how now) = s' at stepped ⊢
  cases stepped with
  | idle no => exact absurd ⟨c, known, waiting⟩ no
  | waited c' forwards known' _ grown =>
    cases known.symm.trans known'
    refine ⟨setPhase_self .., fun no => ?_⟩
    rcases grown with ⟨goes, -⟩ | ⟨-, same⟩
    · exact absurd goes no
    · exact same

/-- What a step keeps of a call: all but its phase, which never goes back to asking and is the last once the
call has ended. -/
lemma step_keeps (p : McpProxy) (s : ProxyState) (op : ProxyOp) {id : Nat} {c : Call}
    (known : s.calls id = some c) :
    ∃ phase, (s.step p op).calls id = some { c with phase } ∧ (phase = .asking → c.Waiting) ∧
      (c.Ended → phase = c.phase) := by
  have same : ∃ phase, s.calls id = some { c with phase } ∧ (phase = .asking → c.Waiting) ∧
      (c.Ended → phase = c.phase) := ⟨c.phase, known, fun e => e, fun _ => rfl⟩
  have stepped := s.step_stepped p op
  by_cases e : id = op.id
  · generalize s.step p op = s' at stepped
    cases stepped with
    | idle _ => exact same
    | begun traced new =>
      obtain rfl := e
      exact absurd (known.symm.trans new) nofun
    | @waited _ how now c' forwards known' waiting _ =>
      obtain rfl := e
      obtain rfl := Option.some.inj (known.symm.trans known')
      refine ⟨_, setPhase_self .., fun _ => waiting, ?_⟩
      rintro ⟨_, ended⟩
      exact absurd (waiting.symm.trans ended) nofun
    | reconciled c' refusal known' phase =>
      obtain rfl := e
      obtain rfl := Option.some.inj (known.symm.trans known')
      refine ⟨_, setPhase_self .., nofun, ?_⟩
      rintro ⟨_, ended⟩
      exact absurd (phase.symm.trans ended) nofun
    | forwarded c' recordHash known' phase =>
      obtain rfl := e
      obtain rfl := Option.some.inj (known.symm.trans known')
      refine ⟨_, setPhase_self .., nofun, ?_⟩
      rintro ⟨_, ended⟩
      exact absurd (phase.symm.trans ended) nofun
  · rw [step_calls_of_ne p s e]
    exact same

/-- The upstream is invoked for a call that was asking and got an answer that allows it, literally. -/
lemma forwards_of_phase {c : Call} {how : WaitEnd} {recordHash : Option String}
    (phase : how.phase c = .forwarding recordHash) :
    ∃ v, how = .answered (some v) ∧ v.allowed = .literal true ∧ v.recordHash = recordHash := by
  cases how with
  | timedOut => cases phase
  | raised typeName => cases phase
  | cancelled => cases phase
  | answered verdict =>
    cases verdict with
    | none => cases phase
    | some v =>
      cases allowed : v.allowed with
      | other repr => simp [WaitEnd.phase, refusal, allowed] at phase
      | literal b =>
        cases b with
        | false => simp [WaitEnd.phase, refusal, allowed] at phase
        | true =>
          cases forward : c.forward with
          | false => simp [WaitEnd.phase, refusal, allowed, forward] at phase
          | true =>
            simp only [WaitEnd.phase, refusal, allowed, forward, if_true, Phase.forwarding.injEq] at phase
            exact ⟨v, rfl, allowed, phase⟩

/-- The upstream is invoked once a literal permit reaches a call that waits. -/
lemma step_forwards (p : McpProxy) (s : ProxyState) (op : ProxyOp) :
    (s.step p op).forwards = s.forwards ∨
      ∃ id c v now, op = .wait id (.answered (some v)) now ∧ s.calls id = some c ∧ c.Waiting ∧
        v.allowed = .literal true ∧ (s.step p op).forwards = s.forwards ++ [id] ∧
        (s.step p op).calls id = some { c with phase := .forwarding v.recordHash } := by
  have stepped := s.step_stepped p op
  generalize s.step p op = s' at stepped
  cases stepped with
  | idle _ => exact .inl rfl
  | begun traced _ => exact .inl rfl
  | @waited id how now c forwards known waiting grown =>
    rcases grown with ⟨⟨recordHash, phase⟩, rfl⟩ | ⟨-, rfl⟩
    · obtain ⟨v, rfl, allowed, rfl⟩ := forwards_of_phase phase
      refine .inr ⟨id, c, v, now, rfl, known, waiting, allowed, rfl, ?_⟩
      rw [setPhase_self, phase]
    · exact .inl rfl
  | reconciled c refusal _ _ => exact .inl rfl
  | forwarded c recordHash _ _ => exact .inl rfl

/-- Of what a call returns, only the hook's end says that a refusal was reconciled. -/
lemma step_returned (p : McpProxy) (s : ProxyState) {op : ProxyOp} {id : Nat} {c : Call}
    {o : ProxyOutcome} (other : ∀ id how, op ≠ .reconcile id how)
    (before : ∀ c, s.calls id = some c → ¬ c.Ended) (after : (s.step p op).calls id = some c)
    (returned : c.phase = .ended (.returned o)) : o.reconciled = false := by
  have stepped := s.step_stepped p op
  by_cases e : id = op.id
  · generalize s.step p op = s' at stepped after
    cases stepped with
    | idle _ => exact absurd ⟨_, returned⟩ (before c after)
    | @begun id tool arguments forward traceId now traced new =>
      obtain rfl := e
      rw [setPhase_self] at after
      cases after
      dsimp only at returned
      split at returned <;> cases returned
    | @waited _ how now c' forwards known waiting _ =>
      obtain rfl := e
      rw [setPhase_self] at after
      cases after
      exact how.phase_returned returned
    | reconciled c' refusal _ _ => exact absurd rfl (other _ _)
    | @forwarded _ how c' recordHash known phase =>
      obtain rfl := e
      rw [setPhase_self] at after
      cases after
      cases how with
      | returned =>
        cases returned
        rfl
      | raised e => cases returned
      | cancelled => cases returned
  · rw [step_calls_of_ne p s e] at after
    exact absurd ⟨_, returned⟩ (before c after)

/-- What leaves a call to be reconciled is the breaker or a timeout. -/
lemma step_reconciling {p : McpProxy} {s : ProxyState} {op : ProxyOp} {id : Nat} {c : Call}
    {refusal : OwnRefusal} (after : (s.step p op).calls id = some c)
    (phase : c.phase = .reconciling refusal) :
    s.calls id = some c ∨
      (∃ tool arguments forward traceId now, op = .call id tool arguments forward traceId now) ∨
        ∃ now, op = .wait id .timedOut now := by
  have stepped := s.step_stepped p op
  by_cases e : id = op.id
  · generalize s.step p op = s' at stepped after
    cases stepped with
    | idle _ => exact .inl after
    | @begun id tool arguments forward traceId now traced new =>
      obtain rfl := e
      exact .inr (.inl ⟨_, _, _, _, _, rfl⟩)
    | @waited _ how now c' forwards known waiting _ =>
      obtain rfl := e
      rw [setPhase_self] at after
      cases after
      exact .inr (.inr ⟨now, by rw [how.eq_timedOut_of_phase phase]⟩)
    | @reconciled _ how c' refusal known phase' =>
      obtain rfl := e
      rw [setPhase_self] at after
      cases after
      cases phase
    | @forwarded _ how c' recordHash known phase' =>
      obtain rfl := e
      rw [setPhase_self] at after
      cases after
      cases phase
  · rw [step_calls_of_ne p s e] at after
    exact .inl after

/-- A call there was not is one that this step began. -/
lemma step_calls {p : McpProxy} {s : ProxyState} {op : ProxyOp} {id : Nat} {c : Call}
    (after : (s.step p op).calls id = some c) : (∃ c, s.calls id = some c) ∨ s.calls id = none ∧
      ∃ tool arguments forward now, op = .call id tool arguments forward c.traceId now := by
  have stepped := s.step_stepped p op
  by_cases e : id = op.id
  · generalize s.step p op = s' at stepped after
    cases stepped with
    | idle _ => exact .inl ⟨c, after⟩
    | @begun id tool arguments forward traceId now traced new =>
      obtain rfl := e
      rw [setPhase_self] at after
      cases after
      exact .inr ⟨new, tool, arguments, forward, now, rfl⟩
    | waited c' forwards known _ _ => exact .inl ⟨c', e ▸ known⟩
    | reconciled c' refusal known _ => exact .inl ⟨c', e ▸ known⟩
    | forwarded c' recordHash known _ => exact .inl ⟨c', e ▸ known⟩
  · rw [step_calls_of_ne p s e] at after
    exact .inl ⟨c, after⟩

/-- The upstream was invoked once for a call at most, not for one that is asking, and for every one that waits
for it. -/
structure Once (s : ProxyState) : Prop where
  nodup : s.forwards.Nodup
  went : ∀ id ∈ s.forwards, ∃ c, s.calls id = some c ∧ ¬ c.Waiting
  invoked : ∀ id c, s.calls id = some c → c.phase.Forwards → id ∈ s.forwards

lemma Once.init : Once {} := ⟨List.nodup_nil, nofun, nofun⟩

/-- The upstream has not been invoked for a call that waits for the gate. -/
lemma Once.not_mem_of_waiting {s : ProxyState} (once : Once s) {id : Nat} {c : Call}
    (known : s.calls id = some c) (waiting : c.Waiting) : id ∉ s.forwards := by
  intro mem
  obtain ⟨c', known', went⟩ := once.went id mem
  cases known.symm.trans known'
  exact went waiting

/-- What was invoked stays so. -/
lemma step_forwards_subset (p : McpProxy) (s : ProxyState) (op : ProxyOp) :
    s.forwards ⊆ (s.step p op).forwards := by
  rcases step_forwards p s op with same | ⟨id, c, v, now, -, -, -, -, grown, -⟩
  · rw [same]
    exact List.Subset.refl _
  · rw [grown]
    exact List.subset_append_left ..

/-- A call that waits for the upstream in a state after a step waited before it, or was just invoked. -/
lemma step_invoked (p : McpProxy) {s : ProxyState} (once : Once s) (op : ProxyOp) {id : Nat} {c : Call}
    (after : (s.step p op).calls id = some c) (forwards : c.phase.Forwards) :
    id ∈ (s.step p op).forwards := by
  have kept : s.calls id = some c → id ∈ (s.step p op).forwards :=
    fun known => step_forwards_subset p s op (once.invoked id c known forwards)
  have stepped := s.step_stepped p op
  by_cases e : id = op.id
  · generalize s.step p op = s' at stepped after kept ⊢
    obtain ⟨recordHash, phase⟩ := forwards
    cases stepped with
    | idle _ => exact kept after
    | @begun id tool arguments forward traceId now traced new =>
      obtain rfl := e
      rw [setPhase_self] at after
      cases after
      dsimp only at phase
      split at phase <;> cases phase
    | @waited _ how now c' forwards known waiting grown =>
      obtain rfl := e
      rw [setPhase_self] at after
      cases after
      rcases grown with ⟨-, rfl⟩ | ⟨no, -⟩
      · exact List.mem_append_right _ (List.mem_singleton_self _)
      · exact absurd ⟨recordHash, phase⟩ no
    | @reconciled _ how c' refusal known phase' =>
      obtain rfl := e
      rw [setPhase_self] at after
      cases after
      cases phase
    | @forwarded _ how c' recordHash known phase' =>
      obtain rfl := e
      rw [setPhase_self] at after
      cases after
      cases phase
  · rw [step_calls_of_ne p s e] at after
    exact kept after

/-- Each call invokes the upstream once at most. -/
lemma Once.step (p : McpProxy) {s : ProxyState} (once : Once s) (op : ProxyOp) : Once (s.step p op) := by
  have kept : ∀ id ∈ s.forwards, ∃ c, (s.step p op).calls id = some c ∧ ¬ c.Waiting := by
    intro id mem
    obtain ⟨c, known, went⟩ := once.went id mem
    obtain ⟨phase, after, back, -⟩ := step_keeps p s op known
    exact ⟨_, after, fun waiting => went (back waiting)⟩
  rcases step_forwards p s op with same | ⟨id, c, v, now, -, known, waiting, -, grown, after⟩
  · exact ⟨same ▸ once.nodup, fun id mem => kept id (same ▸ mem), fun id c => step_invoked p once op⟩
  · have new : id ∉ s.forwards := once.not_mem_of_waiting known waiting
    refine ⟨?_, fun id' mem => ?_, fun id c => step_invoked p once op⟩
    · rw [grown]
      exact List.nodup_append.2 ⟨once.nodup, List.nodup_singleton id, by grind⟩
    · rw [grown] at mem
      rcases List.mem_append.1 mem with mem | mem
      · exact kept id' mem
      · obtain rfl := List.mem_singleton.1 mem
        exact ⟨_, after, nofun⟩

end ProxyState

/-- A proxy with the settings it has by default. -/
def sampleProxy : McpProxy := { tenantId := "acme", tenant_named := by decide }

end Custos
