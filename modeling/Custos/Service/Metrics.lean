import Custos.Library.Run
import Custos.Service.Requests
import Mathlib.Algebra.BigOperators.Group.Finset.Piecewise

/-!
# Metrics

The counters of `main.py` and the two handlers that count decisions. `Metered.evaluate` and
`Metered.evaluateAction` are `Main.evaluate` and `Main.evaluateAction` with the counters they increment,
each where the source has it (`evaluate_forget`, `evaluateAction_forget`); the counter of unrecorded decisions
is incremented by the handler of `AuditStoreFull`, outside both.

The accounting is a ledger: the requests that entered, beside a count for each of the six places they may be
in. `step_posted` says what one request posts to it, `run_requestsTotal` and `run_terms_le` what a run does, and
`accounting_closes_iff` which runs keep it closed.
-/

namespace Custos

/-! ## Ledgers -/

/-- A count of what entered, beside a count for each place it may be in. -/
structure Ledger (κ : Type*) where
  total : Nat
  terms : κ → Nat

namespace Ledger

variable {κ : Type*} [DecidableEq κ]

/-- What an event posts: whether it entered, and the place it was counted in. -/
def post (l : Ledger κ) (entered : Nat) (place : Option κ) : Ledger κ :=
  { total := l.total + entered, terms := fun k => l.terms k + if place = some k then 1 else 0 }

@[simp] lemma post_total (l : Ledger κ) (entered : Nat) (place : Option κ) :
    (l.post entered place).total = l.total + entered := rfl

@[simp] lemma post_zero_none (l : Ledger κ) : l.post 0 none = l := by simp [post]

lemma post_none_post (l : Ledger κ) (entered : Nat) (place : Option κ) :
    (l.post entered none).post 0 place = l.post entered place := by simp [post]

/-- What was posted in a place is counted there, and nowhere else. -/
def Counted (l l' : Ledger κ) (k : κ) : Prop := l'.terms = (l.post 0 (some k)).terms

lemma counted_post_iff (l : Ledger κ) (entered : Nat) (place : Option κ) (k : κ) :
    Counted l (l.post entered place) k ↔ place = some k := by
  constructor
  · intro same
    have one : (if place = some k then 1 else 0) = 1 := by
      simpa [post] using congrFun same k
    exact by_contra fun ne => zero_ne_one ((if_neg ne).symm.trans one)
  · rintro rfl
    rfl

variable [Fintype κ]

/-- The terms add up to the total. -/
def Closes (l : Ledger κ) : Prop := l.total = ∑ k, l.terms k

@[simp] lemma sum_post_none (l : Ledger κ) (entered : Nat) :
    ∑ k, (l.post entered none).terms k = ∑ k, l.terms k := by simp [post]

@[simp] lemma sum_post_some (l : Ledger κ) (entered : Nat) (place : κ) :
    ∑ k, (l.post entered (some place)).terms k = ∑ k, l.terms k + 1 := by
  simp [post, Finset.sum_add_distrib]

end Ledger

/-! ## The counters -/

/-- `_metrics`, as far as the two handlers count in it. -/
structure Metrics where
  requestsTotal : Nat := 0
  requestsAllowed : Nat := 0
  requestsDenied : Nat := 0
  requestsAudited : Nat := 0
  rateLimitHits : Nat := 0
  refusedInvalidRequest : Nat := 0
  refusedUnknownTenant : Nat := 0
  refusedRateLimited : Nat := 0
  deriving DecidableEq

/-- The six places a request that reaches the decision path may be in. -/
inductive Place where
  | allowed
  | audited
  | denied
  | invalidRequest
  | unknownTenant
  | rateLimited
  deriving DecidableEq

instance : Fintype Place where
  elems := {.allowed, .audited, .denied, .invalidRequest, .unknownTenant, .rateLimited}
  complete k := by cases k <;> decide

namespace Metrics

def terms (m : Metrics) : Place → Nat
  | .allowed => m.requestsAllowed
  | .audited => m.requestsAudited
  | .denied => m.requestsDenied
  | .invalidRequest => m.refusedInvalidRequest
  | .unknownTenant => m.refusedUnknownTenant
  | .rateLimited => m.refusedRateLimited

/-- The counter of a place goes up by one. -/
def count (m : Metrics) : Place → Metrics
  | .allowed => { m with requestsAllowed := m.requestsAllowed + 1 }
  | .audited => { m with requestsAudited := m.requestsAudited + 1 }
  | .denied => { m with requestsDenied := m.requestsDenied + 1 }
  | .invalidRequest => { m with refusedInvalidRequest := m.refusedInvalidRequest + 1 }
  | .unknownTenant => { m with refusedUnknownTenant := m.refusedUnknownTenant + 1 }
  | .rateLimited => { m with refusedRateLimited := m.refusedRateLimited + 1 }

/-- The accounting the counters keep. -/
def ledger (m : Metrics) : Ledger Place := { total := m.requestsTotal, terms := m.terms }

/-- The identity of SLO-1. -/
def Closes (m : Metrics) : Prop :=
  m.requestsTotal = m.requestsAllowed + m.requestsAudited + m.requestsDenied + m.refusedInvalidRequest +
    m.refusedUnknownTenant + m.refusedRateLimited

/-- The places are the six counters. -/
lemma sum_terms (m : Metrics) :
    ∑ k, m.terms k = m.requestsAllowed + m.requestsAudited + m.requestsDenied + m.refusedInvalidRequest +
      m.refusedUnknownTenant + m.refusedRateLimited := by
  change ∑ k ∈ {Place.allowed, .audited, .denied, .invalidRequest, .unknownTenant, .rateLimited}, m.terms k = _
  simp [terms, ← add_assoc]

/-- The counters close where their ledger does. -/
lemma closes_iff (m : Metrics) : m.Closes ↔ m.ledger.Closes := by
  rw [Closes, ← sum_terms]
  rfl

/-- A request that is entered is posted without a place. -/
lemma ledger_enter (m : Metrics) :
    { m with requestsTotal := m.requestsTotal + 1 }.ledger = m.ledger.post 1 none :=
  congrArg (Ledger.mk (m.requestsTotal + 1)) (funext fun k => by cases k <;> rfl)

/-- A place that is counted is posted without an entry. -/
lemma ledger_count (m : Metrics) (k : Place) : (m.count k).ledger = m.ledger.post 0 (some k) := by
  have terms : (m.count k).terms = fun k' => m.terms k' + if some k = some k' then 1 else 0 := by
    funext k'
    cases k <;> cases k' <;> rfl
  have total : (m.count k).requestsTotal = m.requestsTotal := by cases k <;> rfl
  rw [ledger, terms, total]
  rfl

end Metrics

/-! ## The handlers with their counters -/

/-- The service with the counters of its process. -/
structure Metered (γ : Type) where
  service : Service γ
  metrics : Metrics := {}

/-- A request of one of the two endpoints that decide. -/
inductive DecisionRequest where
  | evaluate (req : EvaluateRequest)
  | evaluateAction (req : EvaluateActionRequest)

variable {γ : Type}

namespace Metered

variable [Platform]

/-- `/v1/evaluate`. -/
def evaluate [Regex] (p : Metered γ) (env : RequestEnv) (req : EvaluateRequest) :
    Except Failure EvaluateResponse × Metered γ :=
  let s := p.service
  let m := p.metrics
  if ¬ Main.Identified env req.clientId then (.error Main.identityMismatch, p)
  else
    let m := { m with requestsTotal := m.requestsTotal + 1 }
    match InputValidator.validateRequest req.clientId req.content req.tokenCount with
    | some error =>
      (.error (.http 422 error), ⟨s, m.count .invalidRequest⟩)
    | none =>
      match s.tenants.getStrict req.tenantId with
      | none =>
        (.error (Main.unknownTenant req.tenantId), ⟨s, m.count .unknownTenant⟩)
      | some ctx =>
        let (rateKey, (allowed, msg), rateLimiter) := Main.consume env ctx req
        let ctx := { ctx with rateLimiter }
        if ¬ allowed then
          let m := { m with rateLimitHits := m.rateLimitHits + 1 }.count .rateLimited
          let (res, ctx, stores) := recordDecision ctx s.stores env.toDecisionEnv
            (Main.evaluateArgs env ctx req "rate_limited" msg none)
          let wait := rateLimiter.retryAfterSeconds (env.clock 2) rateKey req.tokenCount
          (match res with
            | .error e => .error (.raised e)
            | .ok _ => .error (.http 429 msg wait),
            ⟨{ s with tenants := s.tenants.setContext req.tenantId ctx, stores }, m⟩)
        else
          match ctx.policyEngine.evaluate env.remote req.content with
          | .error e =>
            (.error (.raised e), ⟨{ s with tenants := s.tenants.setContext req.tenantId ctx }, m⟩)
          | .ok result =>
            let m :=
              if result.allowed then
                if result.action.value = "audit" then m.count .audited else m.count .allowed
              else m.count .denied
            let (res, ctx, stores) := recordDecision ctx s.stores env.toDecisionEnv
              (Main.evaluateArgs env ctx req result.action.value result.reason result.triggeredRule)
            (match res with
              | .error e => .error (.raised e)
              | .ok auditEntry => .ok
                { allowed := result.allowed, action := result.action.value
                  triggeredRule := result.triggeredRule, reason := result.reason
                  clientId := req.clientId, tenantId := req.tenantId
                  auditRecordHash := some auditEntry.recordHash, traceId := some env.traceId.1 },
              ⟨{ s with tenants := s.tenants.setContext req.tenantId ctx, stores }, m⟩)

/-- `/v1/evaluate_action`: the total is not among what it counts. -/
def evaluateAction [Regex] (hooks : CustodyHooks γ) (p : Metered γ) (env : RequestEnv)
    (req : EvaluateActionRequest) : Except Failure EvaluateResponse × Metered γ :=
  let s := p.service
  let m := p.metrics
  if ¬ Main.Identified env req.clientId then (.error Main.identityMismatch, p)
  else
    let (res, s) := s.evaluateAction hooks env.toGateEnv req.tenantId req.action req.clientId none
    match res with
    | .error e => (.error (.raised e), ⟨s, m⟩)
    | .ok gateResult =>
      let m := if gateResult.decision.allowed then m.count .allowed else m.count .denied
      (.ok
        { allowed := gateResult.decision.allowed, action := gateResult.decision.action.value
          triggeredRule := gateResult.decision.triggeredRule, reason := gateResult.decision.reason
          clientId := req.clientId, tenantId := req.tenantId
          auditRecordHash := gateResult.auditRecordHash, traceId := some env.traceId.1 },
        ⟨s, m⟩)

variable [Regex] (hooks : CustodyHooks γ)

/-- Without its counters it is the handler of `Main`. -/
lemma evaluate_forget (p : Metered γ) (env : RequestEnv) (req : EvaluateRequest) :
    (p.evaluate env req).map id (·.service) = Main.evaluate p.service env req := by
  unfold evaluate Main.evaluate
  by_cases ident : Main.Identified env req.clientId
  · rw [if_neg (not_not.2 ident), if_neg (not_not.2 ident)]
    cases InputValidator.validateRequest req.clientId req.content req.tokenCount with
    | some error => rfl
    | none =>
      cases known : p.service.tenants.getStrict req.tenantId with
      | none => rfl
      | some ctx =>
        dsimp only
        cases (Main.consume env ctx req).2.1.1 with
        | false => rfl
        | true =>
          rw [if_neg (by simp), if_neg (by simp)]
          cases ctx.policyEngine.evaluate env.remote req.content with
          | error e => rfl
          | ok d => rfl
  · rw [if_pos ident, if_pos ident]
    rfl

/-- Without its counters the metered endpoint is the endpoint. -/
lemma evaluateAction_forget (p : Metered γ) (env : RequestEnv) (req : EvaluateActionRequest) :
    (p.evaluateAction hooks env req).map id (·.service) = Main.evaluateAction hooks p.service env req := by
  unfold evaluateAction Main.evaluateAction
  by_cases ident : Main.Identified env req.clientId
  · rw [if_neg (not_not.2 ident), if_neg (not_not.2 ident)]
    obtain ⟨res, s⟩ := p.service.evaluateAction hooks env.toGateEnv req.tenantId req.action req.clientId none
    cases res with
    | error e => rfl
    | ok gateResult => rfl
  · rw [if_pos ident, if_pos ident]
    rfl

/-! ### What a request posts -/

/-- A request of the run, and what it meets outside. -/
def step (p : Metered γ) (i : RequestEnv × DecisionRequest) : Metered γ :=
  match i.2 with
  | .evaluate req => (p.evaluate i.1 req).2
  | .evaluateAction req => (p.evaluateAction hooks i.1 req).2

omit [Platform] [Regex] in
/-- The request reaches the decision path: its identity is the client's. -/
def Reaches (i : RequestEnv × DecisionRequest) : Prop :=
  match i.2 with
  | .evaluate req => Main.Identified i.1 req.clientId
  | .evaluateAction req => Main.Identified i.1 req.clientId

/-- The request enters the total: it is one of `/v1/evaluate`. -/
def Enters (i : RequestEnv × DecisionRequest) : Prop :=
  match i.2 with
  | .evaluate req => Main.Identified i.1 req.clientId
  | .evaluateAction _ => False

instance (i : RequestEnv × DecisionRequest) : Decidable (Reaches i) := by
  unfold Reaches
  split <;> infer_instance

instance (i : RequestEnv × DecisionRequest) : Decidable (Enters i) := by
  unfold Enters
  split <;> infer_instance

/-- The request is one of `/v1/evaluate` whose engine answers where it is asked, or is turned away before the
decision path. -/
def Answerable (p : Metered γ) (i : RequestEnv × DecisionRequest) : Prop :=
  match i.2 with
  | .evaluate req => Main.Identified i.1 req.clientId →
      InputValidator.validateRequest req.clientId req.content req.tokenCount = none →
      ∀ ctx, p.service.tenants.getStrict req.tenantId = some ctx → (Main.consume i.1 ctx req).2.1.1 = true →
        ∃ d, ctx.policyEngine.evaluate i.1.remote req.content = .ok d
  | .evaluateAction req => ¬ Main.Identified i.1 req.clientId

/-- What the request leaves in the accounting. -/
inductive Posted (p : Metered γ) (i : RequestEnv × DecisionRequest) (l : Ledger Place) : Prop
  | turnedAway : ¬ Reaches i → ¬ Enters i → p.Answerable i → l = p.metrics.ledger → Posted p i l
  | counted (k : Place) : Reaches i → Enters i → p.Answerable i → l = p.metrics.ledger.post 1 (some k) →
      Posted p i l
  | lost : Reaches i → Enters i → ¬ p.Answerable i → l = p.metrics.ledger.post 1 none → Posted p i l
  | unentered (k : Option Place) : Reaches i → ¬ Enters i → ¬ p.Answerable i →
      l = p.metrics.ledger.post 0 k → Posted p i l

/-- `/v1/evaluate` enters its request and counts its end. -/
lemma evaluate_posted (p : Metered γ) (env : RequestEnv) (req : EvaluateRequest) :
    Posted p (env, .evaluate req) (p.evaluate env req).2.metrics.ledger := by
  unfold evaluate
  by_cases ident : Main.Identified env req.clientId
  · rw [if_neg (not_not.2 ident)]
    have entered := p.metrics.ledger_enter
    have place (m : Metrics) (k : Place) (e : m.ledger = p.metrics.ledger.post 1 none) :
        (m.count k).ledger = p.metrics.ledger.post 1 (some k) := by
      rw [m.ledger_count, e, Ledger.post_none_post]
    cases valid : InputValidator.validateRequest req.clientId req.content req.tokenCount with
    | some error =>
      exact .counted .invalidRequest ident ident (fun _ ok => nomatch valid.symm.trans ok) (place _ _ entered)
    | none =>
      dsimp only
      cases known : p.service.tenants.getStrict req.tenantId with
      | none =>
        exact .counted .unknownTenant ident ident (fun _ _ ctx has => nomatch known.symm.trans has)
          (place _ _ entered)
      | some ctx =>
        have answerable : p.Answerable (env, .evaluate req) ↔ ((Main.consume env ctx req).2.1.1 = true →
            ∃ d, ctx.policyEngine.evaluate env.remote req.content = .ok d) := by
          simp [Answerable, ident, valid, known]
        dsimp only
        cases allowed : (Main.consume env ctx req).2.1.1 with
        | false =>
          rw [if_pos (by simp)]
          exact .counted .rateLimited ident ident (answerable.2 (by simp [allowed])) (place _ _ entered)
        | true =>
          rw [if_neg (by simp)]
          cases ans : ctx.policyEngine.evaluate env.remote req.content with
          | error e =>
            exact .lost ident ident (by simp [answerable, allowed, ans]) entered
          | ok d =>
            have ok := answerable.2 fun _ => ⟨d, ans⟩
            dsimp only
            split
            · split
              · exact .counted .audited ident ident ok (place _ _ entered)
              · exact .counted .allowed ident ident ok (place _ _ entered)
            · exact .counted .denied ident ident ok (place _ _ entered)
  · rw [if_pos ident]
    exact .turnedAway ident ident (fun yes => absurd yes ident) rfl

/-- The action endpoint counts an end and enters nothing. -/
lemma evaluateAction_posted (p : Metered γ) (env : RequestEnv) (req : EvaluateActionRequest) :
    Posted p (env, .evaluateAction req) (p.evaluateAction hooks env req).2.metrics.ledger := by
  unfold evaluateAction
  by_cases ident : Main.Identified env req.clientId
  · rw [if_neg (not_not.2 ident)]
    obtain ⟨res, s⟩ := p.service.evaluateAction hooks env.toGateEnv req.tenantId req.action req.clientId none
    cases res with
    | error e => exact .unentered none ident id (fun no => no ident) (by simp)
    | ok gateResult =>
      dsimp only
      split
      · exact .unentered (some .allowed) ident id (fun no => no ident) (p.metrics.ledger_count _)
      · exact .unentered (some .denied) ident id (fun no => no ident) (p.metrics.ledger_count _)
  · rw [if_pos ident]
    exact .turnedAway ident id ident rfl

/-- A request is posted as its endpoint does. -/
lemma step_posted (p : Metered γ) (i : RequestEnv × DecisionRequest) :
    Posted p i (step hooks p i).metrics.ledger := by
  obtain ⟨env, req⟩ := i
  cases req with
  | evaluate req => exact evaluate_posted p env req
  | evaluateAction req => exact evaluateAction_posted hooks p env req

/-! ### Runs -/

/-- The total counts the requests that enter it, whatever becomes of them. -/
theorem run_requestsTotal (p : Metered γ) (is : List (RequestEnv × DecisionRequest)) :
    (run (step hooks) p is).metrics.requestsTotal = p.metrics.requestsTotal + is.countP (Enters ·) := by
  induction is generalizing p with
  | nil => rfl
  | cons i is ih =>
    have total (l : Ledger Place) (e : (step hooks p i).metrics.ledger = l) :
        (step hooks p i).metrics.requestsTotal = l.total := congrArg Ledger.total e
    rw [run_cons, ih, List.countP_cons]
    cases step_posted hooks p i with
    | turnedAway _ out _ e => simp [total _ e, out, Metrics.ledger]
    | counted k _ enters _ e => simp [total _ e, enters, Metrics.ledger, add_assoc, add_comm 1]
    | lost _ enters _ e => simp [total _ e, enters, Metrics.ledger, add_assoc, add_comm 1]
    | unentered k _ out _ e => simp [total _ e, out, Metrics.ledger]

/-- No request is counted in two places. -/
theorem run_terms_le (p : Metered γ) (is : List (RequestEnv × DecisionRequest)) :
    ∑ k, (run (step hooks) p is).metrics.terms k ≤ ∑ k, p.metrics.terms k + is.countP (Reaches ·) := by
  induction is generalizing p with
  | nil => exact le_rfl
  | cons i is ih =>
    have one : ∑ k, (step hooks p i).metrics.terms k ≤ ∑ k, p.metrics.terms k + if Reaches i then 1 else 0 := by
      have terms (l : Ledger Place) (e : (step hooks p i).metrics.ledger = l) :
          ∑ k, (step hooks p i).metrics.terms k = ∑ k, l.terms k := congrArg (∑ k, Ledger.terms · k) e
      cases step_posted hooks p i with
      | turnedAway out _ _ e => simp [terms _ e, out, Metrics.ledger]
      | counted k reaches _ _ e => simp [terms _ e, reaches, Metrics.ledger]
      | lost reaches _ _ e => simp [terms _ e, Metrics.ledger]
      | unentered k reaches _ _ e => cases k <;> simp [terms _ e, reaches, Metrics.ledger]
    rw [run_cons, List.countP_cons]
    have rest := ih (step hooks p i)
    simp only [decide_eq_true_eq]
    omega

/-- After the request the accounting closes, and where it reaches the decision path it is in exactly one of the
six places. -/
def Closing (p : Metered γ) (i : RequestEnv × DecisionRequest) : Prop :=
  (step hooks p i).metrics.Closes ∧
    (Reaches i → ∃! k, Ledger.Counted p.metrics.ledger (step hooks p i).metrics.ledger k)

/-- Counters that close do so after a request exactly where it is answerable. -/
lemma closing_iff {p : Metered γ} (closes : p.metrics.Closes) (i : RequestEnv × DecisionRequest) :
    Closing hooks p i ↔ p.Answerable i := by
  rw [Metrics.closes_iff] at closes
  rw [Closing, Metrics.closes_iff]
  have placed (e : Nat) (place : Option Place) :
      (∃! k, Ledger.Counted p.metrics.ledger (p.metrics.ledger.post e place) k) ↔ place.isSome := by
    simp only [Ledger.counted_post_iff]
    cases place with
    | none => simp [ExistsUnique]
    | some k => simp
  cases step_posted hooks p i with
  | turnedAway out _ ok e =>
    rw [e]
    exact ⟨fun _ => ok, fun _ => ⟨closes, fun reaches => absurd reaches out⟩⟩
  | counted k _ _ ok e =>
    rw [e, placed]
    refine ⟨fun _ => ok, fun _ => ⟨?_, fun _ => rfl⟩⟩
    rw [Ledger.Closes, Ledger.sum_post_some, Ledger.post_total, closes]
  | lost reaches _ bad e =>
    rw [e, placed]
    exact ⟨fun ⟨_, one⟩ => Bool.noConfusion (one reaches), fun ok => absurd ok bad⟩
  | unentered k reaches _ bad e =>
    rw [e, placed]
    refine ⟨fun ⟨now, one⟩ => ?_, fun ok => absurd ok bad⟩
    obtain ⟨k, rfl⟩ := Option.isSome_iff_exists.1 (one reaches)
    -- a place went up and the total did not
    rw [Ledger.Closes, Ledger.sum_post_some, Ledger.post_total, closes] at now
    exact absurd now (by omega)

/-- The accounting of a process closes after every request of a run exactly where each is one of `/v1/evaluate`
whose engine answers where it is asked, or is turned away before the decision path. -/
theorem accounting_closes_iff (s : Service γ) (is : List (RequestEnv × DecisionRequest)) :
    Steps (step hooks) (Closing hooks) { service := s } is ↔ Steps (step hooks) Answerable { service := s } is := by
  refine steps_congr (I := fun p => p.metrics.Closes) rfl (fun p i closes => closing_iff hooks closes i) ?_ is
  intro p i closes ok
  exact ((closing_iff hooks closes i).2 ok).1

end Metered

section Sample

local instance metricsPlatform : Platform := .reference .empty

/-- Python's `re` on the one pattern of the sample, which does not compile. -/
local instance metricsRegex : Regex where
  invalid pattern := if pattern = "(" then some "missing ), unterminated subpattern at position 0" else none
  finditer _ _ := []

def quietHooks : CustodyHooks Unit where
  anchorPolicyCommit _ _ _ _ := (.ok (), ())
  drainPolicyCommits _ := (.ok true, ())

def meteredEnv : RequestEnv where
  now := 1700000000
  environ _ := none
  server := .ofResults fun _ => .error (.Other "unused" "")
  purgedAt := 1700000000
  traceId := sampleTraceId
  clock _ := 1700000000

/-- A process with a tenant one of whose rules has a pattern that does not compile. -/
def brokenRuleService : Service Unit where
  tenants :=
    { backend := .InMemoryBackend
      tenants := fun id => if id = "acme" then
        some { tenantId := "acme", policyEngine := .regex { rules := [⟨"open", "(", .DENY, "open"⟩] }
               rateLimiter := {}, auditChain := ⟨[], some "acme", .InMemoryBackend⟩ } else none }
  gate := { custody := none }
  stores := { audit := .empty }

def evaluateGreeting : RequestEnv × DecisionRequest :=
  (meteredEnv, .evaluate { clientId := "agent", content := "hello", tenantId := "acme" })

def gateSearch : RequestEnv × DecisionRequest :=
  (meteredEnv, .evaluateAction { clientId := "agent", tenantId := "acme", tool := "search" })

/-- A decision of the gate is counted as denied and not in the total, and a request whose engine raises in the
total and nowhere else. -/
theorem decisions_unbalanced :
    (run (Metered.step quietHooks) { service := brokenRuleService } [gateSearch]).metrics =
        { requestsDenied := 1 } ∧
      (run (Metered.step quietHooks) { service := brokenRuleService } [evaluateGreeting]).metrics =
        { requestsTotal := 1 } ∧
      ¬ Steps (Metered.step quietHooks) (Metered.Closing quietHooks) { service := brokenRuleService }
        [gateSearch] ∧
      ¬ Steps (Metered.step quietHooks) (Metered.Closing quietHooks) { service := brokenRuleService }
        [evaluateGreeting] := by
  have gate : (run (Metered.step quietHooks) { service := brokenRuleService } [gateSearch]).metrics =
      { requestsDenied := 1 } := by decide +kernel
  have content : (run (Metered.step quietHooks) { service := brokenRuleService } [evaluateGreeting]).metrics =
      { requestsTotal := 1 } := by decide +kernel
  refine ⟨gate, content, fun closing => ?_, fun closing => ?_⟩
  · have closes := closing.1.1
    change (run (Metered.step quietHooks) { service := brokenRuleService } [gateSearch]).metrics.Closes at closes
    rw [gate] at closes
    cases closes
  · have closes := closing.1.1
    change (run (Metered.step quietHooks) { service := brokenRuleService }
      [evaluateGreeting]).metrics.Closes at closes
    rw [content] at closes
    cases closes

end Sample

end Custos
