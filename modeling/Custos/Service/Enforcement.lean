import Custos.Service.Firewall
import Custos.Service.Pinning
import Custos.Service.Quotas

/-!
# Enforcement over runs

`ExecutionFirewall` over the `HTTPExecutionAdapter` it is made with: the forwards of the one are answered by the other,
and the state of both goes from call to call.

The circuits of the adapter are what the requests it made before came to (`circuit_run`). So whether a call reaches its
target is settled by the call, the limiter and the policy, the checks of the target, and by how the requests to the
target have ended (`enforced_requests`). What is answered, what is recorded as forwarded and what callers are told of
it are the same requests in the same order, as far as each record could be written (`forwards_accounted`); and what
reaches the targets under a key is within the key's quota (`asked_within_quota`).
-/

namespace Custos

/-! ## A circuit by what has happened -/

/-- The target answered. -/
def RequestEnd.answers : RequestEnd → Bool
  | .response _ _ => true
  | _ => false

/-- How a request to a target ended, and when it failed if it did. -/
structure Ending where
  host : String
  answered : Bool
  time : ℚ

/-- What an ending does to the circuit of a target. -/
def Ending.note (circuits : String → CircuitState) (e : Ending) : String → CircuitState := fun key =>
  if e.answered then if e.host = key ∨ e.host = "default" then (circuits key).recordSuccess else circuits key
  else if e.host = key then (circuits key).recordFailure e.time else circuits key

/-- The ending counts for the circuit: each one of its own target, and any success under the shared name. -/
def Ending.concerns (key : String) (e : Ending) : Bool := e.host = key ∨ e.answered = true ∧ e.host = "default"

/-- The failures of a target since something last closed its circuit. -/
def failuresInARow (key : String) (endings : List Ending) : Nat :=
  ((endings.filter (·.concerns key)).reverse.takeWhile (¬ ·.answered)).length

/-- When a target last failed. -/
def lastFailure (key : String) (endings : List Ending) : ℚ :=
  ((endings.filter fun e => e.host = key ∧ ¬ e.answered).getLast?.map (·.time)).getD 0

/-- After these endings the circuit of the target is open. -/
def Tripped (threshold : Int) (reset : ℚ) (key : String) (endings : List Ending) (now : ℚ) : Prop :=
  threshold ≤ failuresInARow key endings ∧ now - lastFailure key endings ≤ reset

/-- A further end counts on or starts anew. -/
lemma failuresInARow_snoc (key : String) (endings : List Ending) (e : Ending) :
    failuresInARow key (endings ++ [e]) =
      if e.concerns key then if e.answered then 0 else failuresInARow key endings + 1
      else failuresInARow key endings := by
  unfold failuresInARow
  rw [List.filter_append]
  cases concerned : e.concerns key with
  | false => simp [concerned]
  | true => cases answered : e.answered <;> simp [concerned, answered]

/-- A further failure is the last. -/
lemma lastFailure_snoc (key : String) (endings : List Ending) (e : Ending) :
    lastFailure key (endings ++ [e]) =
      if e.host = key ∧ e.answered = false then e.time else lastFailure key endings := by
  unfold lastFailure
  rw [List.filter_append]
  by_cases failed : e.host = key ∧ e.answered = false
  · simp [failed]
  · have skipped : (List.filter (fun e => decide (e.host = key ∧ ¬ e.answered)) [e]) = [] := by
      simpa using failed
    rw [if_neg failed, skipped, List.append_nil]

/-- A circuit counts the failures in a row and keeps the time of the last. -/
theorem foldl_note (threshold : Int) (reset : ℚ) (endings : List Ending) (key : String) :
    endings.foldl Ending.note
        (fun _ => { failureThreshold := threshold, resetTimeout := reset }) key =
      { failureCount := failuresInARow key endings, failureThreshold := threshold
        lastFailureTime := lastFailure key endings, resetTimeout := reset } := by
  induction endings using List.reverseRecOn with
  | nil => rfl
  | append_singleton endings e ih =>
    rw [List.foldl_append, List.foldl_cons, List.foldl_nil, failuresInARow_snoc, lastFailure_snoc]
    rw [Ending.note, ih, Ending.concerns]
    cases answered : e.answered with
    | true => by_cases own : e.host = key ∨ e.host = "default" <;> simp [own, CircuitState.recordSuccess]
    | false => by_cases own : e.host = key <;> simp [own, CircuitState.recordFailure]

/-- A circuit lets a request proceed unless it is open. -/
lemma CircuitState.canProceed_iff (c : CircuitState) (now : ℚ) :
    c.canProceed now = true ↔ ¬ (c.failureThreshold ≤ c.failureCount ∧ now - c.lastFailureTime ≤ c.resetTimeout) := by
  unfold canProceed state
  rcases lt_or_ge (c.failureCount : Int) c.failureThreshold with closed | failed
  · rw [if_pos closed]
    simp [closed]
  · rw [if_neg (not_lt.2 failed)]
    rcases lt_or_ge c.resetTimeout (now - c.lastFailureTime) with old | recent
    · rw [if_pos old]
      exact iff_of_true rfl fun broken => not_lt.2 broken.2 old
    · rw [if_neg (not_lt.2 recent)]
      exact iff_of_false (by decide) fun closed => closed ⟨failed, recent⟩

namespace HTTPExecutionAdapter

/-! ## One forward -/

/-- A success is entered in the circuit of its key, and under the shared key in every circuit. -/
lemma recordSuccess_circuit (a : HTTPExecutionAdapter) (key host : String) :
    (a.recordSuccess key).circuit host =
      if key = host ∨ key = "default" then (a.circuit host).recordSuccess else a.circuit host := by
  unfold recordSuccess
  by_cases shared : key = "default"
  · rw [if_pos shared, if_pos (.inr shared)]
    unfold circuit
    dsimp only
    cases known : a.circuits host <;> rfl
  · rw [if_neg shared]
    show ((a.getCircuit key).2.setCircuit key (a.getCircuit key).1.recordSuccess).circuit host = _
    by_cases own : key = host
    · subst own
      rw [if_pos (.inl rfl), (a.getCircuit_circuit key key).1]
      unfold circuit setCircuit
      dsimp only
      rw [Function.update_self]
      rfl
    · rw [if_neg (by simp [own, shared]), (Leaves.setCircuit _ key _).circuits host (Ne.symm own)]
      exact (a.getCircuit_circuit key host).2

/-- How a request ended is noted in the circuits. -/
lemma conclude_circuit (a : HTTPExecutionAdapter) (key : String) (now : ℚ) (e : RequestEnd) :
    (a.conclude key now e).2.circuit = Ending.note a.circuit ⟨key, e.answers, now⟩ := by
  funext host
  have failed : (a.recordFailure key now).circuit host =
      if key = host then (a.circuit host).recordFailure now else a.circuit host := by
    by_cases own : key = host
    · rw [if_pos own, ← own, recordFailure_circuit]
    · rw [if_neg own, (a.recordFailure_leaves key now).circuits host (Ne.symm own)]
  cases e with
  | response statusCode text => exact a.recordSuccess_circuit key host
  | timeout => exact failed
  | connectError => exact failed
  | raised typeName text => exact failed

variable [NetLib] {cfg : AdapterConfig} {a : HTTPExecutionAdapter} {args : ForwardArgs} {env : Outside}

/-- A request for a target that passed the validation can be put together. -/
lemma requestFor_ok {pinned : Pinned} (valid : validateTargetUrl cfg.allowlist args.url env.getaddrinfo = .ok pinned) :
    ∃ req, requestFor cfg args pinned = .ok req ∧ getHost args.url = .ok (lower req.sniHostname) ∧
      req.method = args.method ∧ req.content = args.content := by
  obtain ⟨parsed, host, port, checked, -⟩ := validateTargetUrl_ok valid
  have named := hostname_of_checked checked
  have nonempty : host ≠ "" := by simpa using (Option.filter_eq_some_iff.1 checked.named).2
  unfold requestFor
  rw [checked.parses]
  dsimp only
  rw [checked.reads, named]
  refine ⟨_, rfl, ?_, rfl, rfl⟩
  have name : UrlLib.hostname args.url = targetName args.url := rfl
  unfold getHost
  rw [name]
  unfold targetName
  rw [checked.parses]
  dsimp only
  rw [named]
  simp [nonempty, Except.map]

/-- How a request that reaches the client ended. -/
def ending (env : Outside) (req : ClientRequest) : Ending :=
  ⟨lower req.sniHostname, (env.request req).answers, env.clock 2⟩

/-- The circuits let a request to the target of the URL proceed. -/
def Lets (a : HTTPExecutionAdapter) (url : String) (clock : Nat → ℚ) : Prop :=
  ∃ key, getHost url = .ok key ∧
    (a.circuit key).canProceed (clock 0) = true ∧ (a.circuit "default").canProceed (clock 1) = true

/-- What a call of `forward` comes to: its target is refused, a circuit keeps it from proceeding, or it makes one
request, whose end it tells and notes. -/
inductive Forward (cfg : AdapterConfig) (a : HTTPExecutionAdapter) (args : ForwardArgs) (env : Outside) :
    Except Exn ExecutionResult → HTTPExecutionAdapter → Option ClientRequest → Prop
  | refused (res : Except Exn ExecutionResult) :
      (∀ pinned, validateTargetUrl cfg.allowlist args.url env.getaddrinfo ≠ .ok pinned) →
      (∀ r, res = .ok r → r.forwarded = false) → Forward cfg a args env res a none
  | kept (r : ExecutionResult) (a' : HTTPExecutionAdapter) : ¬ a.Lets args.url env.clock → r.forwarded = false →
      a'.circuit = a.circuit → Forward cfg a args env (.ok r) a' none
  | asked (pinned : Pinned) (req : ClientRequest) (r : ExecutionResult) (a' : HTTPExecutionAdapter) :
      validateTargetUrl cfg.allowlist args.url env.getaddrinfo = .ok pinned → a.Lets args.url env.clock →
      req.method = args.method → req.content = args.content → r.forwarded = (env.request req).answers →
      a'.circuit = Ending.note a.circuit (ending env req) → Forward cfg a args env (.ok r) a' (some req)

/-- What a forwarded request comes to. -/
lemma forwardRequest_forward (cfg : AdapterConfig) (a : HTTPExecutionAdapter) (args : ForwardArgs) (env : Outside) :
    Forward cfg a args env (forwardRequest cfg a args env).1.1 (forwardRequest cfg a args env).1.2
      (forwardRequest cfg a args env).2 := by
  cases valid : validateTargetUrl cfg.allowlist args.url env.getaddrinfo with
  | error refusal =>
    have never : ∀ pinned, validateTargetUrl cfg.allowlist args.url env.getaddrinfo ≠ .ok pinned := by
      intro pinned ok
      cases valid.symm.trans ok
    cases refusal with
    | raised e =>
      rw [forwardRequest_raised valid]
      exact .refused _ never fun r h => by cases h
    | ssrf text =>
      rw [forwardRequest_refused valid]
      exact .refused _ never fun r h => by cases h; rfl
  | ok pinned =>
    obtain ⟨req, built, host, method, content⟩ := requestFor_ok valid
    have asked : (a.canRequest (lower req.sniHostname) env.clock).2.circuit = a.circuit :=
      funext fun host => a.canRequest_circuit _ host _
    have lets := a.canRequest_eq (lower req.sniHostname) env.clock
    unfold forwardRequest
    rw [host]
    dsimp only
    rw [valid]
    dsimp only
    generalize a.canRequest (lower req.sniHostname) env.clock = out at asked lets
    obtain ⟨proceed, a'⟩ := out
    cases proceed with
    | false =>
      refine .kept _ a' ?_ rfl asked
      rintro ⟨key, same, own, shared⟩
      cases host.symm.trans same
      rw [own, shared] at lets
      cases lets
    | true =>
      have lets := Bool.and_eq_true_iff.1 lets.symm
      have ended := a'.conclude_circuit (lower req.sniHostname) (env.clock 2) (env.request req)
      have told : (a'.conclude (lower req.sniHostname) (env.clock 2) (env.request req)).1.forwarded =
          (env.request req).answers := by
        cases env.request req <;> rfl
      rw [if_neg (by simp), built]
      refine .asked pinned req _ _ valid ⟨_, host, lets⟩ method content told (ended.trans ?_)
      rw [asked]
      rfl

/-- What reaches the client was let through and is the call's. -/
lemma forwardRequest_sent {req : ClientRequest} (sent : (forwardRequest cfg a args env).2 = some req) :
    (∃ pinned, validateTargetUrl cfg.allowlist args.url env.getaddrinfo = .ok pinned) ∧
      a.Lets args.url env.clock ∧ req.method = args.method ∧ req.content = args.content := by
  have out := forwardRequest_forward cfg a args env
  generalize forwardRequest cfg a args env = fwd at out sent
  obtain ⟨⟨res, a'⟩, asked⟩ := fwd
  dsimp only at out sent
  cases out with
  | refused => cases sent
  | kept => cases sent
  | asked pinned req' r a' valid lets method content =>
    cases sent
    exact ⟨⟨pinned, valid⟩, lets, method, content⟩

/-- What is let through reaches the client. -/
lemma forwardRequest_sends {pinned : Pinned}
    (valid : validateTargetUrl cfg.allowlist args.url env.getaddrinfo = .ok pinned) (lets : a.Lets args.url env.clock) :
    ∃ req, (forwardRequest cfg a args env).2 = some req := by
  have out := forwardRequest_forward cfg a args env
  generalize forwardRequest cfg a args env = fwd at out ⊢
  obtain ⟨⟨res, a'⟩, asked⟩ := fwd
  dsimp only at out ⊢
  cases out with
  | refused _ never => exact absurd valid (never pinned)
  | kept r _ kept => exact absurd lets kept
  | asked _ req => exact ⟨req, rfl⟩

end HTTPExecutionAdapter

/-! ## One call of the firewall -/

namespace Firewall

variable [Platform] [Regex]

omit [Regex] in
/-- The record of a call of `enforce`, which names no tenant and no policy, is written exactly where no evidence is
required and the backend takes it. -/
lemma recordIn_plain (c : AuditChain) (s : Stores) (env : RecordEnv) {a : RecordArgs} (tenant : a.tenantId = none)
    (digest : a.policyDigest = none) (form : a.commitment = COMMITMENT_NONE) :
    (∃ e s', c.recordIn s env a = (.error e, c, s') ∧
        ¬ (boundEvidenceRequired env.environ = false ∧ c.Takes s.audit env)) ∨
      ∃ r s', c.recordIn s env a = (.ok r, { c with records := c.records ++ [r] }, s') ∧
        boundEvidenceRequired env.environ = false ∧ c.Takes s.audit env ∧
        r.action = a.action ∧ r.contentHash = sha256 a.content := by
  have own : c.resolveTenant a.tenantId = .ok c.tenantId := by
    rw [tenant]
    rfl
  have admissible : c.Admissible env.environ a ↔ boundEvidenceRequired env.environ = false := by
    constructor
    · intro adm
      by_contra bound
      have missing := AuditChain.missingEvidence_eq_nil.1 (adm.evidence (by simpa using bound))
      simp [digest, truthy] at missing
    · intro unbound
      refine ⟨form ▸ none_mem_forms, ⟨_, own⟩, fun bound => ?_⟩
      rw [unbound] at bound
      cases bound
  unfold AuditChain.recordIn
  rcases c.record_cases s.audit env a with ⟨e, he⟩ | ⟨r, t', adm, ent, -, he⟩
  · rw [he]
    refine .inl ⟨e, _, rfl, ?_⟩
    rintro ⟨unbound, takes⟩
    obtain ⟨r, ok⟩ := (AuditChain.record_ok_iff_of_own own (admissible.2 unbound)).2 takes
    rw [he] at ok
    cases ok
  · have takes := (AuditChain.record_ok_iff_of_own own adm).1 ⟨r, by rw [he]⟩
    rw [he]
    obtain ⟨id, -, eq⟩ := ent.eq
    refine .inr ⟨r, _, rfl, admissible.1 adm, takes, ?_, ?_⟩
    · rw [eq]
      rfl
    · rw [eq]
      rfl

/-- What a call of `enforce` comes to: it stops before the forward, or it forwards once, and then the forward raises,
its record is refused, or it is recorded. -/
inductive Enforcing (f : Firewall) (s : Stores) (env : FirewallEnv) (req : EnforceRequest) : Enforced → Prop
  | stopped (out : Enforced) (new : List AuditRecord) : (∀ d, ¬ f.Permits env req d) → out.forwards = [] →
      out.firewall.audit.records = f.audit.records ++ new → (∀ r ∈ new, r.action ≠ "forwarded") →
      (∀ res, out.result = .ok res → res.forwarded = false) → Enforcing f s env req out
  | raised (out : Enforced) (d : PolicyResult) (e : Exn) : f.Permits env req d → out.forwards = [req.call] →
      env.forward req.call = .error e → out.result = .error e → out.firewall.audit = f.audit →
      Enforcing f s env req out
  | unrecorded (out : Enforced) (d : PolicyResult) (exec : ExecutionResult) (e : Exn) : f.Permits env req d →
      out.forwards = [req.call] → env.forward req.call = .ok exec →
      ¬ (boundEvidenceRequired env.environ = false ∧ f.audit.Takes s.audit env.toRecordEnv) →
      out.result = .error e → out.firewall.audit = f.audit → Enforcing f s env req out
  | recorded (out : Enforced) (d : PolicyResult) (exec : ExecutionResult) (r : AuditRecord) (res : FirewallResult) :
      f.Permits env req d → out.forwards = [req.call] → env.forward req.call = .ok exec →
      boundEvidenceRequired env.environ = false → f.audit.Takes s.audit env.toRecordEnv →
      out.firewall.audit.records = f.audit.records ++ [r] → r.action = (exec.audited req.targetUrl).1 →
      r.contentHash = sha256 req.content → out.result = .ok res → res.forwarded = exec.forwarded →
      res.auditRecordHash = some r.recordHash → Enforcing f s env req out

/-- What a call leaves of the firewall: its rules and tracer, and its limiter after a look at a valid call. -/
lemma enforce_firewall (f : Firewall) (s : Stores) (env : FirewallEnv) (req : EnforceRequest) :
    ∃ audit, (f.enforce s env req).firewall =
      { f with
        limiter :=
          if InputValidator.validateRequest req.clientId req.content req.tokenCount = none then
            (f.limiter.checkAndConsume env.limiterNow (orElse req.rateKey req.clientId) req.tokenCount).2
          else f.limiter
        audit } := by
  unfold enforce
  dsimp only
  cases InputValidator.validateRequest req.clientId req.content req.tokenCount with
  | some error => exact ⟨f.audit, rfl⟩
  | none =>
    dsimp only
    split
    · exact ⟨_, rfl⟩
    · cases f.policyEngine.evaluate env.remote req.content with
      | error e => exact ⟨f.audit, rfl⟩
      | ok d =>
        dsimp only
        split
        · exact ⟨_, rfl⟩
        · cases env.forward req.call with
          | error e => exact ⟨f.audit, rfl⟩
          | ok exec => exact ⟨_, rfl⟩

omit [Platform] [Regex] in
lemma value_ne_forwarded (action : PolicyAction) : action.value ≠ "forwarded" := by
  cases action <;> decide

/-- What a call of `enforce` comes to. -/
lemma enforce_enforcing (f : Firewall) (s : Stores) (env : FirewallEnv) (req : EnforceRequest) :
    Enforcing f s env req (f.enforce s env req) := by
  -- a record of a request that is not forwarded
  have refusal : ∀ (limiter : RateLimiter) (a : RecordArgs) (told : AuditRecord → FirewallResult),
      a.tenantId = none → a.policyDigest = none → a.commitment = COMMITMENT_NONE → a.action ≠ "forwarded" →
      (∀ r, (told r).forwarded = false) → (∀ d, ¬ f.Permits env req d) →
      Enforcing f s env req
        { result := (f.audit.recordIn s env.toRecordEnv a).1.map told
          firewall := { f with limiter, audit := (f.audit.recordIn s env.toRecordEnv a).2.1 }
          stores := (f.audit.recordIn s env.toRecordEnv a).2.2 } := by
    intro limiter a told tenant digest form other unforwarded no
    rcases recordIn_plain f.audit s env.toRecordEnv tenant digest form with
      ⟨e, s', eq, -⟩ | ⟨r, s', eq, -, -, action, -⟩
    · rw [eq]
      refine .stopped _ [] no rfl (List.append_nil _).symm ?_ ?_
      · simp
      · intro res ok
        cases ok
    · rw [eq]
      refine .stopped _ [r] no rfl rfl ?_ ?_
      · simpa [action] using other
      · intro res ok
        cases ok
        exact unforwarded r
  unfold enforce
  dsimp only
  cases valid : InputValidator.validateRequest req.clientId req.content req.tokenCount with
  | some error =>
    refine .stopped _ [] (fun d p => ?_) rfl (List.append_nil _).symm (by simp) fun res ok => ?_
    · cases valid.symm.trans p.valid
    · cases ok
      rfl
  | none =>
    dsimp only
    cases limit : (f.limiter.checkAndConsume env.limiterNow (orElse req.rateKey req.clientId)
        req.tokenCount).1.1 with
    | false =>
      rw [if_pos (by simp)]
      have other : "rate_limited" ≠ "forwarded" := by decide
      refine refusal _ _ _ rfl rfl rfl other (fun _ => rfl) fun d p => ?_
      cases limit.symm.trans p.limit
    | true =>
      rw [if_neg (by simp)]
      cases policy : f.policyEngine.evaluate env.remote req.content with
      | error e =>
        refine .stopped _ [] (fun d p => ?_) rfl (List.append_nil _).symm (by simp) fun res ok => ?_
        · cases policy.symm.trans p.policy
        · cases ok
      | ok d =>
        dsimp only
        cases allowed : d.allowed with
        | false =>
          rw [if_pos (by simp)]
          refine refusal _ _ _ rfl rfl rfl (value_ne_forwarded d.action) (fun _ => rfl) fun d' p => ?_
          cases policy.symm.trans p.policy
          cases allowed.symm.trans p.allowed
        | true =>
          have permits : f.Permits env req d := ⟨valid, limit, policy, allowed⟩
          rw [if_neg (by simp)]
          cases fwd : env.forward req.call with
          | error e => exact .raised _ d e permits rfl fwd rfl rfl
          | ok exec =>
            rcases recordIn_plain f.audit s env.toRecordEnv (a := f.outcomeArgs env req d exec) rfl rfl rfl with
              ⟨e, s', eq, refused⟩ | ⟨r, s', eq, unbound, takes, action, hash⟩
            · unfold outcomeArgs at eq
              dsimp only at eq ⊢
              rw [eq]
              exact .unrecorded _ d exec e permits rfl fwd refused rfl rfl
            · unfold outcomeArgs at eq
              dsimp only at eq ⊢
              rw [eq]
              exact .recorded _ d exec r _ permits rfl fwd unbound takes rfl action hash rfl rfl rfl

end Firewall

/-! ## A firewall over its adapter -/

def ForwardCall.args (call : ForwardCall) : ForwardArgs :=
  { url := call.url, method := call.method, content := call.content, headers := call.headers
    timeout := some call.timeout }

/-- What a call of `enforce` meets outside, the network included. -/
structure EnforcerEnv extends RecordEnv where
  limiterNow : ℚ
  traceId : TraceId
  server : Remote
  outside : Outside

/-- A firewall, the stores it records to and the adapter it forwards by. -/
structure Enforcer [Platform] where
  firewall : Firewall
  stores : Stores
  adapter : HTTPExecutionAdapter

namespace Enforcer

open HTTPExecutionAdapter

variable [Platform] [NetLib]

/-- What the firewall meets: its adapter answers the forwards. -/
def met (cfg : AdapterConfig) (e : Enforcer) (env : EnforcerEnv) : FirewallEnv :=
  { env with
    forward := fun call => (forwardRequest cfg e.adapter call.args env.outside).1.1 }

variable [Regex]

/-- `enforce`. -/
def enforce (cfg : AdapterConfig) (e : Enforcer) (call : EnforcerEnv × EnforceRequest) : Enforced :=
  e.firewall.enforce e.stores (e.met cfg call.1) call.2

/-- The firewall, the stores and the adapter after a call. -/
def step (cfg : AdapterConfig) (e : Enforcer) (call : EnforcerEnv × EnforceRequest) : Enforcer where
  firewall := (e.enforce cfg call).firewall
  stores := (e.enforce cfg call).stores
  adapter := (e.enforce cfg call).forwards.foldl
    (fun a fwd => (forwardRequest cfg a fwd.args call.1.outside).1.2) e.adapter

/-- The request to the client a call comes to. -/
def asked (cfg : AdapterConfig) (e : Enforcer) (call : EnforcerEnv × EnforceRequest) : Option ClientRequest :=
  (e.enforce cfg call).forwards.head?.bind fun fwd =>
    (forwardRequest cfg e.adapter fwd.args call.1.outside).2

/-- How it ended. -/
def endings (cfg : AdapterConfig) (e : Enforcer) (call : EnforcerEnv × EnforceRequest) : List Ending :=
  ((e.asked cfg call).map (ending call.1.outside)).toList

/-- The digest of what was sent, where the target answered. -/
def answered (cfg : AdapterConfig) (e : Enforcer) (call : EnforcerEnv × EnforceRequest) : Option String :=
  ((e.asked cfg call).filter fun req => (call.1.outside.request req).answers).map fun req => sha256 req.content

/-- The record the caller is told of, where the call says that it was forwarded. -/
def told (cfg : AdapterConfig) (e : Enforcer) (call : EnforcerEnv × EnforceRequest) : Option String :=
  match (e.enforce cfg call).result with
  | .ok res => if res.forwarded then res.auditRecordHash else none
  | .error _ => none

/-- What a forward can be recorded in: no evidence is required and the backend takes the next entry. -/
def CanRecord (e : Enforcer) (env : EnforcerEnv) : Prop :=
  boundEvidenceRequired env.environ = false ∧ e.firewall.audit.Takes e.stores.audit env.toRecordEnv

variable {cfg : AdapterConfig} {e : Enforcer} {call : EnforcerEnv × EnforceRequest}

/-- Without the permission nothing is asked of the client. -/
lemma step_of_not_permits (no : ∀ d, ¬ e.firewall.Permits (e.met cfg call.1) call.2 d) :
    e.asked cfg call = none ∧ (e.step cfg call).adapter = e.adapter := by
  have none := Firewall.enforce_of_not_permits no e.stores
  unfold asked step enforce
  rw [none]
  exact ⟨rfl, rfl⟩

/-- With it the adapter is handed the request, once. -/
lemma step_of_permits {d : PolicyResult} (p : e.firewall.Permits (e.met cfg call.1) call.2 d) :
    e.asked cfg call = (forwardRequest cfg e.adapter call.2.call.args call.1.outside).2 ∧
      (e.step cfg call).adapter = (forwardRequest cfg e.adapter call.2.call.args call.1.outside).1.2 := by
  have one := (Firewall.enforce_of_permits p e.stores).1
  unfold asked step enforce
  rw [one]
  exact ⟨rfl, rfl⟩

/-- A call that reaches the network was permitted. -/
lemma permits_of_asked {req : ClientRequest} (asked : e.asked cfg call = some req) :
    ∃ d, e.firewall.Permits (e.met cfg call.1) call.2 d ∧
      (forwardRequest cfg e.adapter call.2.call.args call.1.outside).2 = some req := by
  by_cases permitted : ∃ d, e.firewall.Permits (e.met cfg call.1) call.2 d
  · obtain ⟨d, p⟩ := permitted
    exact ⟨d, p, (step_of_permits p).1.symm.trans asked⟩
  · rw [(step_of_not_permits fun d p => permitted ⟨d, p⟩).1] at asked
    cases asked

/-! ## What reaches a target -/

/-- The circuits move by the ends of the call's requests. -/
lemma step_circuit (cfg : AdapterConfig) (e : Enforcer) (call : EnforcerEnv × EnforceRequest) :
    (e.step cfg call).adapter.circuit = (e.endings cfg call).foldl Ending.note e.adapter.circuit := by
  unfold endings
  by_cases permitted : ∃ d, e.firewall.Permits (e.met cfg call.1) call.2 d
  · obtain ⟨d, p⟩ := permitted
    obtain ⟨asked, adapter⟩ := step_of_permits p
    have out := forwardRequest_forward cfg e.adapter call.2.call.args call.1.outside
    rw [asked, adapter]
    generalize forwardRequest cfg e.adapter call.2.call.args call.1.outside = fwd at out ⊢
    obtain ⟨⟨res, a'⟩, sent⟩ := fwd
    dsimp only at out ⊢
    cases out with
    | refused => rfl
    | kept r a' _ _ circuit => exact circuit
    | asked pinned req r a' _ _ _ _ _ circuit => exact circuit
  · obtain ⟨asked, adapter⟩ := step_of_not_permits fun d p => permitted ⟨d, p⟩
    rw [asked, adapter]
    rfl

/-- An enforcer with an adapter as it is made. -/
def start (f : Firewall) (s : Stores) (threshold : Int) (reset : ℚ) : Enforcer :=
  ⟨f, s, { circuitThreshold := threshold, circuitReset := reset }⟩

/-- The rules stay the firewall's own. -/
lemma step_policyEngine (cfg : AdapterConfig) (e : Enforcer) (call : EnforcerEnv × EnforceRequest) :
    (e.step cfg call).firewall.policyEngine = e.firewall.policyEngine := by
  obtain ⟨audit, eq⟩ := Firewall.enforce_firewall e.firewall e.stores (e.met cfg call.1) call.2
  rw [show (e.step cfg call).firewall = _ from eq]

/-- The circuits are what the requests of the run came to. -/
theorem circuit_run (cfg : AdapterConfig) (f : Firewall) (s : Stores) (threshold : Int) (reset : ℚ)
    (calls : List (EnforcerEnv × EnforceRequest)) (key : String) (now : ℚ) :
    ((run (step cfg) (start f s threshold reset) calls).adapter.circuit key).canProceed now = true ↔
      ¬ Tripped threshold reset key (trace (step cfg) (endings cfg) (start f s threshold reset) calls) now := by
  have fold := run_foldl_trace (fun e : Enforcer => e.adapter.circuit) (step_circuit cfg)
    (start f s threshold reset) calls
  have fresh : (start f s threshold reset).adapter.circuit =
      fun _ => { failureThreshold := threshold, resetTimeout := reset } := rfl
  rw [fold, fresh, foldl_note, CircuitState.canProceed_iff]
  rfl

/-- The request of a call reaches a target: it is permitted, the target passed the validation, and by how the requests
before it ended neither the target's circuit nor the shared one is open. -/
structure Passes (cfg : AdapterConfig) (threshold : Int) (reset : ℚ) (before : List Ending) (e : Enforcer)
    (call : EnforcerEnv × EnforceRequest) : Prop where
  permitted : ∃ d, e.firewall.Permits (e.met cfg call.1) call.2 d
  valid : ∃ pinned, validateTargetUrl cfg.allowlist call.2.targetUrl call.1.outside.getaddrinfo = .ok pinned
  circuits : ∃ host, getHost call.2.targetUrl = .ok host ∧
    ¬ Tripped threshold reset host before (call.1.outside.clock 0) ∧
    ¬ Tripped threshold reset "default" before (call.1.outside.clock 1)

/-- What is asked of the client for a call is the call's own content, sent to an address of its target that passed the
validation. -/
structure Carries (cfg : AdapterConfig) (call : EnforcerEnv × EnforceRequest) (req : ClientRequest) : Prop where
  method : req.method = call.2.targetMethod
  content : req.content = call.2.content
  sent : ∃ parsed host port ip, Sent cfg call.2.call.args call.1.outside req parsed host port ip

/-- Over every run of a firewall over a new adapter: a call reaches its target exactly where validation, limiter and
policy permit it, the target passes the checks, and neither the target nor what is called `default` has failed so often
in a row, the last time so recently. The policy is the firewall's own all along, and what is sent is what it permitted. -/
theorem enforced_requests (cfg : AdapterConfig) (f : Firewall) (s : Stores) (threshold : Int) (reset : ℚ)
    (calls : List (EnforcerEnv × EnforceRequest)) (call : EnforcerEnv × EnforceRequest) :
    let e := run (step cfg) (start f s threshold reset) calls
    let before := trace (step cfg) (endings cfg) (start f s threshold reset) calls
    e.firewall.policyEngine = f.policyEngine ∧
      ((∃ req, e.asked cfg call = some req) ↔ Passes cfg threshold reset before e call) ∧
      ∀ req, e.asked cfg call = some req → Carries cfg call req := by
  intro e before
  have circuits : ∀ host now, (e.adapter.circuit host).canProceed now = true ↔
      ¬ Tripped threshold reset host before now := circuit_run cfg f s threshold reset calls
  refine ⟨?_, ⟨?_, ?_⟩, ?_⟩
  · exact run_invariant (step cfg) (I := fun e : Enforcer => e.firewall.policyEngine = f.policyEngine) rfl
      (fun e call same => (step_policyEngine cfg e call).trans same) calls
  · rintro ⟨req, asked⟩
    obtain ⟨d, p, sent⟩ := permits_of_asked asked
    obtain ⟨valid, ⟨host, named, own, shared⟩, -, -⟩ := forwardRequest_sent sent
    exact ⟨⟨d, p⟩, valid, host, named, (circuits _ _).1 own, (circuits _ _).1 shared⟩
  · rintro ⟨⟨d, p⟩, ⟨pinned, valid⟩, host, named, own, shared⟩
    rw [(step_of_permits p).1]
    exact forwardRequest_sends valid ⟨host, named, (circuits _ _).2 own, (circuits _ _).2 shared⟩
  · intro req asked
    obtain ⟨d, p, sent⟩ := permits_of_asked asked
    obtain ⟨-, -, method, content⟩ := forwardRequest_sent sent
    exact ⟨method, content, sent_spec sent⟩

/-! ## What is recorded of it -/

/-- The digest of what a record says was forwarded. -/
def forwardedHash (r : AuditRecord) : Option String :=
  if r.action = "forwarded" then some r.contentHash else none

/-- The hash of a record that says that something was forwarded. -/
def forwardedRecord (r : AuditRecord) : Option String :=
  if r.action = "forwarded" then some r.recordHash else none

/-- A call is answered where the adapter says so. -/
lemma answered_of_permits {d : PolicyResult} (p : e.firewall.Permits (e.met cfg call.1) call.2 d) :
    e.answered cfg call =
      match (e.met cfg call.1).forward call.2.call with
      | .ok exec => if exec.forwarded then some (sha256 call.2.content) else none
      | .error _ => none := by
  show ((e.asked cfg call).filter _).map _ =
    match (forwardRequest cfg e.adapter call.2.call.args call.1.outside).1.1 with
    | .ok exec => if exec.forwarded then some (sha256 call.2.content) else none
    | .error _ => none
  rw [(step_of_permits p).1]
  have out := forwardRequest_forward cfg e.adapter call.2.call.args call.1.outside
  generalize forwardRequest cfg e.adapter call.2.call.args call.1.outside = fwd at out ⊢
  obtain ⟨⟨res, a'⟩, asked⟩ := fwd
  dsimp only at out ⊢
  cases out with
  | refused _ _ unforwarded =>
    cases res with
    | error e => rfl
    | ok r => simp [unforwarded r rfl]
  | kept r _ _ unforwarded => simp [unforwarded]
  | asked pinned req r a' _ _ _ content told =>
    have content : req.content = call.2.content := content
    cases answers : (call.1.outside.request req).answers with
    | true => simp [told, answers, content, Option.filter]
    | false => simp [told, answers, Option.filter]

omit [Platform] [NetLib] [Regex] in
/-- The record of an execution says forwarded where it was. -/
lemma audited_action (exec : ExecutionResult) (targetUrl : String) :
    (exec.audited targetUrl).1 = "forwarded" ↔ exec.forwarded = true := by
  unfold ExecutionResult.audited
  cases exec.forwarded with
  | true => simp
  | false => cases exec.circuitOpen <;> simp

/-- What a call adds to the log as forwarded is what its caller is told of, and the content that was answered where it
can be recorded. -/
lemma step_accounts (cfg : AdapterConfig) (e : Enforcer) (call : EnforcerEnv × EnforceRequest) :
    ∃ new, (e.step cfg call).firewall.audit.records = e.firewall.audit.records ++ new ∧
      new.filterMap forwardedRecord = (e.told cfg call).toList ∧
      (new.filterMap forwardedHash).Sublist (e.answered cfg call).toList ∧
      (new.filterMap forwardedHash = (e.answered cfg call).toList ↔
        ((e.answered cfg call).isSome → e.CanRecord call.1)) := by
  have out : Firewall.Enforcing _ _ _ _ (e.enforce cfg call) :=
    Firewall.enforce_enforcing e.firewall e.stores (e.met cfg call.1) call.2
  unfold step told
  dsimp only
  cases out with
  | stopped new no _ grown other unforwarded =>
    have idle : e.answered cfg call = none := by
      rw [answered, (step_of_not_permits no).1]
      rfl
    have unread : new.filterMap forwardedRecord = [] ∧ new.filterMap forwardedHash = [] := by
      constructor <;> rw [List.filterMap_eq_nil_iff] <;> exact fun r mem => if_neg (other r mem)
    refine ⟨new, grown, ?_, ?_, ?_⟩
    · rw [unread.1]
      cases result : (e.enforce cfg call).result with
      | error exc => rfl
      | ok res => simp [unforwarded res result]
    · rw [unread.2]
      exact List.nil_sublist _
    · rw [unread.2, idle]
      simp
  | raised d exc p _ fwd res audit =>
    have idle : e.answered cfg call = none := by rw [answered_of_permits p, fwd]
    refine ⟨[], by rw [audit, List.append_nil], by rw [res]; rfl, List.nil_sublist _, ?_⟩
    rw [idle]
    simp
  | unrecorded d exec exc p _ fwd refused res audit =>
    refine ⟨[], by rw [audit, List.append_nil], by rw [res]; rfl, List.nil_sublist _, ?_⟩
    cases e.answered cfg call with
    | none => simp
    | some hash => exact iff_of_false (by simp) fun can => refused (can rfl)
  | recorded d exec r res p _ fwd unbound takes grown action hash result told named =>
    have sent : e.answered cfg call = if exec.forwarded then some (sha256 call.2.content) else none := by
      rw [answered_of_permits p, fwd]
    have read := audited_action exec call.2.targetUrl
    rw [← action] at read
    refine ⟨[r], grown, ?_, ?_⟩
    · rw [result]
      dsimp only
      rw [told, named]
      unfold forwardedRecord
      cases forwarded : exec.forwarded <;> simp [read, forwarded]
    · have same : [r].filterMap forwardedHash = (e.answered cfg call).toList := by
        rw [sent]
        unfold forwardedHash
        cases forwarded : exec.forwarded <;> simp [read, forwarded, hash]
      rw [same]
      exact ⟨List.Sublist.refl _, iff_of_true rfl fun _ => ⟨unbound, takes⟩⟩

/-- Over every run: the records that say forwarded are those the callers are told of, in their order; what they say was
forwarded was answered, in this order; and all that was answered is so recorded exactly where each request that was
answered found the log able to take its record. -/
theorem forwards_accounted (cfg : AdapterConfig) (e : Enforcer) (calls : List (EnforcerEnv × EnforceRequest)) :
    ∃ new, (run (step cfg) e calls).firewall.audit.records = e.firewall.audit.records ++ new ∧
      new.filterMap forwardedRecord = outputs (step cfg) (told cfg) e calls ∧
      (new.filterMap forwardedHash).Sublist (outputs (step cfg) (answered cfg) e calls) ∧
      (new.filterMap forwardedHash = outputs (step cfg) (answered cfg) e calls ↔
        Steps (step cfg) (fun e call => (e.answered cfg call).isSome → e.CanRecord call.1) e calls) := by
  have accounts := step_accounts cfg
  have answers : ∀ e call, ∃ new, (step cfg e call).firewall.audit.records = e.firewall.audit.records ++ new ∧
      (new.filterMap forwardedHash).Sublist (answered cfg e call).toList ∧
      (new.filterMap forwardedHash = (answered cfg e call).toList ↔
        ((answered cfg e call).isSome → e.CanRecord call.1)) := by
    intro e call
    obtain ⟨new, grown, -, rest⟩ := accounts e call
    exact ⟨new, grown, rest⟩
  have tells : ∀ e call, ∃ new, (step cfg e call).firewall.audit.records = e.firewall.audit.records ++ new ∧
      (new.filterMap forwardedRecord).Sublist (told cfg e call).toList ∧
      (new.filterMap forwardedRecord = (told cfg e call).toList ↔ True) := by
    intro e call
    obtain ⟨new, grown, same, -⟩ := accounts e call
    exact ⟨new, grown, by rw [same], iff_true_intro same⟩
  obtain ⟨new, grown, put, all⟩ := outputs_accounted (fun e : Enforcer => e.firewall.audit.records) answers e calls
  obtain ⟨new', grown', -, same⟩ := outputs_accounted (fun e : Enforcer => e.firewall.audit.records) tells e calls
  have one : new' = new := List.append_cancel_left (grown'.symm.trans grown)
  rw [one] at same
  exact ⟨new, grown, same.2 (steps_of_forall fun _ _ => trivial), put, all⟩

/-! ## How much reaches the targets -/

/-- The look at the limiter a call takes. -/
def look (call : EnforcerEnv × EnforceRequest) : RateLimiter.Call :=
  ⟨call.1.limiterNow, orElse call.2.rateKey call.2.clientId, call.2.tokenCount⟩

/-- The call is under the key, and the limiter admits it. -/
def admission (key : String) (e : Enforcer) (call : EnforcerEnv × EnforceRequest) : Option RateLimiter.Call :=
  if InputValidator.validateRequest call.2.clientId call.2.content call.2.tokenCount = none ∧
      (look call).clientId = key ∧ e.firewall.limiter.accepts (look call) = true then some (look call)
  else none

/-- The call is under the key, and reaches its target. -/
def askedUnder (cfg : AdapterConfig) (key : String) (e : Enforcer) (call : EnforcerEnv × EnforceRequest) :
    Option RateLimiter.Call :=
  if (look call).clientId = key then (e.asked cfg call).map fun _ => look call else none

/-- What is asked under a key was admitted. -/
lemma askedUnder_sublist (cfg : AdapterConfig) (key : String) (e : Enforcer) (call : EnforcerEnv × EnforceRequest) :
    (askedUnder cfg key e call).toList.Sublist (admission key e call).toList := by
  unfold askedUnder admission
  by_cases own : (look call).clientId = key
  · rw [if_pos own]
    cases asked : e.asked cfg call with
    | none => exact List.nil_sublist _
    | some req =>
      obtain ⟨d, p, -⟩ := permits_of_asked asked
      rw [if_pos ⟨p.valid, own, p.limit⟩]
      exact List.Sublist.refl _
  · rw [if_neg own]
    exact List.nil_sublist _

/-- The limiter takes one look at each valid call. -/
lemma step_limiter (cfg : AdapterConfig) (e : Enforcer) (call : EnforcerEnv × EnforceRequest) :
    (e.step cfg call).firewall.limiter =
      if InputValidator.validateRequest call.2.clientId call.2.content call.2.tokenCount = none then
        e.firewall.limiter.after (look call)
      else e.firewall.limiter := by
  obtain ⟨audit, eq⟩ := Firewall.enforce_firewall e.firewall e.stores (e.met cfg call.1) call.2
  rw [show (e.step cfg call).firewall = _ from eq]
  rfl

/-- The limiter accounts for what a call adds to the admitted ones of a key. -/
lemma step_quota (cfg : AdapterConfig) {key : String} {quota : QuotaConfig} {st : QuotaState} {now : ℚ} {taken : List RateLimiter.Call}
    (reg : e.firewall.limiter.quotas key = some ⟨quota, st⟩) (accounts : st.Accounts quota now taken)
    (clock : (look call).clientId = key → now ≤ call.1.limiterNow) :
    ∃ st' now', (e.step cfg call).firewall.limiter.quotas key = some ⟨quota, st'⟩ ∧
      (now' = now ∨ (look call).clientId = key ∧ now' = call.1.limiterNow) ∧
      st'.Accounts quota now' (taken ++ (admission key e call).toList) := by
  rw [step_limiter]
  by_cases valid : InputValidator.validateRequest call.2.clientId call.2.content call.2.tokenCount = none
  · rw [if_pos valid]
    by_cases own : (look call).clientId = key
    · have cost : 0 ≤ (look call).tokens := zero_le_one.trans (InputValidator.tokens_of_valid valid)
      obtain ⟨st', reg', accounts'⟩ := RateLimiter.accounts_after reg accounts (clock own) cost
      refine ⟨st', _, reg', .inr ⟨own, rfl⟩, ?_⟩
      by_cases yes : e.firewall.limiter.accepts (look call) = true
      · rw [if_pos ⟨own, yes⟩] at accounts'
        rw [admission, if_pos ⟨valid, own, yes⟩]
        exact accounts'
      · rw [if_neg fun h => yes h.2] at accounts'
        rw [admission, if_neg fun h => yes h.2.2]
        exact accounts'
    · rw [admission, if_neg fun h => own h.2.1]
      exact ⟨st, now, (RateLimiter.after_other own).trans reg, .inl rfl, by simpa using accounts⟩
  · rw [if_neg valid, admission, if_neg fun h => valid h.1]
    exact ⟨st, now, reg, .inl rfl, by simpa using accounts⟩

/-- The readings of the clock of the calls under a key. -/
def readings (key : String) (calls : List (EnforcerEnv × EnforceRequest)) : List ℚ :=
  (calls.filter fun call => (look call).clientId = key).map (·.1.limiterNow)

/-- What is admitted in a run is within twice the quota. -/
lemma run_quota (cfg : AdapterConfig) {key : String} {quota : QuotaConfig} {st : QuotaState} {now : ℚ} {taken : List RateLimiter.Call}
    (reg : e.firewall.limiter.quotas key = some ⟨quota, st⟩) (accounts : st.Accounts quota now taken)
    {calls : List (EnforcerEnv × EnforceRequest)} (clock : (now :: readings key calls).Pairwise (· ≤ ·)) :
    ∃ st' now', (run (step cfg) e calls).firewall.limiter.quotas key = some ⟨quota, st'⟩ ∧
      st'.Accounts quota now' (taken ++ outputs (step cfg) (admission key) e calls) := by
  induction calls generalizing e st now taken with
  | nil => exact ⟨st, now, reg, by simpa [outputs] using accounts⟩
  | cons call calls ih =>
    have first : (look call).clientId = key → now ≤ call.1.limiterNow := by
      intro own
      refine List.rel_of_pairwise_cons clock ?_
      simp [readings, own]
    obtain ⟨st', now', reg', last, accounts'⟩ := step_quota cfg reg accounts first
    have rest : (now' :: readings key calls).Pairwise (· ≤ ·) := by
      unfold readings at clock ⊢
      by_cases own : (look call).clientId = key
      · rw [List.filter_cons_of_pos (by simpa using own), List.map_cons] at clock
        obtain rfl | ⟨-, rfl⟩ := last
        · exact clock.sublist (.cons_cons _ (List.sublist_cons_self ..))
        · exact clock.of_cons
      · rw [List.filter_cons_of_neg (by simpa using own)] at clock
        obtain rfl | ⟨same, -⟩ := last
        · exact clock
        · exact absurd same own
    obtain ⟨st'', now'', reg'', accounts''⟩ := ih reg' accounts' rest
    rw [List.append_assoc] at accounts''
    exact ⟨st'', now'', reg'', accounts''⟩

/-- No call costs less than nothing. -/
lemma admission_costs {key : String} {calls : List (EnforcerEnv × EnforceRequest)} :
    ∀ c ∈ outputs (step cfg) (admission key) e calls, 0 ≤ c.tokens := by
  refine forall_mem_outputs (fun e call c mem => ?_) e calls
  unfold admission at mem
  split at mem
  · rename_i admitted
    cases mem
    exact zero_le_one.trans (InputValidator.tokens_of_valid admitted.1)
  · cases mem

/-- Over every run in which the clock does not go back for a key: what reaches the targets under it in a stretch of time
shorter than a window is within twice the quota it was registered with. -/
theorem asked_within_quota (cfg : AdapterConfig) (e : Enforcer) (key : String) (quota : QuotaConfig) (l : RateLimiter)
    (t : ℚ) (registered : e.firewall.limiter = l.register key quota t) (calls : List (EnforcerEnv × EnforceRequest))
    (clock : (t :: readings key calls).Pairwise (· ≤ ·)) :
    WithinQuota quota (outputs (step cfg) (askedUnder cfg key) e calls) := by
  have reg : e.firewall.limiter.quotas key = some ⟨quota, { minuteWindowStart := t, hourWindowStart := t }⟩ := by
    rw [registered]
    exact Function.update_self ..
  obtain ⟨st, now, -, accounts⟩ := run_quota cfg reg (.register quota t) clock
  rw [List.nil_append] at accounts
  exact accounts.within.sublist (outputs_mono (askedUnder_sublist cfg key) e calls) admission_costs

end Enforcer

section Sample

open Enforcer

local instance enforcerPlatform : Platform := .reference firewallDigests

local instance enforcerNet : NetLib := asciiNet

/-- A text none of the patterns matches. -/
local instance enforcerRegex : Regex where
  invalid _ := none
  finditer _ _ := []

/-- A firewall that lets one request a minute through. -/
def thriftyEnforcer : Enforcer :=
  let firewall := { sampleFirewall with limiter := ({} : RateLimiter).register "agent" ⟨1, 10, 10⟩ 0 }
  start firewall { audit := .empty } 5 30

/-- A call whose target answers. -/
def reachingCall (now : ℚ) : EnforcerEnv × EnforceRequest :=
  ({ now, environ := fun _ => none, limiterNow := now, traceId := sampleTraceId
     server := .ofResults fun _ => .error (.RuntimeError "no server"), outside := reachable },
    { clientId := "agent", content := "hello", targetUrl := "https://api.bank.example/v1" })

/-- Calls within a minute, at one request a minute. -/
theorem asked_within_quota_sample :
    WithinQuota ⟨1, 10, 10⟩
      (outputs (step {}) (askedUnder {} "agent") thriftyEnforcer [reachingCall 1, reachingCall 2]) :=
  asked_within_quota {} thriftyEnforcer "agent" ⟨1, 10, 10⟩ {} 0 rfl [reachingCall 1, reachingCall 2]
    (by decide +kernel)

end Sample

end Custos
