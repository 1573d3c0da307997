import Custos.Library.Run
import Custos.Service.Firewall

/-!
# The execution layer

`custos/execution.py`: a request that was allowed is forwarded, unless its target is refused or a circuit is
open. There is a circuit for each target and one more, under the name `default`, that every request passes.
What the checks of the target and the target itself come to are inputs.

`circuit_isolated_iff` says which targets' requests leave the others alone: a target is told from the
shared circuit and from other targets by nothing but the name, in lower case.
-/

namespace Custos

/-- What `forward` takes from the standard library for the name of a target: `str.lower`, and the
`hostname` of `urlparse`, which raises or gives no empty name. -/
class UrlLib where
  lower : String → String
  hostname : String → Except Exn (Option {s : String // s ≠ ""})

export UrlLib (lower)

/-! ## The circuit breaker -/

inductive CircuitPhase where
  | closed
  | halfOpen
  | open
  deriving DecidableEq

structure CircuitState where
  failureCount : Nat := 0
  failureThreshold : Int := 5
  lastFailureTime : ℚ := 0
  resetTimeout : ℚ := 30
  deriving DecidableEq

namespace CircuitState

def state (c : CircuitState) (now : ℚ) : CircuitPhase :=
  if c.failureCount < c.failureThreshold then .closed
  else if now - c.lastFailureTime > c.resetTimeout then .halfOpen
  else .open

def recordSuccess (c : CircuitState) : CircuitState := { c with failureCount := 0 }

def recordFailure (c : CircuitState) (now : ℚ) : CircuitState :=
  { c with failureCount := c.failureCount + 1, lastFailureTime := now }

def canProceed (c : CircuitState) (now : ℚ) : Bool := c.state now ≠ .open

/-- A circuit is open from the failure that reaches its threshold on. -/
lemma canProceed_of_open {c : CircuitState} {now : ℚ} (failed : c.failureThreshold ≤ c.failureCount)
    (recent : now - c.lastFailureTime ≤ c.resetTimeout) : c.canProceed now = false := by
  unfold canProceed state
  rw [if_neg (not_lt.mpr failed), if_neg (not_lt.mpr recent)]
  rfl

end CircuitState

/-! ## The adapter -/

/-- How the request to the target ends. -/
inductive RequestEnd where
  | response (statusCode : Int) (text : String)
  | timeout
  | connectError
  | raised (typeName text : String)

/-- What a call of `forward` meets outside: the refusal of its target, if there is one, the target, and the
clock, at each reading. -/
structure ForwardEnv where
  ssrfError : Option String := none
  requestEnd : RequestEnd
  clock : Nat → ℚ

structure HTTPExecutionAdapter where
  circuitThreshold : Int := 5
  circuitReset : ℚ := 30
  circuits : String → Option CircuitState := fun _ => none

namespace HTTPExecutionAdapter

/-- A circuit as it is made. -/
def newCircuit (a : HTTPExecutionAdapter) : CircuitState :=
  { failureThreshold := a.circuitThreshold, resetTimeout := a.circuitReset }

def setCircuit (a : HTTPExecutionAdapter) (targetHost : String) (c : CircuitState) : HTTPExecutionAdapter :=
  { a with circuits := Function.update a.circuits targetHost (some c) }

/-- `get_circuit`. -/
def getCircuit (a : HTTPExecutionAdapter) (targetHost : String) : CircuitState × HTTPExecutionAdapter :=
  match a.circuits targetHost with
  | some c => (c, a)
  | none => (a.newCircuit, a.setCircuit targetHost a.newCircuit)

/-- `can_request`. -/
def canRequest (a : HTTPExecutionAdapter) (targetHost : String) (clock : Nat → ℚ) :
    Bool × HTTPExecutionAdapter :=
  let (c, a) := a.getCircuit targetHost
  let (d, a) := a.getCircuit "default"
  (c.canProceed (clock 0) && d.canProceed (clock 1), a)

/-- `record_failure`. -/
def recordFailure (a : HTTPExecutionAdapter) (targetHost : String) (now : ℚ) : HTTPExecutionAdapter :=
  let (c, a) := a.getCircuit targetHost
  a.setCircuit targetHost (c.recordFailure now)

/-- `record_success`: under the shared circuit's name, all circuits close. -/
def recordSuccess (a : HTTPExecutionAdapter) (targetHost : String) : HTTPExecutionAdapter :=
  if targetHost = "default" then { a with circuits := fun host => (a.circuits host).map (·.recordSuccess) }
  else
    let (c, a) := a.getCircuit targetHost
    a.setCircuit targetHost c.recordSuccess

/-- `_get_host`. -/
def getHost [UrlLib] (url : String) : Except Exn String :=
  (UrlLib.hostname url).map fun hostname => lower ((hostname.map (·.1)).getD url)

/-- `forward`. The clock is read twice by the breaker and once by a failure. -/
def forward [UrlLib] (a : HTTPExecutionAdapter) (url : String) (env : ForwardEnv) :
    Except Exn ExecutionResult × HTTPExecutionAdapter :=
  match getHost url with
  | .error e => (.error e, a)
  | .ok targetHost =>
    match env.ssrfError with
    | some e => (.ok { forwarded := false, error := some ("SSRF blocked: " ++ e) }, a)
    | none =>
      let (ok, a) := a.canRequest targetHost env.clock
      if ¬ ok then (.ok { forwarded := false, error := some "Circuit breaker open", circuitOpen := true }, a)
      else
        match env.requestEnd with
        | .response statusCode text =>
          (.ok { forwarded := true, statusCode := some statusCode
                 responseBody := if text = "" then none else some (slice text 500) },
            a.recordSuccess targetHost)
        | .timeout =>
          (.ok { forwarded := false, error := some "Downstream timeout" },
            a.recordFailure targetHost (env.clock 2))
        | .connectError =>
          (.ok { forwarded := false, error := some "Downstream connection refused" },
            a.recordFailure targetHost (env.clock 2))
        | .raised typeName text =>
          (.ok { forwarded := false, error := some ("Forwarding failed: " ++ typeName ++ ": " ++ text) },
            a.recordFailure targetHost (env.clock 2))

/-! ## What a request touches -/

/-- The circuit of a target, made or not. -/
def circuit (a : HTTPExecutionAdapter) (host : String) : CircuitState := (a.circuits host).getD a.newCircuit

/-- All is left but the circuit of one target. -/
structure Leaves (key : String) (a a' : HTTPExecutionAdapter) : Prop where
  threshold : a'.circuitThreshold = a.circuitThreshold
  reset : a'.circuitReset = a.circuitReset
  circuits : ∀ host, host ≠ key → a'.circuit host = a.circuit host

namespace Leaves

variable {key : String} {a a' a'' : HTTPExecutionAdapter}

lemma refl (key : String) (a : HTTPExecutionAdapter) : Leaves key a a := ⟨rfl, rfl, fun _ _ => rfl⟩

/-- Two steps that leave a circuit alone. -/
lemma trans (leaves : Leaves key a a') (leaves' : Leaves key a' a'') : Leaves key a a'' where
  threshold := leaves'.threshold.trans leaves.threshold
  reset := leaves'.reset.trans leaves.reset
  circuits host ne := (leaves'.circuits host ne).trans (leaves.circuits host ne)

/-- A circuit that is set leaves the others. -/
lemma setCircuit (a : HTTPExecutionAdapter) (key : String) (c : CircuitState) :
    Leaves key a (a.setCircuit key c) where
  threshold := rfl
  reset := rfl
  circuits host ne := by
    unfold circuit HTTPExecutionAdapter.setCircuit
    dsimp only
    rw [Function.update_of_ne ne]
    rfl

end Leaves

/-- Asking for a circuit changes none. -/
lemma getCircuit_circuit (a : HTTPExecutionAdapter) (key host : String) :
    (a.getCircuit key).1 = a.circuit key ∧ (a.getCircuit key).2.circuit host = a.circuit host := by
  unfold getCircuit
  cases known : a.circuits key with
  | some c => exact ⟨by rw [circuit, known]; rfl, rfl⟩
  | none =>
    have fresh : a.circuit key = a.newCircuit := by
      rw [circuit, known]
      rfl
    refine ⟨fresh.symm, ?_⟩
    by_cases e : host = key
    · rw [e, fresh]
      unfold circuit HTTPExecutionAdapter.setCircuit
      dsimp only
      rw [Function.update_self]
      rfl
    · exact (Leaves.setCircuit a key a.newCircuit).circuits host e

/-- A circuit that is made leaves all. -/
lemma getCircuit_leaves (a : HTTPExecutionAdapter) (key other : String) :
    Leaves other a (a.getCircuit key).2 where
  threshold := by
    unfold getCircuit
    cases a.circuits key <;> rfl
  reset := by
    unfold getCircuit
    cases a.circuits key <;> rfl
  circuits host _ := (a.getCircuit_circuit key host).2

/-- The breaker lets a request proceed by two circuits: the target's and the shared one. -/
lemma canRequest_eq (a : HTTPExecutionAdapter) (host : String) (clock : Nat → ℚ) :
    (a.canRequest host clock).1 =
      ((a.circuit host).canProceed (clock 0) && (a.circuit "default").canProceed (clock 1)) := by
  have first := a.getCircuit_circuit host "default"
  have second := (a.getCircuit host).2.getCircuit_circuit "default" "default"
  show ((a.getCircuit host).1.canProceed (clock 0) &&
    ((a.getCircuit host).2.getCircuit "default").1.canProceed (clock 1)) = _
  rw [first.1, second.1, first.2]

/-- The check of a circuit leaves all. -/
lemma canRequest_leaves (a : HTTPExecutionAdapter) (host other : String) (clock : Nat → ℚ) :
    Leaves other a (a.canRequest host clock).2 :=
  (a.getCircuit_leaves host other).trans ((a.getCircuit host).2.getCircuit_leaves "default" other)

lemma canRequest_circuit (a : HTTPExecutionAdapter) (host key : String) (clock : Nat → ℚ) :
    (a.canRequest host clock).2.circuit key = a.circuit key :=
  ((a.getCircuit host).2.getCircuit_circuit "default" key).2.trans (a.getCircuit_circuit host key).2

/-- A failure is entered in the circuit. -/
lemma recordFailure_circuit (a : HTTPExecutionAdapter) (key : String) (now : ℚ) :
    (a.recordFailure key now).circuit key = (a.circuit key).recordFailure now := by
  show ((a.getCircuit key).2.setCircuit key ((a.getCircuit key).1.recordFailure now)).circuit key = _
  rw [(a.getCircuit_circuit key key).1]
  unfold circuit setCircuit
  dsimp only
  rw [Function.update_self]
  rfl

lemma recordFailure_leaves (a : HTTPExecutionAdapter) (key : String) (now : ℚ) :
    Leaves key a (a.recordFailure key now) :=
  (a.getCircuit_leaves key key).trans (Leaves.setCircuit _ key _)

/-- A success leaves the other circuits, where its key is not the shared one. -/
lemma recordSuccess_leaves (a : HTTPExecutionAdapter) {key : String} (own : key ≠ "default") :
    Leaves key a (a.recordSuccess key) := by
  unfold recordSuccess
  rw [if_neg own]
  exact (a.getCircuit_leaves key key).trans (Leaves.setCircuit _ key _)

variable [UrlLib]

/-- A request leaves every circuit but its target's, unless its target bears the shared one's name. -/
lemma forward_leaves (a : HTTPExecutionAdapter) {url key : String} (host : getHost url = .ok key)
    (own : key ≠ "default") (env : ForwardEnv) : Leaves key a (a.forward url env).2 := by
  unfold forward
  rw [host]
  dsimp only
  have asked := a.canRequest_leaves key key env.clock
  generalize a.canRequest key env.clock = out at asked
  obtain ⟨ok, a'⟩ := out
  cases env.ssrfError with
  | some e => exact Leaves.refl key a
  | none =>
    dsimp only
    split
    · exact asked
    · cases env.requestEnd with
      | response statusCode text => exact asked.trans (a'.recordSuccess_leaves own)
      | timeout => exact asked.trans (a'.recordFailure_leaves key _)
      | connectError => exact asked.trans (a'.recordFailure_leaves key _)
      | raised typeName text => exact asked.trans (a'.recordFailure_leaves key _)

/-- A request, and how it ends. -/
def step (a : HTTPExecutionAdapter) (request : String × ForwardEnv) : HTTPExecutionAdapter :=
  (a.forward request.1 request.2).2

/-- No requests to the one target, whatever they come to, change whether a request to the other may
proceed. -/
def Isolated (A B : {s : String // s ≠ ""}) : Prop :=
  ∀ (a : HTTPExecutionAdapter) (requests : List (String × ForwardEnv)),
    (∀ r ∈ requests, UrlLib.hostname r.1 = .ok (some A)) → ∀ clock,
      ((run step a requests).canRequest (lower B.1) clock).1 = (a.canRequest (lower B.1) clock).1

/-- Requests to one target leave the circuits of the others. -/
lemma run_leaves {A : {s : String // s ≠ ""}} (own : lower A.1 ≠ "default") (a : HTTPExecutionAdapter)
    {requests : List (String × ForwardEnv)} (target : ∀ r ∈ requests, UrlLib.hostname r.1 = .ok (some A)) :
    Leaves (lower A.1) a (run step a requests) := by
  induction requests generalizing a with
  | nil => exact Leaves.refl _ a
  | cons r requests ih =>
    have host : getHost r.1 = .ok (lower A.1) := by
      rw [getHost, target r (.head _)]
      rfl
    exact (a.forward_leaves host own r.2).trans (ih _ fun r' mem => target r' (.tail _ mem))

/-- A request that fails at the start of the clock. -/
def failing (url : String) : String × ForwardEnv := (url, { requestEnd := .timeout, clock := fun _ => 0 })

/-- A breaker that opens at the first failure. -/
def touchy : HTTPExecutionAdapter := { circuitThreshold := 1 }

omit [UrlLib] in
/-- A closed circuit lets the request through. -/
lemma canRequest_touchy (host : String) (clock : Nat → ℚ) : (touchy.canRequest host clock).1 = true := by
  rw [canRequest_eq]
  rfl

/-- The request that fails opens the circuit of its target. -/
lemma circuit_failing {A : {s : String // s ≠ ""}} {url : String} (target : UrlLib.hostname url = .ok (some A)) :
    (step touchy (failing url)).circuit (lower A.1) = { failureCount := 1, failureThreshold := 1 } := by
  have host : getHost url = .ok (lower A.1) := by
    rw [getHost, target]
    rfl
  have asked := touchy.canRequest_circuit (lower A.1) (lower A.1) (failing url).2.clock
  have ok := canRequest_touchy (lower A.1) (failing url).2.clock
  have taken : step touchy (failing url) =
      (touchy.canRequest (lower A.1) (failing url).2.clock).2.recordFailure (lower A.1) 0 := by
    unfold step forward failing
    rw [host]
    dsimp only
    change (touchy.canRequest (lower A.1) fun _ => 0).1 = true at ok
    rw [if_neg (by rw [ok]; decide)]
  rw [taken, recordFailure_circuit, asked]
  rfl

/-- A failed request to a target with the name of the shared circuit, or of the other target, keeps the other's
requests from proceeding. -/
lemma not_isolated {A B : {s : String // s ≠ ""}} {url : String} (target : UrlLib.hostname url = .ok (some A))
    (shared : lower A.1 = "default" ∨ lower A.1 = lower B.1) : ¬ Isolated A B := by
  intro isolated
  have same := isolated touchy [failing url] (by simpa [failing] using target) (fun _ => 0)
  rw [canRequest_touchy, canRequest_eq] at same
  have failed := circuit_failing target
  have opened : CircuitState.canProceed { failureCount := 1, failureThreshold := 1 } 0 = false :=
    CircuitState.canProceed_of_open le_rfl (by norm_num)
  obtain e | e := shared
  · rw [e] at failed
    rw [run_cons, run_nil, failed, opened, Bool.and_false] at same
    exact Bool.noConfusion same
  · rw [← e, run_cons, run_nil, failed, opened, Bool.false_and] at same
    exact Bool.noConfusion same

/-- The circuits keep the requests to one target from those to another exactly where the one's name, in lower
case, is neither the shared circuit's nor the other's. -/
theorem circuit_isolated_iff (A B : {s : String // s ≠ ""}) (carried : ∃ url, UrlLib.hostname url = .ok (some A)) :
    Isolated A B ↔ lower A.1 ≠ "default" ∧ lower A.1 ≠ lower B.1 := by
  constructor
  · intro isolated
    obtain ⟨url, target⟩ := carried
    exact ⟨fun e => not_isolated target (.inl e) isolated, fun e => not_isolated target (.inr e) isolated⟩
  · rintro ⟨own, ne⟩ a requests target clock
    have leaves := run_leaves own a target
    rw [canRequest_eq, canRequest_eq, leaves.circuits _ ne.symm, leaves.circuits _ own.symm]

end HTTPExecutionAdapter

/-! ## The name of the shared circuit -/

open HTTPExecutionAdapter

/-- The names of two targets as `urlparse` reads them, and `str.lower` on ASCII. -/
@[reducible] def twoTargets : UrlLib where
  lower s := String.ofList (s.toList.map Char.toLower)
  hostname url :=
    if url = "https://default/v1/charge" then .ok (some ⟨"default", by decide⟩)
    else if url = "https://api.bank.example/v1/charge" then .ok (some ⟨"api.bank.example", by decide⟩)
    else .ok none

def defaultHost : {s : String // s ≠ ""} := ⟨"default", by decide⟩

def bankHost : {s : String // s ≠ ""} := ⟨"api.bank.example", by decide⟩

/-- Requests to a bank leave those to a host named `default` alone. -/
theorem circuit_isolated_iff_sample : @Isolated twoTargets bankHost defaultHost :=
  (@circuit_isolated_iff twoTargets bankHost defaultHost ⟨"https://api.bank.example/v1/charge", by decide⟩).2
    (by decide)

/-- Five requests to a host named `default` time out, and no request to the bank proceeds. -/
theorem default_host_blocks : bankHost ≠ defaultHost ∧ ¬ @Isolated twoTargets defaultHost bankHost := by
  let _ := twoTargets
  refine ⟨by decide, fun isolated => ?_⟩
  have same := isolated {} (List.replicate 5 (failing "https://default/v1/charge")) (by decide) (fun _ => 0)
  have failed : (run step {} (List.replicate 5 (failing "https://default/v1/charge"))).circuit "default" =
      { failureCount := 5 } := by decide
  have opened : CircuitState.canProceed { failureCount := 5 } 0 = false :=
    CircuitState.canProceed_of_open le_rfl (by norm_num)
  rw [canRequest_eq, failed, opened, Bool.and_false] at same
  exact Bool.noConfusion same

end Custos
