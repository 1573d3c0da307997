import Custos.Platform
import Mathlib.Data.Rat.Floor
import Mathlib.Logic.Function.Basic

/-!
# Admission

What a request passes before a policy is consulted: `InputValidator` of `custos/validation.py` and
`RateLimiter` of `custos/rate_limiter.py`. A limiter's two dicts have the same keys, so they are one here
(`Quota`), and its clock is an input of each call.
-/

namespace Custos

/-! ## Input validation -/

def MAX_CONTENT_BYTES : Nat := 32768
def MAX_CLIENT_ID_LEN : Nat := 128

/-- `ValidationResult`: none where the input is valid, else the error. -/
abbrev ValidationResult := Option String

namespace InputValidator

/-- `validate_content`. -/
def validateContent (content : String) : ValidationResult :=
  if content = "" ∨ strip content = "" then some "content must not be empty or blank"
  else if MAX_CONTENT_BYTES < content.utf8ByteSize then
    some ("content exceeds maximum size of " ++ toString MAX_CONTENT_BYTES ++ " bytes " ++
      "(received " ++ toString content.utf8ByteSize ++ " bytes)")
  else none

/-- `validate_client_id`. -/
def validateClientId (clientId : String) : ValidationResult :=
  if clientId = "" ∨ strip clientId = "" then some "client_id must not be empty or blank"
  else if MAX_CLIENT_ID_LEN < clientId.length then
    some ("client_id exceeds maximum length of " ++ toString MAX_CLIENT_ID_LEN ++ " characters")
  else if clientId ≠ strip clientId then
    some "client_id must not have leading or trailing whitespace"
  else none

/-- `validate_token_count`. -/
def validateTokenCount (tokenCount : Int) : ValidationResult :=
  if tokenCount < 1 then some "token_count must be at least 1"
  else if tokenCount > 100000 then some "token_count must not exceed 100,000 per request"
  else none

/-- `validate_request`: the first failure. -/
def validateRequest (clientId content : String) (tokenCount : Int) : ValidationResult :=
  (validateClientId clientId).or ((validateContent content).or (validateTokenCount tokenCount))

/-- A valid request costs at least one token. -/
lemma tokens_of_valid {clientId content : String} {tokenCount : Int}
    (valid : validateRequest clientId content tokenCount = none) : 1 ≤ tokenCount := by
  unfold validateRequest validateTokenCount at valid
  by_contra low
  simp [not_le.1 low] at valid

end InputValidator

/-! ## The rate limiter -/

structure QuotaConfig where
  requestsPerMinute : Int
  requestsPerHour : Int
  tokensPerMinute : Int := 100000
  deriving DecidableEq

structure QuotaState where
  minuteCount : Int := 0
  hourCount : Int := 0
  tokenCount : Int := 0
  minuteWindowStart : ℚ
  hourWindowStart : ℚ
  deriving DecidableEq

/-- What the limiter holds under a registered key: `_quotas[key]` and `_state[key]`. -/
structure Quota where
  config : QuotaConfig
  state : QuotaState
  deriving DecidableEq

structure RateLimiter where
  quotas : String → Option Quota := fun _ => none

/-- The counters once the windows that have elapsed are reset. -/
def QuotaState.reset (s : QuotaState) (now : ℚ) : QuotaState :=
  let s := if 60 ≤ now - s.minuteWindowStart then
      { s with minuteCount := 0, tokenCount := 0, minuteWindowStart := now } else s
  if 3600 ≤ now - s.hourWindowStart then { s with hourCount := 0, hourWindowStart := now } else s

/-- The quota a request would exceed. -/
def Quota.exceeded (q : Quota) (tokens : Int) : Option String :=
  if q.state.minuteCount ≥ q.config.requestsPerMinute then some "Minute request quota exceeded"
  else if q.state.hourCount ≥ q.config.requestsPerHour then some "Hour request quota exceeded"
  else if q.state.tokenCount + tokens > q.config.tokensPerMinute then some "Token quota exceeded"
  else none

namespace RateLimiter

/-- `register`. The two readings of the clock a new state makes are one here. -/
def register (l : RateLimiter) (clientId : String) (config : QuotaConfig) (now : ℚ) : RateLimiter :=
  ⟨Function.update l.quotas clientId
    (some ⟨config, { minuteWindowStart := now, hourWindowStart := now }⟩)⟩

/-- `check_and_consume`. -/
def checkAndConsume (l : RateLimiter) (now : ℚ) (clientId : String) (tokens : Int) :
    (Bool × String) × RateLimiter :=
  match l.quotas clientId with
  | none => ((false, "Unknown client: " ++ clientId), l)
  | some q =>
    let q := { q with state := q.state.reset now }
    match q.exceeded tokens with
    | some msg => ((false, msg), ⟨Function.update l.quotas clientId (some q)⟩)
    | none =>
      let state := { q.state with
        minuteCount := q.state.minuteCount + 1
        hourCount := q.state.hourCount + 1
        tokenCount := q.state.tokenCount + tokens }
      ((true, "OK"), ⟨Function.update l.quotas clientId (some { q with state })⟩)

/-- `retry_after_seconds`. -/
def retryAfterSeconds (l : RateLimiter) (now : ℚ) (clientId : String) (tokens : Int) : Option Int :=
  match l.quotas clientId with
  | none => none
  | some ⟨config, state⟩ =>
    let minuteLeft := 60 - (now - state.minuteWindowStart)
    let hourLeft := 3600 - (now - state.hourWindowStart)
    let minuteCount := if minuteLeft ≤ 0 then 0 else state.minuteCount
    let tokenCount := if minuteLeft ≤ 0 then 0 else state.tokenCount
    let hourCount := if hourLeft ≤ 0 then 0 else state.hourCount
    if minuteCount ≥ config.requestsPerMinute then some (max 1 ⌈minuteLeft⌉)
    else if hourCount ≥ config.requestsPerHour then some (max 1 ⌈hourLeft⌉)
    else if tokenCount + tokens > config.tokensPerMinute then some (max 1 ⌈minuteLeft⌉)
    else none

/-- `get_quota`. -/
def getQuota (l : RateLimiter) (clientId : String) : Option QuotaConfig :=
  (l.quotas clientId).map (·.config)

/-- A refusal consumes nothing: the counters are those the elapsed windows leave. -/
lemma checkAndConsume_refused {l : RateLimiter} {now : ℚ} {key : String} {tokens : Int}
    (no : (l.checkAndConsume now key tokens).1.1 = false) :
    ∀ k, ((l.checkAndConsume now key tokens).2.quotas k) =
      if k = key then (l.quotas key).map fun q => { q with state := q.state.reset now }
      else l.quotas k := by
  intro k
  unfold checkAndConsume at no ⊢
  cases hq : l.quotas key with
  | none =>
    by_cases e : k = key
    · simp [e, hq]
    · simp [e]
  | some q =>
    simp only [hq] at no ⊢
    cases hx : Quota.exceeded { q with state := q.state.reset now } tokens with
    | none => simp [hx] at no
    | some msg => by_cases e : k = key <;> simp [e, Function.update]

/-- A call on one key leaves the others. -/
lemma checkAndConsume_other {l : RateLimiter} {now : ℚ} {key : String} {tokens : Int} {k : String}
    (ne : k ≠ key) : (l.checkAndConsume now key tokens).2.quotas k = l.quotas k := by
  unfold checkAndConsume
  cases l.quotas key with
  | none => rfl
  | some q =>
    dsimp only
    split <;> exact Function.update_of_ne ne _ _

end RateLimiter

end Custos
