import Custos.Library.Run
import Custos.Library.Window
import Custos.Service.Admission

/-!
# Quotas over runs

A key's state is three fixed windows, of which the minute's requests and tokens start together. Each call
looks at all three and spends in all three or in none, so that over any run each tracks what was accepted.

A registered quota is any integer. Below zero it is as good as zero to the limiter, which accepts nothing
under it, but no counter stays below zero.
-/

namespace Custos

namespace QuotaState

/-! ## The three windows -/

def minute (s : QuotaState) : Window ℚ Int := ⟨s.minuteWindowStart, s.minuteCount⟩

def minuteTokens (s : QuotaState) : Window ℚ Int := ⟨s.minuteWindowStart, s.tokenCount⟩

def hour (s : QuotaState) : Window ℚ Int := ⟨s.hourWindowStart, s.hourCount⟩

/-- A reset of the state is one of each window. -/
lemma minute_reset (s : QuotaState) (now : ℚ) : (s.reset now).minute = s.minute.reset 60 now := by
  unfold reset Window.reset minute
  dsimp only
  split <;> split <;> rfl

lemma minuteTokens_reset (s : QuotaState) (now : ℚ) :
    (s.reset now).minuteTokens = s.minuteTokens.reset 60 now := by
  unfold reset Window.reset minuteTokens
  dsimp only
  split <;> split <;> rfl

lemma hour_reset (s : QuotaState) (now : ℚ) : (s.reset now).hour = s.hour.reset 3600 now := by
  unfold reset Window.reset hour
  dsimp only
  split <;> split <;> rfl

/-- The counters once a call is accepted. -/
def consume (s : QuotaState) (tokens : Int) : QuotaState :=
  { s with
    minuteCount := s.minuteCount + 1
    hourCount := s.hourCount + 1
    tokenCount := s.tokenCount + tokens }

end QuotaState

/-- Nothing is exceeded where each count is below its limit. -/
lemma Quota.exceeded_eq_none {q : Quota} {tokens : Int} :
    q.exceeded tokens = none ↔ q.state.minuteCount < q.config.requestsPerMinute ∧
      q.state.hourCount < q.config.requestsPerHour ∧
        q.state.tokenCount + tokens ≤ q.config.tokensPerMinute := by
  unfold Quota.exceeded
  split_ifs with h1 h2 h3
  · simp [not_lt.2 h1]
  · simp [not_lt.2 h2]
  · simp [not_le.2 h3]
  · simp [not_le.1 h1, not_le.1 h2, not_lt.1 h3]

namespace RateLimiter

/-! ## Runs -/

/-- A call of `check_and_consume` and the clock it reads. -/
structure Call where
  now : ℚ
  clientId : String
  tokens : Int
  deriving DecidableEq

def accepts (l : RateLimiter) (c : Call) : Bool := (l.checkAndConsume c.now c.clientId c.tokens).1.1

def after (l : RateLimiter) (c : Call) : RateLimiter := (l.checkAndConsume c.now c.clientId c.tokens).2

/-- The calls on a key that a run accepts, in order. -/
def accepted (key : String) : RateLimiter → List Call → List Call
  | _, [] => []
  | l, c :: cs =>
    (if c.clientId = key ∧ l.accepts c = true then [c] else []) ++ accepted key (l.after c) cs

/-- What a call does to the key it is on. -/
lemma after_eq {l : RateLimiter} {c : Call} {q : Quota} (reg : l.quotas c.clientId = some q) :
    (l.accepts c = true ∧ Quota.exceeded { q with state := q.state.reset c.now } c.tokens = none ∧
        (l.after c).quotas c.clientId =
          some { q with state := (q.state.reset c.now).consume c.tokens }) ∨
      (l.accepts c = false ∧
        Quota.exceeded { q with state := q.state.reset c.now } c.tokens ≠ none ∧
        (l.after c).quotas c.clientId = some { q with state := q.state.reset c.now }) := by
  unfold accepts after checkAndConsume
  simp only [reg]
  cases hx : Quota.exceeded { q with state := q.state.reset c.now } c.tokens with
  | none => exact .inl ⟨rfl, rfl, by simp [QuotaState.consume]⟩
  | some msg => exact .inr ⟨rfl, by simp, by simp⟩

/-- A registered client is let through where its state, reset for the time, has room. -/
lemma accepts_iff {l : RateLimiter} {c : Call} {q : Quota} (reg : l.quotas c.clientId = some q) :
    l.accepts c = true ↔ Quota.exceeded { q with state := q.state.reset c.now } c.tokens = none := by
  rcases after_eq reg with ⟨yes, fits, -⟩ | ⟨no, past, -⟩
  · exact ⟨fun _ => fits, fun _ => yes⟩
  · exact ⟨fun yes => absurd (no ▸ yes) (by simp), fun fits => absurd fits past⟩

lemma after_other {l : RateLimiter} {c : Call} {key : String} (ne : c.clientId ≠ key) :
    (l.after c).quotas key = l.quotas key := checkAndConsume_other (Ne.symm ne)

end RateLimiter

/-- A key's state is what its windows are after these calls were accepted, the last look at them not after
`now`. -/
structure QuotaState.Accounts (config : QuotaConfig) (s : QuotaState) (now : ℚ)
    (taken : List RateLimiter.Call) : Prop where
  minute : s.minute.Tracks 60 (max 0 config.requestsPerMinute) (taken.map fun c => (c.now, 1))
  tokens : s.minuteTokens.Tracks 60 (max 0 config.tokensPerMinute) (taken.map fun c => (c.now, c.tokens))
  hour : s.hour.Tracks 3600 (max 0 config.requestsPerHour) (taken.map fun c => (c.now, 1))
  minuteSince : s.minuteWindowStart ≤ now
  hourSince : s.hourWindowStart ≤ now

namespace QuotaState

variable {config : QuotaConfig} {s : QuotaState} {now : ℚ} {taken : List RateLimiter.Call}

/-- A registered key has spent nothing. -/
lemma Accounts.register (config : QuotaConfig) (now : ℚ) :
    Accounts config { minuteWindowStart := now, hourWindowStart := now } now [] where
  minute := Window.Tracks.new (le_max_left ..) now
  tokens := Window.Tracks.new (le_max_left ..) now
  hour := Window.Tracks.new (le_max_left ..) now
  minuteSince := le_refl now
  hourSince := le_refl now

/-- The accounts of the windows are kept by a reset. -/
lemma Accounts.reset (h : Accounts config s now taken) {later : ℚ} (le : now ≤ later) :
    Accounts config (s.reset later) later taken where
  minute := by
    rw [minute_reset]
    exact h.minute.reset (by norm_num) later
  tokens := by
    rw [minuteTokens_reset]
    exact h.tokens.reset (by norm_num) later
  hour := by
    rw [hour_reset]
    exact h.hour.reset (by norm_num) later
  minuteSince := by
    have since : (s.minute.reset 60 later).start ≤ later := Window.reset_start_le (h.minuteSince.trans le)
    rwa [← minute_reset] at since
  hourSince := by
    have since : (s.hour.reset 3600 later).start ≤ later := Window.reset_start_le (h.hourSince.trans le)
    rwa [← hour_reset] at since

/-- An accepted call is spent in all three windows. -/
lemma Accounts.consume {c : RateLimiter.Call} (h : Accounts config s now taken) (le : now ≤ c.now)
    (cost : 0 ≤ c.tokens) (fits : Quota.exceeded ⟨config, s.reset c.now⟩ c.tokens = none) :
    Accounts config ((s.reset c.now).consume c.tokens) c.now (taken ++ [c]) := by
  have look := h.reset le
  obtain ⟨minute, hour, tokens⟩ := Quota.exceeded_eq_none.1 fits
  have minuteLive : ¬ 60 ≤ c.now - (s.reset c.now).minute.start := by
    rw [minute_reset]
    exact Window.live_reset (by norm_num)
  have hourLive : ¬ 3600 ≤ c.now - (s.reset c.now).hour.start := by
    rw [hour_reset]
    exact Window.live_reset (by norm_num)
  refine ⟨?_, ?_, ?_, look.minuteSince, look.hourSince⟩
  · rw [List.map_append]
    exact look.minute.add look.minuteSince minuteLive (by norm_num) (le_max_of_le_right minute)
  · rw [List.map_append]
    exact look.tokens.add look.minuteSince minuteLive cost (le_max_of_le_right tokens)
  · rw [List.map_append]
    exact look.hour.add look.hourSince hourLive (by norm_num) (le_max_of_le_right hour)

end QuotaState

namespace RateLimiter

/-- What a call adds to the calls accepted on a key. -/
lemma accounts_after {l : RateLimiter} {key : String} {config : QuotaConfig} {s : QuotaState} {now : ℚ}
    {taken : List Call} (reg : l.quotas key = some ⟨config, s⟩) (h : s.Accounts config now taken) {c : Call}
    (le : now ≤ c.now) (cost : 0 ≤ c.tokens) :
    ∃ s', (l.after c).quotas key = some ⟨config, s'⟩ ∧
      s'.Accounts config c.now (taken ++ if c.clientId = key ∧ l.accepts c = true then [c] else []) := by
  by_cases on : c.clientId = key
  · subst on
    rcases after_eq reg with ⟨yes, fits, eq⟩ | ⟨no, -, eq⟩
    · refine ⟨_, eq, ?_⟩
      rw [if_pos ⟨rfl, yes⟩]
      exact h.consume le cost fits
    · refine ⟨_, eq, ?_⟩
      rw [if_neg (by simp [no]), List.append_nil]
      exact h.reset le
  · refine ⟨s, (after_other on).trans reg, ?_⟩
    rw [if_neg fun h => on h.1, List.append_nil]
    exact ⟨h.minute, h.tokens, h.hour, h.minuteSince.trans le, h.hourSince.trans le⟩

/-- After a run whose clock does not go back, a key's windows track what the run accepted on it. -/
theorem accounts_run {l : RateLimiter} {key : String} {config : QuotaConfig} {s : QuotaState} {now : ℚ}
    {taken : List Call} (reg : l.quotas key = some ⟨config, s⟩) (h : s.Accounts config now taken)
    {calls : List Call} (clock : (now :: calls.map (·.now)).Pairwise (· ≤ ·))
    (costs : ∀ c ∈ calls, 0 ≤ c.tokens) :
    ∃ s' now', (run after l calls).quotas key = some ⟨config, s'⟩ ∧
      s'.Accounts config now' (taken ++ accepted key l calls) := by
  induction calls generalizing l s now taken with
  | nil => exact ⟨s, now, reg, by rwa [accepted, List.append_nil]⟩
  | cons c calls ih =>
    rw [List.map_cons, List.pairwise_cons] at clock
    obtain ⟨s', reg', h'⟩ := accounts_after reg h (clock.1 c.now (.head _)) (costs c (.head _))
    have rest := ih reg' h' clock.2 fun c hc => costs c (.tail _ hc)
    rwa [List.append_assoc] at rest

end RateLimiter

/-- The requests among these calls in a stretch of time, as spends of one each. -/
lemma spent_requests (taken : List RateLimiter.Call) (a b : ℚ) :
    (spent (taken.map fun c => (c.now, (1 : Int))) fun t => a ≤ t ∧ t ≤ b) =
      taken.countP fun c => a ≤ c.now ∧ c.now ≤ b := by
  induction taken with
  | nil => rfl
  | cons c taken ih =>
    rw [List.map_cons, spent_cons, ih, List.countP_cons]
    by_cases h : a ≤ c.now ∧ c.now ≤ b <;> simp [h, add_comm]

/-- The tokens spent in a stretch of time are those of the calls in it. -/
lemma spent_tokens (taken : List RateLimiter.Call) (a b : ℚ) :
    (spent (taken.map fun c => (c.now, c.tokens)) fun t => a ≤ t ∧ t ≤ b) =
      ((taken.filter fun c => a ≤ c.now ∧ c.now ≤ b).map (·.tokens)).sum := by
  simp [spent, List.filter_map, Function.comp_def]

/-- What was admitted in a stretch of time shorter than a window is within twice the quota. -/
structure WithinQuota (quota : QuotaConfig) (taken : List RateLimiter.Call) : Prop where
  minute : ∀ a b : ℚ, b - a < 60 →
    (taken.countP fun c => a ≤ c.now ∧ c.now ≤ b) ≤ 2 * max 0 quota.requestsPerMinute
  tokens : ∀ a b : ℚ, b - a < 60 →
    ((taken.filter fun c => a ≤ c.now ∧ c.now ≤ b).map (·.tokens)).sum ≤ 2 * max 0 quota.tokensPerMinute
  hour : ∀ a b : ℚ, b - a < 3600 →
    (taken.countP fun c => a ≤ c.now ∧ c.now ≤ b) ≤ 2 * max 0 quota.requestsPerHour

/-- Calls a state accounts for are within twice the quota. -/
lemma QuotaState.Accounts.within {quota : QuotaConfig} {s : QuotaState} {now : ℚ} {taken : List RateLimiter.Call}
    (accounts : s.Accounts quota now taken) : WithinQuota quota taken where
  minute a b short := by
    rw [← spent_requests]
    exact accounts.minute.within a b short
  tokens a b short := by
    rw [← spent_tokens]
    exact accounts.tokens.within a b short
  hour a b short := by
    rw [← spent_requests]
    exact accounts.hour.within a b short

/-- Within the quota is also any part of it. -/
lemma WithinQuota.sublist {quota : QuotaConfig} {part taken : List RateLimiter.Call} (within : WithinQuota quota taken)
    (sub : part.Sublist taken) (costs : ∀ c ∈ taken, 0 ≤ c.tokens) : WithinQuota quota part where
  minute a b short := le_trans (by exact_mod_cast sub.countP_le) (within.minute a b short)
  tokens a b short := by
    refine le_trans (List.Sublist.sum_le_sum ((sub.filter _).map _) fun cost mem => ?_) (within.tokens a b short)
    obtain ⟨c, held, rfl⟩ := List.mem_map.1 mem
    exact costs c (List.mem_of_mem_filter held)
  hour a b short := le_trans (by exact_mod_cast sub.countP_le) (within.hour a b short)

namespace RateLimiter

/-! ## The bounds -/

/-- Under any quota, over any run of calls on any keys: the counters stay within the quotas, what is accepted
in a stretch of time shorter than a window is within twice them, and a refused call only starts windows again
that have lapsed. A quota below zero is held to as zero. -/
theorem quotas_hold (l : RateLimiter) (key : String) (config : QuotaConfig) (t0 : ℚ) (calls : List Call)
    (clock : (t0 :: calls.map (·.now)).Pairwise (· ≤ ·)) (costs : ∀ c ∈ calls, 0 ≤ c.tokens) :
    let start := l.register key config t0
    (∃ s, (run after start calls).quotas key = some ⟨config, s⟩ ∧
      s.minuteCount ≤ max 0 config.requestsPerMinute ∧ s.hourCount ≤ max 0 config.requestsPerHour ∧
        s.tokenCount ≤ max 0 config.tokensPerMinute) ∧
    (∀ a b : ℚ, b - a < 60 →
      ((accepted key start calls).countP fun c => a ≤ c.now ∧ c.now ≤ b) ≤
          2 * max 0 config.requestsPerMinute ∧
        (((accepted key start calls).filter fun c => a ≤ c.now ∧ c.now ≤ b).map (·.tokens)).sum ≤
          2 * max 0 config.tokensPerMinute) ∧
    (∀ a b : ℚ, b - a < 3600 →
      ((accepted key start calls).countP fun c => a ≤ c.now ∧ c.now ≤ b) ≤
        2 * max 0 config.requestsPerHour) ∧
    ∀ c : Call, (run after start calls).accepts c = false →
      ∀ k, ((run after start calls).after c).quotas k =
        if k = c.clientId then
          ((run after start calls).quotas k).map fun q => { q with state := q.state.reset c.now }
        else (run after start calls).quotas k := by
  intro start
  have reg : start.quotas key = some ⟨config, { minuteWindowStart := t0, hourWindowStart := t0 }⟩ :=
    Function.update_self ..
  obtain ⟨s, now, eq, h⟩ := accounts_run reg (.register config t0) clock costs
  rw [List.nil_append] at h
  refine ⟨⟨s, eq, h.minute.le, h.hour.le, h.tokens.le⟩, fun a b short => ⟨?_, ?_⟩, fun a b short => ?_,
    fun c no k => ?_⟩
  · rw [← spent_requests]
    exact h.minute.within a b short
  · rw [← spent_tokens]
    exact h.tokens.within a b short
  · rw [← spent_requests]
    exact h.hour.within a b short
  · have := checkAndConsume_refused no k
    by_cases e : k = c.clientId
    · subst e
      simpa [after] using this
    · simpa [after, e] using this

/-- Three calls at a quota of one request and five tokens a minute: the second is refused. -/
def sampleCalls : List Call := [ ⟨0, "k", 5⟩, ⟨1, "k", 1⟩, ⟨60, "k", 5⟩]

/-- Two calls of a client that is allowed one a minute, a minute apart. -/
theorem quotas_hold_sample :
    accepted "k" (register {} "k" ⟨1, 2, 5⟩ 0) sampleCalls = [ ⟨0, "k", 5⟩, ⟨60, "k", 5⟩] ∧
      ∀ a b : ℚ, b - a < 60 →
        ((accepted "k" (register {} "k" ⟨1, 2, 5⟩ 0) sampleCalls).countP fun c =>
          a ≤ c.now ∧ c.now ≤ b) ≤ (2 : Int) := by
  have bounds := quotas_hold {} "k" ⟨1, 2, 5⟩ 0 sampleCalls (by decide +kernel) (by decide +kernel)
  exact ⟨by decide +kernel, fun a b short => (bounds.2.1 a b short).1⟩

/-- A quota below zero is exceeded from the start. -/
theorem quota_below_zero :
    ∃ s, (run after (register {} "k" ⟨-1, 1, 1⟩ 0) []).quotas "k" = some ⟨⟨-1, 1, 1⟩, s⟩ ∧
      ¬ s.minuteCount ≤ -1 :=
  ⟨_, rfl, by decide⟩

/-! ## The wait -/

/-- `retry_after_seconds` takes the decision of `check_and_consume` at the same instant and waits for the window
that decided. -/
lemma retryAfterSeconds_eq {l : RateLimiter} {key : String} {q : Quota} (reg : l.quotas key = some q)
    (now : ℚ) (tokens : Int) :
    l.retryAfterSeconds now key tokens =
      (Quota.exceeded { q with state := q.state.reset now } tokens).map fun msg =>
        if msg = "Hour request quota exceeded" then max 1 ⌈3600 - (now - q.state.hourWindowStart)⌉
        else max 1 ⌈60 - (now - q.state.minuteWindowStart)⌉ := by
  have minute : (q.state.reset now).minuteCount =
      if 60 - (now - q.state.minuteWindowStart) ≤ 0 then 0 else q.state.minuteCount := by
    have := congrArg Window.count (q.state.minute_reset now)
    simp only [sub_nonpos]
    exact this.trans (apply_ite ..)
  have tokens' : (q.state.reset now).tokenCount =
      if 60 - (now - q.state.minuteWindowStart) ≤ 0 then 0 else q.state.tokenCount := by
    have := congrArg Window.count (q.state.minuteTokens_reset now)
    simp only [sub_nonpos]
    exact this.trans (apply_ite ..)
  have hour : (q.state.reset now).hourCount =
      if 3600 - (now - q.state.hourWindowStart) ≤ 0 then 0 else q.state.hourCount := by
    have := congrArg Window.count (q.state.hour_reset now)
    simp only [sub_nonpos]
    exact this.trans (apply_ite ..)
  unfold retryAfterSeconds Quota.exceeded
  rw [reg]
  simp only [minute, tokens', hour]
  split_ifs <;> simp_all

end RateLimiter

/-- A key's state after looks alone at what it was, the last of them not after `now`. -/
structure QuotaState.Idle (s : QuotaState) (now : ℚ) (s' : QuotaState) : Prop where
  minute : s.minute.Idle 60 now s'.minute
  tokens : s.minuteTokens.Idle 60 now s'.minuteTokens
  hour : s.hour.Idle 3600 now s'.hour

namespace QuotaState

variable {s s' : QuotaState} {now later : ℚ}

lemma Idle.refl (s : QuotaState) (now : ℚ) : s.Idle now s := ⟨.inl rfl, .inl rfl, .inl rfl⟩

lemma Idle.mono (h : s.Idle now s') (le : now ≤ later) : s.Idle later s' :=
  ⟨h.minute.mono le, h.tokens.mono le, h.hour.mono le⟩

/-- A later reset of an idle state. -/
lemma Idle.reset (h : s.Idle now s') (le : now ≤ later) : s.Idle later (s'.reset later) where
  minute := by
    rw [minute_reset]
    exact h.minute.reset (by norm_num) le
  tokens := by
    rw [minuteTokens_reset]
    exact h.tokens.reset (by norm_num) le
  hour := by
    rw [hour_reset]
    exact h.hour.reset (by norm_num) le

/-- A state that was idle has the count of the minute it would have had. -/
lemma Idle.minuteCount (h : s.Idle now s') (le : now ≤ later) :
    (s'.reset later).minuteCount = (s.reset later).minuteCount := by
  have := h.minute.reset_count le
  rwa [← minute_reset, ← minute_reset] at this

lemma Idle.tokenCount (h : s.Idle now s') (le : now ≤ later) :
    (s'.reset later).tokenCount = (s.reset later).tokenCount := by
  have := h.tokens.reset_count le
  rwa [← minuteTokens_reset, ← minuteTokens_reset] at this

lemma Idle.hourCount (h : s.Idle now s') (le : now ≤ later) :
    (s'.reset later).hourCount = (s.reset later).hourCount := by
  have := h.hour.reset_count le
  rwa [← hour_reset, ← hour_reset] at this

end QuotaState

namespace RateLimiter

/-- Calls of which none is accepted on a key only look at it. -/
lemma idle_run {l : RateLimiter} {key : String} {config : QuotaConfig} {s₀ s : QuotaState} {now later : ℚ}
    (reg : l.quotas key = some ⟨config, s⟩) (h : s₀.Idle now s) {between : List Call}
    (clock : (now :: between.map (·.now)).Pairwise (· ≤ ·)) (le : now ≤ later)
    (last : ∀ c ∈ between, c.now ≤ later) (none : accepted key l between = []) :
    ∃ s', (run after l between).quotas key = some ⟨config, s'⟩ ∧ s₀.Idle later s' := by
  induction between generalizing l s now with
  | nil => exact ⟨s, reg, h.mono le⟩
  | cons c between ih =>
    rw [List.map_cons, List.pairwise_cons] at clock
    obtain ⟨here, rest⟩ := List.append_eq_nil_iff.1 none
    have go (s' : QuotaState) (eq : (l.after c).quotas key = some ⟨config, s'⟩) (h' : s₀.Idle c.now s') :=
      ih eq h' clock.2 (last c (.head _)) (fun c hc => last c (.tail _ hc)) rest
    by_cases on : c.clientId = key
    · subst on
      rcases after_eq reg with ⟨yes, -, -⟩ | ⟨-, -, eq⟩
      · simp [yes] at here
      · exact go _ eq (h.reset (clock.1 c.now (.head _)))
    · exact go s ((after_other on).trans reg) (h.mono (clock.1 c.now (.head _)))

/-- A registered client is answered by its state, reset for the time. -/
lemma checkAndConsume_answer {l : RateLimiter} {key : String} {q : Quota} (reg : l.quotas key = some q)
    (now : ℚ) (tokens : Int) :
    (l.checkAndConsume now key tokens).1 =
      match Quota.exceeded { q with state := q.state.reset now } tokens with
      | none => (true, "OK")
      | some msg => (false, msg) := by
  unfold checkAndConsume
  simp only [reg]
  cases Quota.exceeded { q with state := q.state.reset now } tokens <;> rfl

/-- The end of a wait for a window is past the window's end. -/
lemma lapsed_of_waited {len start now later : ℚ} (waited : now + (max 1 ⌈len - (now - start)⌉ : Int) ≤ later) :
    len ≤ later - start := by
  have ceil : len - (now - start) ≤ (max 1 ⌈len - (now - start)⌉ : Int) :=
    (Int.le_ceil _).trans (Int.cast_le.2 (le_max_right ..))
  linarith

end RateLimiter

namespace QuotaState

variable {s s' : QuotaState} {now later : ℚ}

/-- An hour that has lapsed counts no request. -/
lemma hourCount_of_lapsed (lapsed : 3600 ≤ now - s.hourWindowStart) : (s.reset now).hourCount = 0 := by
  have := congrArg Window.count (s.hour_reset now)
  rwa [Window.reset_of_le lapsed] at this

/-- A minute that has lapsed counts no request. -/
lemma minuteCount_of_lapsed (lapsed : 60 ≤ now - s.minuteWindowStart) : (s.reset now).minuteCount = 0 := by
  have := congrArg Window.count (s.minute_reset now)
  rwa [Window.reset_of_le lapsed] at this

lemma tokenCount_of_lapsed (lapsed : 60 ≤ now - s.minuteWindowStart) : (s.reset now).tokenCount = 0 := by
  have := congrArg Window.count (s.minuteTokens_reset now)
  rwa [Window.reset_of_le lapsed] at this

/-- A minute that has not lapsed keeps its tokens. -/
lemma tokenCount_of_not_lapsed (live : ¬ 60 ≤ now - s.minuteWindowStart) :
    (s.reset now).tokenCount = s.tokenCount := by
  have := congrArg Window.count (s.minuteTokens_reset now)
  rwa [Window.reset_of_not_le live] at this

/-- Until a later time the count of the minute is kept or set back. -/
lemma minuteCount_later (le : now ≤ later) :
    (s.reset later).minuteCount = (s.reset now).minuteCount ∨ (s.reset later).minuteCount = 0 := by
  have := Window.reset_later 60 s.minute le
  rwa [← minute_reset, ← minute_reset] at this

lemma hourCount_later (le : now ≤ later) :
    (s.reset later).hourCount = (s.reset now).hourCount ∨ (s.reset later).hourCount = 0 := by
  have := Window.reset_later 3600 s.hour le
  rwa [← hour_reset, ← hour_reset] at this

/-- What the lapse of the minute frees: any call the hour has room for. -/
lemma fits_of_minute_lapsed {config : QuotaConfig} {tokens : Int} (le : now ≤ later)
    (lapsed : 60 ≤ later - s.minuteWindowStart) (cost : tokens ≤ config.tokensPerMinute)
    (rpm : 1 ≤ config.requestsPerMinute) (rph : 1 ≤ config.requestsPerHour)
    (hour : (s.reset now).hourCount < config.requestsPerHour) :
    Quota.exceeded ⟨config, s.reset later⟩ tokens = none := by
  refine Quota.exceeded_eq_none.2 ⟨?_, ?_, ?_⟩
  · rw [minuteCount_of_lapsed lapsed]
    exact rpm
  · rcases hourCount_later (s := s) le with eq | eq
    · rwa [eq]
    · rw [eq]
      exact rph
  · rwa [tokenCount_of_lapsed lapsed, zero_add]

/-- What the lapse of the hour frees: any call the minute has room for. -/
lemma fits_of_hour_lapsed {config : QuotaConfig} {tokens : Int} (le : now ≤ later)
    (lapsed : 3600 ≤ later - s.hourWindowStart) (cost : tokens ≤ config.tokensPerMinute)
    (rpm : 1 ≤ config.requestsPerMinute) (rph : 1 ≤ config.requestsPerHour)
    (minute : (s.reset now).minuteCount < config.requestsPerMinute)
    (room : 60 ≤ later - s.minuteWindowStart ∨ s.tokenCount + tokens ≤ config.tokensPerMinute) :
    Quota.exceeded ⟨config, s.reset later⟩ tokens = none := by
  refine Quota.exceeded_eq_none.2 ⟨?_, ?_, ?_⟩
  · rcases minuteCount_later (s := s) le with eq | eq
    · rwa [eq]
    · rw [eq]
      exact rpm
  · rw [hourCount_of_lapsed lapsed]
    exact rph
  · by_cases past : 60 ≤ later - s.minuteWindowStart
    · rwa [tokenCount_of_lapsed past, zero_add]
    · rw [tokenCount_of_not_lapsed past]
      exact room.resolve_left past

/-- A state that was idle exceeds what it would have. -/
lemma Idle.exceeded {config : QuotaConfig} {tokens : Int} (h : s.Idle now s') (le : now ≤ later) :
    Quota.exceeded ⟨config, s'.reset later⟩ tokens = Quota.exceeded ⟨config, s.reset later⟩ tokens := by
  unfold Quota.exceeded
  simp only [h.minuteCount le, h.hourCount le, h.tokenCount le]

end QuotaState

/-- The hour is blamed only where the minute has room. -/
lemma Quota.minute_of_hour_exceeded {q : Quota} {tokens : Int}
    (hour : q.exceeded tokens = some "Hour request quota exceeded") :
    q.state.minuteCount < q.config.requestsPerMinute := by
  unfold Quota.exceeded at hour
  by_cases h : q.state.minuteCount ≥ q.config.requestsPerMinute
  · simp [h] at hour
  · exact not_le.1 h

namespace RateLimiter

/-- The wait `retry_after_seconds` gives mirrors the limiter: it gives none exactly when the call would be
accepted at that instant. At the end of the wait, whatever calls that consume nothing came in between, the window
that caused the refusal has started again, so that a cost within the quota is accepted as far as the other
windows leave room: the hour's count where the minute was the cause, and the minute's tokens, which are looked
at last, where the hour was. -/
theorem retryAfterSeconds_mirrors {l : RateLimiter} {key : String} {q : Quota}
    (reg : l.quotas key = some q) (now : ℚ) (tokens : Int) :
    (l.retryAfterSeconds now key tokens = none ↔ (l.checkAndConsume now key tokens).1.1 = true) ∧
    ∀ w, l.retryAfterSeconds now key tokens = some w →
      ∀ (between : List Call) (later : Call), later.clientId = key →
        (now :: (between.map (·.now) ++ [later.now])).Pairwise (· ≤ ·) → accepted key l between = [] →
        now + w ≤ later.now →
        ∃ s, (run after l between).quotas key = some ⟨q.config, s⟩ ∧
          ((l.checkAndConsume now key tokens).1.2 = "Hour request quota exceeded" →
            (s.reset later.now).hourCount = 0 ∧
              3600 ≤ (s.reset later.now).hourWindowStart - q.state.hourWindowStart) ∧
          ((l.checkAndConsume now key tokens).1.2 ≠ "Hour request quota exceeded" →
            (s.reset later.now).minuteCount = 0 ∧ (s.reset later.now).tokenCount = 0 ∧
              60 ≤ (s.reset later.now).minuteWindowStart - q.state.minuteWindowStart) ∧
          (later.tokens ≤ q.config.tokensPerMinute → 1 ≤ q.config.requestsPerMinute →
            1 ≤ q.config.requestsPerHour →
            (if (l.checkAndConsume now key tokens).1.2 = "Hour request quota exceeded" then
              60 ≤ later.now - q.state.minuteWindowStart ∨
                q.state.tokenCount + later.tokens ≤ q.config.tokensPerMinute
            else (q.state.reset now).hourCount < q.config.requestsPerHour) →
            (run after l between).accepts later = true) := by
  have answer := checkAndConsume_answer reg now tokens
  have wait := retryAfterSeconds_eq reg now tokens
  cases hx : Quota.exceeded { q with state := q.state.reset now } tokens with
  | none =>
    rw [hx] at answer wait
    exact ⟨by simp [answer, wait], by simp [wait]⟩
  | some msg =>
    simp only [hx, Option.map_some] at answer wait
    refine ⟨by simp [answer, wait], ?_⟩
    rintro w eq between later rfl clock none waited
    rw [wait, Option.some.injEq] at eq
    rw [answer]
    -- The calls in between are looks, so the later call finds the state of now, looked at later.
    obtain ⟨clock₁, -, last⟩ := List.pairwise_append.1 (List.cons_append ▸ clock)
    have le : now ≤ later.now := last now (.head _) later.now (.head _)
    obtain ⟨s, reg', idle⟩ := idle_run reg (.refl q.state now) clock₁ le
      (fun c hc => last c.now (.tail _ (List.mem_map_of_mem hc)) later.now (.head _)) none
    refine ⟨s, reg', ?_⟩
    have accept := accepts_iff reg'
    rw [idle.exceeded (le_refl _)] at accept
    by_cases hour : msg = "Hour request quota exceeded"
    · rw [if_pos hour] at eq
      subst eq
      have lapsed := lapsed_of_waited waited
      refine ⟨fun _ => ⟨?_, ?_⟩, fun no => absurd hour no, fun cost rpm rph room => accept.2 ?_⟩
      · rw [idle.hourCount (le_refl _), QuotaState.hourCount_of_lapsed lapsed]
      · have := idle.hour.started (by norm_num) (le_refl _) lapsed
        rwa [← QuotaState.hour_reset] at this
      · rw [if_pos hour] at room
        exact QuotaState.fits_of_hour_lapsed le lapsed cost rpm rph
          (Quota.minute_of_hour_exceeded (hour ▸ hx)) room
    · rw [if_neg hour] at eq
      subst eq
      have lapsed := lapsed_of_waited waited
      refine ⟨fun yes => absurd yes hour, fun _ => ⟨?_, ?_, ?_⟩, fun cost rpm rph room => accept.2 ?_⟩
      · rw [idle.minuteCount (le_refl _), QuotaState.minuteCount_of_lapsed lapsed]
      · rw [idle.tokenCount (le_refl _), QuotaState.tokenCount_of_lapsed lapsed]
      · have := idle.minute.started (by norm_num) (le_refl _) lapsed
        rwa [← QuotaState.minute_reset] at this
      · rw [if_neg hour] at room
        exact QuotaState.fits_of_minute_lapsed le lapsed cost rpm rph room

/-- The minute's one request was spent at 0, so at 20 the wait is 40 seconds. A call refused at 30 does not make
it longer. -/
theorem retryAfterSeconds_mirrors_sample :
    (run after (register {} "k" ⟨1, 10, 10⟩ 0) [ ⟨0, "k", 4⟩]).retryAfterSeconds 20 "k" 3 = some 40 ∧
      (run after (run after (register {} "k" ⟨1, 10, 10⟩ 0) [ ⟨0, "k", 4⟩]) [ ⟨30, "k", 1⟩]).accepts
        ⟨60, "k", 3⟩ = true := by
  have reg : (run after (register {} "k" ⟨1, 10, 10⟩ 0) [ ⟨0, "k", 4⟩]).quotas "k" =
      some ⟨⟨1, 10, 10⟩, ⟨1, 1, 4, 0, 0⟩⟩ := by decide +kernel
  have wait : (run after (register {} "k" ⟨1, 10, 10⟩ 0) [ ⟨0, "k", 4⟩]).retryAfterSeconds 20 "k" 3 =
      some 40 := by decide +kernel
  obtain ⟨s, -, -, -, accept⟩ := (retryAfterSeconds_mirrors reg 20 3).2 40 wait [ ⟨30, "k", 1⟩]
    ⟨60, "k", 3⟩ rfl (by decide +kernel) (by decide +kernel) (by decide +kernel)
  exact ⟨wait, accept (by decide) (by decide) (by decide) (by decide +kernel)⟩

/-- A wait for the hour says nothing of the minute's tokens. All ten were spent at 3590; at 3591 the hour's end is
nine seconds off, and then the tokens refuse a call of five. -/
theorem wait_for_hour_refused_by_tokens :
    let l := run after (register {} "k" ⟨10, 1, 10⟩ 0) [ ⟨3590, "k", 10⟩]
    l.retryAfterSeconds 3591 "k" 5 = some 9 ∧
      (l.checkAndConsume 3591 "k" 5).1 = (false, "Hour request quota exceeded") ∧
        (l.checkAndConsume (3591 + 9) "k" 5).1 = (false, "Token quota exceeded") := by
  decide +kernel

end RateLimiter

end Custos
