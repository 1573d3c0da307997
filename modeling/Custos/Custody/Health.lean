import Custos.Custody.Manager
import Custos.Library.Civil
import Custos.Library.Run
import Mathlib.Tactic.Linarith

/-!
# The health of custody

`AnchorManager.health` and `custody_check_status` of `main.py`, which the readiness endpoint shows. They read what the
attempts have left in the manager: the time of a tenant's last anchor, as the text it was signed with, and whether a gap
is pending.

`custody_status` says what is shown after any run of the manager in terms of the attempts made: whether the last attempt
for each tenant that was looked at has landed in all the sinks, and how long ago. A tenant that no attempt was made for,
because its chain has not advanced far enough, and a commitment of a policy that waits in the queue are not seen in it.
-/

namespace Custos

variable [Platform]

/-! ## The manager by the clock -/

/-- What an attempt meets: the second of the clock, which has four digits for the year, and for each sink the error it
raises. -/
structure Meeting where
  second : ℕ
  raises : ℕ → Option String
  before : second < Civil.END

/-- `_utc_now`. -/
def Meeting.env (t : Meeting) : EmitEnv where
  now := Civil.text t.second
  raises := t.raises

inductive CustodyOp where
  | anchorDue (force : Bool) (chains : List (String × AuditChain)) (meets : ℕ → Meeting)
  | anchorPolicyCommit (tenantId digest canonicalJson : String)
  | drainPolicyCommits (meets : ℕ → Meeting)

/-- The tenants whose chains a call looks at. -/
def CustodyOp.visits : CustodyOp → List String
  | .anchorDue _ chains _ => chains.map Prod.fst
  | _ => []

def CustodyOp.managerOp : CustodyOp → ManagerOp
  | .anchorDue force chains meets => .anchorDue force chains fun k => (meets k).env
  | .anchorPolicyCommit id digest canonicalJson => .anchorPolicyCommit id digest canonicalJson
  | .drainPolicyCommits meets => .drainPolicyCommits fun k => (meets k).env

/-- A manager with the tenants that have a state, in the order they came to it. -/
structure Custody where
  manager : AnchorManager
  tenants : List String := []

/-- One call on the manager. -/
def custodyStep (c : Custody) (op : CustodyOp) : Custody where
  manager := managerStep c.manager op.managerOp
  tenants := op.visits.foldl (fun known id => if id ∈ known then known else known ++ [id]) c.tenants

/-! ## What it reports -/

structure TenantHealth where
  epoch : Int
  pendingGap : Bool
  anchorAgeSeconds : Option ℚ
  stale : Bool

structure Health where
  sinks : List String
  sinksHealthy : Bool
  tenants : List (String × TenantHealth)
  lastError : Option String

omit [Platform] in
/-- What `health` says of a tenant, at a time and under the interval of the loop. -/
def TenantState.health (st : TenantState) (now anchorT : ℚ) : Except Exn TenantHealth := do
  let age ← match present st.lastAnchorUtc with
    | none => pure none
    | some text =>
      match Civil.read text with
      | none =>
        .error (.ValueError
          ("time data " ++ pyRepr text ++ " does not match format " ++ pyRepr "%Y-%m-%dT%H:%M:%SZ"))
      | some second => pure (some (now - second))
  return {
    epoch := st.epoch
    pendingGap := st.pendingGap.isSome
    anchorAgeSeconds := age
    stale := match age with
      | none => false
      | some age => 2 * anchorT < age }

/-- `health`. `healthy` is what the sinks' `healthcheck` answer. -/
def Custody.health (c : Custody) (healthy : ℕ → Bool) (now anchorT : ℚ) : Except Exn Health := do
  let tenants ← c.tenants.mapM fun id => do
    return (id, ← (c.manager.state id).health now anchorT)
  return {
    sinks := c.manager.sinks.map Sink.name
    sinksHealthy := if c.manager.sinks = [] then false else (List.range c.manager.sinks.length).all healthy
    tenants
    lastError := c.manager.lastError }

/-- `custody_check_status`. -/
def custodyCheckStatus (c : Option Custody) (healthy : ℕ → Bool) (now anchorT : ℚ) : Except Exn String :=
  match c with
  | none => .ok "disabled"
  | some c => do
    let h ← c.health healthy now anchorT
    return if ¬ h.sinksHealthy then "fail"
      else if h.tenants.isEmpty then "pending"
      else if h.tenants.any fun t => t.2.stale || t.2.pendingGap then "stale"
      else "ok"

/-! ## The attempts -/

/-- An attempt to anchor a head, and whether all the sinks accepted it. -/
structure HeadAttempt where
  tenantId : String
  second : ℕ
  accepted : Bool
  before : second < Civil.END

/-- The attempts of the loop of `anchor_due`. -/
def attemptsOver (force : Bool) (meets : ℕ → Meeting) : ℕ → AnchorManager → List (String × AuditChain) →
    List HeadAttempt
  | _, _, [] => []
  | k, m, (tenantId, chain) :: chains =>
    if force || m.due tenantId chain.head.1 then
      { tenantId, second := (meets k).second, accepted := offerErrors (meets k).raises m.sinks = []
        before := (meets k).before } ::
        attemptsOver force meets (k + 1) (m.emit tenantId chain.head (meets k).env) chains
    else attemptsOver force meets (k + 1) m chains

/-- The attempts of a call. -/
def headAttempts (c : Custody) : CustodyOp → List HeadAttempt
  | .anchorDue force chains meets =>
    attemptsOver force (fun k => meets (c.manager.policyQueue.length + k)) 0
      (c.manager.drainPolicyCommits fun k => (meets k).env).2 chains
  | _ => []

/-- The attempt has landed, and no longer ago than twice the interval of the loop. -/
def HeadAttempt.Fresh (a : HeadAttempt) (now anchorT : ℚ) : Prop := a.accepted = true ∧ now ≤ a.second + 2 * anchorT

/-- What is shown of custody: `seen` are the tenants that were looked at, `attempts` the attempts made for each. -/
inductive Shows (sinks : ℕ) (healthy : ℕ → Bool) (seen : List String) (attempts : String → List HeadAttempt)
    (now anchorT : ℚ) : String → Prop
  | fail : ¬ (0 < sinks ∧ ∀ i < sinks, healthy i = true) → Shows sinks healthy seen attempts now anchorT "fail"
  | pending : 0 < sinks → (∀ i < sinks, healthy i = true) → seen = [] →
      Shows sinks healthy seen attempts now anchorT "pending"
  | stale (id : String) (a : HeadAttempt) : 0 < sinks → (∀ i < sinks, healthy i = true) → id ∈ seen →
      (attempts id).getLast? = some a → ¬ a.Fresh now anchorT → Shows sinks healthy seen attempts now anchorT "stale"
  | ok : 0 < sinks → (∀ i < sinks, healthy i = true) → seen ≠ [] →
      (∀ id ∈ seen, ∀ a, (attempts id).getLast? = some a → a.Fresh now anchorT) →
      Shows sinks healthy seen attempts now anchorT "ok"

/-! ## What an attempt leaves -/

/-- What the report reads of a tenant's state. -/
def view (id : String) (m : AnchorManager) : Option String × Bool :=
  ((m.state id).lastAnchorUtc, (m.state id).pendingGap.isSome)

omit [Platform] in
/-- What an attempt makes of it: an anchor that landed is the last, one that did not leaves a gap. -/
def noted (id : String) (seen : Option String × Bool) (a : HeadAttempt) : Option String × Bool :=
  if a.tenantId = id then if a.accepted then (some (Civil.text a.second), false) else (seen.1, true) else seen

/-- An attempt is noted with its tenant. -/
lemma emit_view (m : AnchorManager) (id own : String) (head : Nat × String) (t : Meeting) :
    view id (m.emit own head t.env) = noted id (view id m)
      { tenantId := own, second := t.second, accepted := offerErrors t.raises m.sinks = [], before := t.before } := by
  have accepts : t.env.Accepts m.sinks ↔ offerErrors t.raises m.sinks = [] := offerErrors_eq_nil.symm
  unfold noted view
  by_cases landed : offerErrors t.raises m.sinks = []
  · rw [AnchorManager.emit_of_accepts (accepts.2 landed)]
    by_cases same : own = id
    · rw [same]
      simp [landed, Meeting.env]
    · simp [same, Function.update_of_ne (Ne.symm same)]
  · rw [AnchorManager.emit_of_refused (mt accepts.1 landed)]
    by_cases same : own = id
    · rw [same]
      simp [landed]
    · simp [same, Function.update_of_ne (Ne.symm same)]

/-- The anchors of the chains are noted one by one. -/
lemma anchorChains_view (id : String) (force : Bool) (meets : ℕ → Meeting) (k : ℕ) (m : AnchorManager)
    (chains : List (String × AuditChain)) :
    view id (AnchorManager.anchorChains force (fun k => (meets k).env) k m chains) =
      (attemptsOver force meets k m chains).foldl (noted id) (view id m) := by
  induction chains generalizing k m with
  | nil => rfl
  | cons chain chains ih =>
    unfold AnchorManager.anchorChains attemptsOver
    by_cases due : (force || m.due chain.1 chain.2.head.1) = true
    · dsimp only
      rw [if_pos due, if_pos due, ih, List.foldl_cons, emit_view]
    · dsimp only
      rw [if_neg due, if_neg due, ih]

/-- Commitments of policies leave the tenants' states. -/
lemma drainPolicyCommits_state (m : AnchorManager) (env : ℕ → EmitEnv) : (m.drainPolicyCommits env).2.state = m.state := by
  have drain : ∀ k (m : AnchorManager) q, (AnchorManager.drainQueue env k m q).1.state = m.state := by
    intro k m q
    induction q generalizing k m with
    | nil => rfl
    | cons c q ih =>
      unfold AnchorManager.drainQueue
      dsimp only
      rw [ih]
      unfold AnchorManager.emitPolicyCommit
      dsimp only
      split <;> rfl
  exact drain 0 { m with policyQueue := [] } m.policyQueue

/-- A step of the custody thread notes its attempts. -/
lemma custodyStep_view (id : String) (c : Custody) (op : CustodyOp) :
    view id (custodyStep c op).manager = (headAttempts c op).foldl (noted id) (view id c.manager) := by
  cases op with
  | anchorDue force chains meets =>
    have same : view id (c.manager.drainPolicyCommits fun k => (meets k).env).2 = view id c.manager := by
      unfold view
      rw [drainPolicyCommits_state]
    exact (anchorChains_view id force (fun k => meets (c.manager.policyQueue.length + k)) 0 _ chains).trans
      (congrArg (List.foldl (noted id) · _) same)
  | anchorPolicyCommit own digest canonicalJson => rfl
  | drainPolicyCommits meets =>
    change view id (c.manager.drainPolicyCommits fun k => (meets k).env).2 = view id c.manager
    unfold view
    rw [drainPolicyCommits_state]

omit [Platform] in
/-- What a tenant's attempts come to is said by the last one. -/
lemma foldl_noted (id : String) (attempts : List HeadAttempt) :
    let seen := attempts.foldl (noted id) (none, false)
    (seen.1 = none ∨ ∃ second < Civil.END, seen.1 = some (Civil.text second)) ∧
      match (attempts.filter (·.tenantId = id)).getLast? with
      | none => seen = (none, false)
      | some a => if a.accepted then seen = (some (Civil.text a.second), false) else seen.2 = true := by
  induction attempts using List.reverseRecOn with
  | nil => exact ⟨.inl rfl, rfl⟩
  | append_singleton attempts a ih =>
    dsimp only at ih ⊢
    rw [List.foldl_append, List.filter_append]
    obtain ⟨readable, last⟩ := ih
    unfold noted
    by_cases own : a.tenantId = id
    · have one : [a].filter (·.tenantId = id) = [a] := by simp [own]
      rw [one, List.getLast?_append, List.getLast?_singleton, Option.some_or]
      by_cases landed : a.accepted = true
      · simp only [List.foldl_cons, List.foldl_nil, own, landed, if_true]
        exact ⟨.inr ⟨a.second, a.before, rfl⟩, trivial⟩
      · simp only [List.foldl_cons, List.foldl_nil, own, landed, if_true]
        exact ⟨readable, rfl⟩
    · have none : [a].filter (·.tenantId = id) = [] := by simp [own]
      rw [none, List.append_nil]
      simp only [List.foldl_cons, List.foldl_nil, own, if_false]
      exact ⟨readable, last⟩

/-! ## What is shown -/

omit [Platform] in
/-- The report of a tenant whose last anchor's time reads. -/
def TenantState.report (st : TenantState) (now anchorT : ℚ) : TenantHealth :=
  let age := (st.lastAnchorUtc.bind Civil.read).map fun second : ℕ => now - (second : ℚ)
  { epoch := st.epoch, pendingGap := st.pendingGap.isSome, anchorAgeSeconds := age
    stale := match age with
      | none => false
      | some age => 2 * anchorT < age }

omit [Platform] in
/-- A tenant's state is reported where its clock reads. -/
lemma TenantState.health_eq {st : TenantState} (now anchorT : ℚ)
    (readable : st.lastAnchorUtc = none ∨ ∃ second < Civil.END, st.lastAnchorUtc = some (Civil.text second)) :
    st.health now anchorT = .ok (st.report now anchorT) := by
  unfold TenantState.health TenantState.report
  rcases readable with none | ⟨second, before, some⟩
  · rw [none]
    rfl
  · have read := Civil.read_text before
    have written : Civil.text second ≠ "" := by
      intro empty
      rw [empty] at read
      cases read
    rw [some, present_some written]
    dsimp only
    rw [read, Option.bind_some, read]
    rfl

omit [Platform] in
/-- A tenant is shown as stale where its last attempt is not fresh. -/
lemma TenantState.report_stale {st : TenantState} {id : String} {attempts : List HeadAttempt} (now anchorT : ℚ)
    (seen : (st.lastAnchorUtc, st.pendingGap.isSome) = attempts.foldl (noted id) (none, false)) :
    ((st.report now anchorT).stale || (st.report now anchorT).pendingGap) = true ↔
      ∃ a, (attempts.filter (·.tenantId = id)).getLast? = some a ∧ ¬ a.Fresh now anchorT := by
  obtain ⟨-, last⟩ := foldl_noted id attempts
  rw [← seen] at last
  unfold TenantState.report
  dsimp only
  cases found : (attempts.filter (·.tenantId = id)).getLast? with
  | none =>
    rw [found] at last
    obtain ⟨none, gap⟩ := Prod.mk.inj last
    simp [none, gap]
  | some a =>
    rw [found] at last
    dsimp only at last
    unfold HeadAttempt.Fresh
    by_cases landed : a.accepted = true
    · rw [if_pos landed] at last
      obtain ⟨some, gap⟩ := Prod.mk.inj last
      rw [some, gap, Option.bind_some, Civil.read_text a.before, Option.map_some]
      dsimp only
      rw [Bool.or_false, decide_eq_true_eq]
      constructor
      · exact fun late => ⟨a, rfl, fun fresh => by linarith [fresh.2]⟩
      · rintro ⟨b, same, late⟩
        cases same
        by_contra early
        exact late ⟨landed, by linarith⟩
    · rw [if_neg landed] at last
      simp [last, landed]

omit [Platform] in
/-- The tenants with a state are those that were looked at. -/
lemma mem_visited {known visits : List String} {id : String} :
    id ∈ visits.foldl (fun known id => if id ∈ known then known else known ++ [id]) known ↔
      id ∈ known ∨ id ∈ visits := by
  induction visits generalizing known with
  | nil => simp
  | cons own visits ih =>
    rw [List.foldl_cons, ih]
    by_cases mem : own ∈ known
    · rw [if_pos mem, List.mem_cons]
      constructor
      · exact fun h => h.imp_right .inr
      · rintro (h | rfl | h)
        · exact .inl h
        · exact .inl mem
        · exact .inr h
    · rw [if_neg mem, List.mem_append, List.mem_singleton, List.mem_cons, or_assoc]

/-- The tenants that are known are those that were looked at. -/
lemma mem_tenants_run (c : Custody) (ops : List CustodyOp) (id : String) :
    id ∈ (run custodyStep c ops).tenants ↔ id ∈ c.tenants ∨ id ∈ ops.flatMap CustodyOp.visits := by
  induction ops generalizing c with
  | nil => simp
  | cons op ops ih =>
    rw [run_cons, ih, List.flatMap_cons, List.mem_append, ← or_assoc]
    exact or_congr mem_visited Iff.rfl

/-- A run leaves the number of sinks. -/
lemma length_sinks_run (c : Custody) (ops : List CustodyOp) :
    (run custodyStep c ops).manager.sinks.length = c.manager.sinks.length := by
  refine run_invariant custodyStep (I := fun c' => c'.manager.sinks.length = c.manager.sinks.length) rfl
    (fun c' op same => ?_) ops
  refine managerStep_invariant (I := fun m => m.sinks.length = c.manager.sinks.length) (fun m q same => same)
    (fun m id head env same => ?_) (fun m commit env same => ?_) c'.manager op.managerOp same
  · rw [AnchorManager.emit_sinks, length_offer, same]
  · rw [AnchorManager.emitPolicyCommit_sinks, length_offer, same]

omit [Platform] in
/-- A list is mapped where each of its items is. -/
lemma mapM_ok {α β ε : Type} {f : α → Except ε β} {g : α → β} {xs : List α} (each : ∀ x ∈ xs, f x = .ok (g x)) :
    xs.mapM f = .ok (xs.map g) := by
  induction xs with
  | nil => rfl
  | cons x xs ih =>
    rw [List.mapM_cons, each x (.head _), ih fun y mem => each y (.tail _ mem)]
    rfl

/-- The attempts made for a tenant in a run. -/
def attemptsFor (c : Custody) (ops : List CustodyOp) (id : String) : List HeadAttempt :=
  (trace custodyStep headAttempts c ops).filter (·.tenantId = id)

/-- After any run of the manager: the report is made, and what is shown of custody is what the sinks answer and what
the last attempt for each tenant that was looked at has come to. -/
theorem custody_status (sinks : List Sink) (gaps : List Gap) (anchorN : Int) (ops : List CustodyOp)
    (healthy : ℕ → Bool) (now anchorT : ℚ) :
    let start : Custody := { manager := .init sinks gaps anchorN }
    ∃ status, custodyCheckStatus (some (run custodyStep start ops)) healthy now anchorT = .ok status ∧
      Shows sinks.length healthy (ops.flatMap CustodyOp.visits) (attemptsFor start ops) now anchorT status := by
  intro start
  have seen : ∀ id, view id (run custodyStep start ops).manager =
      (trace custodyStep headAttempts start ops).foldl (noted id) (none, false) := fun id =>
    run_foldl_trace (fun c : Custody => view id c.manager) (custodyStep_view id) start ops
  have count : (run custodyStep start ops).manager.sinks.length = sinks.length := length_sinks_run start ops
  have known : ∀ id, id ∈ (run custodyStep start ops).tenants ↔ id ∈ ops.flatMap CustodyOp.visits := by
    intro id
    rw [mem_tenants_run]
    simp [start]
  generalize run custodyStep start ops = c at seen count known
  have reports : c.tenants.mapM (fun id => do return (id, ← (c.manager.state id).health now anchorT)) =
      (.ok (c.tenants.map fun id => (id, (c.manager.state id).report now anchorT)) :
        Except Exn (List (String × TenantHealth))) := by
    refine mapM_ok fun id _ => ?_
    have readable := (foldl_noted id (trace custodyStep headAttempts start ops)).1
    rw [← seen id] at readable
    rw [TenantState.health_eq now anchorT readable]
    rfl
  have sinksHealthy : (if c.manager.sinks = [] then false else (List.range c.manager.sinks.length).all healthy) = true ↔
      0 < sinks.length ∧ ∀ i < sinks.length, healthy i = true := by
    rw [← count]
    cases c.manager.sinks with
    | nil => simp
    | cons sink rest => simp
  unfold custodyCheckStatus Custody.health
  dsimp only
  rw [reports]
  simp only [bind, Except.bind, pure, Except.pure]
  refine ⟨_, rfl, ?_⟩
  by_cases healthy' : 0 < sinks.length ∧ ∀ i < sinks.length, healthy i = true
  · rw [if_neg (not_not.2 (sinksHealthy.2 healthy'))]
    by_cases nobody : c.tenants = []
    · rw [if_pos (by rw [nobody]; rfl)]
      refine .pending healthy'.1 healthy'.2 (List.eq_nil_iff_forall_not_mem.2 fun id mem => ?_)
      rw [← known, nobody] at mem
      cases mem
    · rw [if_neg (by simpa using nobody)]
      obtain ⟨first, mem⟩ := List.exists_mem_of_ne_nil _ nobody
      have stale : ∀ id, ((((c.manager.state id).report now anchorT).stale ||
          ((c.manager.state id).report now anchorT).pendingGap) = true) ↔
          ∃ a, (attemptsFor start ops id).getLast? = some a ∧ ¬ a.Fresh now anchorT :=
        fun id => TenantState.report_stale now anchorT (seen id)
      by_cases behind : ∃ id ∈ c.tenants, ∃ a, (attemptsFor start ops id).getLast? = some a ∧ ¬ a.Fresh now anchorT
      · obtain ⟨id, mem, a, last, late⟩ := behind
        rw [if_pos]
        · exact .stale id a healthy'.1 healthy'.2 ((known id).1 mem) last late
        · rw [List.any_map, List.any_eq_true]
          exact ⟨id, mem, (stale id).2 ⟨a, last, late⟩⟩
      · rw [if_neg]
        · refine .ok healthy'.1 healthy'.2 (List.ne_nil_of_mem ((known first).1 mem)) fun id mem a last => ?_
          by_contra late
          exact behind ⟨id, (known id).2 mem, a, last, late⟩
        · rw [List.any_map, List.any_eq_true]
          rintro ⟨id, mem, shown⟩
          exact behind ⟨id, mem, (stale id).1 shown⟩
  · rw [if_pos (mt sinksHealthy.1 healthy')]
    exact .fail healthy'

end Custos
