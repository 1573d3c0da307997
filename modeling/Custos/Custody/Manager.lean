import Custos.Audit.Chain
import Custos.Custody.AnchorFiles
import Mathlib.Logic.Function.Basic

/-!
# The anchor manager

`AnchorManager` of `custos/custody.py` and the sinks it appends to. What a sink answers to an append is
an input: it accepts and its log grows by the record, or it raises and its log stays. A memory sink
holds the anchor object itself, with the manager's own gap dict in it; the other sinks write what the
record is at the time. The gap dicts the manager creates therefore live in a heap (`gaps`), and reading
what a sink has accepted (`Sink.read`) looks the held ones up. What a sink gives back of it
(`Sink.readBack`) is all of it for a list, and for a git sink what is left in its files.

`emit_cases` and `emitPolicyCommit_cases` say what one attempt can do: every sink accepts and the
tenant's counters move, or some sink raises and they stay.
-/

namespace Custos

/-- A gap dict. -/
structure Gap where
  fromEpoch : Int
  attempts : Int
  firstAttemptUtc : String
  lastAttemptUtc : Option String := none
  deriving DecidableEq

/-- The gap dict as JSON. -/
def Gap.toJson (g : Gap) : Json :=
  .obj ([("from_epoch", .int g.fromEpoch), ("attempts", .int g.attempts),
    ("first_attempt_utc", .str g.firstAttemptUtc)] ++
    g.lastAttemptUtc.toList.map fun s => ("last_attempt_utc", .str s))

/-- What a sink holds of a record: its dict when it was appended, and the gap dict it still shares. -/
structure Held where
  dict : AnchorDict
  gapRef : Option Nat := none

/-- The dict as it reads now. -/
def Held.read (gaps : List Gap) (h : Held) : AnchorDict :=
  match h.gapRef.bind (gaps[·]?) with
  | some gap => { h.dict with gap := gap.toJson }
  | none => h.dict

/-- A custody sink: its name, whether it holds the object it is given, the working clone it writes to if it
is a git sink, and what it has accepted. -/
structure Sink where
  name : String
  byReference : Bool := false
  repo : Option String := none
  log : List Held := []

namespace Sink

/-- Every record the sink has accepted, in order, as it reads now. -/
def read (gaps : List Gap) (s : Sink) : List AnchorDict := s.log.map (Held.read gaps)

/-- What the sink gives back: a list reads as it stands, a git sink loads the files of its clone. -/
def readBack (gaps : List Gap) (s : Sink) : List AnchorDict :=
  match s.repo with
  | none => s.read gaps
  | some repo => GitAnchorSink.loadAnchors repo (GitAnchorSink.filesOf repo (s.log.map (·.dict)))

/-- An append the sink accepts. -/
def accept (s : Sink) (dict : AnchorDict) (gapRef : Option Nat) : Sink :=
  { s with log := s.log ++ [⟨dict, if s.byReference then gapRef else none⟩] }

end Sink

/-- What an attempt meets outside: the clock, and for each sink the error it raises, if it does. -/
structure EmitEnv where
  now : String
  raises : Nat → Option String

/-- `sink.append` on every sink in turn. -/
def offer (raises : Nat → Option String) (dict : AnchorDict) (gapRef : Option Nat)
    (sinks : List Sink) : List Sink :=
  sinks.mapIdx fun i s => if (raises i).isNone then s.accept dict gapRef else s

/-- The errors of the sinks that raised. -/
def offerErrors (raises : Nat → Option String) (sinks : List Sink) : List String :=
  sinks.zipIdx.filterMap fun (s, i) => (raises i).map fun exc => s.name ++ ": " ++ exc

/-- `_state[tenant_id]`; `pendingGap` is the gap dict's place in the heap. -/
structure TenantState where
  epoch : Int := 0
  length : Int := 0
  anchorHash : String := GENESIS_ANCHOR_HASH
  lastAnchorUtc : Option String := none
  pendingGap : Option Nat := none
  deriving DecidableEq

/-- `_policy_state["policy::" + tenant_id]`. -/
structure PolicyState where
  epoch : Int := 0
  anchorHash : String := GENESIS_ANCHOR_HASH
  deriving DecidableEq

/-- A queued commitment. -/
structure QueuedCommit where
  tenantId : String
  digest : String
  canonicalJson : String
  deriving DecidableEq

/-- `AnchorManager`. A tenant without a state of its own reads as one in the initial state, which is what
`_tenant_state` and `setdefault` give it. -/
structure AnchorManager where
  sinks : List Sink
  anchorN : Int
  state : String → TenantState := fun _ => {}
  policyState : String → PolicyState := fun _ => {}
  policyQueue : List QueuedCommit := []
  gaps : List Gap := []
  lastError : Option String := none

namespace AnchorManager

/-- `AnchorManager.__init__`. -/
def init (sinks : List Sink) (gaps : List Gap) (anchorN : Int) : AnchorManager :=
  { sinks, anchorN := max 1 anchorN, gaps }

/-- The gap a failed attempt leaves pending, and the heap with it: the pending one, or a new one. -/
def openGap (m : AnchorManager) (tenantId : String) (epoch : Int) (now : String) :
    Nat × List Gap :=
  match (m.state tenantId).pendingGap with
  | some ref => (ref, m.gaps)
  | none => (m.gaps.length, m.gaps ++ [{ fromEpoch := epoch, attempts := 0, firstAttemptUtc := now }])

/-- The gap an anchor of the tenant carries now. -/
def pendingGapJson (m : AnchorManager) (tenantId : String) : Json :=
  match (m.state tenantId).pendingGap.bind (m.gaps[·]?) with
  | some gap => gap.toJson
  | none => .null

variable [Platform]

/-- The anchor the next attempt offers. -/
def nextAnchor (m : AnchorManager) (tenantId : String) (head : Nat × String) (now : String) :
    AnchorRecord :=
  .ofHead tenantId ((m.state tenantId).epoch + 1) head now (m.state tenantId).anchorHash
    (m.pendingGapJson tenantId)

/-- `_emit`. -/
def emit (m : AnchorManager) (tenantId : String) (head : Nat × String) (env : EmitEnv) :
    AnchorManager :=
  let st := m.state tenantId
  let anchor := m.nextAnchor tenantId head env.now
  let sinks := offer env.raises anchor.toDict st.pendingGap m.sinks
  let errors := offerErrors env.raises m.sinks
  if errors ≠ [] then
    let (ref, gaps) := m.openGap tenantId anchor.epoch env.now
    { m with
      sinks
      gaps := gaps.modify ref fun gap =>
        { gap with attempts := gap.attempts + 1, lastAttemptUtc := some env.now }
      state := Function.update m.state tenantId { st with pendingGap := some ref }
      lastError := some ("; ".intercalate errors) }
  else
    { m with
      sinks
      state := Function.update m.state tenantId
        { epoch := anchor.epoch, length := head.1, anchorHash := anchor.anchorHash,
          lastAnchorUtc := some env.now, pendingGap := none }
      lastError := none }

/-- The commit the next attempt offers. -/
def nextCommit (m : AnchorManager) (c : QueuedCommit) (now : String) : PolicyCommitRecord :=
  .ofDigest c.tenantId ((m.policyState c.tenantId).epoch + 1) c.digest now
    (m.policyState c.tenantId).anchorHash c.canonicalJson

/-- `_emit_policy_commit`. -/
def emitPolicyCommit (m : AnchorManager) (c : QueuedCommit) (env : EmitEnv) : Bool × AnchorManager :=
  let st := m.policyState c.tenantId
  let commit := m.nextCommit c env.now
  let sinks := offer env.raises commit.toDict none m.sinks
  let errors := offerErrors env.raises m.sinks
  if errors ≠ [] then
    (false, { m with sinks, lastError := some ("policy_commit: " ++ "; ".intercalate errors) })
  else
    (true,
      { m with
        sinks
        policyState := Function.update m.policyState c.tenantId
          { epoch := st.epoch + 1, anchorHash := commit.anchorHash } })

omit [Platform] in
/-- `anchor_policy_commit`. -/
def anchorPolicyCommit (m : AnchorManager) (tenantId digest canonicalJson : String) : AnchorManager :=
  { m with policyQueue := m.policyQueue ++ [⟨tenantId, digest, canonicalJson⟩] }

/-- The loop of `drain_policy_commits` over the queue it empties, and the commits that failed. Attempt
`k` of a call meets `env k`. -/
def drainQueue (env : Nat → EmitEnv) : Nat → AnchorManager → List QueuedCommit →
    AnchorManager × List QueuedCommit
  | _, m, [] => (m, [])
  | k, m, c :: queue =>
    let (landed, m) := m.emitPolicyCommit c (env k)
    let (m, failed) := drainQueue env (k + 1) m queue
    (m, if landed then failed else c :: failed)

/-- `drain_policy_commits`: failed commits go back to the front of the queue. -/
def drainPolicyCommits (m : AnchorManager) (env : Nat → EmitEnv) : Bool × AnchorManager :=
  let (m', failed) := drainQueue env 0 { m with policyQueue := [] } m.policyQueue
  (failed = [], { m' with policyQueue := failed ++ m'.policyQueue })

omit [Platform] in
/-- The tenant's chain has advanced by `anchor_n` records since its last anchor. -/
def due (m : AnchorManager) (tenantId : String) (length : Nat) : Bool :=
  (length : Int) - (m.state tenantId).length ≥ m.anchorN

/-- The loop of `anchor_due` over the chains. -/
def anchorChains (force : Bool) (env : Nat → EmitEnv) : Nat → AnchorManager →
    List (String × AuditChain) → AnchorManager
  | _, m, [] => m
  | k, m, (tenantId, chain) :: chains =>
    let m := if force || m.due tenantId chain.head.1 then m.emit tenantId chain.head (env k) else m
    anchorChains force env (k + 1) m chains

/-- `anchor_due`. -/
def anchorDue (m : AnchorManager) (force : Bool) (chains : List (String × AuditChain))
    (env : Nat → EmitEnv) : AnchorManager :=
  anchorChains force (fun k => env (m.policyQueue.length + k)) 0 (m.drainPolicyCommits env).2 chains

end AnchorManager

/-! ## One attempt -/

/-- Every sink accepts what it is offered. -/
def EmitEnv.Accepts (env : EmitEnv) (sinks : List Sink) : Prop :=
  ∀ i < sinks.length, env.raises i = none

/-- No error is met where no sink raises. -/
lemma offerErrors_eq_nil {raises : Nat → Option String} {sinks : List Sink} :
    offerErrors raises sinks = [] ↔ ∀ i < sinks.length, raises i = none := by
  unfold offerErrors
  rw [List.filterMap_eq_nil_iff]
  constructor
  · intro h i lt
    have := h (sinks[i], i) (List.mk_mem_zipIdx_iff_getElem?.2 (by simp [lt]))
    simpa using this
  · rintro h ⟨s, i⟩ mem
    obtain ⟨lt, -⟩ := List.getElem?_eq_some_iff.1 (List.mk_mem_zipIdx_iff_getElem?.1 mem)
    simp [h i lt]

/-- An offer that is accepted everywhere is in every log. -/
lemma offer_of_accepts {env : EmitEnv} {sinks : List Sink} (acc : env.Accepts sinks)
    (dict : AnchorDict) (ref : Option Nat) :
    offer env.raises dict ref sinks = sinks.map (·.accept dict ref) := by
  apply List.ext_getElem (by simp [offer])
  intro i h h'
  have lt : i < sinks.length := by simpa using h'
  simp [offer, acc i lt]

/-- What one sink holds after an offer. -/
lemma getElem?_offer (raises : Nat → Option String) (dict : AnchorDict) (ref : Option Nat)
    (sinks : List Sink) (i : Nat) :
    (offer raises dict ref sinks)[i]? =
      sinks[i]?.map fun s => if (raises i).isNone then s.accept dict ref else s := by
  simp [offer, List.getElem?_mapIdx]

/-- A sink after an offer is one from before, with the record where it accepted it. -/
lemma mem_offer {raises : Nat → Option String} {dict : AnchorDict} {ref : Option Nat}
    {sinks : List Sink} {sink : Sink} (mem : sink ∈ offer raises dict ref sinks) :
    ∃ i s, sinks[i]? = some s ∧ sink = if (raises i).isNone then s.accept dict ref else s := by
  obtain ⟨i, hi⟩ := List.mem_iff_getElem?.1 mem
  rw [getElem?_offer] at hi
  obtain ⟨s, hs, e⟩ := Option.map_eq_some_iff.1 hi
  exact ⟨i, s, hs, e.symm⟩

/-- An offer leaves the number of sinks. -/
@[simp] lemma length_offer (raises : Nat → Option String) (dict : AnchorDict) (ref : Option Nat)
    (sinks : List Sink) : (offer raises dict ref sinks).length = sinks.length := by
  simp [offer]

namespace AnchorManager

variable [Platform]

/-- An attempt all sinks accept moves the tenant's counters to the anchor and leaves no gap. -/
lemma emit_of_accepts {m : AnchorManager} {env : EmitEnv} (acc : env.Accepts m.sinks)
    (id : String) (head : Nat × String) :
    m.emit id head env =
      { m with
        sinks := m.sinks.map
          (·.accept (m.nextAnchor id head env.now).toDict (m.state id).pendingGap)
        state := Function.update m.state id
          { epoch := (m.nextAnchor id head env.now).epoch, length := head.1
            anchorHash := (m.nextAnchor id head env.now).anchorHash
            lastAnchorUtc := some env.now, pendingGap := none }
        lastError := none } := by
  have none : offerErrors env.raises m.sinks = [] := offerErrors_eq_nil.2 acc
  simp only [emit, none, ne_eq, not_true_eq_false, if_false, offer_of_accepts acc]

/-- An attempt some sink refuses leaves the counters and opens the tenant's gap, or counts it up. -/
lemma emit_of_refused {m : AnchorManager} {env : EmitEnv} (ref : ¬ env.Accepts m.sinks)
    (id : String) (head : Nat × String) :
    m.emit id head env =
      { m with
        sinks := offer env.raises (m.nextAnchor id head env.now).toDict (m.state id).pendingGap m.sinks
        gaps := (m.openGap id (m.nextAnchor id head env.now).epoch env.now).2.modify
          (m.openGap id (m.nextAnchor id head env.now).epoch env.now).1
          fun gap => { gap with attempts := gap.attempts + 1, lastAttemptUtc := some env.now }
        state := Function.update m.state id
          { m.state id with
            pendingGap := some (m.openGap id (m.nextAnchor id head env.now).epoch env.now).1 }
        lastError := some ("; ".intercalate (offerErrors env.raises m.sinks)) } := by
  have some : offerErrors env.raises m.sinks ≠ [] := mt offerErrors_eq_nil.1 ref
  simp only [emit, some, ne_eq, not_false_eq_true, if_true]

/-- An attempt queues no commit. -/
lemma emit_policyQueue (m : AnchorManager) (id : String) (head : Nat × String) (env : EmitEnv) :
    (m.emit id head env).policyQueue = m.policyQueue := by
  by_cases acc : env.Accepts m.sinks
  · rw [emit_of_accepts acc]
  · rw [emit_of_refused acc]

/-- A drain of an empty queue does nothing. -/
lemma drainPolicyCommits_of_idle {m : AnchorManager} (idle : m.policyQueue = []) (env : Nat → EmitEnv) :
    (m.drainPolicyCommits env).2 = m := by
  simp only [drainPolicyCommits, idle, drainQueue, List.append_nil]
  rw [← idle]

/-- With no commit queued, `anchor_due` over one chain is at most one attempt. -/
lemma anchorDue_single {m : AnchorManager} (idle : m.policyQueue = []) (force : Bool) (id : String)
    (chain : AuditChain) (env : Nat → EmitEnv) :
    m.anchorDue force [(id, chain)] env =
      if force || m.due id chain.head.1 then m.emit id chain.head (env 0) else m := by
  simp only [anchorDue, anchorChains, drainPolicyCommits_of_idle idle, idle, List.length_nil, Nat.zero_add]

omit [Platform] in
/-- Every sink has accepted what it had, and perhaps more. -/
def Grows (m m' : AnchorManager) : Prop :=
  ∀ (i : Nat) (sink : Sink), m.sinks[i]? = some sink →
    ∃ sink' : Sink, m'.sinks[i]? = some sink' ∧ sink'.repo = sink.repo ∧ sink.log <+: sink'.log

omit [Platform] in
lemma Grows.refl (m : AnchorManager) : m.Grows m := fun _ sink h => ⟨sink, h, rfl, List.prefix_refl _⟩

omit [Platform] in
/-- Logs that grow twice have grown. -/
lemma Grows.trans {m m' m'' : AnchorManager} (g : m.Grows m') (g' : m'.Grows m'') : m.Grows m'' := by
  intro i sink h
  obtain ⟨sink', h', repo, pf⟩ := g i sink h
  obtain ⟨sink'', h'', repo', pf'⟩ := g' i sink' h'
  exact ⟨sink'', h'', repo'.trans repo, pf.trans pf'⟩

omit [Platform] in
lemma grows_of_sinks_eq {m m' : AnchorManager} (e : m'.sinks = m.sinks) : m.Grows m' := fun _ sink h =>
  ⟨sink, by rw [e]; exact h, rfl, List.prefix_refl _⟩

omit [Platform] in
/-- An offer only adds to the logs. -/
lemma grows_of_offer {m m' : AnchorManager} (raises : Nat → Option String) (dict : AnchorDict)
    (ref : Option Nat) (e : m'.sinks = offer raises dict ref m.sinks) : m.Grows m' := by
  intro i sink h
  refine ⟨_, by rw [e, getElem?_offer, h]; rfl, ?_⟩
  split
  · exact ⟨rfl, List.prefix_append _ _⟩
  · exact ⟨rfl, List.prefix_refl _⟩

/-- Accepted everywhere or not, an attempt is one offer. -/
lemma emit_sinks (m : AnchorManager) (id : String) (head : Nat × String) (env : EmitEnv) :
    (m.emit id head env).sinks =
      offer env.raises (m.nextAnchor id head env.now).toDict (m.state id).pendingGap m.sinks := by
  unfold emit
  dsimp only
  split <;> rfl

/-- A commit is one offer too. -/
lemma emitPolicyCommit_sinks (m : AnchorManager) (c : QueuedCommit) (env : EmitEnv) :
    (m.emitPolicyCommit c env).2.sinks =
      offer env.raises (m.nextCommit c env.now).toDict none m.sinks := by
  unfold emitPolicyCommit
  dsimp only
  split <;> rfl

/-- An attempt grows the logs. -/
lemma emit_grows (m : AnchorManager) (id : String) (head : Nat × String) (env : EmitEnv) :
    m.Grows (m.emit id head env) :=
  grows_of_offer _ _ _ (m.emit_sinks id head env)

lemma emitPolicyCommit_grows (m : AnchorManager) (c : QueuedCommit) (env : EmitEnv) :
    m.Grows (m.emitPolicyCommit c env).2 :=
  grows_of_offer _ _ _ (m.emitPolicyCommit_sinks c env)

lemma drainQueue_grows (env : Nat → EmitEnv) (k : Nat) (m : AnchorManager)
    (queue : List QueuedCommit) : m.Grows (drainQueue env k m queue).1 := by
  induction queue generalizing k m with
  | nil => exact .refl m
  | cons c queue ih => exact (emitPolicyCommit_grows m c (env k)).trans (ih (k + 1) _)

lemma drainPolicyCommits_grows (m : AnchorManager) (env : Nat → EmitEnv) :
    m.Grows (m.drainPolicyCommits env).2 :=
  (drainQueue_grows env 0 { m with policyQueue := [] } m.policyQueue).trans (grows_of_sinks_eq rfl)

lemma anchorChains_grows (force : Bool) (env : Nat → EmitEnv) (k : Nat) (m : AnchorManager)
    (chains : List (String × AuditChain)) : m.Grows (anchorChains force env k m chains) := by
  induction chains generalizing k m with
  | nil => exact .refl m
  | cons c chains ih =>
    obtain ⟨id, chain⟩ := c
    refine Grows.trans ?_ (ih (k + 1) _)
    split
    · exact m.emit_grows id chain.head (env k)
    · exact .refl m

lemma anchorDue_grows (m : AnchorManager) (force : Bool) (chains : List (String × AuditChain))
    (env : Nat → EmitEnv) : m.Grows (m.anchorDue force chains env) :=
  (m.drainPolicyCommits_grows env).trans (anchorChains_grows force _ 0 _ chains)

end AnchorManager

/-! ## Runs of a manager -/

inductive ManagerOp where
  | anchorDue (force : Bool) (chains : List (String × AuditChain)) (env : Nat → EmitEnv)
  | anchorPolicyCommit (tenantId digest canonicalJson : String)
  | drainPolicyCommits (env : Nat → EmitEnv)

variable [Platform]

/-- One call on the manager. -/
def managerStep (m : AnchorManager) : ManagerOp → AnchorManager
  | .anchorDue force chains env => m.anchorDue force chains env
  | .anchorPolicyCommit id digest canonicalJson => m.anchorPolicyCommit id digest canonicalJson
  | .drainPolicyCommits env => (m.drainPolicyCommits env).2

/-- What every attempt keeps, whatever is queued, every call keeps. -/
lemma managerStep_invariant {I : AnchorManager → Prop}
    (queue : ∀ m q, I m → I { m with policyQueue := q })
    (emit : ∀ m id head env, I m → I (m.emit id head env))
    (commit : ∀ m c env, I m → I (m.emitPolicyCommit c env).2)
    (m : AnchorManager) (op : ManagerOp) (inv : I m) : I (managerStep m op) := by
  have drainQueue : ∀ env k q m, I m → I (AnchorManager.drainQueue env k m q).1 := by
    intro env k q
    induction q generalizing k with
    | nil => exact fun _ inv => inv
    | cons c q ih => exact fun m inv => ih (k + 1) _ (commit m c (env k) inv)
  have drain : ∀ env m, I m → I (m.drainPolicyCommits env).2 := fun env m inv =>
    queue _ _ (drainQueue env 0 m.policyQueue _ (queue m [] inv))
  have chains : ∀ force env cs k m, I m → I (AnchorManager.anchorChains force env k m cs) := by
    intro force env cs
    induction cs with
    | nil => exact fun _ _ inv => inv
    | cons c cs ih =>
      intro k m inv
      refine ih (k + 1) _ ?_
      split
      · exact emit m c.1 c.2.head (env k) inv
      · exact inv
  cases op with
  | anchorDue force cs env => exact chains force _ cs 0 _ (drain env m inv)
  | anchorPolicyCommit id digest json => exact queue m _ inv
  | drainPolicyCommits env => exact drain env m inv

end Custos
