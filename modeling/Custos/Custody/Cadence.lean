import Custos.Custody.MultiTenant
import Mathlib.Tactic.NormNum

/-!
# The anchoring cadence

The anchoring loop wakes every `anchor_t` seconds and calls `anchor_due`, over chains that any tenants
append to in between. It anchors the tenants that have `anchor_n` records beyond their last anchor and no
others: how old a record is counts for nothing. So a tick leaves no tenant with `anchor_n` unanchored records,
and none with an overdue one exactly where the tenants with an overdue one were due by their number
(`cadence_iff`).
-/

namespace Custos

/-- The tenants, and the loop that anchors them. -/
structure Cadence where
  tenants : Tenants
  anchorT : ℚ
  /-- when the loop last woke -/
  woken : ℚ

namespace Cadence

/-- The tenant's records beyond its last anchor. -/
def unanchored (s : Cadence) (id : String) : List AuditRecord :=
  (s.tenants.chains id).records.drop (s.tenants.manager.state id).length.toNat

/-- At time `t` a record has been unanchored for `anchor_t` seconds or more. -/
def Overdue (s : Cadence) (t : ℚ) (id : String) : Prop :=
  ∃ r ∈ s.unanchored id, r.timestamp ≤ t - s.anchorT

/-- Every `anchor_n` records or `anchor_t` seconds, whichever comes first. -/
def OnTime (ids : List String) (s : Cadence) : Prop :=
  ∀ id ∈ ids, (s.unanchored id).length < s.tenants.manager.anchorN ∧ ¬ s.Overdue s.woken id

/-- The loop over the tenants' chains as they were loaded, and sinks that hold nothing yet. -/
def start (table : AuditTable) (chains : String → AuditChain) (sinks : List (String × Bool)) (anchorN : Int)
    (anchorT now : ℚ) : Cadence where
  tenants :=
    { table, chains, manager := .init (sinks.map fun (name, byReference) => { name, byReference }) [] anchorN }
  anchorT := max (1 / 20) anchorT
  woken := now

end Cadence

/-- The length at the tenant's last anchor that the sink holds. -/
def Sink.anchoredLength (sink : Sink) (id : String) : Int :=
  (((Custos.heads (sink.log.map (·.dict))).filter (·.tenantId = id)).getLast?.map (·.chainLength)).getD 0

inductive CadenceOp where
  /-- a record is appended to a tenant's chain -/
  | append (id : String) (env : RecordEnv) (a : RecordArgs)
  /-- the loop wakes -/
  | tick (env : Nat → EmitEnv)

/-- The sinks accept everything. -/
def CadenceOp.Accepts : CadenceOp → Prop
  | .append .. => True
  | .tick env => ∀ k i, (env k).raises i = none

section

variable [Platform]

/-- One step, with the registered tenants `ids`. -/
def cadenceStep (ids : List String) (s : Cadence) : CadenceOp → Cadence
  | .append id env a => { s with tenants := tenantStep ids s.tenants (.append id env a) }
  | .tick env =>
    { s with tenants := tenantStep ids s.tenants (.anchorDue false env), woken := s.woken + s.anchorT }

/-- After a tick every tenant is anchored on time. -/
def InTime (ids : List String) (s : Cadence) : CadenceOp → Prop
  | .append .. => True
  | .tick env => (cadenceStep ids s (.tick env)).OnTime ids

/-- At a tick the tenants with an overdue record have `anchor_n` unanchored ones. -/
def NoneSlow (ids : List String) (s : Cadence) : CadenceOp → Prop
  | .append .. => True
  | .tick _ => ∀ id ∈ ids, s.Overdue (s.woken + s.anchorT) id →
    s.tenants.manager.anchorN ≤ (s.unanchored id).length

/-! ## One tick -/

omit [Platform] in
/-- An anchor is the tenant's last, and no other tenant's. -/
lemma anchoredLength_accept (sink : Sink) (a : AnchorRecord) (ref : Option Nat) (id : String) :
    (sink.accept a.toDict ref).anchoredLength id =
      if a.tenantId = id then a.chainLength else sink.anchoredLength id := by
  have log : heads ((sink.accept a.toDict ref).log.map (·.dict)) = heads (sink.log.map (·.dict)) ++ [a] := by
    unfold Sink.accept
    rw [List.map_append, heads_append]
    rfl
  unfold Sink.anchoredLength
  rw [log, List.filter_append, List.filter_singleton]
  by_cases own : a.tenantId = id
  · simp [own]
  · simp [own]

/-- What the loop needs of the manager: a threshold that is one at least, no commit queued, and counters that
say what the sinks hold. -/
structure Counts (m : AnchorManager) : Prop where
  idle : m.policyQueue = []
  threshold : 1 ≤ m.anchorN
  counted : ∀ id, 0 ≤ (m.state id).length
  held : ∀ sink ∈ m.sinks, ∀ id, sink.anchoredLength id = (m.state id).length

/-- An attempt counts its tenant's records. -/
lemma Counts.emit {m : AnchorManager} (counts : Counts m) (id : String) (head : Nat × String) {env : EmitEnv}
    (acc : ∀ i, env.raises i = none) :
    Counts (m.emit id head env) ∧ (m.emit id head env).anchorN = m.anchorN ∧
      ∀ x, ((m.emit id head env).state x).length = if x = id then (head.1 : Int) else (m.state x).length := by
  rw [AnchorManager.emit_of_accepts fun i _ => acc i]
  have moved : ∀ x, (Function.update m.state id
      { epoch := (m.nextAnchor id head env.now).epoch, length := head.1
        anchorHash := (m.nextAnchor id head env.now).anchorHash
        lastAnchorUtc := some env.now, pendingGap := none } x).length =
      if x = id then (head.1 : Int) else (m.state x).length := by
    intro x
    by_cases own : x = id
    · subst own
      simp
    · simp [own]
  refine ⟨⟨counts.idle, counts.threshold, fun x => ?_, fun sink mem x => ?_⟩, rfl, moved⟩
  · rw [moved]
    split
    · exact Int.natCast_nonneg _
    · exact counts.counted x
  · obtain ⟨s, mem', rfl⟩ := List.mem_map.1 mem
    rw [moved, anchoredLength_accept, counts.held s mem' x]
    by_cases own : x = id
    · rw [if_pos own]
      exact if_pos own.symm
    · rw [if_neg own]
      exact if_neg (Ne.symm own)

/-- The loop of `anchor_due` moves the counters of the tenants that are due to their chains' lengths. -/
lemma Counts.anchorChains {m : AnchorManager} (counts : Counts m) (chains : String → AuditChain)
    {env : Nat → EmitEnv} (acc : ∀ k i, (env k).raises i = none) (k : Nat) (ids : List String) :
    let m' := AnchorManager.anchorChains false env k m (ids.map fun id => (id, chains id))
    Counts m' ∧ m'.anchorN = m.anchorN ∧ ∀ x, (m'.state x).length =
      if x ∈ ids ∧ m.due x (chains x).records.length then ((chains x).records.length : Int)
      else (m.state x).length := by
  induction ids generalizing m k with
  | nil => exact ⟨counts, rfl, by simp [AnchorManager.anchorChains]⟩
  | cons id ids ih =>
    rw [List.map_cons, AnchorManager.anchorChains, Bool.false_or]
    by_cases due : m.due id (chains id).head.1 = true
    · rw [if_pos due]
      obtain ⟨counts', n, moved⟩ := counts.emit id (chains id).head (acc k)
      obtain ⟨counts'', n', moved'⟩ := ih counts' (k + 1)
      refine ⟨counts'', n'.trans n, fun x => ?_⟩
      rw [moved' x, moved x]
      by_cases own : x = id
      · subst own
        have due : m.due x (chains x).records.length = true := due
        simp [due, AuditChain.head]
      · simp [own, AnchorManager.due, n, moved]
    · rw [if_neg due]
      obtain ⟨counts', n, moved⟩ := ih counts (k + 1)
      refine ⟨counts', n, fun x => ?_⟩
      rw [moved x]
      by_cases own : x = id
      · subst own
        have due : ¬ m.due x (chains x).records.length = true := due
        simp [due]
      · simp [own]

omit [Platform] in
/-- A tenant is due by the number of its unanchored records. -/
lemma due_iff {s : Cadence} (counts : Counts s.tenants.manager) (id : String) :
    s.tenants.manager.due id (s.tenants.chains id).records.length = true ↔
      s.tenants.manager.anchorN ≤ (s.unanchored id).length := by
  have threshold := counts.threshold
  have counted := counts.counted id
  rw [AnchorManager.due, decide_eq_true_iff, Cadence.unanchored, List.length_drop]
  omega

/-- A tick anchors the tenants that are due whole, and leaves the others as they were. -/
lemma tick_spec (ids : List String) {s : Cadence} (counts : Counts s.tenants.manager) {env : Nat → EmitEnv}
    (acc : ∀ k i, (env k).raises i = none) :
    let s' := cadenceStep ids s (.tick env)
    Counts s'.tenants.manager ∧ s'.tenants.manager.anchorN = s.tenants.manager.anchorN ∧
      ∀ id ∈ ids, s'.unanchored id =
        if s.tenants.manager.anchorN ≤ (s.unanchored id).length then [] else s.unanchored id := by
  have acc' : ∀ k i, (env (s.tenants.manager.policyQueue.length + k)).raises i = none := fun k => acc _
  obtain ⟨counts', n, moved⟩ := counts.anchorChains s.tenants.chains acc' 0 ids
  have manager : (cadenceStep ids s (.tick env)).tenants.manager =
      AnchorManager.anchorChains false (fun k => env (s.tenants.manager.policyQueue.length + k)) 0
        s.tenants.manager (ids.map fun id => (id, s.tenants.chains id)) := by
    rw [cadenceStep, tenantStep, AnchorManager.anchorDue, AnchorManager.drainPolicyCommits_of_idle counts.idle]
  refine ⟨manager ▸ counts', manager ▸ n, fun id mem => ?_⟩
  have at_tick : (cadenceStep ids s (.tick env)).unanchored id = (s.tenants.chains id).records.drop
      ((cadenceStep ids s (.tick env)).tenants.manager.state id).length.toNat := rfl
  rw [at_tick, manager, moved id]
  by_cases due : s.tenants.manager.anchorN ≤ (s.unanchored id).length
  · rw [if_pos due, if_pos ⟨mem, (due_iff counts id).2 due⟩, Int.toNat_natCast, List.drop_length]
  · rw [if_neg due, if_neg fun h => due ((due_iff counts id).1 h.2)]
    rfl

/-- Every step keeps the counts. -/
lemma counts_step (ids : List String) {s : Cadence} (counts : Counts s.tenants.manager) {op : CadenceOp}
    (acc : op.Accepts) : Counts (cadenceStep ids s op).tenants.manager := by
  cases op with
  | append id env a => exact counts
  | tick env => exact (tick_spec ids counts acc).1

/-- A tick is on time exactly where no tenant below the threshold has an overdue record. -/
lemma inTime_iff (ids : List String) {s : Cadence} (counts : Counts s.tenants.manager) {op : CadenceOp}
    (acc : op.Accepts) : InTime ids s op ↔ NoneSlow ids s op := by
  cases op with
  | append id env a => exact Iff.rfl
  | tick env =>
    obtain ⟨-, n, left⟩ := tick_spec ids counts acc
    have threshold := counts.threshold
    have each : ∀ id ∈ ids, (((cadenceStep ids s (.tick env)).unanchored id).length <
        (cadenceStep ids s (.tick env)).tenants.manager.anchorN ∧
        ¬ (cadenceStep ids s (.tick env)).Overdue (cadenceStep ids s (.tick env)).woken id ↔
      (s.Overdue (s.woken + s.anchorT) id → s.tenants.manager.anchorN ≤ (s.unanchored id).length)) := by
      intro id mem
      rw [Cadence.Overdue, n, left id mem]
      by_cases due : s.tenants.manager.anchorN ≤ (s.unanchored id).length
      · rw [if_pos due]
        exact ⟨fun _ _ => due, fun _ => ⟨Int.lt_of_lt_of_le Int.zero_lt_one threshold, by simp⟩⟩
      · rw [if_neg due]
        exact ⟨fun h overdue => absurd overdue h.2, fun h => ⟨not_le.1 due, fun overdue => due (h overdue)⟩⟩
    constructor
    · exact fun onTime id mem => (each id mem).1 (onTime id mem)
    · exact fun none id mem => (each id mem).2 (none id mem)

/-! ## Runs -/

omit [Platform] in
/-- At the start nothing is counted. -/
lemma counts_start (table : AuditTable) (chains : String → AuditChain) (sinks : List (String × Bool))
    (anchorN : Int) (anchorT now : ℚ) :
    Counts (Cadence.start table chains sinks anchorN anchorT now).tenants.manager := by
  refine ⟨rfl, le_max_left _ _, fun _ => le_refl _, fun sink mem id => ?_⟩
  obtain ⟨_, -, rfl⟩ := List.mem_map.1 mem
  rfl

/-- In a run whose sinks accept everything, the counters say where each sink's last anchor of a tenant is, and
every tick anchors the tenants on time exactly when at each one the tenants with an overdue record have
`anchor_n` unanchored ones. -/
theorem cadence_iff (ids : List String) (table : AuditTable) (chains : String → AuditChain)
    (sinks : List (String × Bool)) (anchorN : Int) (anchorT now : ℚ) (ops : List CadenceOp)
    (acc : ∀ op ∈ ops, op.Accepts) :
    let s := Cadence.start table chains sinks anchorN anchorT now
    (∀ sink ∈ (run (cadenceStep ids) s ops).tenants.manager.sinks, ∀ id,
      sink.anchoredLength id = ((run (cadenceStep ids) s ops).tenants.manager.state id).length) ∧
    (Steps (cadenceStep ids) (InTime ids) s ops ↔ Steps (cadenceStep ids) (NoneSlow ids) s ops) := by
  intro s
  have counts := counts_start table chains sinks anchorN anchorT now
  have accept : Steps (cadenceStep ids) (fun _ op => op.Accepts) s ops := steps_of_forall acc
  constructor
  · exact (run_invariant_of_steps _ (I := fun s => Counts s.tenants.manager) counts
      (fun _ _ counts acc => counts_step ids counts acc) accept).held
  · exact steps_congr_of_steps (I := fun s => Counts s.tenants.manager) counts accept
      (fun _ _ counts acc => inTime_iff ids counts acc) fun _ _ counts acc _ => counts_step ids counts acc

end

section Sample

local instance cadencePlatform : Platform := .reference sampleAnchorDigests

/-- With `anchor_n` 50 and `anchor_t` 300, a record 100 seconds after the start and two ticks. -/
def slowOps : List CadenceOp :=
  [.append "acme" sampleEnv sampleArgs, .tick fun _ => sampleEmitEnv, .tick fun _ => sampleEmitEnv]

def slowStart : Cadence :=
  .start .empty (fun id => { records := [], tenantId := some id, backend := .SQLiteBackend }) [("git", false)] 50
    300 1699999900

lemma slowOps_accept : ∀ op ∈ slowOps, op.Accepts := by
  simp [slowOps, CadenceOp.Accepts, sampleEmitEnv]

theorem cadence_iff_sample :
    Steps (cadenceStep ["acme"]) (InTime ["acme"]) slowStart slowOps ↔
      Steps (cadenceStep ["acme"]) (NoneSlow ["acme"]) slowStart slowOps :=
  (cadence_iff ["acme"] .empty _ [("git", false)] 50 300 1699999900 slowOps slowOps_accept).2

/-- At the second tick the record is 500 seconds old, and no sink has an anchor of it. -/
theorem slow_tenant_unanchored :
    (∀ op ∈ slowOps, op.Accepts) ∧ ¬ Steps (cadenceStep ["acme"]) (InTime ["acme"]) slowStart slowOps := by
  refine ⟨slowOps_accept, fun ⟨_, _, second, _⟩ => ?_⟩
  have times : ((run (cadenceStep ["acme"]) slowStart slowOps).unanchored "acme").map (·.timestamp) =
      [1700000000] := by decide +kernel
  obtain ⟨r, one, timestamp⟩ := List.map_eq_singleton_iff.1 times
  refine (second "acme" (.head _)).2 ⟨r, ?_, ?_⟩
  · exact one ▸ .head _
  · rw [timestamp]
    norm_num [cadenceStep, slowStart, Cadence.start, tenantStep]

end Sample

end Custos
