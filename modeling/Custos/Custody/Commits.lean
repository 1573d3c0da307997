import Custos.Custody.Manager
import Custos.Custody.Verify

/-!
# Policy commits

What becomes of the commitments a manager queues. A digest is *committed* for a tenant when every sink
has accepted a commit of it; nothing a manager does takes that back (`managerStep_committed`), and a
drain that every sink accepts commits all that was queued (`drainPolicyCommits_of_accepts`). What is
committed is anchored for the re-walk, in every log that holds what some sink gives back, unless a git sink
has let a later record into the commit's file.

With one sink no commit is lost and none is made up: what the sink receives and what is queued is what was
queued, whatever the sink refuses (`Delivers`).
-/

namespace Custos

/-- Every sink has accepted a commit of the digest for the tenant. -/
def Committed (m : AnchorManager) (tenantId digest : String) : Prop :=
  ∀ sink ∈ m.sinks, ∃ h ∈ sink.log,
    h.dict.isPolicyCommit = true ∧ h.dict.tenantId = tenantId ∧ h.dict.headHash = digest

instance (m : AnchorManager) (tenantId digest : String) : Decidable (Committed m tenantId digest) :=
  inferInstanceAs (Decidable (∀ sink ∈ m.sinks, ∃ h ∈ sink.log, _))

/-- What is committed stays committed. -/
def Keeps (m m' : AnchorManager) : Prop :=
  ∀ tenantId digest, Committed m tenantId digest → Committed m' tenantId digest

lemma Keeps.trans {m m' m'' : AnchorManager} (k : Keeps m m') (k' : Keeps m' m'') : Keeps m m'' :=
  fun id dg h => k' id dg (k id dg h)

/-- An offer keeps the logs. -/
lemma keeps_of_offer {m m' : AnchorManager} {raises : Nat → Option String} {dict : AnchorDict}
    {ref : Option Nat} (e : m'.sinks = offer raises dict ref m.sinks) : Keeps m m' := by
  intro id dg committed sink mem
  rw [e] at mem
  obtain ⟨i, s, hs, rfl⟩ := mem_offer mem
  obtain ⟨h, hh, commit⟩ := committed s (List.mem_of_getElem? hs)
  refine ⟨h, ?_, commit⟩
  split
  · exact List.mem_append_left _ hh
  · exact hh

/-- A record that a sink holds reads as the commit it was. -/
lemma Held.read_commit (gaps : List Gap) (h : Held) :
    (h.read gaps).isPolicyCommit = h.dict.isPolicyCommit ∧
      (h.read gaps).tenantId = h.dict.tenantId ∧ (h.read gaps).headHash = h.dict.headHash := by
  unfold Held.read
  split <;> exact ⟨rfl, rfl, rfl⟩

/-- No record of the log went to the file of an earlier policy commit, and the commits' directories lie in
`anchors/`. -/
structure CommitsLast (repo : String) (log : List AnchorDict) : Prop where
  last : log.Pairwise fun d d' => d.isPolicyCommit →
    GitAnchorSink.anchorPath repo d' ≠ GitAnchorSink.anchorPath repo d
  inside : ∀ d ∈ log, d.isPolicyCommit →
    GitAnchorSink.anchorsDir repo <+: GitAnchorSink.tenantDir repo d.tenantId

/-- A git sink gives back every commit that no later record overwrote. -/
lemma CommitsLast.mem_loadAnchors {repo : String} {log : List AnchorDict} (kept : CommitsLast repo log)
    {d : AnchorDict} (mem : d ∈ log) (commit : d.isPolicyCommit = true) :
    d ∈ GitAnchorSink.loadAnchors repo (GitAnchorSink.filesOf repo log) := by
  obtain ⟨pre, post, rfl⟩ := List.append_of_mem mem
  have after := (List.pairwise_cons.1 (List.pairwise_append.1 kept.last).2.1).1
  exact GitAnchorSink.mem_loadAnchors_filesOf.2
    ⟨kept.inside d mem commit, pre, post, rfl, fun x hx => after x hx commit⟩

/-- What is committed is anchored in every log that holds what a sink gives back. -/
lemma Committed.anchored {m : AnchorManager} {id dg : String} (committed : Committed m id dg)
    {sink : Sink} (mem : sink ∈ m.sinks)
    (kept : ∀ repo, sink.repo = some repo → CommitsLast repo (sink.log.map (·.dict)))
    {log : List AnchorDict} (holds : sink.readBack m.gaps ⊆ log) : Anchored (policyCommits log) id dg := by
  obtain ⟨h, hh, kind, tenant, digest⟩ := committed sink mem
  unfold Sink.readBack at holds
  cases clone : sink.repo with
  | none =>
    rw [clone] at holds
    obtain ⟨kind', tenant', digest'⟩ := h.read_commit m.gaps
    refine ⟨h.read m.gaps, List.mem_filter.2 ⟨holds (List.mem_map_of_mem hh), ?_⟩, ?_, ?_⟩
    · rw [kind', kind]
    · rw [tenant', tenant]
    · rw [digest', digest]
  | some repo =>
    rw [clone] at holds
    have back := (kept repo clone).mem_loadAnchors (List.mem_map_of_mem hh) kind
    exact ⟨h.dict, List.mem_filter.2 ⟨holds back, kind⟩, tenant, digest⟩

/-- Every attempt is accepted by every sink. -/
def Accepting (emit : Nat → EmitEnv) : Prop := ∀ k i, (emit k).raises i = none

variable [Platform]

/-- An attempt keeps them. -/
lemma emit_keeps (m : AnchorManager) (id : String) (head : Nat × String) (env : EmitEnv) :
    Keeps m (m.emit id head env) :=
  keeps_of_offer (m.emit_sinks id head env)

lemma emitPolicyCommit_keeps (m : AnchorManager) (c : QueuedCommit) (env : EmitEnv) :
    Keeps m (m.emitPolicyCommit c env).2 :=
  keeps_of_offer (m.emitPolicyCommit_sinks c env)

/-- No call on the manager takes a commit back. -/
lemma managerStep_committed {id dg : String} (m : AnchorManager) (op : ManagerOp)
    (committed : Committed m id dg) : Committed (managerStep m op) id dg :=
  managerStep_invariant (I := fun m => Committed m id dg) (fun _ _ h => h)
    (fun m t head env h => emit_keeps m t head env id dg h)
    (fun m c env h => emitPolicyCommit_keeps m c env id dg h) m op committed

/-- An attempt every sink accepts lands and commits its digest. -/
lemma emitPolicyCommit_of_accepts {m : AnchorManager} {c : QueuedCommit} {env : EmitEnv}
    (acc : ∀ i, env.raises i = none) :
    (m.emitPolicyCommit c env).1 = true ∧
      (m.emitPolicyCommit c env).2.policyQueue = m.policyQueue ∧
      Committed (m.emitPolicyCommit c env).2 c.tenantId c.digest := by
  have accepts : env.Accepts m.sinks := fun i _ => acc i
  have none : offerErrors env.raises m.sinks = [] := offerErrors_eq_nil.2 accepts
  unfold AnchorManager.emitPolicyCommit
  simp only [none, ne_eq, not_true_eq_false, if_false, offer_of_accepts accepts]
  refine ⟨trivial, trivial, fun sink mem => ?_⟩
  obtain ⟨s, -, rfl⟩ := List.mem_map.1 mem
  exact ⟨_, List.mem_append_right _ (List.mem_singleton_self _), rfl, rfl, rfl⟩

/-- A queue is drained whole where the sinks accept. -/
lemma drainQueue_of_accepts {emit : Nat → EmitEnv} (acc : Accepting emit) (k : Nat)
    (m : AnchorManager) (queue : List QueuedCommit) :
    (AnchorManager.drainQueue emit k m queue).2 = [] ∧
      (AnchorManager.drainQueue emit k m queue).1.policyQueue = m.policyQueue ∧
      Keeps m (AnchorManager.drainQueue emit k m queue).1 ∧
      ∀ c ∈ queue, Committed (AnchorManager.drainQueue emit k m queue).1 c.tenantId c.digest := by
  induction queue generalizing k m with
  | nil => exact ⟨rfl, rfl, fun _ _ h => h, by simp⟩
  | cons c queue ih =>
    obtain ⟨landed, kept, committed⟩ := emitPolicyCommit_of_accepts (m := m) (c := c) (acc k)
    obtain ⟨failed, queued, keeps, rest⟩ := ih (k + 1) (m.emitPolicyCommit c (emit k)).2
    unfold AnchorManager.drainQueue
    simp only [landed, if_true]
    refine ⟨failed, queued.trans kept, (emitPolicyCommit_keeps m c (emit k)).trans keeps, ?_⟩
    rintro c' (_ | ⟨_, mem⟩)
    · exact keeps _ _ committed
    · exact rest c' mem

/-- A drain every sink accepts empties the queue and commits what was in it. -/
lemma drainPolicyCommits_of_accepts {emit : Nat → EmitEnv} (acc : Accepting emit)
    (m : AnchorManager) :
    (m.drainPolicyCommits emit).1 = true ∧ (m.drainPolicyCommits emit).2.policyQueue = [] ∧
      Keeps m (m.drainPolicyCommits emit).2 ∧
      ∀ c ∈ m.policyQueue, Committed (m.drainPolicyCommits emit).2 c.tenantId c.digest := by
  obtain ⟨failed, queued, keeps, all⟩ :=
    drainQueue_of_accepts acc 0 { m with policyQueue := [] } m.policyQueue
  unfold AnchorManager.drainPolicyCommits
  simp only [failed, queued, List.append_nil]
  exact ⟨by simp, trivial, keeps, all⟩

/-- The anchors of the chains leave the queue. -/
lemma anchorChains_policyQueue (force : Bool) (emit : Nat → EmitEnv) (k : Nat) (m : AnchorManager)
    (chains : List (String × AuditChain)) :
    (AnchorManager.anchorChains force emit k m chains).policyQueue = m.policyQueue := by
  induction chains generalizing k m with
  | nil => rfl
  | cons c chains ih =>
    rw [AnchorManager.anchorChains, ih]
    split
    · exact m.emit_policyQueue ..
    · rfl

/-- A tick every sink accepts leaves nothing queued. -/
lemma anchorDue_policyQueue {emit : Nat → EmitEnv} (acc : Accepting emit) (force : Bool)
    (m : AnchorManager) (chains : List (String × AuditChain)) :
    (m.anchorDue force chains emit).policyQueue = [] := by
  rw [AnchorManager.anchorDue, anchorChains_policyQueue]
  exact (drainPolicyCommits_of_accepts acc m).2.1

/-! ## One sink -/

omit [Platform] in
/-- The tenant and the digest a queued commit is of. -/
def QueuedCommit.key (c : QueuedCommit) : String × String := (c.tenantId, c.digest)

omit [Platform] in
/-- The tenant and the digest of a commit; a head anchor has none. -/
def AnchorDict.commitKey (d : AnchorDict) : Option (String × String) :=
  if d.isPolicyCommit then some (d.tenantId, d.headHash) else none

omit [Platform] in
/-- The tenant and the digest of a commit that a sink holds. -/
def Held.commitKey (h : Held) : Option (String × String) := h.dict.commitKey

omit [Platform] in
/-- What the sinks hold. -/
def AnchorManager.log (m : AnchorManager) : List Held := m.sinks.flatMap (·.log)

omit [Platform] in
/-- The one sink receives some of what was queued or is queued now, and the rest stays queued. -/
structure Delivers (m m' : AnchorManager) (added : List (String × String)) : Prop where
  one : ∃ sink, m'.sinks = [sink]
  moved : ∃ new, m'.log = m.log ++ new ∧
    (new.filterMap Held.commitKey ++ m'.policyQueue.map QueuedCommit.key).Perm
      (m.policyQueue.map QueuedCommit.key ++ added)

namespace Delivers

variable {m m' m'' : AnchorManager} {added added' : List (String × String)}

omit [Platform] in
lemma refl (one : ∃ sink, m.sinks = [sink]) : Delivers m m [] :=
  ⟨one, [], (List.append_nil _).symm, by simp⟩

omit [Platform] in
/-- What is delivered by two steps. -/
lemma trans (d : Delivers m m' added) (d' : Delivers m' m'' added') : Delivers m m'' (added ++ added') := by
  obtain ⟨new, log, perm⟩ := d.moved
  obtain ⟨new', log', perm'⟩ := d'.moved
  refine ⟨d'.one, new ++ new', by rw [log', log, List.append_assoc], ?_⟩
  rw [List.filterMap_append, List.append_assoc, ← List.append_assoc _ added added']
  refine (perm'.append_left _).trans ?_
  rw [← List.append_assoc]
  exact perm.append_right added'

omit [Platform] in
/-- A commit that is queued is to be delivered. -/
lemma queued (one : ∃ sink, m.sinks = [sink]) (id dg canonicalJson : String) :
    Delivers m (m.anchorPolicyCommit id dg canonicalJson) [(id, dg)] := by
  refine ⟨one, [], (List.append_nil _).symm, ?_⟩
  simp [AnchorManager.anchorPolicyCommit, QueuedCommit.key]

end Delivers

omit [Platform] in
/-- What one sink receives of an offer. -/
lemma log_of_offer {m m' : AnchorManager} (one : ∃ sink, m.sinks = [sink]) {raises : Nat → Option String}
    {dict : AnchorDict} {ref : Option Nat} (e : m'.sinks = offer raises dict ref m.sinks) :
    (∃ sink, m'.sinks = [sink]) ∧ ∃ new, m'.log = m.log ++ new ∧
      new.filterMap Held.commitKey = if raises 0 = none then dict.commitKey.toList else [] := by
  obtain ⟨sink, one⟩ := one
  have offered : m'.sinks = [if (raises 0).isNone then sink.accept dict ref else sink] := by
    rw [e, one]
    rfl
  refine ⟨⟨_, offered⟩, ?_⟩
  unfold AnchorManager.log
  rw [offered, one, List.flatMap_singleton, List.flatMap_singleton]
  cases raises 0 with
  | none =>
    refine ⟨[⟨dict, if sink.byReference then ref else none⟩], rfl, ?_⟩
    rw [if_pos rfl]
    cases key : dict.commitKey <;> simp [Held.commitKey, key]
  | some e => exact ⟨[], (List.append_nil _).symm, rfl⟩

/-- One sink receives a commit and it lands, or it refuses it and it does not. -/
lemma emitPolicyCommit_one {m : AnchorManager} (one : ∃ sink, m.sinks = [sink]) (c : QueuedCommit)
    (env : EmitEnv) :
    let out := m.emitPolicyCommit c env
    out.2.policyQueue = m.policyQueue ∧ (∃ sink', out.2.sinks = [sink']) ∧
      ∃ new, out.2.log = m.log ++ new ∧ new.filterMap Held.commitKey = if out.1 then [c.key] else [] := by
  obtain ⟨one', new, log, keys⟩ := log_of_offer one (m.emitPolicyCommit_sinks c env)
  have landed : (m.emitPolicyCommit c env).1 = true ↔ env.raises 0 = none := by
    obtain ⟨sink, one⟩ := one
    have errors : offerErrors env.raises m.sinks = [] ↔ env.raises 0 = none := by
      rw [offerErrors_eq_nil, one, List.length_singleton]
      exact ⟨fun all => all 0 Nat.zero_lt_one, fun none i lt => by rw [Nat.lt_one_iff.1 lt, none]⟩
    rw [← errors]
    unfold AnchorManager.emitPolicyCommit
    dsimp only
    split <;> simp_all
  refine ⟨?_, one', new, log, ?_⟩
  · unfold AnchorManager.emitPolicyCommit
    dsimp only
    split <;> rfl
  · simp only [landed, keys]
    rfl

/-- The loop of a drain: what does not land has failed. -/
lemma drainQueue_one (emit : Nat → EmitEnv) (k : Nat) {m : AnchorManager} (one : ∃ sink, m.sinks = [sink])
    (queue : List QueuedCommit) :
    let out := AnchorManager.drainQueue emit k m queue
    out.1.policyQueue = m.policyQueue ∧ (∃ sink, out.1.sinks = [sink]) ∧
      ∃ new, out.1.log = m.log ++ new ∧
        (new.filterMap Held.commitKey ++ out.2.map QueuedCommit.key).Perm (queue.map QueuedCommit.key) := by
  induction queue generalizing k m with
  | nil => exact ⟨rfl, one, [], (List.append_nil _).symm, .nil⟩
  | cons c queue ih =>
    obtain ⟨kept, one', new, log, keys⟩ := emitPolicyCommit_one one c (emit k)
    obtain ⟨kept', one'', new', log', perm⟩ := ih (k + 1) one'
    rw [AnchorManager.drainQueue]
    refine ⟨kept'.trans kept, one'', new ++ new', by rw [log', log, List.append_assoc], ?_⟩
    rw [List.filterMap_append, keys, List.map_cons]
    by_cases landed : (m.emitPolicyCommit c (emit k)).1 = true
    · simp only [landed, if_true, List.cons_append, List.nil_append]
      exact perm.cons _
    · simp only [landed, Bool.false_eq_true, if_false, List.nil_append, List.map_cons]
      exact List.perm_middle.trans (perm.cons _)

/-- A drain loses nothing of what is to be delivered. -/
lemma drainPolicyCommits_one (emit : Nat → EmitEnv) {m : AnchorManager} (one : ∃ sink, m.sinks = [sink]) :
    Delivers m (m.drainPolicyCommits emit).2 [] := by
  obtain ⟨idle, one', new, log, perm⟩ :=
    drainQueue_one emit 0 (m := { m with policyQueue := [] }) one m.policyQueue
  refine ⟨one', new, log, ?_⟩
  rw [AnchorManager.drainPolicyCommits, List.append_nil]
  dsimp only
  rwa [idle, List.append_nil]

/-- Head anchors are no commits. -/
lemma anchorChains_one (force : Bool) (emit : Nat → EmitEnv) (k : Nat) {m : AnchorManager}
    (one : ∃ sink, m.sinks = [sink]) (chains : List (String × AuditChain)) :
    Delivers m (AnchorManager.anchorChains force emit k m chains) [] := by
  induction chains generalizing k m with
  | nil => exact .refl one
  | cons c chains ih =>
    rw [AnchorManager.anchorChains]
    have attempt : Delivers m (m.emit c.1 c.2.head (emit k)) [] := by
      obtain ⟨one', new, log, keys⟩ := log_of_offer one (m.emit_sinks c.1 c.2.head (emit k))
      refine ⟨one', new, log, ?_⟩
      have none : new.filterMap Held.commitKey = [] := by
        rw [keys]
        split <;> rfl
      rw [none, m.emit_policyQueue, List.nil_append, List.append_nil]
    split
    · exact attempt.trans (ih (k + 1) attempt.one)
    · exact ih (k + 1) one

lemma anchorDue_one (force : Bool) (emit : Nat → EmitEnv) {m : AnchorManager} (one : ∃ sink, m.sinks = [sink])
    (chains : List (String × AuditChain)) : Delivers m (m.anchorDue force chains emit) [] :=
  have drained := drainPolicyCommits_one emit one
  drained.trans (anchorChains_one force _ 0 drained.one chains)

end Custos
