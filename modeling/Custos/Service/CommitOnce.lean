import Custos.Service.Freshness

/-!
# One commit for one policy

The gate queues a commit of the policy it cites whenever that is not the one it has marked as anchored, and it
marks it only if the drain that follows lands everything that is queued. Until then every evaluation queues the
commit again, although the manager keeps what failed and tries it again by itself. With one sink, what it has
received of a tenant's digest since the digest last changed and what is still queued grows by one with each
such evaluation, whatever the sink refuses (`commits_of_step`). So each policy is committed once exactly when no
evaluation finds the commit it is about to queue queued or received (`committedOnce_iff`).
-/

namespace Custos

/-! ## The process -/

inductive CommitOp where
  /-- an operation of the gate, or one that changes a policy; attempt `k` of its drain meets `emit k` -/
  | gate (emit : Nat → EmitEnv) (op : GateOp)
  | register (now : ℚ) (tenantId : String) (quota : QuotaConfig)
  | drain (emit : Nat → EmitEnv)
  | anchorDue (force : Bool) (tenantIds : List String) (emit : Nat → EmitEnv)

/-- The operation in a process with this environment. -/
def GateOp.within (environ : Environ) : GateOp → GateOp
  | .evaluateAction env id action clientId traceId => .evaluateAction { env with environ } id action clientId traceId
  | .recordReconciliation env id clientId traceId rule reason content =>
    .recordReconciliation { env with environ } id clientId traceId rule reason content
  | op => op

/-- The process, and of each tenant what the sinks have received since its policy digest last changed. No
function reads the second: it is there to be spoken of. -/
structure Committing where
  service : Service AnchorManager
  received : String → List Held := fun _ => []

/-- The queue of the gate's custody manager. -/
def Service.commitQueue (s : Service AnchorManager) : List QueuedCommit := s.gate.custody.elim [] (·.policyQueue)

/-- What the sinks of the gate's custody manager hold. -/
def Service.custodyLog (s : Service AnchorManager) : List Held := s.gate.custody.elim [] (·.log)

/-- The commit the gate is about to queue, of a digest it has not marked as anchored. -/
def ActionGate.unmarked (g : ActionGate AnchorManager) (id : String) (digest : Option String) :
    Option (String × String) :=
  digest.bind fun dg => if g.lastAnchoredDigest id = some dg then none else some (id, dg)

/-- A new custody manager over one sink, behind the gate of a process. -/
def Committing.start (tenants : TenantManager) (gate : ActionGate AnchorManager) (stores : Stores) (sink : Sink)
    (gaps : List Gap) (anchorN : Int) : Committing where
  service := { tenants, gate := { gate with custody := some (.init [sink] gaps anchorN) }, stores }

section

variable [Platform]

/-- One step of the process with this environment. -/
def Service.commitStep [Regex] (environ : Environ) (s : Service AnchorManager) : CommitOp → Service AnchorManager
  | .gate emit op => gateStep (custodyHooks emit) s (op.within environ)
  | .register now id quota => serviceStep s (.register environ now id quota)
  | .drain emit =>
    { s with gate := { s.gate with custody := s.gate.custody.map fun m => (m.drainPolicyCommits emit).2 } }
  | .anchorDue force ids emit => serviceStep s (.anchorDue force ids emit)

def commitStep [Regex] (environ : Environ) (c : Committing) (op : CommitOp) : Committing where
  service := c.service.commitStep environ op
  received id :=
    if ((c.service.commitStep environ op).citedPolicyDigest environ id).1 =
        (c.service.citedPolicyDigest environ id).1 then
      c.received id ++ (c.service.commitStep environ op).custodyLog.drop c.service.custodyLog.length
    else []

/-- The commit the operation queues, if it does. -/
def Service.queues (environ : Environ) (s : Service AnchorManager) : CommitOp → Option (String × String)
  | .gate _ (.evaluateAction _ id _ _ _) => s.gate.unmarked id (s.citedPolicyDigest environ id).1
  | _ => none

/-- The commit an operation is about to queue is not queued, and has not been received since the tenant's digest
last changed. -/
def QueuesNew (environ : Environ) (c : Committing) (op : CommitOp) : Prop :=
  ∀ key, c.service.queues environ op = some key →
    key ∉ c.service.commitQueue.map QueuedCommit.key ∧ key ∉ (c.received key.1).filterMap Held.commitKey

/-- Each policy is committed once: no commit is queued twice, and of the tenant's digest at most one commit has
been received since it last changed. -/
structure CommittedOnce (environ : Environ) (c : Committing) : Prop where
  queue : (c.service.commitQueue.map QueuedCommit.key).Nodup
  received : ∀ id dg, (c.service.citedPolicyDigest environ id).1 = some dg →
    ((c.received id).filterMap Held.commitKey).count (id, dg) ≤ 1

/-! ## What the gate cites -/

variable {γ : Type}

/-- What is cited is read off the allowlists and the cache. -/
lemma ActionGate.citedPolicyDigest_congr {g g' : ActionGate γ} (tools : g.toolAllowlists = g'.toolAllowlists)
    (cache : g.digestCache = g'.digestCache) (environ : Environ) (id : String) (e : Engine) :
    (g.citedPolicyDigest environ id e).1 = (g'.citedPolicyDigest environ id e).1 := by
  unfold citedPolicyDigest ActionGate.tools
  dsimp only
  rw [tools, cache]
  cases g'.digestCache id with
  | none => rfl
  | some entry =>
    dsimp only
    split_ifs <;> rfl

/-- What has been cited is cited again. -/
lemma ActionGate.citedPolicyDigest_again (g : ActionGate γ) (environ : Environ) (id : String) (e : Engine) :
    ((g.citedPolicyDigest environ id e).2.citedPolicyDigest environ id e).1 = (g.citedPolicyDigest environ id e).1 := by
  by_cases hits : g.Hits environ id e
  · obtain ⟨entry, -, -, eq⟩ := citedPolicyDigest_of_hits hits
    rw [eq]
    exact congrArg Prod.fst eq
  · rw [citedPolicyDigest_of_not_hits hits]
    dsimp only
    have again : ActionGate.Hits { g with
        digestCache := Function.update g.digestCache id (some (g.key environ id e, g.inForce environ id e)) }
        environ id e := by
      unfold Hits
      dsimp only
      rw [Function.update_self]
      rfl
    obtain ⟨entry, cached, -, eq⟩ := citedPolicyDigest_of_hits again
    rw [eq]
    dsimp only at cached ⊢
    rw [Function.update_self] at cached
    exact congrArg Prod.snd (Option.some.inj cached).symm

/-- A registered tenant's digest is cited for its engine. -/
lemma citedPolicyDigest_of_known {s : Service γ} {id : String} {ctx : TenantContext}
    (known : s.tenants.getStrict id = some ctx) (environ : Environ) :
    (s.citedPolicyDigest environ id).1 = (s.gate.citedPolicyDigest environ id ctx.policyEngine).1 := by
  unfold Service.citedPolicyDigest
  rw [known]

/-- An evaluation leaves what the gate cites for its tenant. -/
lemma evaluateAction_cites [Regex] (hooks : CustodyHooks γ) (s : Service γ) (env : GateEnv) (id : String)
    (action : ActionRequest) (clientId : String) (traceId : Option String) :
    ((s.evaluateAction hooks env id action clientId traceId).2.citedPolicyDigest env.environ id).1 =
      (s.citedPolicyDigest env.environ id).1 := by
  have cited := evaluateAction_cited hooks s env id action clientId traceId
  generalize (s.evaluateAction hooks env id action clientId traceId).2 = s' at cited ⊢
  cases cited with
  | unknown none => rfl
  | known ctx ctx' gate stores known engine tools cache _ =>
    have known' : (s.tenants.setContext id ctx').getStrict id = some ctx' := by
      rw [TenantManager.getStrict, TenantManager.setContext_tenants, Function.update_self]
    rw [citedPolicyDigest_of_known known, citedPolicyDigest_of_known known', engine, ← s.gate.citedPolicyDigest_again env.environ id ctx.policyEngine]
    refine ActionGate.citedPolicyDigest_congr (tools.trans ?_) cache env.environ id ctx.policyEngine
    obtain ⟨_, same⟩ := s.gate.citedPolicyDigest_gate env.environ id ctx.policyEngine
    rw [same]

/-- What a step does to the gate. -/
lemma gate_of_commitStep [Regex] (environ : Environ) {s : Service AnchorManager} (emit : Nat → EmitEnv) (env : GateEnv)
    {id : String} {ctx : TenantContext} (known : s.tenants.getStrict id = some ctx) (action : ActionRequest)
    (clientId : String) (traceId : Option String) :
    (s.commitStep environ (.gate emit (.evaluateAction env id action clientId traceId))).gate =
      (s.gate.citedPolicyDigest environ id ctx.policyEngine).2.maybeAnchorPolicyCommit (custodyHooks emit) environ id
        ctx.policyEngine (s.gate.citedPolicyDigest environ id ctx.policyEngine).1 :=
  Service.gate_of_evaluateAction (custodyHooks emit) { env with environ } known action clientId traceId

/-! ## What one step delivers -/

omit [Platform] in
/-- The process has a custody manager over one sink. -/
def OneSink (s : Service AnchorManager) : Prop := ∃ m, s.gate.custody = some m ∧ ∃ sink, m.sinks = [sink]

/-- Anchoring queues the commit and drains. -/
lemma maybeAnchor_delivers {g : ActionGate AnchorManager} {m : AnchorManager} (custody : g.custody = some m)
    (one : ∃ sink, m.sinks = [sink]) (emit : Nat → EmitEnv) (environ : Environ) (id : String) (e : Engine)
    (digest : Option String) :
    ∃ m', (g.maybeAnchorPolicyCommit (custodyHooks emit) environ id e digest).custody = some m' ∧
      Delivers m m' (g.unmarked id digest).toList := by
  unfold ActionGate.maybeAnchorPolicyCommit ActionGate.unmarked
  rw [custody]
  cases digest with
  | none => exact ⟨m, custody, .refl one⟩
  | some dg =>
    dsimp only [Option.bind_some]
    by_cases marked : g.lastAnchoredDigest id = some dg
    · rw [if_pos marked, if_pos marked]
      exact ⟨m, custody, .refl one⟩
    · rw [if_neg marked, if_neg marked]
      have queued := Delivers.queued one id dg (engineCitationBytes (g.tools id) e.citationRules e.kind
        (e.opaPolicyDigest environ))
      have drained := queued.trans (drainPolicyCommits_one emit queued.one)
      simp only [custodyHooks]
      cases landed : ((m.anchorPolicyCommit id dg (engineCitationBytes (g.tools id) e.citationRules e.kind
          (e.opaPolicyDigest environ))).drainPolicyCommits emit).1 <;> exact ⟨_, rfl, drained⟩

/-- An evaluation queues what the gate has not marked, and drains. -/
lemma evaluateAction_delivers [Regex] {s : Service AnchorManager} {m : AnchorManager}
    (custody : s.gate.custody = some m) (one : ∃ sink, m.sinks = [sink]) (emit : Nat → EmitEnv) (env : GateEnv)
    (id : String) (action : ActionRequest) (clientId : String) (traceId : Option String) :
    ∃ m', (s.evaluateAction (custodyHooks emit) env id action clientId traceId).2.gate.custody = some m' ∧
      Delivers m m' (s.gate.unmarked id (s.citedPolicyDigest env.environ id).1).toList := by
  cases known : s.tenants.getStrict id with
  | none =>
    rw [Service.evaluateAction_of_unknown (custodyHooks emit) env known, Service.citedPolicyDigest, known]
    exact ⟨m, custody, .refl one⟩
  | some ctx =>
    obtain ⟨_, same⟩ := s.gate.citedPolicyDigest_gate env.environ id ctx.policyEngine
    have held : (s.gate.citedPolicyDigest env.environ id ctx.policyEngine).2.custody = some m := by
      rw [same]
      exact custody
    have marks : (s.gate.citedPolicyDigest env.environ id ctx.policyEngine).2.unmarked = s.gate.unmarked := by
      rw [same]
      rfl
    rw [Service.gate_of_evaluateAction (custodyHooks emit) env known, citedPolicyDigest_of_known known, ← marks]
    exact maybeAnchor_delivers held one emit env.environ id ctx.policyEngine _

/-- An operation delivers what was queued and what it queues, or leaves it queued. -/
lemma commitStep_delivers [Regex] (environ : Environ) {s : Service AnchorManager} {m : AnchorManager}
    (custody : s.gate.custody = some m) (one : ∃ sink, m.sinks = [sink]) (op : CommitOp) :
    ∃ m', (s.commitStep environ op).gate.custody = some m' ∧ Delivers m m' (s.queues environ op).toList := by
  have idle : Delivers m m [] := .refl one
  cases op with
  | register now id quota => exact ⟨m, custody, idle⟩
  | drain emit =>
    refine ⟨(m.drainPolicyCommits emit).2, ?_, drainPolicyCommits_one emit one⟩
    show s.gate.custody.map _ = _
    rw [custody]
    rfl
  | anchorDue force ids emit =>
    refine ⟨m.anchorDue force (s.tenants.chains ids) emit, ?_, anchorDue_one force emit one _⟩
    show s.gate.custody.map _ = _
    rw [custody]
    rfl
  | gate emit op =>
    cases op with
    | registerTools id tools => exact ⟨m, custody, idle⟩
    | addRule id rule => exact ⟨m, custody, idle⟩
    | addPolicyRule fault id rule => exact ⟨m, custody, idle⟩
    | recordReconciliation env id clientId traceId rule reason content =>
      refine ⟨m, ?_, idle⟩
      show (s.recordReconciliation _ id clientId traceId rule reason content).2.gate.custody = _
      unfold Service.recordReconciliation
      cases s.tenants.getStrict id with
      | none => exact custody
      | some ctx =>
        obtain ⟨_, same⟩ := s.gate.citedPolicyDigest_gate environ id ctx.policyEngine
        dsimp only
        rw [same]
        exact custody
    | evaluateAction env id action clientId traceId =>
      exact evaluateAction_delivers custody one emit { env with environ } id action clientId traceId

/-! ## What is received or queued -/

/-- What a step makes of the queue, and of what a tenant's sink has received. -/
structure StepCommits (environ : Environ) (c c' : Committing) (added : List (String × String)) : Prop where
  queue : ∀ key, (c'.service.commitQueue.map QueuedCommit.key).count key ≤
    (c.service.commitQueue.map QueuedCommit.key ++ added).count key
  changed : ∀ id, (c'.service.citedPolicyDigest environ id).1 ≠ (c.service.citedPolicyDigest environ id).1 →
    c'.received id = []
  kept : ∀ id, (c'.service.citedPolicyDigest environ id).1 = (c.service.citedPolicyDigest environ id).1 → ∀ key,
    ((c'.received id).filterMap Held.commitKey ++ c'.service.commitQueue.map QueuedCommit.key).count key =
      ((c.received id).filterMap Held.commitKey ++ c.service.commitQueue.map QueuedCommit.key).count key +
        added.count key

/-- As long as the digest stays, what the sink has received of it and what is queued of it grow by what the
operation queues. -/
lemma commits_of_step [Regex] (environ : Environ) {c : Committing} (one : OneSink c.service) (op : CommitOp) :
    OneSink (commitStep environ c op).service ∧
      StepCommits environ c (commitStep environ c op) (c.service.queues environ op).toList := by
  obtain ⟨m, custody, sink⟩ := one
  obtain ⟨m', custody', delivers⟩ := commitStep_delivers environ custody sink op
  obtain ⟨new, log, perm⟩ := delivers.moved
  have queue : c.service.commitQueue = m.policyQueue := by rw [Service.commitQueue, custody]; rfl
  have queue' : (commitStep environ c op).service.commitQueue = m'.policyQueue := by
    rw [Service.commitQueue, commitStep, custody']
    rfl
  have received : (c.service.commitStep environ op).custodyLog.drop c.service.custodyLog.length = new := by
    rw [Service.custodyLog, Service.custodyLog, custody, custody']
    show m'.log.drop m.log.length = new
    rw [log, List.drop_left]
  have counts := fun key => perm.count_eq key
  refine ⟨⟨m', custody', delivers.one⟩, fun key => ?_, fun id changed => if_neg changed, fun id kept key => ?_⟩
  · rw [queue, queue', ← counts key, List.count_append]
    exact Nat.le_add_left _ _
  · have at_id : (commitStep environ c op).received id = c.received id ++ new := by
      rw [← received]
      exact if_pos kept
    have moved := counts key
    rw [List.count_append, List.count_append] at moved
    rw [at_id, queue, queue', List.filterMap_append, List.append_assoc, List.count_append, List.count_append,
      List.count_append, moved, Nat.add_assoc]

/-- Each policy is committed once, and what is queued is no second commit. -/
structure OnceQueued (environ : Environ) (c : Committing) : Prop where
  one : OneSink c.service
  queue : ∀ key, (c.service.commitQueue.map QueuedCommit.key).count key ≤ 1
  total : ∀ id dg, (c.service.citedPolicyDigest environ id).1 = some dg →
    ((c.received id).filterMap Held.commitKey ++ c.service.commitQueue.map QueuedCommit.key).count (id, dg) ≤ 1

omit [Platform] in
lemma count_toList (o : Option (String × String)) (key : String × String) :
    o.toList.count key = if o = some key then 1 else 0 := by
  cases o with
  | none => rfl
  | some k => simp [List.count_singleton]

/-- A step that queues nothing twice keeps it so. -/
lemma OnceQueued.step [Regex] {environ : Environ} {c : Committing} (once : OnceQueued environ c) {op : CommitOp}
    (new : QueuesNew environ c op) : OnceQueued environ (commitStep environ c op) := by
  obtain ⟨one, commits⟩ := commits_of_step environ once.one op
  have queued : ∀ key,
      (c.service.commitQueue.map QueuedCommit.key ++ (c.service.queues environ op).toList).count key ≤ 1 := by
    intro key
    rw [List.count_append, count_toList]
    by_cases at_key : c.service.queues environ op = some key
    · rw [if_pos at_key, List.count_eq_zero.2 (new key at_key).1]
    · rw [if_neg at_key]
      exact once.queue key
  refine ⟨one, fun key => (commits.queue key).trans (queued key), fun id dg digest => ?_⟩
  by_cases kept : ((commitStep environ c op).service.citedPolicyDigest environ id).1 =
      (c.service.citedPolicyDigest environ id).1
  · rw [commits.kept id kept, count_toList]
    by_cases at_key : c.service.queues environ op = some (id, dg)
    · obtain ⟨unqueued, unreceived⟩ := new (id, dg) at_key
      rw [if_pos at_key, List.count_append, List.count_eq_zero.2 unreceived, List.count_eq_zero.2 unqueued]
    · rw [if_neg at_key]
      exact once.total id dg (kept ▸ digest)
  · rw [commits.changed id kept]
    exact (commits.queue _).trans (queued _)

/-- What is queued once is committed once. -/
lemma OnceQueued.committedOnce {environ : Environ} {c : Committing} (once : OnceQueued environ c) :
    CommittedOnce environ c := by
  refine ⟨List.nodup_iff_count_le_one.2 once.queue, fun id dg digest => ?_⟩
  have total := once.total id dg digest
  rw [List.count_append] at total
  omega

/-! ## A drain -/

/-- A drain the sink accepts leaves nothing queued. -/
lemma commitQueue_drain [Regex] (environ : Environ) {c : Committing} (one : OneSink c.service)
    {emit : Nat → EmitEnv} (acc : Accepting emit) :
    (commitStep environ c (.drain emit)).service.commitQueue = [] := by
  obtain ⟨m, custody, -⟩ := one
  show (c.service.gate.custody.map fun m => (m.drainPolicyCommits emit).2).elim [] (·.policyQueue) = []
  rw [custody]
  exact (drainPolicyCommits_of_accepts acc m).2.1

/-- A drain leaves what the gate cites. -/
lemma citedPolicyDigest_drain [Regex] (environ : Environ) (c : Committing) (emit : Nat → EmitEnv) (id : String) :
    ((commitStep environ c (.drain emit)).service.citedPolicyDigest environ id).1 =
      (c.service.citedPolicyDigest environ id).1 := by
  show (Service.citedPolicyDigest { c.service with gate := { c.service.gate with custody := _ } } environ id).1 = _
  unfold Service.citedPolicyDigest
  dsimp only
  cases c.service.tenants.getStrict id with
  | none => rfl
  | some ctx =>
    dsimp only
    exact ActionGate.citedPolicyDigest_congr (by rfl) (by rfl) environ id ctx.policyEngine

/-- What an operation queues is what the gate cites for the tenant, before it and after. -/
lemma cites_of_queues [Regex] {environ : Environ} {c : Committing} {op : CommitOp} {id dg : String}
    (queues : c.service.queues environ op = some (id, dg)) :
    (c.service.citedPolicyDigest environ id).1 = some dg ∧
      ((commitStep environ c op).service.citedPolicyDigest environ id).1 = some dg := by
  cases op with
  | register now id quota => cases queues
  | drain emit => cases queues
  | anchorDue force ids emit => cases queues
  | gate emit op =>
    cases op with
    | registerTools id tools => cases queues
    | addRule id rule => cases queues
    | addPolicyRule fault id rule => cases queues
    | recordReconciliation env id clientId traceId rule reason content => cases queues
    | evaluateAction env id' action clientId traceId =>
      obtain ⟨dg', cites, eq⟩ := Option.bind_eq_some_iff.1 queues
      split at eq
      · cases eq
      · cases eq
        have after := evaluateAction_cites (custodyHooks emit) c.service { env with environ } id action clientId traceId
        exact ⟨cites, after.trans cites⟩

/-- An operation that queues a commit which is queued, or was received already, makes two of it in the end. -/
lemma twice_of_not_queuesNew [Regex] {environ : Environ} {c : Committing} (one : OneSink c.service) {op : CommitOp}
    (old : ¬ QueuesNew environ c op) {emit : Nat → EmitEnv} (acc : Accepting emit) :
    ¬ CommittedOnce environ (commitStep environ (commitStep environ c op) (.drain emit)) := by
  intro once
  unfold QueuesNew at old
  push Not at old
  obtain ⟨⟨id, dg⟩, queues, found⟩ := old
  obtain ⟨cites, after⟩ := cites_of_queues queues
  obtain ⟨one', commits⟩ := commits_of_step environ one op
  obtain ⟨-, drained⟩ := commits_of_step environ one' (.drain emit)
  have same := citedPolicyDigest_drain environ (commitStep environ c op) emit id
  have total := commits.kept id (after.trans cites.symm) (id, dg)
  have landed := drained.kept id same (id, dg)
  rw [commitQueue_drain environ one' acc, List.map_nil, List.append_nil, total, queues] at landed
  have before : 0 < ((c.received id).filterMap Held.commitKey ++
      c.service.commitQueue.map QueuedCommit.key).count (id, dg) := by
    rw [List.count_pos_iff, List.mem_append]
    by_cases queued : (id, dg) ∈ c.service.commitQueue.map QueuedCommit.key
    · exact .inr queued
    · exact .inl (found queued)
  have limit := once.received id dg (same.trans after)
  have added : (some (id, dg)).toList.count (id, dg) = 1 := by simp
  have none : (Service.queues environ (commitStep environ c op).service (.drain emit)).toList.count (id, dg) = 0 := rfl
  omega

/-! ## Runs -/

/-- At the start nothing is queued. -/
lemma onceQueued_start (environ : Environ) (tenants : TenantManager) (gate : ActionGate AnchorManager)
    (stores : Stores) (sink : Sink) (gaps : List Gap) (anchorN : Int) :
    OnceQueued environ (.start tenants gate stores sink gaps anchorN) :=
  ⟨⟨_, rfl, sink, rfl⟩, fun _ => Nat.zero_le _, fun _ _ _ => Nat.zero_le _⟩

/-- In every run a drain that the sink accepts empties the queue; and each policy is committed once in every
state of the run and after any such drain of it, exactly when no step of the run queues a commit that is queued,
or that the sink has received since the digest last changed. -/
theorem committedOnce_iff [Regex] (environ : Environ) (tenants : TenantManager) (gate : ActionGate AnchorManager)
    (stores : Stores) (sink : Sink) (gaps : List Gap) (anchorN : Int) (ops : List CommitOp) :
    let c := Committing.start tenants gate stores sink gaps anchorN
    (∀ emit, Accepting emit → (run (commitStep environ) c (ops ++ [.drain emit])).service.commitQueue = []) ∧
    ((∀ pre, pre <+: ops → CommittedOnce environ (run (commitStep environ) c pre) ∧ ∀ emit, Accepting emit →
        CommittedOnce environ (run (commitStep environ) c (pre ++ [.drain emit]))) ↔
      Steps (commitStep environ) (QueuesNew environ) c ops) := by
  intro c
  have start := onceQueued_start environ tenants gate stores sink gaps anchorN
  have sinks : ∀ ops, OneSink (run (commitStep environ) c ops).service := fun ops =>
    run_invariant _ (I := fun c : Committing => OneSink c.service) start.one
      (fun _ op one => (commits_of_step environ one op).1) ops
  refine ⟨fun emit acc => ?_, fun all => ?_, fun steps pre le => ?_⟩
  · rw [run_snoc]
    exact commitQueue_drain environ (sinks ops) acc
  · by_contra no
    obtain ⟨pre, op, post, rfl, -, old⟩ := exists_first_of_not_steps _ no
    have acc : Accepting fun _ => { now := "", raises := fun _ => none } := fun _ _ => rfl
    have le : pre ++ [op] <+: pre ++ op :: post := ⟨post, by simp⟩
    have once := (all _ le).2 _ acc
    rw [run_snoc, run_snoc] at once
    exact twice_of_not_queuesNew (sinks pre) old acc once
  · obtain ⟨post, rfl⟩ := le
    have once := run_invariant_of_steps _ start (fun _ _ once new => once.step new) ((steps_append _).1 steps).1
    refine ⟨once.committedOnce, fun emit acc => ?_⟩
    rw [run_snoc]
    have quiet : QueuesNew environ (run (commitStep environ) c pre) (.drain emit) := fun _ queues => by cases queues
    exact (once.step quiet).committedOnce

end

section Sample

local instance commitPlatform : Platform := .reference citationDigests

/-- A text none of the patterns matches. -/
local instance commitRegex : Regex where
  invalid _ := none
  finditer _ _ := []

/-- The default tenant behind a Rego server, and a custody manager over an empty sink. -/
def commitStart : Committing :=
  .start citationStart.tenants {} citationStart.stores { name := "git" } [] 50

/-- An action the gate refuses, while the sink does too or does not. -/
def askGate (emit : Nat → EmitEnv) : CommitOp :=
  .gate emit (.evaluateAction citationEnv.toGateEnv "default" { tool := "search" } "acme" none)

def downEmit : Nat → EmitEnv := fun k => { citationEmit k with raises := fun _ => some "down" }

/-- A digest that was never marked is to be committed. -/
lemma unmarked_of_none {g : ActionGate AnchorManager} {id : String} (none : g.lastAnchoredDigest id = none)
    (dg : String) : g.unmarked id (some dg) = some (id, dg) := by
  rw [ActionGate.unmarked, Option.bind_some, none, if_neg (Option.some_ne_none dg).symm]

/-- The gate after the first action, which leaves the commit queued and the digest unmarked. -/
lemma commitStart_gate : ∀ ctx ∈ commitStart.service.tenants.getStrict "default",
    let cited := commitStart.service.gate.citedPolicyDigest opaEnviron "default" ctx.policyEngine
    let gate := cited.2.maybeAnchorPolicyCommit (custodyHooks downEmit) opaEnviron "default" ctx.policyEngine cited.1
    cited.1 = some "d496135feb70e1ee61af273697f419774729ff900131418ff33e4cc520529354" ∧
      gate.lastAnchoredDigest "default" = none ∧
      ("default", "d496135feb70e1ee61af273697f419774729ff900131418ff33e4cc520529354") ∈
        (gate.custody.elim [] (·.policyQueue)).map QueuedCommit.key := by
  decide +kernel

/-- Two actions during an outage queue the commit twice, and the sink receives it twice after it. -/
theorem outage_commits_twice : ¬ CommittedOnce opaEnviron
    (run (commitStep opaEnviron) commitStart [askGate downEmit, askGate downEmit, .drain citationEmit]) := by
  have accepts : Accepting citationEmit := fun _ _ => rfl
  obtain ⟨ctx, known⟩ : ∃ ctx, commitStart.service.tenants.getStrict "default" = some ctx :=
    Option.isSome_iff_exists.1 (by decide +kernel)
  obtain ⟨digest, unmarked, queued⟩ := commitStart_gate ctx known
  have queues : commitStart.service.queues opaEnviron (askGate downEmit) =
      some ("default", "d496135feb70e1ee61af273697f419774729ff900131418ff33e4cc520529354") := by
    show ActionGate.unmarked _ "default" (commitStart.service.citedPolicyDigest opaEnviron "default").1 = _
    rw [citedPolicyDigest_of_known known, digest]
    exact unmarked_of_none rfl _
  obtain ⟨-, cites⟩ := cites_of_queues queues
  have gate : (commitStep opaEnviron commitStart (askGate downEmit)).service.gate =
      (commitStart.service.gate.citedPolicyDigest opaEnviron "default"
        ctx.policyEngine).2.maybeAnchorPolicyCommit (custodyHooks downEmit) opaEnviron "default" ctx.policyEngine
        (commitStart.service.gate.citedPolicyDigest opaEnviron "default" ctx.policyEngine).1 :=
    gate_of_commitStep opaEnviron downEmit citationEnv.toGateEnv known { tool := "search" } "acme" none
  rw [← gate] at unmarked queued
  -- so the second action queues it again
  have again : (commitStep opaEnviron commitStart (askGate downEmit)).service.queues opaEnviron (askGate downEmit) =
      some ("default", "d496135feb70e1ee61af273697f419774729ff900131418ff33e4cc520529354") := by
    show ActionGate.unmarked _ "default" _ = _
    rw [cites]
    exact unmarked_of_none unmarked _
  have one : OneSink commitStart.service := ⟨_, rfl, _, rfl⟩
  obtain ⟨one', -⟩ := commits_of_step opaEnviron one (askGate downEmit)
  exact twice_of_not_queuesNew one' (fun new => (new _ again).1 queued) accepts

end Sample

end Custos
