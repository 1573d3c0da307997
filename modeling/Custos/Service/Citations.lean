import Custos.Custody.Commits
import Custos.Library.Run
import Custos.Service.FailClosed
import Custos.Service.Requests

/-!
# Cited and anchored

A process with custody attached: requests, tool registrations, rule additions and tenant registrations in
any order, with the ticks of the custody manager between them. The re-walk's P6 asks that every policy a
record cites was anchored for its tenant. The gate anchors what it cites before it records; the other
writers cite and anchor nothing.

`cited_anchored_of_covered` is what is left: in a run in which the gate is asked at some time, under each
policy that the other writers cite, every citation is anchored at the end, in what a list gives back and in
what a git sink does unless it let a later record into a commit's file.
-/

namespace Custos

/-! ## The process -/

section

variable [Platform]

/-- The manager behind the gate, where attempt `k` of a drain meets `emit k`. -/
def custodyHooks (emit : Nat → EmitEnv) : CustodyHooks AnchorManager where
  anchorPolicyCommit m tenantId digest canonical := (.ok (), m.anchorPolicyCommit tenantId digest canonical)
  drainPolicyCommits m := (.ok (m.drainPolicyCommits emit).1, (m.drainPolicyCommits emit).2)

omit [Platform] in
inductive ServiceOp where
  | request (env : RequestEnv) (emit : Nat → EmitEnv) (req : Request)
  | registerTools (tenantId : String) (tools : List String)
  | addPolicyRule (fault : Option StoreExc) (tenantId : String) (rule : PolicyRule)
  | register (environ : Environ) (now : ℚ) (tenantId : String) (quota : QuotaConfig)
  /-- `anchor_due` of the custody thread, over the chains of these tenants -/
  | anchorDue (force : Bool) (tenantIds : List String) (emit : Nat → EmitEnv)

omit [Platform] in
/-- The chains of the tenants that are registered. -/
def TenantManager.chains (tm : TenantManager) (tenantIds : List String) :
    List (String × AuditChain) :=
  tenantIds.filterMap fun id => (tm.getStrict id).map fun ctx => (id, ctx.auditChain)

def serviceStep [Regex] (s : Service AnchorManager) : ServiceOp → Service AnchorManager
  | .request env emit req => serve (custodyHooks emit) s env req
  | .registerTools id tools => { s with gate := s.gate.registerTools id tools }
  | .addPolicyRule fault id rule => { s with tenants := (s.tenants.addPolicyRule fault id rule).2 }
  | .register environ now id quota =>
    { s with tenants := (s.tenants.register environ now s.stores.audit id quota).2 }
  | .anchorDue force ids emit =>
    { s with gate :=
        { s.gate with custody := s.gate.custody.map fun m =>
            m.anchorDue force (s.tenants.chains ids) emit } }

omit [Platform] in
/-- The process at its start: the default tenant, no record, and a manager over the sinks. The other
tenants of a policy store are registered by the first steps of a run. -/
def Service.start (backend : Backend) (policyStore : PolicyStore) (environ : Environ) (now : ℚ)
    (sinks : List Sink) (anchorN : Int) : Service AnchorManager where
  tenants :=
    (({ backend, policyStore } : TenantManager).register environ now .empty "default" DEFAULT_QUOTA).2
  gate := { custody := some (.init sinks [] anchorN) }
  stores := { audit := .empty }

omit [Platform] in
/-- Every sink accepts. -/
def ServiceOp.Accepts : ServiceOp → Prop
  | .request _ emit _ => Accepting emit
  | .anchorDue _ _ emit => Accepting emit
  | _ => True

omit [Platform] in
/-- The request asks the gate about an action. -/
def Request.Asks (env : RequestEnv) : Request → Prop
  | .evaluateAction req => Main.Identified env req.clientId
  | .mediate _ => True
  | _ => False

/-- The step asks the gate about an action of the tenant, for which the gate has the digest to cite. -/
def AsksGate (key : String × String) (s : Service AnchorManager) : ServiceOp → Prop
  | .request env _ req => req.Asks env ∧ req.tenantId = key.1 ∧ ∃ ctx,
    s.tenants.getStrict key.1 = some ctx ∧
      (s.gate.citedPolicyDigest env.environ key.1 ctx.policyEngine).1 = some key.2
  | _ => False

/-- The step does not ask the gate, and gets to a record of the tenant that cites the digest. -/
def CitesUnasked [Regex] (key : String × String) (s : Service AnchorManager) : ServiceOp → Prop
  | .request env _ req => ¬ req.Asks env ∧ req.tenantId = key.1 ∧ ∃ ctx,
    s.tenants.getStrict key.1 = some ctx ∧ req.Reaches s env ctx ∧
      present (req.policyDigest s env ctx) = some key.2
  | _ => False

/-- What is cited somewhere in the run without asking the gate, the gate is asked under somewhere in the run. -/
def Covered [Regex] (s : Service AnchorManager) (ops : List ServiceOp) : Prop :=
  ∀ key, Somewhere serviceStep (CitesUnasked key) s ops → Somewhere serviceStep (AsksGate key) s ops

omit [Platform] in
/-- No tenant is registered under the empty name. -/
def ServiceOp.Named : ServiceOp → Prop
  | .register _ _ id _ => id ≠ ""
  | _ => True

/-! ## The gate's part -/

omit [Platform] in
/-- The gate holds a manager with nothing queued, and what it has marked as anchored is committed. -/
structure Anchoring (g : ActionGate AnchorManager) (m : AnchorManager) : Prop where
  custody : g.custody = some m
  idle : m.policyQueue = []
  marked : ∀ id dg, g.lastAnchoredDigest id = some dg → Committed m id dg

/-- The gate anchors a digest before it cites it. -/
lemma Anchoring.maybeAnchor {g : ActionGate AnchorManager} {m : AnchorManager} (anch : Anchoring g m)
    {emit : Nat → EmitEnv} (acc : Accepting emit) (environ : Environ) (id : String) (e : Engine)
    (digest : Option String) :
    ∃ m', Anchoring (g.maybeAnchorPolicyCommit (custodyHooks emit) environ id e digest) m' ∧
      Keeps m m' ∧ ∀ dg, digest = some dg → Committed m' id dg := by
  unfold ActionGate.maybeAnchorPolicyCommit
  rw [anch.custody]
  cases digest with
  | none => exact ⟨m, anch, fun _ _ h => h, nofun⟩
  | some dg =>
    dsimp only
    by_cases same : g.lastAnchoredDigest id = some dg
    · rw [if_pos same]
      refine ⟨m, anch, fun _ _ h => h, ?_⟩
      rintro _ ⟨⟩
      exact anch.marked id dg same
    -- the digest is new: it is queued, and the drain commits it since every sink accepts
    · rw [if_neg same]
      let queued := m.anchorPolicyCommit id dg (engineCitationBytes (g.tools id) e.citationRules
        e.kind (e.opaPolicyDigest environ))
      obtain ⟨landed, idle, keeps, all⟩ := drainPolicyCommits_of_accepts acc queued
      have keeps : Keeps m (queued.drainPolicyCommits emit).2 := keeps
      have committed : Committed (queued.drainPolicyCommits emit).2 id dg := all ⟨id, dg, _⟩ (by
        show _ ∈ m.policyQueue ++ [_]
        rw [anch.idle]
        exact List.mem_singleton_self _)
      simp only [custodyHooks]
      rw [show (queued.drainPolicyCommits emit).1 = true from landed]
      refine ⟨_, ⟨rfl, idle, fun id' dg' marked => ?_⟩, keeps, ?_⟩
      · have marked : Function.update g.lastAnchoredDigest id (some dg) id' = some dg' := marked
        by_cases e' : id' = id
        · subst e'
          rw [Function.update_self] at marked
          cases marked
          exact committed
        · rw [Function.update_of_ne e'] at marked
          exact keeps _ _ (anch.marked id' dg' marked)
      · rintro _ ⟨⟩
        exact committed

/-- What a request leaves of the gate. Where it did not ask it about an action of a registered tenant, nothing
but its cache has changed. -/
inductive GateAfter (hooks : CustodyHooks AnchorManager) (s : Service AnchorManager)
    (env : RequestEnv) (req : Request) : ActionGate AnchorManager → Prop
  | cached (digestCache : String → Option (CacheKey × Option String)) :
      (∀ ctx, s.tenants.getStrict req.tenantId = some ctx → ¬ req.Asks env) →
      GateAfter hooks s env req { s.gate with digestCache }
  | asked (ctx : TenantContext) : s.tenants.getStrict req.tenantId = some ctx → req.Asks env →
      GateAfter hooks s env req
        ((s.gate.citedPolicyDigest env.environ req.tenantId ctx.policyEngine).2.maybeAnchorPolicyCommit
          hooks env.environ req.tenantId ctx.policyEngine
          (s.gate.citedPolicyDigest env.environ req.tenantId ctx.policyEngine).1)

/-- `/v1/evaluate` leaves the gate. -/
lemma evaluate_gate [Regex] (s : Service AnchorManager) (env : RequestEnv) (req : EvaluateRequest) :
    (Main.evaluate s env req).2.gate = s.gate := by
  unfold Main.evaluate
  split
  · rfl
  · split
    · rfl
    · split
      · rfl
      · dsimp only
        split
        · rfl
        · split <;> rfl

lemma retentionPurge_gate (s : Service AnchorManager) (env : RequestEnv)
    (req : RetentionPurgeRequest) : (Main.retentionPurge s env req).2.gate = s.gate := by
  unfold Main.retentionPurge
  split
  · rfl
  · split
    · rfl
    · split
      · rfl
      · rfl
      · dsimp only
        split <;> rfl

lemma replay_gate [Regex] (s : Service AnchorManager) (env : RequestEnv) (req : ReplayRequest) :
    (Main.replay s env req).2.gate = s.gate := by
  unfold Main.replay
  split
  · rfl
  · split <;> rfl

/-- A call of the gate leaves it so. -/
lemma evaluateAction_gate [Regex] (hooks : CustodyHooks AnchorManager) {s : Service AnchorManager}
    {env : RequestEnv} {req : Request} (asks : req.Asks env) (action : ActionRequest)
    (clientId : String) (traceId : Option String) :
    GateAfter hooks s env req
      (s.evaluateAction hooks env.toGateEnv req.tenantId action clientId traceId).2.gate := by
  cases known : s.tenants.getStrict req.tenantId with
  | none =>
    rw [Service.evaluateAction_of_unknown hooks env.toGateEnv known]
    exact .cached s.gate.digestCache fun ctx known' => by cases known.symm.trans known'
  | some ctx =>
    rw [Service.gate_of_evaluateAction hooks env.toGateEnv known]
    exact .asked ctx known asks

/-- What a request does to the gate. -/
lemma serve_gate [Regex] (hooks : CustodyHooks AnchorManager) (s : Service AnchorManager)
    (env : RequestEnv) (req : Request) : GateAfter hooks s env req (serve hooks s env req).gate := by
  -- the gate is asked by two of the requests, cited from by two, and left alone by the rest
  have unasked : ∀ {g : ActionGate AnchorManager}, ¬ req.Asks env → g = s.gate →
      GateAfter hooks s env req g := by
    rintro _ no rfl
    exact .cached s.gate.digestCache fun _ _ => no
  have cites : ∀ {g : ActionGate AnchorManager} (id : String) (e : Engine), ¬ req.Asks env →
      g = (s.gate.citedPolicyDigest env.environ id e).2 → GateAfter hooks s env req g := by
    rintro _ id e no rfl
    obtain ⟨cache, same⟩ := s.gate.citedPolicyDigest_gate env.environ id e
    rw [same]
    exact .cached cache fun _ _ => no
  cases req with
  | evaluate req => exact unasked id (evaluate_gate s env req)
  | evaluateAction req =>
    show GateAfter hooks s env _ (Main.evaluateAction hooks s env req).2.gate
    unfold Main.evaluateAction
    by_cases ident : Main.Identified env req.clientId
    · rw [if_neg (not_not.2 ident)]
      have asks : (Request.evaluateAction req).Asks env := ident
      exact evaluateAction_gate hooks asks req.action req.clientId none
    · rw [if_pos ident]
      exact unasked ident rfl
  | retentionPurge req => exact unasked id (retentionPurge_gate s env req)
  | replay req => exact unasked id (replay_gate s env req)
  | mediate call =>
    have asks : (Request.mediate call).Asks env := trivial
    exact evaluateAction_gate hooks asks (CustosGateAdapter.action call) call.clientId _
  | recordDenial d =>
    show GateAfter hooks s env _ (CustosGateAdapter.recordDenial s env d).2.gate
    unfold CustosGateAdapter.recordDenial Service.recordReconciliation
    cases s.tenants.getStrict d.tenantId with
    | none => exact unasked id rfl
    | some ctx => exact cites d.tenantId ctx.policyEngine id rfl
  | startupBinding payload =>
    show GateAfter hooks s env _ (establishStartupBinding s env payload).2.gate
    unfold establishStartupBinding Service.citedPolicyDigest
    cases s.tenants.getStrict BINDING_TENANT with
    | none => exact unasked id rfl
    | some ctx =>
      refine cites BINDING_TENANT ctx.policyEngine id ?_
      dsimp only
      split <;> rfl

/-- After a request the gate is anchoring, and the digest it was asked under is committed. -/
lemma Anchoring.serve [Regex] {s : Service AnchorManager} {m : AnchorManager}
    (anch : Anchoring s.gate m) (env : RequestEnv) {emit : Nat → EmitEnv} (req : Request)
    (acc : Accepting emit) :
    ∃ m', Anchoring (serve (custodyHooks emit) s env req).gate m' ∧ Keeps m m' ∧
      ∀ key, AsksGate key s (.request env emit req) → Committed m' key.1 key.2 := by
  have after := serve_gate (custodyHooks emit) s env req
  generalize (Custos.serve (custodyHooks emit) s env req).gate = g at after ⊢
  cases after with
  | cached cache no =>
    refine ⟨m, ⟨anch.custody, anch.idle, anch.marked⟩, fun _ _ h => h, ?_⟩
    rintro ⟨_, dg⟩ ⟨asks, rfl, ctx, known, -⟩
    exact absurd asks (no ctx known)
  | asked ctx known asks =>
    obtain ⟨cache, cached⟩ := s.gate.citedPolicyDigest_gate env.environ req.tenantId ctx.policyEngine
    have anch' : Anchoring (s.gate.citedPolicyDigest env.environ req.tenantId ctx.policyEngine).2 m := by
      rw [cached]
      exact ⟨anch.custody, anch.idle, anch.marked⟩
    obtain ⟨m', anchored, keeps, committed⟩ := anch'.maybeAnchor acc env.environ req.tenantId
      ctx.policyEngine (s.gate.citedPolicyDigest env.environ req.tenantId ctx.policyEngine).1
    refine ⟨m', anchored, keeps, ?_⟩
    rintro ⟨_, dg⟩ ⟨-, rfl, ctx', known', digest⟩
    rw [known] at known'
    cases known'
    exact committed dg digest

/-- The gate is anchoring after any step, and nothing that was committed is taken back. -/
lemma Anchoring.step [Regex] {s : Service AnchorManager} {m : AnchorManager} (anch : Anchoring s.gate m)
    {op : ServiceOp} (acc : op.Accepts) :
    ∃ m', Anchoring (serviceStep s op).gate m' ∧ Keeps m m' ∧
      ∀ key, AsksGate key s op → Committed m' key.1 key.2 := by
  have still : ∀ {s' : Service AnchorManager}, s'.gate.custody = s.gate.custody →
      s'.gate.lastAnchoredDigest = s.gate.lastAnchoredDigest → Anchoring s'.gate m := by
    intro s' custody marks
    refine ⟨custody.trans anch.custody, anch.idle, ?_⟩
    rw [marks]
    exact anch.marked
  cases op with
  | request env emit req => exact anch.serve env req acc
  | registerTools id tools => exact ⟨m, still rfl rfl, fun _ _ h => h, fun _ no => no.elim⟩
  | addPolicyRule fault id rule => exact ⟨m, still rfl rfl, fun _ _ h => h, fun _ no => no.elim⟩
  | register environ now id quota => exact ⟨m, still rfl rfl, fun _ _ h => h, fun _ no => no.elim⟩
  | anchorDue force ids emit =>
    have keeps : Keeps m (m.anchorDue force (s.tenants.chains ids) emit) := fun _ _ h =>
      managerStep_committed m (.anchorDue force (s.tenants.chains ids) emit) h
    refine ⟨m.anchorDue force (s.tenants.chains ids) emit, ⟨?_, anchorDue_policyQueue acc force m _,
      fun id dg h => keeps id dg (anch.marked id dg h)⟩, keeps, fun _ no => no.elim⟩
    show s.gate.custody.map _ = _
    rw [anch.custody]
    rfl

/-! ## What a run keeps -/

omit [Platform] in
/-- The record is its tenant's, in a version this build has, and what it cites is `ok`. -/
structure Covers (ok : String × String → Prop) (id : String) (r : AuditRecord) : Prop where
  tenantId : r.tenantId = some id
  implemented : r.Implemented
  cites : ∀ dg, present r.policyDigest = some dg → ok (id, dg)

omit [Platform] in
/-- What is covered is covered by more. -/
lemma Covers.mono {ok ok' : String × String → Prop} {id : String} {r : AuditRecord} (cov : Covers ok id r)
    (weaker : ∀ key, ok key → ok' key) : Covers ok' id r :=
  ⟨cov.tenantId, cov.implemented, fun dg cites => weaker _ (cov.cites dg cites)⟩

omit [Platform] in
/-- The tenants' chains are their own and what they hold, like what the table holds, is covered. -/
structure CoversAll (ok : String × String → Prop) (tm : TenantManager) (t : AuditTable) : Prop where
  named : ∀ id ctx, tm.getStrict id = some ctx → id ≠ ""
  scope : ∀ id ctx, tm.getStrict id = some ctx → ctx.auditChain.tenantId = some id
  chains : ∀ id ctx, tm.getStrict id = some ctx → ∀ r ∈ ctx.auditChain.records, Covers ok id r
  rows : ∀ r ∈ t.rows, ∃ id, Covers ok id r

omit [Platform] in
lemma CoversAll.mono {ok ok' : String × String → Prop} {tm : TenantManager} {t : AuditTable}
    (all : CoversAll ok tm t) (weaker : ∀ key, ok key → ok' key) : CoversAll ok' tm t := by
  refine ⟨all.named, all.scope, fun id ctx known r mem => (all.chains id ctx known r mem).mono weaker,
    fun r mem => ?_⟩
  obtain ⟨id, cov⟩ := all.rows r mem
  exact ⟨id, cov.mono weaker⟩

omit [Platform] in
/-- The digest is committed for the tenant, or is among those cited without asking the gate. -/
def CommittedOr (rest : String × String → Prop) (m : AnchorManager) (key : String × String) : Prop :=
  Committed m key.1 key.2 ∨ rest key

/-- The state of a process in which every citation is committed or among the rest. -/
structure Established (rest : String × String → Prop) (s : Service AnchorManager) (m : AnchorManager) :
    Prop where
  gate : Anchoring s.gate m
  covers : CoversAll (CommittedOr rest m) s.tenants s.stores.audit

omit [Platform] in
/-- A context in its tenant's place, whose chain is the tenant's and covered. -/
lemma CoversAll.setContext {ok : String × String → Prop} {tm : TenantManager} {t t' : AuditTable}
    (all : CoversAll ok tm t) {id : String} {ctx : TenantContext} (named : id ≠ "")
    (scope : ctx.auditChain.tenantId = some id)
    (chain : ∀ r ∈ ctx.auditChain.records, Covers ok id r) (rows : ∀ r ∈ t'.rows, ∃ id, Covers ok id r) :
    CoversAll ok (tm.setContext id ctx) t' := by
  have cases : ∀ {x c}, (tm.setContext id ctx).getStrict x = some c →
      x = id ∧ c = ctx ∨ tm.getStrict x = some c := by
    intro x c known
    by_cases e : x = id
    · subst e
      rw [TenantManager.getStrict, TenantManager.setContext_tenants, Function.update_self] at known
      exact .inl ⟨rfl, (Option.some.inj known).symm⟩
    · rw [TenantManager.getStrict, TenantManager.setContext_tenants, Function.update_of_ne e] at known
      exact .inr known
  refine ⟨fun x c known => ?_, fun x c known => ?_, fun x c known => ?_, rows⟩
  · rcases cases known with ⟨rfl, rfl⟩ | known
    · exact named
    · exact all.named x c known
  · rcases cases known with ⟨rfl, rfl⟩ | known
    · exact scope
    · exact all.scope x c known
  · rcases cases known with ⟨rfl, rfl⟩ | known
    · exact chain
    · exact all.chains x c known

omit [Platform] in
/-- A backend that saved a record holds what it held, and perhaps the record. -/
lemma mem_of_saved {b : Backend} {fault : Option StoreExc} {t t' : AuditTable} {r x : AuditRecord}
    (saved : b.save fault t r = (.ok (), t')) (mem : x ∈ t'.rows) : x ∈ t.rows ∨ x = r := by
  by_cases dur : b.Durable
  · rcases save_cases dur fault t r with ⟨e, he⟩ | ⟨t'', -, ins, he⟩
    · rw [he] at saved
      cases saved
    · rw [he] at saved
      cases saved
      rw [(AuditTable.insert_eq_some ins).2, List.mem_append, List.mem_singleton] at mem
      exact mem
  · have memory : b = .InMemoryBackend := not_not.1 dur
    subst memory
    cases saved
    exact .inl mem

/-- A recording whose digest, if it gets to its record, is `ok` keeps everything covered. -/
lemma Recording.coversAll {ok : String × String → Prop} {tm : TenantManager} {id : String}
    {ctx : TenantContext} {ready : Prop} {s s' : Stores} {env : RecordEnv} {a : RecordArgs}
    {auditChain : AuditChain} (h : Recording ready ctx.auditChain s env a auditChain s')
    (all : CoversAll ok tm s.audit) (known : tm.getStrict id = some ctx)
    (cites : ready → ∀ dg, present a.policyDigest = some dg → ok (id, dg)) (rateLimiter : RateLimiter) :
    CoversAll ok (tm.setContext id { ctx with rateLimiter, auditChain }) s'.audit := by
  have named := all.named id ctx known
  have scope := all.scope id ctx known
  have chain := all.chains id ctx known
  cases h with
  | untried _ _ same _ => exact all.setContext named scope chain (same ▸ all.rows)
  | refused _ _ _ _ _ same _ => exact all.setContext named scope chain (same ▸ all.rows)
  | written form r _ yes wrote _ =>
    have cov : Covers ok id r := by
      obtain ⟨own, -, e⟩ := wrote.entry.eq
      refine ⟨wrote.entry.tenantId scope, ?_, fun dg cited => cites yes dg ?_⟩
      · rw [e]
        exact le_refl RECORD_BINDING_CURRENT
      · rw [e] at cited
        exact cited
    -- the new record is the chain's last and the table's, and all others are old
    refine all.setContext named scope (fun x mem => ?_) fun x mem => ?_
    · rcases List.mem_append.1 mem with mem | mem
      · exact chain x mem
      · rw [List.mem_singleton.1 mem]
        exact cov
    · rcases mem_of_saved wrote.saved mem with mem | rfl
      · exact all.rows x mem
      · exact ⟨id, cov⟩

/-- What a request that asks the gate cites, where it gets to its record, is what the gate was asked under. -/
lemma asksGate_of_reaches [Regex] {s : Service AnchorManager} {env : RequestEnv} {emit : Nat → EmitEnv}
    {req : Request} (asks : req.Asks env) {ctx : TenantContext}
    (known : s.tenants.getStrict req.tenantId = some ctx) {dg : String}
    (cites : present (req.policyDigest s env ctx) = some dg) :
    AsksGate (req.tenantId, dg) s (.request env emit req) := by
  refine ⟨asks, rfl, ctx, known, ?_⟩
  have digest : req.policyDigest s env ctx =
      (s.gate.citedPolicyDigest env.environ req.tenantId ctx.policyEngine).1 := by
    cases req with
    | evaluateAction req => rfl
    | mediate call => rfl
    | _ => exact asks.elim
  rw [digest] at cites
  exact (present_eq_some.1 cites).1

/-- A request whose unasked citations are among the rest keeps every citation committed or among them. -/
lemma Established.request [Regex] {rest : String × String → Prop} {s : Service AnchorManager}
    {m : AnchorManager} (est : Established rest s m) {env : RequestEnv} {emit : Nat → EmitEnv}
    {req : Request} (acc : Accepting emit)
    (cov : ∀ key, CitesUnasked key s (.request env emit req) → rest key) :
    ∃ m', Established rest (serve (custodyHooks emit) s env req) m' := by
  obtain ⟨m', gate, keeps, committed⟩ := est.gate.serve env req acc
  refine ⟨m', gate, ?_⟩
  have all : CoversAll (CommittedOr rest m') s.tenants s.stores.audit :=
    est.covers.mono fun key => Or.imp_left (keeps key.1 key.2)
  cases serve_served (custodyHooks emit) s env req with
  | unknown _ tenants stores =>
    rw [tenants, stores]
    exact all
  | known ctx rateLimiter auditChain a known tenants _ digest _ rec =>
    rw [tenants]
    refine rec.coversAll all known (fun reach dg cites => ?_) rateLimiter
    rw [digest] at cites
    by_cases asks : req.Asks env
    · exact .inl (committed _ (asksGate_of_reaches asks known cites))
    · exact .inr (cov _ ⟨asks, rfl, ctx, known, reach, cites⟩)

omit [Platform] in
/-- What is covered depends on the contexts alone. -/
lemma CoversAll.of_tenants {ok : String × String → Prop} {tm tm' : TenantManager} {t : AuditTable}
    (all : CoversAll ok tm t) (same : tm'.tenants = tm.tenants) : CoversAll ok tm' t := by
  have strict : tm'.getStrict = tm.getStrict := same
  refine ⟨?_, ?_, ?_, all.rows⟩ <;> rw [strict]
  · exact all.named
  · exact all.scope
  · exact all.chains

omit [Platform] in
/-- A rule added to a tenant's engine leaves its chain. -/
lemma CoversAll.addPolicyRule {ok : String × String → Prop} {tm : TenantManager} {t : AuditTable}
    (all : CoversAll ok tm t) (fault : Option StoreExc) (id : String) (rule : PolicyRule) :
    CoversAll ok (tm.addPolicyRule fault id rule).2 t := by
  cases found : tm.getOrDefault id with
  | error e =>
    unfold TenantManager.addPolicyRule
    rw [found]
    exact all
  | ok place =>
    obtain ⟨key, ctx⟩ := place
    have known := TenantManager.getStrict_of_getOrDefault found
    have placed : CoversAll ok (tm.setContext key
        { ctx with policyEngine := ctx.policyEngine.addRule rule }) t :=
      all.setContext (all.named key ctx known) (all.scope key ctx known) (all.chains key ctx known)
        all.rows
    rw [TenantManager.addPolicyRule_of_found found]
    exact placed.of_tenants rfl

omit [Platform] in
/-- A tenant's chain is opened over the tenant's rows. -/
lemma CoversAll.register {ok : String × String → Prop} {tm : TenantManager} {t : AuditTable}
    (all : CoversAll ok tm t) {id : String} (named : id ≠ "") (environ : Environ) (now : ℚ)
    (quota : QuotaConfig) : CoversAll ok (tm.register environ now t id quota).2 t := by
  have opened : AuditChain.init tm.backend (some id) t =
      .ok ⟨tm.backend.loadAll (some id) t, some id, tm.backend⟩ := by simp [AuditChain.init]
  have loaded : ∀ r ∈ tm.backend.loadAll (some id) t, Covers ok id r := by
    have selected : ∀ r ∈ (t.select (some id)).map AuditRecord.ofRow, Covers ok id r := by
      intro r mem
      obtain ⟨x, hx, rfl⟩ := List.mem_map.1 mem
      obtain ⟨mem, own⟩ := List.mem_filter.1 hx
      obtain ⟨id', cov⟩ := all.rows x mem
      have same : id' = id := by simpa [cov.tenantId] using own
      subst same
      exact ⟨cov.tenantId, cov.implemented, cov.cites⟩
    cases backend : tm.backend with
    | InMemoryBackend => simp [Backend.loadAll]
    | SQLiteBackend => exact selected
    | PostgreSQLBackend => exact selected
  unfold TenantManager.register
  simp only [opened]
  have before : CoversAll ok { tm with
      customRules := Function.update tm.customRules id (some (tm.policyStore.load id)) } t :=
    all.of_tenants rfl
  exact before.setContext named rfl loaded all.rows

/-- A step whose unasked citations are among the rest keeps every citation committed or among them. -/
lemma Established.step [Regex] {rest : String × String → Prop} {s : Service AnchorManager}
    {m : AnchorManager} (est : Established rest s m) {op : ServiceOp} (acc : op.Accepts) (named : op.Named)
    (cov : ∀ key, CitesUnasked key s op → rest key) : ∃ m', Established rest (serviceStep s op) m' := by
  obtain ⟨m', gate, keeps, -⟩ := est.gate.step acc
  have all : CoversAll (CommittedOr rest m') s.tenants s.stores.audit :=
    est.covers.mono fun key => Or.imp_left (keeps key.1 key.2)
  cases op with
  | request env emit req => exact est.request acc cov
  | registerTools id tools => exact ⟨m', gate, all⟩
  | addPolicyRule fault id rule => exact ⟨m', gate, all.addPolicyRule fault id rule⟩
  | register environ now id quota => exact ⟨m', gate, all.register named environ now quota⟩
  | anchorDue force ids emit => exact ⟨m', gate, all⟩

omit [Platform] in
/-- At the start every citation is established. -/
lemma established_start (rest : String × String → Prop) (backend : Backend) (policyStore : PolicyStore)
    (environ : Environ) (now : ℚ) (sinks : List Sink) (anchorN : Int) :
    Established rest (Service.start backend policyStore environ now sinks anchorN)
      (.init sinks [] anchorN) := by
  have empty : CoversAll (CommittedOr rest (.init sinks [] anchorN)) { backend, policyStore } .empty :=
    ⟨nofun, nofun, nofun, by simp [AuditTable.empty]⟩
  exact ⟨⟨rfl, rfl, fun _ _ marked => by cases marked⟩, empty.register (by decide) environ now DEFAULT_QUOTA⟩

omit [Platform] in
/-- The gate has one anchor manager. -/
lemma Anchoring.unique {g : ActionGate AnchorManager} {m m' : AnchorManager} (anch : Anchoring g m)
    (anch' : Anchoring g m') : m = m' :=
  Option.some.inj (anch.custody.symm.trans anch'.custody)

/-- A digest the gate is asked under somewhere in a run is committed at its end. -/
lemma committed_of_somewhere [Regex] {s : Service AnchorManager} {m : AnchorManager}
    (anch : Anchoring s.gate m) {ops : List ServiceOp} (acc : ∀ op ∈ ops, op.Accepts)
    {key : String × String} (asked : Somewhere serviceStep (AsksGate key) s ops) :
    ∃ m', Anchoring (run serviceStep s ops).gate m' ∧ Committed m' key.1 key.2 := by
  refine asked.run_invariant (J := fun s => ∃ m, Anchoring s.gate m)
    (I := fun s => ∃ m, Anchoring s.gate m ∧ Committed m key.1 key.2) (steps_of_forall acc) ⟨m, anch⟩ ?_ ?_ ?_
  · rintro s op ⟨m, anch⟩ acc
    obtain ⟨m', anch', -, -⟩ := anch.step acc
    exact ⟨m', anch'⟩
  · rintro s op ⟨m, anch⟩ acc asks
    obtain ⟨m', anch', -, committed⟩ := anch.step acc
    exact ⟨m', anch', committed key asks⟩
  · rintro s op ⟨m, anch, committed⟩ acc
    obtain ⟨m', anch', keeps, -⟩ := anch.step acc
    exact ⟨m', anch', keeps _ _ committed⟩

omit [Platform] in
/-- What P6 reads of a covered chain is the tenant's and anchored. -/
lemma cited_anchored {m : AnchorManager} {id : String} (named : id ≠ "") {records : List AuditRecord}
    (covers : ∀ r ∈ records, Covers (fun key => Committed m key.1 key.2) id r) {sink : Sink}
    (mem : sink ∈ m.sinks)
    (kept : ∀ repo, sink.repo = some repo → CommitsLast repo (sink.log.map (·.dict)))
    {log : List AnchorDict} (holds : sink.readBack m.gaps ⊆ log) :
    ∀ c ∈ cited records, c.tenant = id ∧ Anchored (policyCommits log) id c.digest := by
  intro c hc
  obtain ⟨⟨r, i⟩, hr, cites⟩ := List.mem_filterMap.1 hc
  obtain ⟨dg, digest, rfl⟩ := Option.map_eq_some_iff.1 cites
  have cov := covers r (List.fst_mem_of_mem_zipIdx hr)
  refine ⟨?_, (cov.cites dg digest).anchored mem kept holds⟩
  show orElse r.tenantId r.clientId = id
  rw [cov.tenantId, orElse, present_some named]
  rfl

/-- In a covered run, with every sink accepting, nothing is left queued, and for every tenant the re-walk of its
chain against any log that holds what a sink gives back finds every citation anchored, unless the sink is a
git sink that let a later record into a commit's file: P6 is established as soon as there is a citation, and
never a contradiction. -/
theorem cited_anchored_of_covered [Regex] (backend : Backend) (policyStore : PolicyStore)
    (environ : Environ) (now : ℚ) (sinks : List Sink) (anchorN : Int) (ops : List ServiceOp)
    (acc : ∀ op ∈ ops, op.Accepts) (named : ∀ op ∈ ops, op.Named)
    (covered : Covered (Service.start backend policyStore environ now sinks anchorN) ops) :
    let s := run serviceStep (Service.start backend policyStore environ now sinks anchorN) ops
    ∃ m, s.gate.custody = some m ∧ m.policyQueue = [] ∧
      ∀ id ctx, s.tenants.getStrict id = some ctx → ∀ sink ∈ m.sinks,
        (∀ repo, sink.repo = some repo → CommitsLast repo (sink.log.map (·.dict))) →
        ∀ log : List AnchorDict, sink.readBack m.gaps ⊆ log →
          (∀ c ∈ cited ctx.auditChain.records,
            c.tenant = id ∧ Anchored (policyCommits log) id c.digest) ∧
          ∃ rep, verifyCustody ctx.auditChain.records log = .ok rep ∧
            rep.p6 ≠ some .CONTRADICTION ∧
            (cited ctx.auditChain.records ≠ [] → rep.p6 = some .ESTABLISHED) := by
  intro s
  let start : Service AnchorManager := Service.start backend policyStore environ now sinks anchorN
  let rest : String × String → Prop := fun key => Somewhere serviceStep (CitesUnasked key) start ops
  have begun : Established rest start (.init sinks [] anchorN) :=
    established_start rest backend policyStore environ now sinks anchorN
  obtain ⟨m, est⟩ := run_invariant_of_steps _ (I := fun s => ∃ m, Established rest s m) ⟨_, begun⟩
    (fun _ _ ⟨_, est⟩ ok => est.step ok.1.1 ok.1.2 ok.2)
    (((steps_of_forall acc).and (steps_of_forall named)).and (steps_of_somewhere (R := rest) fun _ h => h))
  refine ⟨m, est.gate.custody, est.gate.idle, fun id ctx known sink mem kept log holds => ?_⟩
  -- what was cited without asking the gate is committed by the end too
  have all : ∀ key, CommittedOr rest m key → Committed m key.1 key.2 := by
    rintro key (committed | unasked)
    · exact committed
    · obtain ⟨m', anch, committed⟩ := committed_of_somewhere begun.gate acc (covered key unasked)
      rwa [est.gate.unique anch]
  have covers : ∀ r ∈ ctx.auditChain.records, Covers (fun key => Committed m key.1 key.2) id r :=
    fun r hr => (est.covers.chains id ctx known r hr).mono all
  have anchored := cited_anchored (est.covers.named id ctx known) covers mem kept holds
  obtain ⟨rep, e, spec⟩ := verifyCustody_returns log fun r hr => (covers r hr).implemented
  have p6 := spec.p6
  refine ⟨anchored, rep, e, ?_⟩
  by_cases none : cited ctx.auditChain.records = []
  · rw [if_pos none] at p6
    exact ⟨by rw [p6]; nofun, fun some => absurd none some⟩
  · rw [if_neg none] at p6
    obtain ⟨v, hv, answers⟩ := p6
    have established : v = .ESTABLISHED := answers.established.2 ⟨trivial, fun c hc => by
      obtain ⟨tenant, anch⟩ := anchored c hc
      rwa [tenant]⟩
    rw [hv, established]
    exact ⟨nofun, fun _ => rfl⟩

end

section Sample

/-- The digests of the sample: of the policy in force, of an action, and of a content. -/
def citationDigests : DigestTable where
  entries :=
    [("\x7b\"engine\":\"opa\",\"opa_policy\":\"30e9bdc1e4cc79c18f154f60f8167fed30b7eb58d04c1c55f24e5df0997318fd\"," ++
      "\"rules\":[],\"tools\":[]\x7d",
      "d496135feb70e1ee61af273697f419774729ff900131418ff33e4cc520529354"),
     ("search  \x7b\x7d", "bba9eb2cfef71284fc84c05103594c2a6f885d33b8ffa47692a5f9a006385bf4"),
     ("hello", "2cf24dba5fb0a30e26e83b2ac5b9e29e1b161e5c1fa7425e73043362938b9824")]
  distinct := by decide
  plain := by decide +kernel

local instance citationPlatform : Platform := .reference citationDigests

/-- A text none of the patterns matches. -/
local instance citationRegex : Regex where
  invalid _ := none
  finditer _ _ := []

/-- A Rego server behind the engine, with its bundle pinned. -/
def opaEnviron : Environ := fun name =>
  if name = "CUSTOS_POLICY_ENGINE" then some "opa"
  else if name = "CUSTOS_OPA_POLICY_DIGEST" then
    some "30e9bdc1e4cc79c18f154f60f8167fed30b7eb58d04c1c55f24e5df0997318fd"
  else none

def citationEnv : RequestEnv where
  now := 1700000001
  environ := opaEnviron
  server := .ofResults fun _ =>
    .ok { allowed := true, action := .ALLOW, triggeredRule := none, reason := "allowed" }
  purgedAt := 1700000001
  traceId := sampleTraceId
  clock _ := 1700000001

def citationEmit : Nat → EmitEnv := fun _ =>
  { now := "2023-11-14T22:13:21Z", raises := fun _ => none }

def citationStart : Service AnchorManager :=
  .start .SQLiteBackend {} opaEnviron 1700000000 [{ name := "memory", byReference := true }] 50

/-- An action the gate refuses, and a request. -/
def gateOp : ServiceOp := .request citationEnv citationEmit (.evaluateAction { tool := "search" })

def evaluateOp : ServiceOp := .request citationEnv citationEmit (.evaluate { content := "hello" })

lemma citationOps_accept : ∀ op ∈ [evaluateOp, gateOp], op.Accepts := by
  simp [gateOp, evaluateOp, ServiceOp.Accepts, Accepting, citationEmit]

/-- The gate is asked under the policy that the request before it has cited. -/
theorem cited_anchored_of_covered_sample :
    let s := run serviceStep citationStart [evaluateOp, gateOp]
    ∃ m, s.gate.custody = some m ∧ m.policyQueue = [] ∧
      ∀ id ctx, s.tenants.getStrict id = some ctx → ∀ sink ∈ m.sinks,
        (∀ repo, sink.repo = some repo → CommitsLast repo (sink.log.map (·.dict))) →
        ∀ log : List AnchorDict, sink.readBack m.gaps ⊆ log →
          (∀ c ∈ cited ctx.auditChain.records,
            c.tenant = id ∧ Anchored (policyCommits log) id c.digest) ∧
          ∃ rep, verifyCustody ctx.auditChain.records log = .ok rep ∧
            rep.p6 ≠ some .CONTRADICTION ∧
            (cited ctx.auditChain.records ≠ [] → rep.p6 = some .ESTABLISHED) := by
  have covered : Covered citationStart [evaluateOp, gateOp] := by
    have same : ∀ ctx ∈ citationStart.tenants.getStrict "default",
        ((serviceStep citationStart evaluateOp).tenants.getStrict "default").isSome = true ∧
        ∀ ctx' ∈ (serviceStep citationStart evaluateOp).tenants.getStrict "default",
        ∀ dg ∈ present (contentEngineDigest opaEnviron ctx.policyEngine),
          ((serviceStep citationStart evaluateOp).gate.citedPolicyDigest opaEnviron "default"
            ctx'.policyEngine).1 = some dg := by
      decide +kernel
    have asks : (Request.evaluateAction { tool := "search" }).Asks citationEnv := fun _ auth => by cases auth
    rintro ⟨id, dg⟩ (⟨-, rfl, ctx, known, -, cites⟩ | ⟨no, -⟩ | none)
    · obtain ⟨some, asked⟩ := same ctx known
      obtain ⟨ctx', known'⟩ := Option.isSome_iff_exists.1 some
      exact .inr (.inl ⟨asks, rfl, ctx', known', asked ctx' known' dg cites⟩)
    · exact absurd asks no
    · exact none.elim
  exact cited_anchored_of_covered .SQLiteBackend {} opaEnviron 1700000000
    [{ name := "memory", byReference := true }] 50 [evaluateOp, gateOp] citationOps_accept
    (by simp [evaluateOp, gateOp, ServiceOp.Named]) covered

/-- A request alone cites a policy nobody anchored. -/
theorem evaluate_cites_unanchored :
    let s := run serviceStep citationStart [evaluateOp]
    (∀ op ∈ [evaluateOp], op.Accepts) ∧
    ¬ ∃ m, s.gate.custody = some m ∧
      ∀ id ctx, s.tenants.getStrict id = some ctx → ∀ sink ∈ m.sinks,
        ∃ rep, verifyCustody ctx.auditChain.records (sink.readBack m.gaps) = .ok rep ∧
          rep.p6 ≠ some .CONTRADICTION := by
  intro s
  refine ⟨fun op mem => citationOps_accept op (List.mem_cons.2 (.inl (List.mem_singleton.1 mem))), ?_⟩
  rintro ⟨m, custody, claim⟩
  -- no policy commit in the log, one citation in the chain
  have seen : (s.gate.custody.map fun m =>
      m.sinks.map fun sink => (policyCommits (sink.readBack m.gaps)).length,
      (s.tenants.getStrict "default").map fun ctx => (cited ctx.auditChain.records).length) =
        (some [0], some 1) := by decide +kernel
  obtain ⟨logs, cites⟩ := Prod.mk.inj seen
  obtain ⟨ctx, known, one⟩ := Option.map_eq_some_iff.1 cites
  rw [custody] at logs
  obtain ⟨sink, alone, none⟩ := List.map_eq_singleton_iff.1 (Option.some.inj logs)
  obtain ⟨rep, e, clear⟩ := claim "default" ctx known sink (by rw [alone]; simp)
  obtain ⟨c, hc⟩ := List.exists_mem_of_length_pos (one ▸ Nat.one_pos)
  have p6 := (verifyCustody_spec e).p6
  rw [if_neg (List.ne_nil_of_mem hc)] at p6
  obtain ⟨v, hv, answers⟩ := p6
  have bad : v = .CONTRADICTION := answers.contradiction.2 ⟨trivial, fun all => by
    obtain ⟨d, hd, -⟩ := all c hc
    rw [List.length_eq_zero_iff.1 none] at hd
    cases hd⟩
  exact clear (by rw [hv, bad])

end Sample

end Custos
