import Custos.Custody.Rewrite
import Custos.Custody.Log

/-!
# Anchoring across restarts

One tenant's chain over a durable store, and the anchor manager of the process that serves it. A restart
reloads the chain and builds a new manager over the same sinks. The epoch counter and the last anchor's
hash are kept by the manager alone, so a new manager starts them over; what the sinks hold from before
is not read back. A list then holds two anchors of epoch 1, and a git sink loses the older one to the file
it is written to again. The anchors therefore survive exactly as long as no manager emits its first anchor
over a list that already holds one, or another anchor over one a git sink has of that epoch
(`survives_restarts_iff`).
-/

namespace Custos

section

variable [Platform]

/-- A tenant's chain, its store, and the manager of the running process. -/
structure Deployment where
  chain : AuditChain
  table : AuditTable
  manager : AnchorManager

inductive DeployOp where
  /-- a record is appended to the tenant's chain -/
  | append (env : RecordEnv) (a : RecordArgs)
  /-- a tick of the anchoring loop, or a forced anchor -/
  | anchor (force : Bool) (env : Nat → EmitEnv)
  /-- the process is restarted with this `anchor_n` -/
  | restart (anchorN : Int)

/-- One step of the deployment of tenant `id` over a store of backend `b`. -/
def deployStep (b : Backend) (id : String) (s : Deployment) : DeployOp → Deployment
  | .append env a =>
    let (_, chain, table) := s.chain.record s.table env a
    { s with chain, table }
  | .anchor force env => { s with manager := s.manager.anchorDue force [(id, s.chain)] env }
  | .restart anchorN =>
    match AuditChain.init b (some id) s.table with
    | .ok chain => { s with chain, manager := .init s.manager.sinks s.manager.gaps anchorN }
    | .error _ => s

/-- A first process over an empty store and sinks that hold nothing. -/
def Deployment.start (b : Backend) (id : String) (sinks : List Sink) (anchorN : Int) : Deployment where
  chain := { records := [], tenantId := some id, backend := b }
  table := .empty
  manager := .init (sinks.map fun s => { s with log := [] }) [] anchorN

/-- Every sink accepts every append. -/
def DeployOp.Accepts : DeployOp → Prop
  | .anchor _ env => ∀ k i, (env k).raises i = none
  | _ => True

/-- The step emits an anchor. -/
def Emits (id : String) (s : Deployment) : DeployOp → Prop
  | .anchor force _ => force || s.manager.due id s.chain.head.1
  | _ => False

/-- The head anchors a sink has accepted. -/
def Sink.heads (s : Sink) : List AnchorRecord := Custos.heads (s.log.map (·.dict))

/-- The sink can take the anchor at these counters: as a list it holds none while they stand at their start,
as a git sink it has accepted no other anchor of the epoch. -/
structure Sink.Takes (st : TenantState) (a : AnchorRecord) (s : Sink) : Prop where
  list : s.repo = none → st.epoch = 0 → s.heads = []
  files : ∀ repo, s.repo = some repo → ∀ x ∈ s.heads, x.epoch = a.epoch → x = a

/-- The step's anchor, if it emits one, is one that every sink can take. -/
def NoReset (id : String) (s : Deployment) : DeployOp → Prop
  | .anchor force env => Emits id s (.anchor force env) → ∀ sink ∈ s.manager.sinks,
    sink.Takes (s.manager.state id) (s.manager.nextAnchor id s.chain.head (env 0).now)
  | _ => True

/-- The sink has accepted an anchor of the tenant, whose directory lies in `anchors/` if there is one. -/
structure Sink.Holds (id : String) (s : Sink) : Prop where
  some : s.heads ≠ []
  inside : ∀ repo, s.repo = .some repo →
    GitAnchorSink.anchorsDir repo <+: GitAnchorSink.tenantDir repo id

/-- What anchoring promises of a log. -/
structure LogIntact (log : List AnchorDict) : Prop where
  epochs : ((heads log).map (·.epoch)).Pairwise (· < ·)
  linked : anchorLink.Linked GENESIS_ANCHOR_HASH (heads log)
  p3 : ∀ records : List AuditRecord, (∀ r ∈ records, r.Implemented) →
    ∃ rep, verifyCustody records log = .ok rep ∧ rep.p3 = .ESTABLISHED

/-- What it promises of a sink: it gives back an intact log, with every record it has accepted in it. -/
structure Sink.Survives (gaps : List Gap) (s : Sink) : Prop where
  intact : LogIntact (s.readBack gaps)
  kept : ∀ h ∈ s.log, h.dict ∈ s.readBack gaps

/-! ## Steps -/

/-- What any step does to the manager: nothing, one emission, or a restart. -/
lemma deployStep_manager {b : Backend} {id : String} {s : Deployment}
    (idle : s.manager.policyQueue = []) (op : DeployOp) :
    (deployStep b id s op).manager =
      match op with
      | .append _ _ => s.manager
      | .anchor force env =>
        if force || s.manager.due id s.chain.head.1 then s.manager.emit id s.chain.head (env 0)
        else s.manager
      | .restart anchorN => .init s.manager.sinks s.manager.gaps anchorN := by
  cases op with
  | append env a => rfl
  | anchor force env => exact AnchorManager.anchorDue_single idle force id s.chain env
  | restart anchorN => rw [deployStep, init_scoped]

/-- What holds of every run in which every sink accepts: no gap is ever open, so the sinks hold the tenant's
anchors by value, and nothing is queued. -/
structure Plain (id : String) (m : AnchorManager) : Prop where
  idle : m.policyQueue = []
  noGap : (m.state id).pendingGap = none
  held : ∀ sink ∈ m.sinks, ∀ h ∈ sink.log,
    ∃ a : AnchorRecord, a.tenantId = id ∧ h = { dict := a.toDict }

omit [Platform] in
/-- A log with no gap held reads as it was written. -/
lemma Sink.read_of_byValue {s : Sink} (val : ∀ h ∈ s.log, h.gapRef = none) (gaps : List Gap) :
    s.read gaps = s.log.map (·.dict) := by
  refine List.map_congr_left fun h mem => ?_
  simp [Held.read, val h mem]

omit [Platform] in
/-- A dict that is accepted is the last. -/
@[simp] lemma Sink.dicts_accept (s : Sink) (dict : AnchorDict) (ref : Option Nat) :
    (s.accept dict ref).log.map (·.dict) = s.log.map (·.dict) ++ [dict] := by
  simp [Sink.accept]

omit [Platform] in
lemma Sink.heads_accept (s : Sink) (a : AnchorRecord) (ref : Option Nat) :
    (s.accept a.toDict ref).heads = s.heads ++ [a] := by
  simp [Sink.heads, heads_append]

omit [Platform] in
/-- What the sinks hold is their head anchors. -/
lemma Plain.mem_heads_iff {id : String} {m : AnchorManager} (plain : Plain id m) {sink : Sink}
    (mem : sink ∈ m.sinks) {a : AnchorRecord} :
    a ∈ sink.heads ↔ { dict := a.toDict } ∈ sink.log := by
  rw [Sink.heads, mem_heads]
  constructor
  · rintro ⟨d, hd, -, rfl⟩
    obtain ⟨h, hh, rfl⟩ := List.mem_map.1 hd
    obtain ⟨x, -, rfl⟩ := plain.held sink mem h hh
    exact hh
  · exact fun hh => ⟨a.toDict, List.mem_map_of_mem hh, rfl, rfl⟩

/-- An emission every sink accepts, from a state without a gap. -/
lemma Plain.emit {id : String} {m : AnchorManager} (plain : Plain id m) {env : EmitEnv}
    (acc : env.Accepts m.sinks) (head : Nat × String) : Plain id (m.emit id head env) := by
  rw [AnchorManager.emit_of_accepts acc]
  refine ⟨plain.idle, by simp, fun sink mem h hh => ?_⟩
  obtain ⟨s, ms, rfl⟩ := List.mem_map.1 mem
  rcases List.mem_append.1 hh with hh | hh
  · exact plain.held s ms h hh
  · rw [List.mem_singleton.1 hh, plain.noGap]
    exact ⟨m.nextAnchor id head env.now, rfl, by simp⟩

/-- A step in which every sink accepts. -/
lemma Plain.step {b : Backend} {id : String} {s : Deployment} (plain : Plain id s.manager)
    {op : DeployOp} (acc : op.Accepts) : Plain id (deployStep b id s op).manager := by
  rw [deployStep_manager plain.idle]
  cases op with
  | append env a => exact plain
  | anchor force env =>
    dsimp only
    split
    · exact plain.emit (fun i _ => acc 0 i) _
    · exact plain
  | restart anchorN => exact ⟨rfl, rfl, plain.held⟩

/-- No step takes anything from what a sink has accepted. -/
lemma deployStep_grows (b : Backend) (id : String) (s : Deployment) (op : DeployOp) :
    s.manager.Grows (deployStep b id s op).manager := by
  cases op with
  | append env a => exact .refl _
  | anchor force env => exact s.manager.anchorDue_grows force _ env
  | restart anchorN =>
    rw [deployStep, init_scoped]
    exact AnchorManager.grows_of_sinks_eq rfl

/-! ## Files that are written again -/

/-- The files of a git sink are one chain of anchors without a gap, every record it has accepted among them,
and the counters stand at the end of a first part of it, which is empty for a new manager. -/
structure Retraced (repo id : String) (st : TenantState) (log : List AnchorDict)
    (pre post : List AnchorRecord) : Prop where
  filed : GitAnchorSink.Filed repo id log (pre ++ post)
  all : ∀ d ∈ log, ∃ a ∈ pre ++ post, d = a.toDict
  intact : AnchorsIntact GENESIS_ANCHOR_HASH 0 (pre ++ post)
  consecutive : Consecutive 0 (pre ++ post)
  synced : Synced st pre

namespace Retraced

variable {repo id : String} {st st' : TenantState} {log : List AnchorDict} {pre post : List AnchorRecord}

/-- A new manager has the whole chain before it. -/
lemma restart (ret : Retraced repo id st log pre post) (epoch : st'.epoch = 0)
    (hash : st'.anchorHash = GENESIS_ANCHOR_HASH) : Retraced repo id st' log [] (pre ++ post) :=
  ⟨ret.filed, ret.all, ret.intact, ret.consecutive, .nil epoch hash⟩

/-- An anchor built from the counters that is no other than what the sink has of its epoch moves them one
anchor on, or extends the chain. -/
lemma emit (ret : Retraced repo id st log pre post) {a : AnchorRecord} (own : a.tenantId = id)
    (epoch : a.epoch = st.epoch + 1) (prev : a.prevAnchorHash = st.anchorHash) (sld : a.IsSealed)
    (epoch' : st'.epoch = a.epoch) (hash' : st'.anchorHash = a.anchorHash)
    (takes : ∀ x ∈ heads log, x.epoch = a.epoch → x = a) :
    ∃ post', Retraced repo id st' (log ++ [a.toDict]) (pre ++ [a]) post' := by
  have synced : Synced st' (pre ++ [a]) := ret.synced.snoc epoch prev sld epoch' hash'
  have next : lastEpoch 0 pre + 1 = a.epoch := by rw [ret.synced.epoch, epoch]
  have older : ∀ x ∈ pre, x.epoch ≠ a.epoch := fun x hx => ne_of_lt (ret.synced.older epoch x hx)
  have keepOlder : pre.filter (·.epoch ≠ a.epoch) = pre :=
    List.filter_eq_self.2 fun x hx => by simpa using older x hx
  have filed := ret.filed.snoc own
  cases post with
  | nil =>
    refine ⟨[], ?_, ?_, ?_, ?_, synced⟩
    · rw [List.append_nil, keepOlder] at filed
      rwa [List.append_nil]
    · intro d hd
      rcases List.mem_append.1 hd with hd | hd
      · obtain ⟨x, hx, e⟩ := ret.all d hd
        rw [List.append_nil] at hx
        exact ⟨x, by simp [hx], e⟩
      · exact ⟨a, by simp, List.mem_singleton.1 hd⟩
    · rw [List.append_nil]
      exact synced.intact
    · have consecutive := ret.consecutive
      rw [List.append_nil] at consecutive
      rw [List.append_nil]
      exact consecutive_append.2 ⟨consecutive, consecutive_cons.2 ⟨next.symm, by simp [Consecutive]⟩⟩
  | cons b post =>
    -- the next anchor of the chain has the epoch, so it is this anchor
    have same : b = a := by
      refine takes b (mem_heads.2 ⟨b.toDict, ret.filed.mem (by simp), rfl, rfl⟩) ?_
      rw [← next, (consecutive_cons.1 (consecutive_append.1 ret.consecutive).2).1]
    subst same
    have newer : ∀ x ∈ post, x.epoch ≠ b.epoch := fun x hx => Ne.symm (ne_of_lt
      ((List.pairwise_cons.1 (List.pairwise_append.1 ret.intact.strict).2.1).1 x hx))
    have keepNewer : post.filter (·.epoch ≠ b.epoch) = post :=
      List.filter_eq_self.2 fun x hx => by simpa using newer x hx
    have shift : pre ++ b :: post = (pre ++ [b]) ++ post := by simp
    have perm : ((pre ++ post) ++ [b]).Perm ((pre ++ [b]) ++ post) := by
      rw [← shift]
      exact (List.perm_append_singleton b _).trans List.perm_middle.symm
    refine ⟨post, ?_, ?_, shift ▸ ret.intact, shift ▸ ret.consecutive, synced⟩
    · rw [List.filter_append, keepOlder, List.filter_cons_of_neg (by simp), keepNewer] at filed
      exact filed.perm perm
    · intro d hd
      rw [← shift]
      rcases List.mem_append.1 hd with hd | hd
      · exact ret.all d hd
      · exact ⟨b, by simp, List.mem_singleton.1 hd⟩

end Retraced

/-! ## What a run keeps -/

/-- The lists are intact, and synced with the manager's counters unless the manager is new; the git sinks'
files are a chain that it retraces. -/
structure InStep (id : String) (m : AnchorManager) : Prop extends Plain id m where
  lists : ∀ sink ∈ m.sinks, sink.repo = none → Synced (m.state id) sink.heads ∨
    ((m.state id).epoch = 0 ∧ (m.state id).anchorHash = GENESIS_ANCHOR_HASH ∧
      AnchorsIntact GENESIS_ANCHOR_HASH 0 sink.heads)
  files : ∀ sink ∈ m.sinks, ∀ repo, sink.repo = some repo →
    ∃ pre post, Retraced repo id (m.state id) (sink.log.map (·.dict)) pre post

/-- A list that is in step holds an intact chain. -/
lemma InStep.intact {id : String} {m : AnchorManager} (inStep : InStep id m) {sink : Sink}
    (mem : sink ∈ m.sinks) (list : sink.repo = none) :
    AnchorsIntact GENESIS_ANCHOR_HASH 0 sink.heads := by
  rcases inStep.lists sink mem list with sync | ⟨-, -, intact⟩
  · exact sync.intact
  · exact intact

/-- An emission that every sink can take keeps the sinks in step. -/
lemma InStep.emit {id : String} {m : AnchorManager} (inStep : InStep id m) {env : EmitEnv}
    (acc : env.Accepts m.sinks) (head : Nat × String)
    (takes : ∀ sink ∈ m.sinks, sink.Takes (m.state id) (m.nextAnchor id head env.now)) :
    InStep id (m.emit id head env) := by
  refine ⟨inStep.toPlain.emit acc head, fun sink mem list => .inl ?_, fun sink mem repo clone => ?_⟩
  · rw [AnchorManager.emit_of_accepts acc] at mem ⊢
    obtain ⟨s, ms, rfl⟩ := List.mem_map.1 mem
    have sync : Synced (m.state id) s.heads := by
      rcases inStep.lists s ms list with sync | ⟨zero, genesis, -⟩
      · exact sync
      · rw [(takes s ms).list list zero]
        exact .nil zero genesis
    rw [Sink.heads_accept]
    exact sync.snoc rfl rfl (AnchorRecord.sealed_isSealed _) (by simp) (by simp)
  · rw [AnchorManager.emit_of_accepts acc] at mem ⊢
    obtain ⟨s, ms, rfl⟩ := List.mem_map.1 mem
    obtain ⟨pre, post, ret⟩ := inStep.files s ms repo clone
    rw [Sink.dicts_accept]
    exact ⟨_, ret.emit rfl rfl rfl (AnchorRecord.sealed_isSealed _) (by simp) (by simp)
      ((takes s ms).files repo clone)⟩

/-- A step that resets no counter keeps the sinks in step. -/
lemma InStep.step {b : Backend} {id : String} {s : Deployment} (inStep : InStep id s.manager)
    {op : DeployOp} (acc : op.Accepts) (noReset : NoReset id s op) :
    InStep id (deployStep b id s op).manager := by
  rw [deployStep_manager inStep.idle]
  cases op with
  | append env a => exact inStep
  | anchor force env =>
    dsimp only
    split
    · rename_i emits
      exact inStep.emit (fun i _ => acc 0 i) _ (noReset emits)
    · exact inStep
  | restart anchorN =>
    refine ⟨⟨rfl, rfl, inStep.held⟩, fun sink mem list => .inr ⟨rfl, rfl, inStep.intact mem list⟩,
      fun sink mem repo clone => ?_⟩
    obtain ⟨pre, post, ret⟩ := inStep.files sink mem repo clone
    exact ⟨_, _, ret.restart rfl rfl⟩

/-- Some list's epochs do not increase. -/
def Broken (m : AnchorManager) : Prop :=
  ∃ sink ∈ m.sinks, sink.repo = none ∧ ¬ (sink.heads.map (·.epoch)).Pairwise (· < ·)

/-- Some git sink has accepted two records for one file. -/
def Overwritten (m : AnchorManager) : Prop :=
  ∃ sink ∈ m.sinks, ∃ repo, sink.repo = some repo ∧ ∃ h ∈ sink.log, ∃ h' ∈ sink.log,
    GitAnchorSink.anchorPath repo h.dict = GitAnchorSink.anchorPath repo h'.dict ∧ h.dict ≠ h'.dict

omit [Platform] in
/-- A broken list stays broken where logs only grow. -/
lemma Broken.of_grows {m m' : AnchorManager} (broken : Broken m) (g : m.Grows m') : Broken m' := by
  obtain ⟨sink, mem, list, bad⟩ := broken
  obtain ⟨i, hi⟩ := List.mem_iff_getElem?.1 mem
  obtain ⟨sink', hi', repo, pf⟩ := g i sink hi
  refine ⟨sink', List.mem_of_getElem? hi', repo.trans list, fun good => bad ?_⟩
  have sub : (sink.heads.map (·.epoch)).Sublist (sink'.heads.map (·.epoch)) :=
    (((pf.sublist.map _).filter _).map _).map _
  exact good.sublist sub

omit [Platform] in
/-- What was accepted for one file stays so. -/
lemma Overwritten.of_grows {m m' : AnchorManager} (lost : Overwritten m) (g : m.Grows m') :
    Overwritten m' := by
  obtain ⟨sink, mem, repo, clone, h, hh, h', hh', paths⟩ := lost
  obtain ⟨i, hi⟩ := List.mem_iff_getElem?.1 mem
  obtain ⟨sink', hi', same, pf⟩ := g i sink hi
  exact ⟨sink', List.mem_of_getElem? hi', repo, same.trans clone, h, pf.subset hh, h', pf.subset hh', paths⟩

/-- An anchor of the reset counter breaks a list that holds anchors from before. -/
lemma broken_of_reset {id : String} {m : AnchorManager} (inStep : InStep id m) {env : EmitEnv}
    (acc : env.Accepts m.sinks) {sink : Sink} (mem : sink ∈ m.sinks) (list : sink.repo = none)
    (zero : (m.state id).epoch = 0) (held : sink.heads ≠ []) (head : Nat × String) : Broken (m.emit id head env) := by
  rw [AnchorManager.emit_of_accepts acc]
  refine ⟨_, List.mem_map_of_mem mem, list, fun good => ?_⟩
  obtain ⟨a, as, e⟩ := List.exists_cons_of_ne_nil held
  rw [Sink.heads_accept, e] at good
  -- the old first anchor has a positive epoch, the new anchor has epoch 1
  have pos : 0 < a.epoch := (List.pairwise_cons.1 (inStep.intact mem list).pairwise).1 a.epoch (by simp [e])
  have lt : a.epoch < (m.nextAnchor id head env.now).epoch := by
    simp only [List.cons_append, List.map_cons, List.map_append, List.pairwise_cons] at good
    exact good.1 _ (by simp)
  have one : (m.nextAnchor id head env.now).epoch = (m.state id).epoch + 1 := rfl
  omega

/-- An anchor overwrites the file of another of its epoch. -/
lemma overwritten_of_reset {id : String} {m : AnchorManager} (inStep : InStep id m) {env : EmitEnv}
    (acc : env.Accepts m.sinks) {sink : Sink} (mem : sink ∈ m.sinks) {repo : String} (clone : sink.repo = some repo)
    {head : Nat × String} {x : AnchorRecord} (hx : x ∈ sink.heads)
    (epoch : x.epoch = (m.nextAnchor id head env.now).epoch) (ne : x ≠ m.nextAnchor id head env.now) :
    Overwritten (m.emit id head env) := by
  rw [AnchorManager.emit_of_accepts acc]
  have held := (inStep.mem_heads_iff mem).1 hx
  obtain ⟨a, own, e⟩ := inStep.held sink mem _ held
  have own : x.tenantId = id := by
    rw [show x = a from congrArg (fun h : Held => AnchorRecord.fromDict h.dict) e, own]
  refine ⟨_, List.mem_map_of_mem mem, repo, clone, _, List.mem_append_left _ held, _,
    List.mem_append_right _ (List.mem_singleton_self _), ?_, fun same => ne ?_⟩
  · exact GitAnchorSink.anchorPath_inj.2 ⟨congrArg (GitAnchorSink.tenantDir repo) own, epoch⟩
  · exact congrArg AnchorRecord.fromDict same

/-- An emission that some sink cannot take breaks a list or overwrites a file. -/
lemma lost_of_reset {b : Backend} {id : String} {s : Deployment} (inStep : InStep id s.manager)
    {op : DeployOp} (acc : op.Accepts) (reset : ¬ NoReset id s op) :
    Broken (deployStep b id s op).manager ∨ Overwritten (deployStep b id s op).manager := by
  rw [deployStep_manager inStep.idle]
  cases op with
  | append env a => exact absurd trivial reset
  | restart anchorN => exact absurd trivial reset
  | anchor force env =>
    simp only [NoReset, Classical.not_imp, not_forall] at reset
    obtain ⟨emits, sink, mem, cannot⟩ := reset
    have emits' : (force || s.manager.due id s.chain.head.1) = true := emits
    simp only [emits', if_true]
    have accepts : (env 0).Accepts s.manager.sinks := fun i _ => acc 0 i
    cases clone : sink.repo with
    | none =>
      have zero : (s.manager.state id).epoch = 0 ∧ sink.heads ≠ [] := by
        by_contra no
        exact cannot ⟨fun _ zero => by_contra fun ne => no ⟨zero, ne⟩, fun _ e => by simp [clone] at e⟩
      exact .inl (broken_of_reset inStep accepts mem clone zero.1 zero.2 _)
    | some repo =>
      obtain ⟨x, hx, epoch, ne⟩ : ∃ x ∈ sink.heads,
          x.epoch = (s.manager.nextAnchor id s.chain.head (env 0).now).epoch ∧
          x ≠ s.manager.nextAnchor id s.chain.head (env 0).now := by
        by_contra no
        exact cannot ⟨fun list => by simp [clone] at list, fun _ _ x hx epoch =>
          by_contra fun ne => no ⟨x, hx, epoch, ne⟩⟩
      exact .inr (overwritten_of_reset inStep accepts mem clone hx epoch ne)

/-! ## Runs -/

/-- Empty sinks are in step. -/
lemma inStep_start (b : Backend) (id : String) (sinks : List Sink) (anchorN : Int) :
    InStep id (Deployment.start b id sinks anchorN).manager := by
  have empty : ∀ sink ∈ (Deployment.start b id sinks anchorN).manager.sinks, sink.log = [] := by
    intro sink mem
    obtain ⟨s, -, rfl⟩ := List.mem_map.1 mem
    rfl
  refine ⟨⟨rfl, rfl, fun sink mem h hh => ?_⟩, fun sink mem _ => .inl ?_, fun sink mem repo _ => ?_⟩
  · rw [empty sink mem] at hh
    cases hh
  · have none : sink.heads = [] := by rw [Sink.heads, empty sink mem]; rfl
    rw [none]
    exact .nil rfl rfl
  · rw [empty sink mem]
    exact ⟨[], [], .nil repo id, by simp, ⟨by simp, trivial⟩, by simp [Consecutive], .nil rfl rfl⟩

/-- A run of accepting steps holds anchors by value. -/
lemma plain_run {b : Backend} {id : String} {s : Deployment} (plain : Plain id s.manager)
    {ops : List DeployOp} (acc : ∀ op ∈ ops, op.Accepts) :
    Plain id (run (deployStep b id) s ops).manager :=
  run_invariant_of_steps _ (I := fun s : Deployment => Plain id s.manager) plain
    (fun _ _ plain acc => plain.step acc) (steps_of_forall acc)

/-- A run of accepting steps without a reset keeps the sinks in step. -/
lemma inStep_run {b : Backend} {id : String} {s : Deployment} (inStep : InStep id s.manager)
    {ops : List DeployOp} (acc : ∀ op ∈ ops, op.Accepts)
    (noReset : Steps (deployStep b id) (NoReset id) s ops) :
    InStep id (run (deployStep b id) s ops).manager :=
  run_invariant_of_steps _ (I := fun s : Deployment => InStep id s.manager) inStep
    (fun _ _ inStep ok => inStep.step ok.1 ok.2) ((steps_of_forall acc).and noReset)

/-- No run takes anything from what a sink has accepted. -/
lemma grows_run (b : Backend) (id : String) (s : Deployment) (ops : List DeployOp) :
    s.manager.Grows (run (deployStep b id) s ops).manager :=
  run_related (deployStep b id) (R := fun s s' => s.manager.Grows s'.manager) (fun _ => .refl _)
    (fun g g' => g.trans g') (fun s op => deployStep_grows b id s op) s ops

omit [Platform] in
/-- A list gives back what it has accepted. -/
lemma Plain.readBack_list {id : String} {m : AnchorManager} (plain : Plain id m) {sink : Sink}
    (mem : sink ∈ m.sinks) (list : sink.repo = none) :
    sink.readBack m.gaps = sink.log.map (·.dict) := by
  unfold Sink.readBack
  rw [list]
  refine Sink.read_of_byValue (fun h hh => ?_) m.gaps
  obtain ⟨a, -, rfl⟩ := plain.held sink mem h hh
  rfl

/-- An intact chain of anchors that is not empty is an intact log. -/
lemma LogIntact.of_anchors {log : List AnchorDict} (intact : AnchorsIntact GENESIS_ANCHOR_HASH 0 (heads log))
    (some : heads log ≠ []) : LogIntact log := by
  refine ⟨(List.pairwise_cons.1 intact.pairwise).2, intact.linked, fun records impl => ?_⟩
  obtain ⟨rep, e, -, est⟩ := p3_of_intact intact impl
  exact ⟨rep, e, est some⟩

/-- A log with P3 established holds an anchor. -/
lemma LogIntact.ne_nil {log : List AnchorDict} (intact : LogIntact log) : heads log ≠ [] := by
  intro none
  obtain ⟨rep, e, est⟩ := intact.p3 [] (by simp)
  obtain ⟨ne, -⟩ := (verifyCustody_spec e).p3.established.1 est
  refine ne ?_
  rw [show headAnchors log = (heads log).insertionSort (·.epoch ≤ ·.epoch) from rfl, none]
  rfl

/-- A sink that holds the tenant's anchors in step with the manager survives. -/
lemma InStep.survives {id : String} {m : AnchorManager} (inStep : InStep id m) {sink : Sink}
    (mem : sink ∈ m.sinks) (holds : sink.Holds id) : sink.Survives m.gaps := by
  cases clone : sink.repo with
  | none =>
    have back := inStep.readBack_list mem clone
    refine ⟨.of_anchors ?_ ?_, fun h hh => ?_⟩
    · rw [back]
      exact inStep.intact mem clone
    · rw [back]
      exact holds.some
    · rw [back]
      exact List.mem_map_of_mem hh
  | some repo =>
    obtain ⟨pre, post, ret⟩ := inStep.files sink mem repo clone
    have back : sink.readBack m.gaps = (pre ++ post).map (·.toDict) := by
      unfold Sink.readBack
      rw [clone]
      dsimp only
      rw [ret.filed.loadAnchors ret.intact.strict, if_pos (holds.inside repo clone)]
    refine ⟨.of_anchors ?_ ?_, fun h hh => ?_⟩
    · rw [back, heads_map_toDict]
      exact ret.intact
    · rw [back, heads_map_toDict]
      obtain ⟨a, ha⟩ := List.exists_mem_of_ne_nil _ holds.some
      obtain ⟨x, hx, -⟩ := ret.all a.toDict
        (List.mem_map_of_mem ((inStep.mem_heads_iff mem).1 ha))
      exact List.ne_nil_of_mem hx
    · rw [back]
      obtain ⟨x, hx, e⟩ := ret.all h.dict (List.mem_map_of_mem hh)
      rw [e]
      exact List.mem_map_of_mem hx

omit [Platform] in
/-- A sink that gives back an anchor holds one, inside. -/
lemma Plain.holds {id : String} {m : AnchorManager} (plain : Plain id m) {sink : Sink}
    (mem : sink ∈ m.sinks) (some : heads (sink.readBack m.gaps) ≠ []) : sink.Holds id := by
  cases clone : sink.repo with
  | none =>
    rw [plain.readBack_list mem clone] at some
    exact ⟨some, fun _ e => by simp [clone] at e⟩
  | some repo =>
    obtain ⟨a, ha⟩ := List.exists_mem_of_ne_nil _ some
    obtain ⟨d, hd, -, -⟩ := mem_heads.1 ha
    unfold Sink.readBack at hd
    rw [clone] at hd
    obtain ⟨inside, pre, post, split, -⟩ := GitAnchorSink.mem_loadAnchors_filesOf.1 hd
    obtain ⟨h, hh, rfl⟩ := List.mem_map.1 (show d ∈ sink.log.map (·.dict) by rw [split]; simp)
    obtain ⟨x, own, rfl⟩ := plain.held sink mem h hh
    refine ⟨List.ne_nil_of_mem ((plain.mem_heads_iff mem).2 hh), fun repo' e => ?_⟩
    rw [clone] at e
    cases e
    rwa [show x.toDict.tenantId = id from own] at inside

/-- In a run in which every sink accepts, every sink gives back an intact log with all it has accepted
exactly when every sink has accepted an anchor inside and no emission was one that a sink could not take. -/
theorem survives_restarts_iff (b : Backend) (id : String) (sinks : List Sink) (anchorN : Int)
    (ops : List DeployOp) (acc : ∀ op ∈ ops, op.Accepts) :
    let start := Deployment.start b id sinks anchorN
    let s := run (deployStep b id) start ops
    (∀ sink ∈ s.manager.sinks, sink.Survives s.manager.gaps) ↔
      (∀ sink ∈ s.manager.sinks, sink.Holds id) ∧ Steps (deployStep b id) (NoReset id) start ops := by
  intro start s
  have inStep : InStep id start.manager := inStep_start b id sinks anchorN
  have plain : Plain id s.manager := plain_run inStep.toPlain acc
  constructor
  · intro survives
    refine ⟨fun sink mem => plain.holds mem (survives sink mem).intact.ne_nil, ?_⟩
    by_contra no
    -- the first reset breaks a list or overwrites a file, and logs only grow
    obtain ⟨pre, op, post, rfl, ok, reset⟩ := exists_first_of_not_steps _ no
    have accPre : ∀ o ∈ pre, o.Accepts := fun o h => acc o (by simp [h])
    have accOp : op.Accepts := acc op (by simp)
    have grows : (deployStep b id (run (deployStep b id) start pre) op).manager.Grows s.manager := by
      rw [show s = run (deployStep b id) (run (deployStep b id) start pre) (op :: post) from
        run_append .., run_cons]
      exact grows_run b id _ post
    rcases lost_of_reset (b := b) (inStep_run inStep accPre ok) accOp reset with broken | lost
    · obtain ⟨sink, mem, list, bad⟩ := broken.of_grows grows
      have good := (survives sink mem).intact.epochs
      rw [plain.readBack_list mem list] at good
      exact bad good
    · obtain ⟨sink, mem, repo, clone, h, hh, h', hh', path, ne⟩ := lost.of_grows grows
      have kept := (survives sink mem).kept
      unfold Sink.readBack at kept
      rw [clone] at kept
      exact ne (GitAnchorSink.loadAnchors_inj (kept h hh) (kept h' hh') path)
  · rintro ⟨holds, ok⟩ sink mem
    exact (inStep_run inStep acc ok).survives mem (holds sink mem)

end

section Sample

/-- The digests of the sample chain and anchor, and of an anchor of the same head a second later. -/
def restartDigests : DigestTable where
  entries := sampleAnchorDigests.entries ++
    [("\x7b\"anchored_at_utc\": \"2023-11-14T22:13:21Z\", \"chain_length\": 1, \"epoch\": 1, " ++
      "\"gap\": null, " ++
      "\"head_hash\": \"29bebed3c4ccc5d7a01d5781f84b868d2d8a87c8fd742b19e0a5824182f3140b\", " ++
      "\"prev_anchor_hash\": \"0000000000000000000000000000000000000000000000000000000000000000\", " ++
      "\"tenant_id\": \"acme\"\x7d",
      "2f106d44e7c92bc332a5cb13fb6990d8ff122e7c61a811514ec5fb2c3776a252")]
  distinct := by decide +kernel
  plain := by decide +kernel

local instance restartPlatform : Platform := .reference restartDigests

def sampleEmitEnv : EmitEnv := { now := "2023-11-14T22:13:20Z", raises := fun _ => none }

/-- A list and a git sink. -/
def restartSinks : List Sink :=
  [{ name := "memory", byReference := true }, { name := "git", repo := some "/srv/anchors" }]

def restartStart : Deployment := .start .SQLiteBackend "acme" restartSinks 50

/-- One record, an anchor, and a restart. -/
def restartOps : List DeployOp :=
  [.append sampleEnv sampleArgs, .anchor true fun _ => sampleEmitEnv, .restart 50]

/-- And an anchor by the new process. -/
def reanchorOps : List DeployOp :=
  restartOps ++ [.anchor true fun _ => { sampleEmitEnv with now := "2023-11-14T22:13:21Z" }]

lemma reanchorOps_accept : ∀ op ∈ reanchorOps, op.Accepts := by
  simp [reanchorOps, restartOps, DeployOp.Accepts, sampleEmitEnv]

/-- Until the new process anchors, both sinks give back all they have accepted. -/
theorem survives_restarts_iff_sample :
    let s := run (deployStep .SQLiteBackend "acme") restartStart restartOps
    ∀ sink ∈ s.manager.sinks, sink.Survives s.manager.gaps := by
  intro s
  refine (survives_restarts_iff .SQLiteBackend "acme" restartSinks 50 restartOps fun op mem =>
    reanchorOps_accept op (List.mem_append_left _ mem)).2 ⟨fun sink mem => ⟨?_, ?_⟩, ?_⟩
  · have accepted : ∀ sink ∈ s.manager.sinks, sink.heads.length = 1 := by decide +kernel
    intro none
    exact absurd (accepted sink mem) (by rw [none]; decide)
  · have clones : ∀ sink ∈ s.manager.sinks, ∀ repo ∈ sink.repo,
        GitAnchorSink.anchorsDir repo <+: GitAnchorSink.tenantDir repo "acme" := by decide +kernel
    exact clones sink mem
  · -- the first anchor finds no sink with one
    refine ⟨trivial, fun _ sink mem => ?_, trivial, trivial⟩
    have none : sink.heads = [] := by
      have mem : sink ∈ restartSinks.map fun s => { s with log := [] } := mem
      obtain ⟨s, -, rfl⟩ := List.mem_map.1 mem
      rfl
    exact ⟨fun _ _ => none, fun _ _ x hx => by rw [none] at hx; cases hx⟩

def reanchorEnd : Deployment := run (deployStep .SQLiteBackend "acme") restartStart reanchorOps

/-- The new process starts its epochs over: the list reads 1, 1, and the git sink gives back one of the two
anchors it has accepted. -/
theorem restart_repeats_epoch :
    (∀ op ∈ reanchorOps, op.Accepts) ∧
    reanchorEnd.manager.sinks.map (fun sink => (sink.heads.map (·.epoch),
      (heads (sink.readBack reanchorEnd.manager.gaps)).map (·.epoch))) =
      [([1, 1], [1, 1]), ([1, 1], [1])] ∧
    ¬ ∀ sink ∈ reanchorEnd.manager.sinks, sink.Survives reanchorEnd.manager.gaps := by
  have epochs : reanchorEnd.manager.sinks.map (fun sink => (sink.heads.map (·.epoch),
      (heads (sink.readBack reanchorEnd.manager.gaps)).map (·.epoch))) =
      [([1, 1], [1, 1]), ([1, 1], [1])] := by
    decide +kernel
  refine ⟨reanchorOps_accept, epochs, fun claim => ?_⟩
  obtain ⟨sink, rest, split, read, -⟩ := List.map_eq_cons_iff.1 epochs
  have good := (claim sink (by rw [split]; simp)).intact.epochs
  rw [(Prod.mk.inj read).2] at good
  exact absurd good (by decide)

end Sample

end Custos
