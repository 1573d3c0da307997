import Custos.Custody.Restart

/-!
# The git anchor sink

What a `GitAnchorSink` gives back of the records one manager issues. It is all of them exactly when the
records are kept apart: no tenant has records of both kinds, and the tenants' directories are distinct
and inside (`git_loses_nothing_iff`).
-/

namespace Custos

/-! ## The records of one manager -/

/-- The log has the first record of the kind and tenant. -/
def HasFirst (log : List AnchorDict) (kind : Bool) (tenantId : String) : Prop :=
  ∃ d ∈ log, d.isPolicyCommit = kind ∧ d.tenantId = tenantId ∧ d.epoch = 1

/-- A kind's and tenant's counter in the manager. -/
def AnchorManager.counter (m : AnchorManager) (kind : Bool) (tenantId : String) : Int :=
  if kind then (m.policyState tenantId).epoch else (m.state tenantId).epoch

/-- A counter that moved has its first record in the log, and no record comes without it. -/
structure Numbered (log : List AnchorDict) (counter : Bool → String → Int) : Prop where
  moved : ∀ kind id, counter kind id = 0 ∨ HasFirst log kind id
  first : ∀ d ∈ log, HasFirst log d.isPolicyCommit d.tenantId

/-- A record that takes the next number of its counter keeps the log numbered, whether or not the
counter moves with it. -/
lemma Numbered.snoc {log : List AnchorDict} {counter counter' : Bool → String → Int}
    (num : Numbered log counter) {d : AnchorDict}
    (epoch : d.epoch = counter d.isPolicyCommit d.tenantId + 1)
    (others : ∀ kind id, counter' kind id = counter kind id ∨
      kind = d.isPolicyCommit ∧ id = d.tenantId) : Numbered (log ++ [d]) counter' := by
  have grow : ∀ {kind id}, HasFirst log kind id → HasFirst (log ++ [d]) kind id := by
    rintro kind id ⟨x, hx, h⟩
    exact ⟨x, by simp [hx], h⟩
  have own : HasFirst (log ++ [d]) d.isPolicyCommit d.tenantId := by
    rcases num.moved d.isPolicyCommit d.tenantId with zero | first
    · exact ⟨d, by simp, rfl, rfl, by omega⟩
    · exact grow first
  refine ⟨fun kind id => ?_, fun x hx => ?_⟩
  · rcases others kind id with same | ⟨rfl, rfl⟩
    · rw [same]
      exact (num.moved kind id).imp_right grow
    · exact .inr own
  · rcases List.mem_append.1 hx with hx | hx
    · exact grow (num.first x hx)
    · rw [List.mem_singleton.1 hx]
      exact own

/-- The log of sink `g`, and its numbering. -/
def SinkNumbered (g : Nat) (m : AnchorManager) : Prop :=
  ∀ sink, m.sinks[g]? = some sink → Numbered (sink.log.map (·.dict)) m.counter

/-- An offer of a record with the next number of its counter, which moves only where every sink
accepts. -/
lemma SinkNumbered.offer {g : Nat} {m m' : AnchorManager} (num : SinkNumbered g m) (env : EmitEnv)
    (d : AnchorDict) (ref : Option Nat) (sinks : m'.sinks = offer env.raises d ref m.sinks)
    (epoch : d.epoch = m.counter d.isPolicyCommit d.tenantId + 1)
    (others : ∀ kind id, m'.counter kind id = m.counter kind id ∨
      env.Accepts m.sinks ∧ kind = d.isPolicyCommit ∧ id = d.tenantId) : SinkNumbered g m' := by
  intro sink h
  rw [sinks, getElem?_offer] at h
  obtain ⟨s, hs, rfl⟩ := Option.map_eq_some_iff.1 h
  split
  · rw [Sink.accept, List.map_append]
    exact (num s hs).snoc epoch fun kind id => (others kind id).imp_right (·.2)
  · rename_i refuses
    -- the sink raised, so no counter has moved
    have same : m'.counter = m.counter := by
      funext kind id
      refine (others kind id).resolve_right fun h => refuses ?_
      rw [h.1 g (List.getElem?_eq_some_iff.1 hs).1]
      rfl
    rw [same]
    exact num s hs

section

variable [Platform]

/-- An attempt numbers its anchor anew. -/
lemma SinkNumbered.emit {g : Nat} {m : AnchorManager} (num : SinkNumbered g m) (id : String)
    (head : Nat × String) (env : EmitEnv) : SinkNumbered g (m.emit id head env) := by
  refine num.offer env (m.nextAnchor id head env.now).toDict (m.state id).pendingGap (m.emit_sinks id head env) rfl
    fun kind x => ?_
  by_cases acc : env.Accepts m.sinks
  · rw [AnchorManager.emit_of_accepts acc]
    cases kind with
    | true => exact .inl rfl
    | false =>
      by_cases e : x = id
      · exact .inr ⟨acc, rfl, e⟩
      · left
        simp [AnchorManager.counter, e]
  · left
    rw [AnchorManager.emit_of_refused acc]
    cases kind with
    | true => rfl
    | false =>
      by_cases e : x = id
      · simp [AnchorManager.counter, e]
      · simp [AnchorManager.counter, e]

lemma SinkNumbered.emitPolicyCommit {g : Nat} {m : AnchorManager} (num : SinkNumbered g m)
    (c : QueuedCommit) (env : EmitEnv) : SinkNumbered g (m.emitPolicyCommit c env).2 := by
  by_cases acc : env.Accepts m.sinks
  · have none : offerErrors env.raises m.sinks = [] := offerErrors_eq_nil.2 acc
    refine num.offer env (m.nextCommit c env.now).toDict .none (m.emitPolicyCommit_sinks c env) rfl fun kind x => ?_
    simp only [AnchorManager.emitPolicyCommit, none, ne_eq, not_true_eq_false, if_false]
    cases kind with
    | false => exact .inl rfl
    | true =>
      by_cases e : x = c.tenantId
      · exact .inr ⟨acc, rfl, e⟩
      · left
        simp [AnchorManager.counter, e]
  · have some : offerErrors env.raises m.sinks ≠ [] := mt offerErrors_eq_nil.1 acc
    refine num.offer env (m.nextCommit c env.now).toDict .none (m.emitPolicyCommit_sinks c env) rfl fun kind x => ?_
    simp only [AnchorManager.emitPolicyCommit, some, ne_eq, not_false_eq_true, if_true]
    exact .inl rfl

lemma sinkNumbered_run {g : Nat} {m : AnchorManager} (num : SinkNumbered g m) (ops : List ManagerOp) :
    SinkNumbered g (run managerStep m ops) :=
  run_invariant managerStep num (fun m op num =>
    managerStep_invariant (fun _ _ num => num) (fun _ id head env num => num.emit id head env)
      (fun _ c env num => num.emitPolicyCommit c env) m op num) ops

end

/-- What keeps the files of a log apart: no record was appended twice, no tenant has records of both
kinds, and the tenants' directories are distinct and lie in `anchors/`. -/
structure Separated (repo : String) (log : List AnchorDict) : Prop where
  once : (log.map fun d => (d.tenantId, d.isPolicyCommit, d.epoch)).Nodup
  oneKind : ∀ d ∈ log, ∀ d' ∈ log, d.tenantId = d'.tenantId → d.isPolicyCommit = d'.isPolicyCommit
  dirs : ∀ d ∈ log, ∀ d' ∈ log,
    GitAnchorSink.tenantDir repo d.tenantId = GitAnchorSink.tenantDir repo d'.tenantId →
      d.tenantId = d'.tenantId
  inside : ∀ d ∈ log, GitAnchorSink.anchorsDir repo <+: GitAnchorSink.tenantDir repo d.tenantId

open GitAnchorSink in
/-- In a numbered log the paths are distinct exactly when the records are kept apart. -/
lemma nodup_paths_iff {repo : String} {log : List AnchorDict} {counter : Bool → String → Int}
    (num : Numbered log counter) :
    (log.map (anchorPath repo)).Nodup ∧ (∀ d ∈ log, anchorsDir repo <+: tenantDir repo d.tenantId) ↔
      Separated repo log := by
  constructor
  · rintro ⟨nd, inside⟩
    have path_inj := List.inj_on_of_nodup_map nd
    refine ⟨?_, fun d hd d' hd' e => ?_, fun d hd d' hd' e => ?_, inside⟩
    · refine List.Nodup.of_map (fun k : String × Bool × Int => tenantDir repo k.1 ++ [fileName k.2.2]) ?_
      rw [List.map_map]
      simpa only [Function.comp_def, ← anchorPath_eq] using nd
    · -- both kinds have a first record, in one file
      obtain ⟨x, hx, kx, tx, ex⟩ := num.first d hd
      obtain ⟨y, hy, ky, ty, ey⟩ := num.first d' hd'
      have same : x = y := path_inj hx hy (anchorPath_inj.2 ⟨by rw [tx, ty, e], by rw [ex, ey]⟩)
      rw [← kx, ← ky, same]
    · -- both tenants have a first record, in one file
      obtain ⟨x, hx, kx, tx, ex⟩ := num.first d hd
      obtain ⟨y, hy, ky, ty, ey⟩ := num.first d' hd'
      have same : x = y := path_inj hx hy (anchorPath_inj.2 ⟨by rw [tx, ty, e], by rw [ex, ey]⟩)
      rw [← tx, ← ty, same]
  · rintro ⟨once, oneKind, dirs, inside⟩
    refine ⟨List.Nodup.map_on (fun d hd d' hd' e => ?_) (List.Nodup.of_map _ once), inside⟩
    obtain ⟨dir, epoch⟩ := anchorPath_inj.1 e
    have tenant := dirs d hd d' hd' dir
    have kind := oneKind d hd d' hd' tenant
    exact List.inj_on_of_nodup_map once hd hd' (by simp only [tenant, kind, epoch])

section

variable [Platform]

/-- The git sink of a manager gives back every record it accepted, and nothing else, exactly when the
records are kept apart. -/
theorem git_loses_nothing_iff (repo : String) (sinks : List Sink) (anchorN : Int)
    (ops : List ManagerOp) :
    let m := run managerStep (.init (sinks.map fun s => { s with log := [] }) [] anchorN) ops
    ∀ sink ∈ m.sinks, let log := sink.log.map (·.dict)
      (GitAnchorSink.loadAnchors repo (GitAnchorSink.filesOf repo log)).Perm log ↔
        Separated repo log := by
  intro m sink mem log
  obtain ⟨g, hg⟩ := List.mem_iff_getElem?.1 mem
  have start : SinkNumbered g (.init (sinks.map fun s => { s with log := [] }) [] anchorN) := by
    intro s hs
    obtain ⟨s', -, rfl⟩ := List.mem_map.1 (List.mem_of_getElem? hs)
    exact ⟨fun kind id => .inl (by cases kind <;> rfl), by simp⟩
  have num := sinkNumbered_run start ops sink hg
  rw [GitAnchorSink.loadAnchors_perm_iff]
  exact nodup_paths_iff num

end

section Sample

/-- The digests of the sample anchor and of a commit of an empty policy. -/
def gitDigests : DigestTable where
  entries := sampleAnchorDigests.entries ++
    [("\x7b\"anchored_at_utc\": \"2023-11-14T22:13:20Z\", \"canonical_json\": \"\x7b\x7d\", " ++
      "\"epoch\": 1, " ++
      "\"head_hash\": \"44136fa355b3678a1146ad16f7e8649e94fb4fc21fe77e8310c060f61caaff8a\", " ++
      "\"kind\": \"policy_commit\", " ++
      "\"prev_anchor_hash\": \"0000000000000000000000000000000000000000000000000000000000000000\", " ++
      "\"tenant_id\": \"acme\"\x7d",
      "4f1dd89f93975f9f591663e79b6d605ed2cc38783ffe7c21c63576229ab0586f")]
  distinct := by decide +kernel
  plain := by decide +kernel

local instance gitPlatform : Platform := .reference gitDigests

/-- A head anchor of a tenant, and a commit of its policy. -/
def gitOps : List ManagerOp :=
  [.anchorDue true [("acme", sampleChain)] fun _ => sampleEmitEnv,
   .anchorPolicyCommit "acme" "44136fa355b3678a1146ad16f7e8649e94fb4fc21fe77e8310c060f61caaff8a"
     "\x7b\x7d",
   .drainPolicyCommits fun _ => sampleEmitEnv]

def gitEnd : AnchorManager := run managerStep (.init [{ name := "git" }] [] 50) gitOps

def gitLog : List AnchorDict := gitEnd.sinks.flatMap fun sink => sink.log.map (·.dict)

/-- The sample has one sink. -/
lemma gitEnd_sinks : ∃ sink ∈ gitEnd.sinks, gitLog = sink.log.map (·.dict) := by
  have one : gitEnd.sinks.length = 1 := by decide +kernel
  obtain ⟨sink, e⟩ := List.length_eq_one_iff.1 one
  exact ⟨sink, by simp [e], by simp [gitLog, e]⟩

/-- A head anchor and a commit of one tenant. -/
theorem git_loses_nothing_iff_sample :
    (GitAnchorSink.loadAnchors "/srv/anchors" (GitAnchorSink.filesOf "/srv/anchors" gitLog)).Perm
      gitLog ↔ Separated "/srv/anchors" gitLog := by
  obtain ⟨sink, mem, e⟩ := gitEnd_sinks
  rw [e]
  exact git_loses_nothing_iff "/srv/anchors" [{ name := "git" }] 50 gitOps sink mem

/-- The commit overwrites the anchor: both are the tenant's epoch 1, and one file is read back for the two
records the sink accepted. -/
theorem git_sink_overwrites :
    gitLog.map (fun d => (d.tenantId, d.isPolicyCommit, d.epoch)) =
      [("acme", false, 1), ("acme", true, 1)] ∧
    ¬ (GitAnchorSink.loadAnchors "/srv/anchors" (GitAnchorSink.filesOf "/srv/anchors" gitLog)).Perm
      gitLog := by
  refine ⟨by decide +kernel, fun perm => ?_⟩
  have lost : (GitAnchorSink.loadAnchors "/srv/anchors"
      (GitAnchorSink.filesOf "/srv/anchors" gitLog)).length = 1 := by decide +kernel
  have issued : gitLog.length = 2 := by decide +kernel
  have same := perm.length_eq
  omega

end Sample

end Custos
