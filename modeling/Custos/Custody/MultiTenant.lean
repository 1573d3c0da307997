import Custos.Custody.GitSink
import Custos.Custody.Sinks

/-!
# One log for many tenants

One manager anchors the chains of any number of tenants to one sink that accepts everything. Per tenant
the anchors are one intact chain over prefixes of the tenant's records (`Honest`); but the log holds all
tenants' anchors, and P2 and P3 of the re-walk take every head anchor in it as the walked tenant's. So an
honest tenant is cleared exactly when the log read back has no other tenant's anchor in it, and none of
its own over an empty chain, which a forced tick may have taken (`honest_log_iff`).
-/

namespace Custos

section

variable [Platform]

/-- The tenants' chains over one store, and the manager that anchors them. -/
structure Tenants where
  table : AuditTable
  chains : String → AuditChain
  manager : AnchorManager

inductive TenantOp where
  /-- a record is appended to a tenant's chain -/
  | append (id : String) (env : RecordEnv) (a : RecordArgs)
  /-- `anchor_due` -/
  | anchorDue (force : Bool) (env : Nat → EmitEnv)

/-- One step, with the registered tenants `ids`. -/
def tenantStep (ids : List String) (s : Tenants) : TenantOp → Tenants
  | .append id env a =>
    let (_, chain, table) := (s.chains id).record s.table env a
    { s with table, chains := Function.update s.chains id chain }
  | .anchorDue force env =>
    { s with manager := s.manager.anchorDue force (ids.map fun id => (id, s.chains id)) env }

/-- Empty chains over an empty store, and one sink that holds nothing. -/
def Tenants.start (b : Backend) (name : String) (byReference : Bool) (anchorN : Int) : Tenants where
  table := .empty
  chains id := { records := [], tenantId := some id, backend := b }
  manager := .init [{ name, byReference }] [] anchorN

/-- The sink accepts everything. -/
def TenantOp.Accepts : TenantOp → Prop
  | .anchorDue _ env => ∀ k i, (env k).raises i = none
  | _ => True

/-! ## What an honest run keeps -/

/-- A chain of one tenant: linked, and with the tenant's records only. -/
structure ChainOf (id : String) (c : AuditChain) : Prop where
  tenantId : c.tenantId = some id
  linked : recordLink.Linked GENESIS_HASH c.records
  own : ∀ r ∈ c.records, r.tenantId = some id

/-- A call of `record` keeps the chain its tenant's, and only adds to it. -/
lemma ChainOf.record {id : String} {c : AuditChain} (ch : ChainOf id c) (t : AuditTable)
    (env : RecordEnv) (a : RecordArgs) :
    ChainOf id (c.record t env a).2.1 ∧ c.records <+: (c.record t env a).2.1.records := by
  rcases c.record_cases t env a with ⟨e, he⟩ | ⟨r, t', -, ent, -, he⟩
  · rw [he]
    exact ⟨ch, List.prefix_refl _⟩
  · rw [he]
    refine ⟨⟨ch.tenantId, ent.linked ch.linked, fun x hx => ?_⟩, List.prefix_append _ _⟩
    rcases List.mem_append.1 hx with hx | hx
    · exact ch.own x hx
    · rw [List.mem_singleton.1 hx]
      exact ent.tenantId ch.tenantId

/-- The anchor is of the head of a prefix of the records. -/
def OverPrefix (records : List AuditRecord) (a : AnchorRecord) : Prop :=
  ∃ pre, pre <+: records ∧ a.chainLength = pre.length ∧ a.headHash = recordLink.head GENESIS_HASH pre

/-- An anchor over a prefix of the records is one of more records. -/
lemma OverPrefix.mono {records records' : List AuditRecord} {a : AnchorRecord}
    (taken : OverPrefix records a) (pf : records <+: records') : OverPrefix records' a := by
  obtain ⟨pre, h, eqs⟩ := taken
  exact ⟨pre, h.trans pf, eqs⟩

/-- The log's anchors are `as`; each tenant's are one chain that ends where its counters stand, over
prefixes of its records. -/
structure Honest (s : Tenants) (as : List AnchorRecord) : Prop where
  idle : s.manager.policyQueue = []
  noGap : ∀ id, (s.manager.state id).pendingGap = none
  log : ∃ sink, s.manager.sinks = [sink] ∧ sink.log = as.map fun a => ⟨a.toDict, none⟩
  chains : ∀ id, ChainOf id (s.chains id)
  synced : ∀ id, Synced (s.manager.state id) (as.filter (·.tenantId = id))
  prefixes : ∀ a ∈ as, OverPrefix (s.chains a.tenantId).records a

/-- At the start the log is empty. -/
lemma Honest.start (b : Backend) (name : String) (byReference : Bool) (anchorN : Int) :
    Honest (Tenants.start b name byReference anchorN) [] :=
  ⟨rfl, fun _ => rfl, ⟨_, rfl, rfl⟩, fun _ => ⟨rfl, trivial, by simp [Tenants.start]⟩,
    fun _ => .nil rfl rfl, by simp⟩

/-- A record keeps the log honest. -/
lemma Honest.append {s : Tenants} {as : List AnchorRecord} (hon : Honest s as) (ids : List String)
    (id : String) (env : RecordEnv) (a : RecordArgs) :
    Honest (tenantStep ids s (.append id env a)) as := by
  obtain ⟨ch, pf⟩ := (hon.chains id).record s.table env a
  have after : ∀ x, ChainOf x ((tenantStep ids s (.append id env a)).chains x) ∧
      (s.chains x).records <+: ((tenantStep ids s (.append id env a)).chains x).records := by
    intro x
    by_cases e : x = id
    · subst e
      simpa [tenantStep] using ⟨ch, pf⟩
    · simpa [tenantStep, e] using hon.chains x
  exact ⟨hon.idle, hon.noGap, hon.log, fun x => (after x).1, hon.synced,
    fun a ha => (hon.prefixes a ha).mono (after a.tenantId).2⟩

/-- An accepted attempt extends the log by an anchor of the tenant's present head. -/
lemma Honest.emit {s : Tenants} {as : List AnchorRecord} (hon : Honest s as) (id : String)
    {env : EmitEnv} (acc : ∀ i, env.raises i = none) :
    ∃ a, Honest { s with manager := s.manager.emit id (s.chains id).head env } (as ++ [a]) := by
  obtain ⟨sink, one, log⟩ := hon.log
  refine ⟨s.manager.nextAnchor id (s.chains id).head env.now, ?_⟩
  rw [AnchorManager.emit_of_accepts fun i _ => acc i]
  have own : (s.manager.nextAnchor id (s.chains id).head env.now).tenantId = id := rfl
  refine ⟨hon.idle, fun x => ?_, ⟨_, by rw [one]; rfl, ?_⟩, hon.chains, fun x => ?_, fun a ha => ?_⟩
  · by_cases e : x = id
    · subst e
      simp
    · simpa [e] using hon.noGap x
  · simp [Sink.accept, log, hon.noGap id]
  -- the tenant's own anchors are extended by one, and no other tenant's are
  · rw [List.filter_append]
    by_cases e : x = id
    · subst e
      rw [show List.filter (fun a => decide (a.tenantId = x))
        [s.manager.nextAnchor x (s.chains x).head env.now] =
        [s.manager.nextAnchor x (s.chains x).head env.now] by simp [own]]
      exact (hon.synced x).snoc rfl rfl (AnchorRecord.sealed_isSealed _) (by simp) (by simp)
    · have other : ¬ id = x := Ne.symm e
      rw [show List.filter (fun a => decide (a.tenantId = x))
        [s.manager.nextAnchor id (s.chains id).head env.now] = [] by simp [own, other],
        List.append_nil]
      simpa [e] using hon.synced x
  · rcases List.mem_append.1 ha with ha | ha
    · exact hon.prefixes a ha
    · rw [List.mem_singleton.1 ha]
      exact ⟨_, List.prefix_refl _, rfl, AuditChain.latestHash_eq _⟩

/-- A tick keeps an honest log honest. -/
lemma Honest.anchorChains {s : Tenants} {as : List AnchorRecord} (hon : Honest s as) (force : Bool)
    {env : Nat → EmitEnv} (acc : ∀ k i, (env k).raises i = none) (k : Nat) (ids : List String) :
    ∃ as', Honest { s with manager := (AnchorManager.anchorChains force env k s.manager
      (ids.map fun id => (id, s.chains id))) } as' := by
  induction ids generalizing s as k with
  | nil => exact ⟨as, hon⟩
  | cons id ids ih =>
    rw [List.map_cons, AnchorManager.anchorChains]
    split
    · obtain ⟨a, hon'⟩ := hon.emit id (acc k)
      exact ih hon' (k + 1)
    · exact ih hon (k + 1)

/-- Every step does. -/
lemma Honest.step {s : Tenants} {as : List AnchorRecord} (hon : Honest s as) (ids : List String)
    {op : TenantOp} (acc : op.Accepts) : ∃ as', Honest (tenantStep ids s op) as' := by
  cases op with
  | append id env a => exact ⟨as, hon.append ids id env a⟩
  | anchorDue force env =>
    rw [tenantStep, AnchorManager.anchorDue, AnchorManager.drainPolicyCommits_of_idle hon.idle]
    exact hon.anchorChains force (fun k => acc _) 0 ids

lemma honest_run {s : Tenants} {as : List AnchorRecord} (hon : Honest s as) (ids : List String)
    {ops : List TenantOp} (acc : ∀ op ∈ ops, op.Accepts) :
    ∃ as', Honest (run (tenantStep ids) s ops) as' :=
  run_invariant_of_steps _ (I := fun s => ∃ as, Honest s as) ⟨as, hon⟩
    (fun _ _ ⟨_, hon⟩ acc => hon.step ids acc) (steps_of_forall acc)

/-! ## The re-walk of one tenant -/

omit [Platform] in
/-- A text that is present determines itself. -/
lemma present_some_injective : Function.Injective fun s : String => present (some s) := by
  intro s t e
  by_cases hs : s = "" <;> by_cases ht : t = ""
  · rw [hs, ht]
  · subst hs
    simp [present_some ht] at e
  · subst ht
    simp [present_some hs] at e
  · simpa [present_some hs, present_some ht] using e

/-- The heads of two tenants' chains never coincide. -/
lemma tenant_of_head (cf : CollisionFree) {t u : String} {xs ys : List AuditRecord} {n : Nat}
    (lkx : recordLink.Linked GENESIS_HASH xs) (lky : recordLink.Linked GENESIS_HASH ys)
    (ownx : ∀ r ∈ xs, r.tenantId = some t) (owny : ∀ r ∈ ys, r.tenantId = some u)
    (pos : 0 < n) (lex : n ≤ xs.length) (ley : n ≤ ys.length)
    (hd : recordLink.head GENESIS_HASH (xs.take n) = recordLink.head GENESIS_HASH (ys.take n)) :
    t = u := by
  obtain ⟨-, -, agree⟩ := agreeUpTo_of_head cf lkx lky lex ley hd
  cases xs with
  | nil => exact absurd lex (by simp; omega)
  | cons x xs =>
    cases ys with
    | nil => exact absurd ley (by simp; omega)
    | cons y ys =>
      obtain ⟨n, rfl⟩ := Nat.exists_eq_succ_of_ne_zero (Nat.pos_iff_ne_zero.1 pos)
      rw [List.take_succ_cons, List.take_succ_cons, List.forall₂_cons] at agree
      have impl := implemented_of_linked lkx x (.head _)
      obtain ⟨f, hf⟩ := preimageFields_isOk (p := x.previousHash).2 impl
      have same := preimageFields_inj hf (agree.1.preimage ▸ hf) fun _ => rfl
      have tenant := same.2.tenantId
      rw [ownx x (.head _), owny y (.head _)] at tenant
      exact present_some_injective tenant

/-- An anchor over a non-empty prefix of the walked records matches them. -/
lemma OverPrefix.matches {records : List AuditRecord} {a : AnchorRecord} (taken : OverPrefix records a)
    (pos : 1 ≤ a.chainLength) : Matches (records.map (·.recordHash)) a := by
  obtain ⟨pre, pf, length, head⟩ := taken
  rw [length] at pos
  have pos' : 0 < pre.length := by omega
  have index : ((pre.length : Int) - 1).toNat = pre.length - 1 := by omega
  refine ⟨by rw [length]; exact pos, by rw [length]; simpa using pf.length_le, ?_⟩
  rw [length, index, head, List.prefix_iff_eq_take.1 pf, recordLink.head_take pos' pf.length_le (d := "")]
  simp only [List.length_take, Nat.min_eq_left pf.length_le]
  rfl

/-- No verdict on the chain or the anchors is a contradiction. -/
def Report.Cleared (rep : Report) : Prop :=
  rep.p1 ≠ .CONTRADICTION ∧ rep.p2 ≠ .CONTRADICTION ∧ rep.p3 ≠ .CONTRADICTION

/-- Every head anchor of the log is the tenant's and was taken over a record at least. -/
def OnlyOf (t : String) (log : List AnchorDict) : Prop :=
  ∀ a ∈ heads log, a.tenantId = t ∧ 1 ≤ a.chainLength

/-- A log of anchors of the run, which holds all the tenant's or none once it holds only the tenant's,
clears the tenant exactly when it holds only the tenant's. -/
lemma Honest.cleared_iff (cf : CollisionFree) {s : Tenants} {as : List AnchorRecord}
    (hon : Honest s as) (t : String) {log : List AnchorDict}
    (sub : ∀ a ∈ heads log, a ∈ as)
    (whole : (∀ a ∈ heads log, a.tenantId = t) →
      heads log = [] ∨ (heads log).Perm (as.filter (·.tenantId = t))) :
    ∃ rep, verifyCustody (s.chains t).records log = .ok rep ∧ (rep.Cleared ↔ OnlyOf t log) := by
  have ch := hon.chains t
  obtain ⟨rep, e, spec⟩ := verifyCustody_returns log (implemented_of_linked ch.linked)
  have sorts : (headAnchors log).Perm (heads log) := List.perm_insertionSort _ _
  have empty : heads log = [] → headAnchors log = [] := fun none => by
    rw [none] at sorts
    exact List.perm_nil.1 sorts
  refine ⟨rep, e, fun cleared a ha => ?_, fun only => ⟨?_, ?_, ?_⟩⟩
  · -- P2 matches every anchor of the log with the tenant's own records
    have ne : headAnchors log ≠ [] := List.ne_nil_of_mem (sorts.mem_iff.2 ha)
    have all : ∀ a ∈ headAnchors log, Matches ((s.chains t).records.map (·.recordHash)) a := by
      by_contra no
      exact cleared.2.1 ((spec.p2 ch.linked).contradiction.2 ⟨ne, no⟩)
    obtain ⟨pos, le, head⟩ := all a (sorts.mem_iff.2 ha)
    refine ⟨?_, pos⟩
    obtain ⟨pre, pf, length, hash⟩ := hon.prefixes a (sub a ha)
    have other := hon.chains a.tenantId
    have pos' : 0 < pre.length := by omega
    have le' : pre.length ≤ (s.chains t).records.length := by
      rw [length] at le
      simpa using le
    have index : (a.chainLength - 1).toNat = pre.length - 1 := by omega
    refine (tenant_of_head cf ch.linked other.linked ch.own other.own pos' le' pf.length_le ?_).symm
    rw [← List.prefix_iff_eq_take.1 pf, ← hash, ← head, index, recordLink.head_take pos' le' (d := "")]
    rfl
  · intro bad
    exact (spec.p1.contradiction.1 bad).2 ch.linked
  · intro bad
    refine ((spec.p2 ch.linked).contradiction.1 bad).2 fun a ha => ?_
    obtain ⟨own, pos⟩ := only a (sorts.mem_iff.1 ha)
    have taken := hon.prefixes a (sub a (sorts.mem_iff.1 ha))
    rw [own] at taken
    exact taken.matches pos
  · intro bad
    obtain ⟨ne, broken⟩ := spec.p3.contradiction.1 bad
    rcases whole fun a ha => (only a ha).1 with none | perm
    · exact ne (empty none)
    · refine broken ?_
      have intact := (hon.synced t).intact
      rw [show headAnchors log = _ from intact.insertionSort_eq perm]
      exact intact

open GitAnchorSink in
omit [Platform] in
/-- A file that head anchors were written to holds one of them, under its own path. -/
lemma file_of_heads {repo : String} {as : List AnchorRecord} {f : Path.Components × AnchorDict}
    (hf : f ∈ filesOf repo (as.map (·.toDict))) :
    ∃ a ∈ as, f = (anchorPath repo a.toDict, a.toDict) := by
  obtain ⟨mem, path⟩ := mem_filesOf hf
  obtain ⟨a, ha, e⟩ := List.mem_map.1 mem
  exact ⟨a, ha, Prod.ext (by rw [path, ← e]) e.symm⟩

open GitAnchorSink in
omit [Platform] in
/-- The directory gives back the anchors of the walked files, each file once. -/
lemma heads_loadAnchors (repo : String) (as : List AnchorRecord) :
    (heads (loadAnchors repo (filesOf repo (as.map (·.toDict))))).Nodup ∧
      ∀ a, a ∈ heads (loadAnchors repo (filesOf repo (as.map (·.toDict)))) ↔
        (anchorPath repo a.toDict, a.toDict) ∈ filesOf repo (as.map (·.toDict)) ∧
          Walked repo (anchorPath repo a.toDict) := by
  -- the walk sorts by epoch, which only permutes
  have perm : (heads (loadAnchors repo (filesOf repo (as.map (·.toDict))))).Perm
      (((filesOf repo (as.map (·.toDict))).filter fun f => Walked repo f.1).map
        fun f => .fromDict f.2) := by
    have sorts := List.perm_insertionSort (fun a b : AnchorDict => a.epoch ≤ b.epoch)
      (((filesOf repo (as.map (·.toDict))).filter fun f => Walked repo f.1).map Prod.snd)
    have kinds : (((filesOf repo (as.map (·.toDict))).filter fun f => Walked repo f.1).map
        Prod.snd).filter (!·.isPolicyCommit) =
        ((filesOf repo (as.map (·.toDict))).filter fun f => Walked repo f.1).map Prod.snd := by
      refine List.filter_eq_self.2 fun d hd => ?_
      obtain ⟨f, hf, rfl⟩ := List.mem_map.1 hd
      obtain ⟨a, -, rfl⟩ := file_of_heads (List.mem_of_mem_filter hf)
      rfl
    have read := (sorts.filter (!·.isPolicyCommit)).map AnchorRecord.fromDict
    rw [kinds, List.map_map] at read
    exact read
  refine ⟨perm.nodup_iff.2 (List.Nodup.map_on (fun f hf g hg e => ?_) ?_), fun a => ?_⟩
  · obtain ⟨a, -, rfl⟩ := file_of_heads (List.mem_of_mem_filter hf)
    obtain ⟨b, -, rfl⟩ := file_of_heads (List.mem_of_mem_filter hg)
    have same : a = b := e
    rw [same]
  · exact (List.Nodup.of_map Prod.fst (filesOf_paths repo (as.map (·.toDict))).1).filter _
  · rw [perm.mem_iff, List.mem_map]
    constructor
    · rintro ⟨f, hf, rfl⟩
      obtain ⟨hf, walked⟩ := List.mem_filter.1 hf
      obtain ⟨x, -, rfl⟩ := file_of_heads hf
      exact ⟨hf, by simpa using walked⟩
    · rintro ⟨hf, walked⟩
      exact ⟨_, List.mem_filter.2 ⟨hf, by simpa using walked⟩, rfl⟩

open GitAnchorSink in
/-- What the directory gives back of a tenant, once it gives back no other's: everything, or nothing where
the tenant's directory lies outside. -/
lemma loadAnchors_whole {repo t : String} {as : List AnchorRecord} {st : TenantState}
    (sync : Synced st (as.filter (·.tenantId = t)))
    (only : ∀ a ∈ heads (loadAnchors repo (filesOf repo (as.map (·.toDict)))), a.tenantId = t) :
    heads (loadAnchors repo (filesOf repo (as.map (·.toDict)))) = [] ∨
      (heads (loadAnchors repo (filesOf repo (as.map (·.toDict))))).Perm
        (as.filter (·.tenantId = t)) := by
  obtain ⟨nd, mem_heads⟩ := heads_loadAnchors repo as
  by_cases inside : anchorsDir repo <+: tenantDir repo t
  · right
    have own : (as.filter (·.tenantId = t)).Nodup :=
      sync.intact.strict.imp fun h e => absurd (congrArg AnchorRecord.epoch e) (ne_of_lt h)
    refine (List.perm_ext_iff_of_nodup nd own).2 fun a => ⟨fun ha => ?_, fun ha => ?_⟩
    · obtain ⟨x, hx, e⟩ := file_of_heads ((mem_heads a).1 ha).1
      have same : a = x := congrArg (fun f : Path.Components × AnchorDict => AnchorRecord.fromDict f.2) e
      exact List.mem_filter.2 ⟨same ▸ hx, by simpa using only a ha⟩
    · obtain ⟨mem, tenant⟩ := List.mem_filter.1 ha
      have tenant : a.tenantId = t := by simpa using tenant
      -- the file at the anchor's path is read, so it is the tenant's, of the same epoch
      have written := ((filesOf_paths repo (as.map (·.toDict))).2 (anchorPath repo a.toDict)).2
        (List.mem_map_of_mem (List.mem_map_of_mem mem))
      obtain ⟨f, hf, path⟩ := List.mem_map.1 written
      obtain ⟨x, hx, rfl⟩ := file_of_heads hf
      have path : anchorPath repo x.toDict = anchorPath repo a.toDict := path
      have walked : Walked repo (anchorPath repo a.toDict) := by
        rw [walked_anchorPath]
        exact tenant ▸ inside
      have readx := (mem_heads x).2 ⟨hf, path ▸ walked⟩
      have same : x = a := sync.intact.epoch_inj
        (List.mem_filter.2 ⟨hx, by simpa using only x readx⟩) ha (anchorPath_inj.1 path).2
      exact same ▸ readx
  · left
    refine List.eq_nil_iff_forall_not_mem.2 fun a ha => inside ?_
    have walked := ((mem_heads a).1 ha).2
    rw [walked_anchorPath] at walked
    rwa [show a.toDict.tenantId = t from only a ha] at walked

/-- In a run whose sink accepts everything, the re-walk of a tenant's records against the log read back,
from memory or from a directory, finds no contradiction in P1, P2 and P3 exactly when every head anchor
of that log is the tenant's own and none was taken over an empty chain. -/
theorem honest_log_iff (cf : CollisionFree) (b : Backend) (ids : List String) (name : String)
    (byReference : Bool) (anchorN : Int) (ops : List TenantOp) (acc : ∀ op ∈ ops, op.Accepts)
    (t repo : String) :
    let s := run (tenantStep ids) (.start b name byReference anchorN) ops
    ∃ sink, s.manager.sinks = [sink] ∧
      ∀ log ∈ [sink.read s.manager.gaps,
          GitAnchorSink.loadAnchors repo (GitAnchorSink.filesOf repo (sink.log.map (·.dict)))],
        ∃ rep, verifyCustody (s.chains t).records log = .ok rep ∧ (rep.Cleared ↔ OnlyOf t log) := by
  intro s
  obtain ⟨as, hon⟩ := honest_run (Honest.start b name byReference anchorN) ids acc
  obtain ⟨sink, one, held⟩ := hon.log
  have dicts : sink.log.map (·.dict) = as.map (·.toDict) := by
    rw [held, List.map_map]
    rfl
  refine ⟨sink, one, fun log hlog => ?_⟩
  rw [List.mem_cons, List.mem_singleton] at hlog
  rcases hlog with rfl | rfl
  -- in memory: no anchor holds a gap, so the log reads as it was written
  · have val : ∀ h ∈ sink.log, h.gapRef = none := by
      rw [held]
      simp
    rw [Sink.read_of_byValue val, dicts]
    refine hon.cleared_iff cf t (by simp) fun only => .inr ?_
    rw [heads_map_toDict] at only ⊢
    rw [List.filter_eq_self.2 fun a ha => by simpa using only a ha]
  · rw [dicts]
    refine hon.cleared_iff cf t (fun a ha => ?_) (loadAnchors_whole (hon.synced t))
    obtain ⟨x, hx, e⟩ := file_of_heads (((heads_loadAnchors repo as).2 a).1 ha).1
    have same : a = x := congrArg (fun f : Path.Components × AnchorDict => AnchorRecord.fromDict f.2) e
    exact same ▸ hx

end

section Sample

/-- The digests of the samples, and those of a second tenant's record and anchor. -/
def tenantDigests : DigestTable where
  entries := sampleAnchorDigests.entries ++
    [("\x7b\"action\": \"ALLOW\", \"binding\": \"v2\", \"client_id\": \"acme\", " ++
      "\"commitment\": \"none\", " ++
      "\"content_hash\": \"2cf24dba5fb0a30e26e83b2ac5b9e29e1b161e5c1fa7425e73043362938b9824\", " ++
      "\"previous_hash\": \"0000000000000000000000000000000000000000000000000000000000000000\", " ++
      "\"reason\": \"ok\", \"tenant_id\": \"beta\", \"timestamp\": 1700000000.0, " ++
      "\"triggered_rule\": null\x7d",
      "17a1a6ba4b3c86abd683be83a72e9d380d8a89064438687ed39c2d32e0d25397"),
     ("\x7b\"anchored_at_utc\": \"2023-11-14T22:13:20Z\", \"chain_length\": 1, \"epoch\": 1, " ++
      "\"gap\": null, " ++
      "\"head_hash\": \"17a1a6ba4b3c86abd683be83a72e9d380d8a89064438687ed39c2d32e0d25397\", " ++
      "\"prev_anchor_hash\": \"0000000000000000000000000000000000000000000000000000000000000000\", " ++
      "\"tenant_id\": \"beta\"\x7d",
      "de9ac7507fa181e4bf4eb49aeadf3a24e940259e1f1e5a06b0119a839b1537e6")]
  distinct := by decide +kernel
  plain := by decide +kernel

local instance tenantPlatform : Platform := .reference tenantDigests

/-- A record of each of two tenants, and a tick that anchors both. -/
def tenantOps : List TenantOp :=
  [.append "acme" sampleEnv sampleArgs, .append "beta" sampleEnv sampleArgs,
   .anchorDue false fun _ => sampleEmitEnv]

lemma tenantOps_accept : ∀ op ∈ tenantOps, op.Accepts := by
  simp [tenantOps, TenantOp.Accepts, sampleEmitEnv]

def tenantEnd : Tenants :=
  run (tenantStep ["acme", "beta"]) (.start .SQLiteBackend "memory" true 1) tenantOps

/-- Two tenants record, and both are anchored. -/
theorem honest_log_iff_sample :
    ∃ sink, tenantEnd.manager.sinks = [sink] ∧
      ∀ log ∈ [sink.read tenantEnd.manager.gaps, GitAnchorSink.loadAnchors "/srv/anchors"
          (GitAnchorSink.filesOf "/srv/anchors" (sink.log.map (·.dict)))],
        ∃ rep, verifyCustody (tenantEnd.chains "acme").records log = .ok rep ∧
          (rep.Cleared ↔ OnlyOf "acme" log) :=
  honest_log_iff (collisionFree_reference _) .SQLiteBackend ["acme", "beta"] "memory" true 1
    tenantOps tenantOps_accept "acme" "/srv/anchors"

/-- The log of two honest tenants accuses the first: it has two anchors of epoch 1. -/
theorem honest_log_accuses :
    (∀ op ∈ tenantOps, op.Accepts) ∧
    ¬ ∀ sink ∈ tenantEnd.manager.sinks, ∃ rep,
      verifyCustody (tenantEnd.chains "acme").records (sink.read tenantEnd.manager.gaps) = .ok rep ∧
        rep.Cleared := by
  refine ⟨tenantOps_accept, fun claim => ?_⟩
  have epochs : tenantEnd.manager.sinks.map
      (fun sink => (sink.readHeads tenantEnd.manager.gaps).map (·.epoch)) = [[1, 1]] := by
    decide +kernel
  obtain ⟨sink, one, eq⟩ := List.map_eq_singleton_iff.1 epochs
  obtain ⟨rep, e, -, -, p3⟩ := claim sink (by rw [one]; simp)
  have sorts : ((headAnchors (sink.read tenantEnd.manager.gaps)).map (·.epoch)).Perm [1, 1] :=
    eq ▸ (List.perm_insertionSort _ _).map _
  refine p3 ((verifyCustody_spec e).p3.contradiction.2 ⟨fun none => ?_, fun intact => ?_⟩)
  · rw [none] at sorts
    exact absurd sorts.length_eq (by decide)
  · have distinct : ((headAnchors (sink.read tenantEnd.manager.gaps)).map (·.epoch)).Nodup :=
      List.pairwise_map.2 (intact.strict.imp ne_of_lt)
    exact absurd (sorts.nodup_iff.1 distinct) (by decide)

end Sample

end Custos
