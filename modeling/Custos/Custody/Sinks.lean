import Custos.Custody.Restart

/-!
# Sinks that fail apart

One process anchors a growing chain to several sinks, and each attempt is accepted by some of them and
refused by others. After a refusal anywhere the manager repeats the attempt with the same epoch, and it
counts the attempts in a gap dict that a memory sink may still hold. What a list gives back can break in two
ways: it accepts the repetition of an anchor it has (`Repeats`), or a gap dict is counted up while it holds
an anchor with it (`SharesGap`). Where no attempt does either, every sink gives back one intact chain, at most
one anchor ahead of the manager's counters (`Follows`); where one does, a list is broken for good. A git sink
cannot break: the repetition takes the place of the anchor in its file.
-/

namespace Custos

section

variable [Platform]

/-- The head anchors a sink has accepted, as they read now. -/
def Sink.readHeads (s : Sink) (gaps : List Gap) : List AnchorRecord := Custos.heads (s.read gaps)

/-- A list that is an anchor ahead of the counters accepts the attempt. -/
def Repeats (id : String) (m : AnchorManager) (env : EmitEnv) : Prop :=
  ∃ i sink, m.sinks[i]? = some sink ∧ sink.repo = none ∧ env.raises i = none ∧
    lastEpoch 0 (sink.readHeads m.gaps) ≠ (m.state id).epoch

/-- A sink refuses the attempt while a list holds an anchor with the pending gap dict, perhaps this one. -/
def SharesGap (id : String) (m : AnchorManager) (head : Nat × String) (env : EmitEnv) : Prop :=
  ¬ env.Accepts m.sinks ∧ ∃ ref, (m.state id).pendingGap = some ref ∧
    ∃ sink ∈ offer env.raises (m.nextAnchor id head env.now).toDict (m.state id).pendingGap m.sinks,
      sink.repo = none ∧ ∃ h ∈ sink.log, h.gapRef = some ref

/-- The step's attempt, if it makes one, does neither. -/
def Clean (id : String) (s : Deployment) : DeployOp → Prop
  | .anchor force env => Emits id s (.anchor force env) →
    ¬ Repeats id s.manager (env 0) ∧ ¬ SharesGap id s.manager s.chain.head (env 0)
  | _ => True

/-- The process is not restarted. -/
def DeployOp.Running : DeployOp → Prop
  | .restart _ => False
  | _ => True

/-- A log on which P3 finds no contradiction: epochs, links, and hashes that recompute. -/
structure LogSound (log : List AnchorDict) : Prop where
  intact : AnchorsIntact GENESIS_ANCHOR_HASH 0 (heads log)
  p3 : ∀ records : List AuditRecord, (∀ r ∈ records, r.Implemented) →
    ∃ rep, verifyCustody records log = .ok rep ∧ rep.p3 ≠ .CONTRADICTION

/-! ## One attempt -/

/-- The anchors are the counters' chain, or that chain and one attempt that continues it. -/
def Follows (st : TenantState) (as : List AnchorRecord) : Prop :=
  Synced st as ∨ ∃ base a, as = base ++ [a] ∧ Synced st base ∧
    a.epoch = st.epoch + 1 ∧ a.prevAnchorHash = st.anchorHash ∧ a.IsSealed

/-- What the state follows is an intact chain. -/
lemma Follows.intact {st : TenantState} {as : List AnchorRecord} (f : Follows st as) :
    AnchorsIntact GENESIS_ANCHOR_HASH 0 as := by
  rcases f with sync | ⟨base, a, rfl, sync, epoch, prev, sld⟩
  · exact sync.intact
  · refine anchorsIntact_snoc.2 ⟨sync.intact, ?_, ?_, sld⟩
    · rw [sync.epoch, epoch]
      omega
    · rw [prev, sync.hash]

/-- A chain that ends where the counters stand is not ahead of them. -/
lemma Follows.synced {st : TenantState} {as : List AnchorRecord} (f : Follows st as)
    (last : lastEpoch 0 as = st.epoch) : Synced st as := by
  rcases f with sync | ⟨base, a, rfl, -, epoch, -, -⟩
  · exact sync
  · rw [lastEpoch_snoc, epoch] at last
    omega

/-- Only the epoch and the hash of the counters matter. -/
lemma Follows.congr {st st' : TenantState} {as : List AnchorRecord} (f : Follows st as)
    (epoch : st'.epoch = st.epoch) (hash : st'.anchorHash = st.anchorHash) : Follows st' as := by
  rcases f with sync | ⟨base, a, rfl, sync, ea, pa, sld⟩
  · exact .inl ⟨sync.intact, by rw [epoch, sync.epoch], by rw [hash, sync.hash]⟩
  · exact .inr ⟨base, a, rfl, ⟨sync.intact, by rw [epoch, sync.epoch], by rw [hash, sync.hash]⟩,
      by rw [ea, epoch], by rw [pa, hash], sld⟩

/-- Without the anchor that the next attempt repeats, the chain ends where the counters stand. -/
lemma Follows.retried {st : TenantState} {as : List AnchorRecord} (f : Follows st as) {n : Int}
    (next : n = st.epoch + 1) : Synced st (as.filter (·.epoch ≠ n)) := by
  have kept : ∀ {base : List AnchorRecord}, Synced st base → base.filter (·.epoch ≠ n) = base :=
    fun sync => List.filter_eq_self.2 fun x hx => by simpa using ne_of_lt (sync.older next x hx)
  rcases f with sync | ⟨base, a, rfl, sync, epoch, -, -⟩
  · rwa [kept sync]
  · rwa [List.filter_append, kept sync, List.filter_cons_of_neg (by simp [epoch, next]), List.filter_nil,
      List.append_nil]

/-- What holds in every state of a clean run. -/
structure InOrder (id : String) (m : AnchorManager) : Prop where
  idle : m.policyQueue = []
  pending : ∀ ref, (m.state id).pendingGap = some ref → ref < m.gaps.length
  kind : ∀ sink ∈ m.sinks, ∀ h ∈ sink.log, h.dict.isPolicyCommit = false
  held : ∀ sink ∈ m.sinks, ∀ h ∈ sink.log, ∀ ref, h.gapRef = some ref → ref < m.gaps.length
  lists : ∀ sink ∈ m.sinks, sink.repo = none → Follows (m.state id) (sink.readHeads m.gaps)
  files : ∀ sink ∈ m.sinks, ∀ repo, sink.repo = some repo →
    ∃ as, Follows (m.state id) as ∧ GitAnchorSink.Filed repo id (sink.log.map (·.dict)) as

omit [Platform] in
/-- What a sink reads after it accepts: the anchor as it was built. -/
lemma read_accept {id : String} (m : AnchorManager) (s : Sink) (a : AnchorRecord)
    (gap : a.gap = m.pendingGapJson id) :
    (s.accept a.toDict (m.state id).pendingGap).read m.gaps = s.read m.gaps ++ [a.toDict] := by
  have now : Held.read m.gaps ⟨a.toDict, if s.byReference then (m.state id).pendingGap else none⟩ =
      a.toDict := by
    unfold Held.read
    split
    · rename_i gap' found
      by_cases byRef : s.byReference
      · simp only [byRef, if_true] at found
        have : a.gap = gap'.toJson := by
          rw [gap, AnchorManager.pendingGapJson, found]
        show { a.toDict with gap := gap'.toJson } = a.toDict
        rw [← this]
        rfl
      · simp [byRef] at found
    · rfl
  simp only [Sink.read, Sink.accept, List.map_append, List.map_cons, List.map_nil, now]

omit [Platform] in
/-- An anchor that is accepted is read last. -/
lemma readHeads_accept {id : String} (m : AnchorManager) (s : Sink) (a : AnchorRecord)
    (gap : a.gap = m.pendingGapJson id) :
    (s.accept a.toDict (m.state id).pendingGap).readHeads m.gaps = s.readHeads m.gaps ++ [a] := by
  rw [Sink.readHeads, read_accept m s a gap, heads_append, heads_singleton]
  rfl

omit [Platform] in
/-- Two heaps that agree on what a sink holds read the same. -/
lemma read_congr {s : Sink} {gaps gaps' : List Gap}
    (same : ∀ h ∈ s.log, ∀ ref, h.gapRef = some ref → gaps'[ref]? = gaps[ref]?) :
    s.read gaps' = s.read gaps := by
  unfold Sink.read
  refine List.map_congr_left fun h mem => ?_
  unfold Held.read
  cases hr : h.gapRef with
  | none => rfl
  | some ref => simp only [Option.bind_some, same h mem ref hr]

omit [Platform] in
/-- A list is read the same where its gap dicts are. -/
lemma readHeads_congr {s : Sink} {gaps gaps' : List Gap}
    (same : ∀ h ∈ s.log, ∀ ref, h.gapRef = some ref → gaps'[ref]? = gaps[ref]?) :
    s.readHeads gaps' = s.readHeads gaps := by
  rw [Sink.readHeads, read_congr same, Sink.readHeads]

omit [Platform] in
/-- Where the gap of a failed attempt stands, and what counting it up leaves as it was. -/
lemma openGap_spec {m : AnchorManager} {id : String}
    (pending : ∀ ref, (m.state id).pendingGap = some ref → ref < m.gaps.length)
    (epoch : Int) (now : String) (f : Gap → Gap) :
    let o := m.openGap id epoch now
    o.1 < (o.2.modify o.1 f).length ∧ m.gaps.length ≤ (o.2.modify o.1 f).length ∧
      (∀ ref, (m.state id).pendingGap = some ref → o.1 = ref) ∧
      ∀ ref < m.gaps.length, (m.state id).pendingGap ≠ some ref →
        (o.2.modify o.1 f)[ref]? = m.gaps[ref]? := by
  cases h : (m.state id).pendingGap with
  | some r =>
    have lt := pending r h
    simp only [AnchorManager.openGap, h, List.length_modify, Option.some.injEq, ne_eq]
    refine ⟨lt, le_refl _, fun _ e => e, fun ref _ ne => ?_⟩
    rw [List.getElem?_modify_ne f _ ne]
  | none =>
    simp only [AnchorManager.openGap, h, List.length_modify, List.length_append, List.length_singleton]
    refine ⟨by omega, by omega, nofun, fun ref lt _ => ?_⟩
    rw [List.getElem?_modify_ne f _ (by omega), List.getElem?_append_left lt]

/-- What an attempt puts in the logs is a head anchor with a gap that is counted, as is what they held. -/
lemma InOrder.offered {id : String} {m : AnchorManager} (ord : InOrder id m) (env : EmitEnv) (head : Nat × String)
    {sink : Sink} (mem : sink ∈ offer env.raises (m.nextAnchor id head env.now).toDict (m.state id).pendingGap m.sinks)
    {h : Held} (hh : h ∈ sink.log) :
    h.dict.isPolicyCommit = false ∧ ∀ r, h.gapRef = some r → r < m.gaps.length := by
  obtain ⟨i, s, hs, rfl⟩ := mem_offer mem
  have ms := List.mem_of_getElem? hs
  split at hh
  · rcases List.mem_append.1 hh with hh | hh
    · exact ⟨ord.kind s ms h hh, ord.held s ms h hh⟩
    · rw [List.mem_singleton.1 hh]
      refine ⟨rfl, fun r hr => ord.pending r ?_⟩
      by_contra ne
      split at hr <;> simp_all
  · exact ⟨ord.kind s ms h hh, ord.held s ms h hh⟩

/-- An attempt every sink accepts, while none is ahead, leaves the logs in order. -/
lemma InOrder.emit_accepted {id : String} {m : AnchorManager} (ord : InOrder id m) {env : EmitEnv}
    (acc : env.Accepts m.sinks) (head : Nat × String) (fresh : ¬ Repeats id m env) :
    InOrder id (m.emit id head env) := by
  have level : ∀ s ∈ m.sinks, s.repo = none →
      lastEpoch 0 (s.readHeads m.gaps) = (m.state id).epoch := by
    intro s ms list
    obtain ⟨i, hi⟩ := List.mem_iff_getElem?.1 ms
    by_contra ahead
    exact fresh ⟨i, s, hi, list, acc i (List.getElem?_eq_some_iff.1 hi).1, ahead⟩
  rw [AnchorManager.emit_of_accepts acc]
  have offered : ∀ sink ∈ m.sinks.map (·.accept (m.nextAnchor id head env.now).toDict (m.state id).pendingGap),
      ∀ h ∈ sink.log, h.dict.isPolicyCommit = false ∧ ∀ r, h.gapRef = some r → r < m.gaps.length := by
    rw [← offer_of_accepts acc]
    exact fun sink mem h hh => ord.offered env head mem hh
  refine ⟨ord.idle, by simp, fun sink mem h hh => (offered sink mem h hh).1,
    fun sink mem h hh => (offered sink mem h hh).2, fun sink mem list => .inl ?_, fun sink mem repo clone => ?_⟩
  · obtain ⟨s, ms, rfl⟩ := List.mem_map.1 mem
    rw [readHeads_accept m s _ rfl]
    exact ((ord.lists s ms list).synced (level s ms list)).snoc rfl rfl
      (AnchorRecord.sealed_isSealed _) (by simp) (by simp)
  -- in its file the anchor takes the place of the attempt it repeats
  · obtain ⟨s, ms, rfl⟩ := List.mem_map.1 mem
    obtain ⟨as, follows, filed⟩ := ord.files s ms repo clone
    rw [Sink.dicts_accept]
    refine ⟨_, .inl ?_, filed.snoc rfl⟩
    exact (follows.retried rfl).snoc rfl rfl (AnchorRecord.sealed_isSealed _) (by simp) (by simp)

/-- An attempt some sink refuses leaves the logs in order if it repeats nothing and shares no gap. -/
lemma InOrder.emit_refused {id : String} {m : AnchorManager} (ord : InOrder id m) {env : EmitEnv}
    (ref : ¬ env.Accepts m.sinks) (head : Nat × String) (fresh : ¬ Repeats id m env)
    (unshared : ¬ SharesGap id m head env) : InOrder id (m.emit id head env) := by
  -- the counted gap is held by no list, so none reads differently for it
  have unheld : ∀ r, (m.state id).pendingGap = some r → ∀ sink ∈ offer env.raises
      (m.nextAnchor id head env.now).toDict (m.state id).pendingGap m.sinks, sink.repo = none →
      ∀ h ∈ sink.log, h.gapRef ≠ some r := fun r hr sink mem list h hh e =>
    unshared ⟨ref, r, hr, sink, mem, list, h, hh, e⟩
  rw [AnchorManager.emit_of_refused ref]
  obtain ⟨lt, grow, -, same⟩ := openGap_spec ord.pending (m.nextAnchor id head env.now).epoch env.now
    fun gap => { gap with attempts := gap.attempts + 1, lastAttemptUtc := some env.now }
  refine ⟨ord.idle, ?_, fun sink mem h hh => (ord.offered env head mem hh).1,
    fun sink mem h hh r hr => ((ord.offered env head mem hh).2 r hr).trans_le grow, fun sink mem list => ?_,
    fun sink mem repo clone => ?_⟩
  · intro r hr
    simp only [Function.update_self, Option.some.injEq] at hr
    exact hr ▸ lt
  · rw [readHeads_congr fun h hh r hr => same r ((ord.offered env head mem hh).2 r hr) fun e =>
      unheld r e sink mem list h hh hr]
    simp only [Function.update_self]
    have before : Follows (m.state id) (sink.readHeads m.gaps) := by
      obtain ⟨i, s, hs, rfl⟩ := mem_offer mem
      have ms := List.mem_of_getElem? hs
      have list : s.repo = none := by split at list <;> exact list
      split
      · rename_i accepted
        -- a list that accepted was not ahead, or it would now hold the anchor twice
        have level : lastEpoch 0 (s.readHeads m.gaps) = (m.state id).epoch := by
          by_contra ahead
          exact fresh ⟨i, s, hs, list, Option.isNone_iff_eq_none.1 accepted, ahead⟩
        rw [readHeads_accept m s _ rfl]
        exact .inr ⟨_, _, rfl, (ord.lists s ms list).synced level, rfl, rfl,
          AnchorRecord.sealed_isSealed _⟩
      · exact ord.lists s ms list
    exact before.congr rfl rfl
  · simp only [Function.update_self]
    obtain ⟨i, s, hs, rfl⟩ := mem_offer mem
    have clone : s.repo = some repo := by split at clone <;> exact clone
    obtain ⟨as, follows, filed⟩ := ord.files s (List.mem_of_getElem? hs) repo clone
    split
    · rw [Sink.dicts_accept]
      refine ⟨_, ?_, filed.snoc rfl⟩
      exact Follows.congr (.inr ⟨_, _, rfl, follows.retried rfl, rfl, rfl,
        AnchorRecord.sealed_isSealed _⟩) rfl rfl
    · exact ⟨as, follows.congr rfl rfl, filed⟩

/-- A clean step keeps the sinks in order. -/
lemma InOrder.step {b : Backend} {id : String} {s : Deployment} (ord : InOrder id s.manager)
    {op : DeployOp} (live : op.Running) (clean : Clean id s op) :
    InOrder id (deployStep b id s op).manager := by
  rw [deployStep_manager ord.idle]
  cases op with
  | append env a => exact ord
  | restart anchorN => exact live.elim
  | anchor force env =>
    dsimp only
    split
    · rename_i emits
      obtain ⟨fresh, unshared⟩ := clean emits
      by_cases acc : (env 0).Accepts s.manager.sinks
      · exact ord.emit_accepted acc _ fresh
      · exact ord.emit_refused acc _ fresh unshared
    · exact ord

/-- Empty sinks are in order. -/
lemma inOrder_start (b : Backend) (id : String) (sinks : List Sink) (anchorN : Int) :
    InOrder id (Deployment.start b id sinks anchorN).manager := by
  have empty : ∀ sink ∈ (Deployment.start b id sinks anchorN).manager.sinks, sink.log = [] := by
    intro sink mem
    obtain ⟨s, -, rfl⟩ := List.mem_map.1 mem
    rfl
  refine ⟨rfl, nofun, fun sink mem h hh => ?_, fun sink mem h hh => ?_, fun sink mem _ => .inl ?_,
    fun sink mem repo _ => ?_⟩
  · rw [empty sink mem] at hh
    cases hh
  · rw [empty sink mem] at hh
    cases hh
  · have none : sink.readHeads (Deployment.start b id sinks anchorN).manager.gaps = [] := by
      rw [Sink.readHeads, Sink.read, empty sink mem]; rfl
    rw [none]
    exact .nil rfl rfl
  · rw [empty sink mem]
    exact ⟨[], .inl (.nil rfl rfl), .nil repo id⟩

/-! ## Logs that are broken for good -/

omit [Platform] in
/-- Reading a log changes no epoch. -/
lemma epochs_readHeads (s : Sink) (gaps : List Gap) :
    (s.readHeads gaps).map (·.epoch) = s.heads.map (·.epoch) := by
  have each : ∀ h : Held, (heads [h.read gaps]).map (·.epoch) = (heads [h.dict]).map (·.epoch) := by
    intro h
    unfold Held.read heads
    split
    · by_cases k : h.dict.isPolicyCommit <;> simp_all [AnchorDict.isPolicyCommit, AnchorRecord.fromDict]
    · rfl
  unfold Sink.readHeads Sink.heads Sink.read
  induction s.log with
  | nil => rfl
  | cons h log ih =>
    have split : ∀ (d : AnchorDict) ds, (heads (d :: ds)).map (·.epoch) =
        (heads [d]).map (·.epoch) ++ (heads ds).map (·.epoch) := by
      intro d ds
      rw [← List.map_append, ← heads_append, List.singleton_append]
    rw [List.map_cons, List.map_cons, split, split (h.dict), each, ih]

/-- A list that repeats an anchor has two of one epoch. -/
lemma broken_of_repeats {id : String} {m : AnchorManager} (ord : InOrder id m) {env : EmitEnv}
    (rep : Repeats id m env) (head : Nat × String) : Broken (m.emit id head env) := by
  obtain ⟨i, s, hs, list, accepts, ahead⟩ := rep
  refine ⟨s.accept (m.nextAnchor id head env.now).toDict (m.state id).pendingGap, ?_, list,
    fun good => ?_⟩
  · rw [AnchorManager.emit_sinks]
    refine List.mem_of_getElem? (i := i) ?_
    rw [getElem?_offer, hs, accepts]
    rfl
  · rcases ord.lists s (List.mem_of_getElem? hs) list with sync | ⟨base, a, e, -, epoch, -, -⟩
    · exact ahead sync.epoch
    · rw [← epochs_readHeads _ m.gaps, readHeads_accept m s _ rfl, e] at good
      simp only [List.map_append, List.map_cons, List.map_nil, List.append_assoc] at good
      have lt := (List.pairwise_append.1 good).2.1
      have next : (m.nextAnchor id head env.now).epoch = (m.state id).epoch + 1 := rfl
      simp [epoch, next] at lt

/-- A list holds an anchor whose hash was taken over fewer attempts than its gap dict now counts. -/
def Outdated (m : AnchorManager) : Prop :=
  ∃ sink ∈ m.sinks, sink.repo = none ∧ ∃ h ∈ sink.log, h.dict.isPolicyCommit = false ∧
    ∃ ref g, h.gapRef = some ref ∧ m.gaps[ref]? = some g ∧
      ∃ g₀ : Gap, g₀.attempts < g.attempts ∧
        h.dict.anchorHash = { h.dict.toAnchorRecord with gap := g₀.toJson }.computeHash

omit [Platform] in
/-- A head anchor a list holds is read. -/
lemma mem_readHeads {s : Sink} {gaps : List Gap} {h : Held} (mem : h ∈ s.log)
    (kind : h.dict.isPolicyCommit = false) : (h.read gaps).toAnchorRecord ∈ s.readHeads gaps := by
  refine List.mem_map.2 ⟨h.read gaps, List.mem_filter.2 ⟨List.mem_map_of_mem mem, ?_⟩, rfl⟩
  unfold Held.read
  split <;> simpa [AnchorDict.isPolicyCommit] using kind

/-- The anchors of an intact chain are sealed. -/
lemma AnchorsIntact.isSealed {p : String} {e : Int} {as : List AnchorRecord}
    (intact : AnchorsIntact p e as) : ∀ a ∈ as, a.IsSealed := by
  induction as generalizing p e with
  | nil => simp
  | cons b as ih =>
    obtain ⟨-, -, sld, rest⟩ := anchorsIntact_cons.1 intact
    exact List.forall_mem_cons.2 ⟨sld, ih rest⟩

omit [Platform] in
/-- A gap dict's JSON determines its attempts, whatever order its keys are in. -/
lemma Gap.attempts_eq {g g' : Gap} (e : g.toJson.sortKeys = g'.toJson.sortKeys) :
    g.attempts = g'.attempts := by
  have nd : (([("from_epoch", Json.int g.fromEpoch), ("attempts", .int g.attempts),
      ("first_attempt_utc", .str g.firstAttemptUtc)] ++
      g.lastAttemptUtc.toList.map fun s => ("last_attempt_utc", Json.str s)).map Prod.fst).Nodup := by
    cases g.lastAttemptUtc <;> simp
  have look := Json.lookup_eq_of_sortKeys_eq nd e "attempts"
  simpa [List.lookup_cons, Json.sortKeys] using look

/-- An outdated anchor does not recompute. -/
lemma Outdated.not_intact (cf : CollisionFree) {m : AnchorManager} (out : Outdated m) :
    ∃ sink ∈ m.sinks, sink.repo = none ∧
      ¬ AnchorsIntact GENESIS_ANCHOR_HASH 0 (sink.readHeads m.gaps) := by
  obtain ⟨sink, mem, list, h, hh, kind, ref, g, href, hg, g₀, lt, hash⟩ := out
  refine ⟨sink, mem, list, fun intact => ?_⟩
  have now : h.read m.gaps = { h.dict with gap := g.toJson } := by
    simp [Held.read, href, hg]
  have sld := intact.isSealed _ (mem_readHeads hh kind)
  rw [now] at sld
  have same := AnchorRecord.computeHash_inj cf (hash.symm.trans sld)
  have gap := congrArg AnchorRecord.gap same
  exact absurd (Gap.attempts_eq gap) (ne_of_lt lt)

/-- A failed attempt over a shared gap dict leaves an outdated anchor. -/
lemma outdated_of_sharesGap {id : String} {m : AnchorManager} (ord : InOrder id m) {env : EmitEnv}
    {head : Nat × String} (shares : SharesGap id m head env) : Outdated (m.emit id head env) := by
  obtain ⟨refused, ref, pend, sink, mem, list, h, hh, href⟩ := shares
  have lt := ord.pending ref pend
  have open_ : m.openGap id (m.nextAnchor id head env.now).epoch env.now = (ref, m.gaps) := by
    rw [AnchorManager.openGap, pend]
  rw [AnchorManager.emit_of_refused refused, open_]
  -- before the attempt is counted, every anchor of the list is sealed
  have before : h.dict.isPolicyCommit = false ∧ ∀ a ∈ sink.readHeads m.gaps, a.IsSealed := by
    obtain ⟨i, s, hs, rfl⟩ := mem_offer mem
    have ms := List.mem_of_getElem? hs
    have list : s.repo = none := by split at list <;> exact list
    split at hh
    · rename_i accepted
      rw [if_pos accepted, readHeads_accept m s _ rfl]
      refine ⟨?_, fun a ha => ?_⟩
      · rcases List.mem_append.1 hh with hh | hh
        · exact ord.kind s ms h hh
        · rw [List.mem_singleton.1 hh]
          rfl
      · rcases List.mem_append.1 ha with ha | ha
        · exact (ord.lists s ms list).intact.isSealed a ha
        · rw [List.mem_singleton.1 ha]
          exact AnchorRecord.sealed_isSealed _
    · rename_i refuses
      rw [if_neg refuses]
      exact ⟨ord.kind s ms h hh, (ord.lists s ms list).intact.isSealed⟩
  have now : h.read m.gaps = { h.dict with gap := m.gaps[ref].toJson } := by
    simp [Held.read, href, lt]
  have sld := before.2 _ (mem_readHeads hh before.1)
  rw [now] at sld
  refine ⟨sink, mem, list, h, hh, before.1, ref,
    { m.gaps[ref] with attempts := m.gaps[ref].attempts + 1, lastAttemptUtc := some env.now },
    href, ?_, m.gaps[ref], by simp, sld⟩
  simp [lt]

/-- An attempt counts no gap down. -/
lemma emit_gaps (m : AnchorManager) (id : String) (head : Nat × String) (env : EmitEnv) {ref : Nat}
    {g : Gap} (hg : m.gaps[ref]? = some g) :
    ∃ g', (m.emit id head env).gaps[ref]? = some g' ∧ g.attempts ≤ g'.attempts := by
  by_cases acc : env.Accepts m.sinks
  · rw [AnchorManager.emit_of_accepts acc]
    exact ⟨g, hg, le_refl _⟩
  · rw [AnchorManager.emit_of_refused acc]
    have found : (m.openGap id (m.nextAnchor id head env.now).epoch env.now).2[ref]? = some g := by
      unfold AnchorManager.openGap
      split
      · exact hg
      · exact (List.getElem?_append_left (List.getElem?_eq_some_iff.1 hg).1).trans hg
    rw [List.getElem?_modify, found]
    refine ⟨_, rfl, ?_⟩
    split <;> simp

/-- A list is broken, in one way or the other. -/
def Spoilt (m : AnchorManager) : Prop := Broken m ∨ Outdated m

/-- A list that is spoilt stays so over an attempt. -/
lemma Spoilt.emit {m : AnchorManager} (bad : Spoilt m) (id : String) (head : Nat × String)
    (env : EmitEnv) : Spoilt (m.emit id head env) := by
  have grows := m.emit_grows id head env
  rcases bad with broken | ⟨sink, mem, list, h, hh, kind, ref, g, href, hg, g₀, lt, hash⟩
  · exact .inl (broken.of_grows grows)
  · obtain ⟨i, hi⟩ := List.mem_iff_getElem?.1 mem
    obtain ⟨sink', hi', repo, pf⟩ := grows i sink hi
    obtain ⟨g', hg', le⟩ := emit_gaps m id head env hg
    exact .inr ⟨sink', List.mem_of_getElem? hi', repo.trans list, h, pf.subset hh, kind, ref, g', href, hg', g₀,
      lt.trans_le le, hash⟩

lemma Spoilt.step {b : Backend} {id : String} {s : Deployment} (idle : s.manager.policyQueue = [])
    (bad : Spoilt s.manager) {op : DeployOp} (live : op.Running) :
    (deployStep b id s op).manager.policyQueue = [] ∧ Spoilt (deployStep b id s op).manager := by
  rw [deployStep_manager idle]
  cases op with
  | append env a => exact ⟨idle, bad⟩
  | restart anchorN => exact live.elim
  | anchor force env =>
    dsimp only
    split
    · exact ⟨(AnchorManager.emit_policyQueue ..).trans idle, bad.emit id _ _⟩
    · exact ⟨idle, bad⟩

/-- A step that is not clean spoils a list. -/
lemma spoilt_of_not_clean {b : Backend} {id : String} {s : Deployment} (ord : InOrder id s.manager)
    {op : DeployOp} (dirty : ¬ Clean id s op) :
    (deployStep b id s op).manager.policyQueue = [] ∧ Spoilt (deployStep b id s op).manager := by
  rw [deployStep_manager ord.idle]
  cases op with
  | append env a => exact absurd trivial dirty
  | restart anchorN => exact absurd trivial dirty
  | anchor force env =>
    simp only [Clean, Classical.not_imp, not_and_or, not_not] at dirty
    obtain ⟨emits, bad⟩ := dirty
    have emits' : (force || s.manager.due id s.chain.head.1) = true := emits
    simp only [emits', if_true]
    refine ⟨(AnchorManager.emit_policyQueue ..).trans ord.idle, ?_⟩
    rcases bad with repeats | shares
    · exact .inl (broken_of_repeats ord repeats _)
    · exact .inr (outdated_of_sharesGap ord shares)

/-! ## Runs -/

/-- A clean run keeps the logs in order. -/
lemma inOrder_run {b : Backend} {id : String} {s : Deployment} (ord : InOrder id s.manager)
    {ops : List DeployOp} (live : ∀ op ∈ ops, op.Running)
    (clean : Steps (deployStep b id) (Clean id) s ops) :
    InOrder id (run (deployStep b id) s ops).manager :=
  run_invariant_of_steps _ (I := fun s : Deployment => InOrder id s.manager) ord
    (fun _ _ ord ok => ord.step ok.1 ok.2) ((steps_of_forall live).and clean)

/-- A spoilt list is spoilt at the end of the run. -/
lemma spoilt_run {b : Backend} {id : String} {s : Deployment} (idle : s.manager.policyQueue = [])
    (bad : Spoilt s.manager) {ops : List DeployOp} (live : ∀ op ∈ ops, op.Running) :
    Spoilt (run (deployStep b id) s ops).manager :=
  (run_invariant_of_steps (deployStep b id)
    (I := fun s : Deployment => s.manager.policyQueue = [] ∧ Spoilt s.manager) ⟨idle, bad⟩
    (fun _ _ inv live => inv.2.step inv.1 live) (steps_of_forall live)).2

omit [Platform] in
/-- A list gives back what it has accepted. -/
lemma heads_readBack_list {sink : Sink} (list : sink.repo = none) (gaps : List Gap) :
    heads (sink.readBack gaps) = sink.readHeads gaps := by
  rw [Sink.readBack, list]
  rfl

/-- Sinks in order give back intact chains. -/
lemma InOrder.intact {id : String} {m : AnchorManager} (ord : InOrder id m) {sink : Sink}
    (mem : sink ∈ m.sinks) : AnchorsIntact GENESIS_ANCHOR_HASH 0 (heads (sink.readBack m.gaps)) := by
  cases clone : sink.repo with
  | none =>
    rw [heads_readBack_list clone]
    exact (ord.lists sink mem clone).intact
  | some repo =>
    obtain ⟨as, follows, filed⟩ := ord.files sink mem repo clone
    have back : sink.readBack m.gaps = if GitAnchorSink.anchorsDir repo <+: GitAnchorSink.tenantDir repo id
        then as.map (·.toDict) else [] := by
      rw [Sink.readBack, clone]
      exact filed.loadAnchors follows.intact.strict
    rw [back]
    split
    · rw [heads_map_toDict]
      exact follows.intact
    · exact ⟨by simp [heads], trivial⟩

/-- In a run without a restart every sink gives back a sound log at the end exactly when every attempt was
clean: no list accepted the repetition of an anchor it had, and no attempt failed over a gap dict that a
list still held. -/
theorem sinks_sound_iff (cf : CollisionFree) (b : Backend) (id : String) (sinks : List Sink)
    (anchorN : Int) (ops : List DeployOp) (live : ∀ op ∈ ops, op.Running) :
    let start := Deployment.start b id sinks anchorN
    let s := run (deployStep b id) start ops
    (∀ sink ∈ s.manager.sinks, LogSound (sink.readBack s.manager.gaps)) ↔
      Steps (deployStep b id) (Clean id) start ops := by
  intro start s
  have ord : InOrder id start.manager := inOrder_start b id sinks anchorN
  constructor
  · intro sound
    by_contra no
    -- up to the first unclean attempt all logs are in order; after it a list is broken for good
    obtain ⟨pre, op, post, rfl, ok, dirty⟩ := exists_first_of_not_steps _ no
    have before : InOrder id (run (deployStep b id) start pre).manager :=
      inOrder_run ord (fun o h => live o (by simp [h])) ok
    obtain ⟨idle, bad⟩ := spoilt_of_not_clean (b := b) before dirty
    have after : Spoilt s.manager := by
      rw [show s = run (deployStep b id) (run (deployStep b id) start pre) (op :: post) from
        run_append .., run_cons]
      exact spoilt_run idle bad fun o h => live o (by simp [h])
    rcases after with ⟨sink, mem, list, epochs⟩ | outdated
    · have intact := (sound sink mem).intact
      rw [heads_readBack_list list] at intact
      refine epochs ?_
      rw [← epochs_readHeads sink s.manager.gaps]
      exact (List.pairwise_cons.1 intact.pairwise).2
    · obtain ⟨sink, mem, list, broken⟩ := outdated.not_intact cf
      have intact := (sound sink mem).intact
      rw [heads_readBack_list list] at intact
      exact broken intact
  · intro clean sink mem
    have intact := (inOrder_run ord live clean).intact mem
    refine ⟨intact, fun records impl => ?_⟩
    obtain ⟨rep, e, ne, -⟩ := p3_of_intact intact impl
    exact ⟨rep, e, ne⟩

end

section Sample

/-- The digests of the sample chain and anchor, and of the anchor that carries a gap of one attempt. -/
def partialDigests : DigestTable where
  entries := sampleAnchorDigests.entries ++
    [("\x7b\"anchored_at_utc\": \"2023-11-14T22:13:20Z\", \"chain_length\": 1, \"epoch\": 1, " ++
      "\"gap\": \x7b\"attempts\": 1, \"first_attempt_utc\": \"2023-11-14T22:13:20Z\", " ++
      "\"from_epoch\": 1, \"last_attempt_utc\": \"2023-11-14T22:13:20Z\"\x7d, " ++
      "\"head_hash\": \"29bebed3c4ccc5d7a01d5781f84b868d2d8a87c8fd742b19e0a5824182f3140b\", " ++
      "\"prev_anchor_hash\": \"0000000000000000000000000000000000000000000000000000000000000000\", " ++
      "\"tenant_id\": \"acme\"\x7d",
      "d89033de53c8742df68cfb5163f9a59667c48891e5edfe8544b06978cc4670f8")]
  distinct := by decide +kernel
  plain := by decide +kernel

local instance sinksPlatform : Platform := .reference partialDigests

def partialSinks : List Sink :=
  [{ name := "memory", byReference := true }, { name := "git", repo := some "/srv/anchors" }]

/-- An attempt the sink `k` refuses, and the next one, which both accept. -/
def partialOps (k : Nat) : List DeployOp :=
  [.append sampleEnv sampleArgs,
   .anchor true fun _ => { sampleEmitEnv with raises := fun i => if i = k then some "disk full" else none },
   .anchor true fun _ => sampleEmitEnv]

lemma partialOps_running (k : Nat) : ∀ op ∈ partialOps k, op.Running := by
  simp [partialOps, DeployOp.Running]

def partialStart : Deployment := .start .SQLiteBackend "acme" partialSinks 50

def partialEnd (k : Nat) : Deployment := run (deployStep .SQLiteBackend "acme") partialStart (partialOps k)

/-- The git sink accepted what the list refused, and both give back a sound log. -/
theorem sinks_sound_iff_sample :
    (partialEnd 0).manager.sinks.length = 2 ∧
      ∀ sink ∈ (partialEnd 0).manager.sinks, LogSound (sink.readBack (partialEnd 0).manager.gaps) := by
  refine ⟨by decide +kernel, ?_⟩
  refine (sinks_sound_iff (collisionFree_reference _) .SQLiteBackend "acme" partialSinks 50 (partialOps 0)
    (partialOps_running 0)).2 ⟨trivial, fun _ => ⟨?_, ?_⟩, fun _ => ⟨?_, ?_⟩, trivial⟩
  -- at the first attempt no list holds anything, and there is no gap
  · rintro ⟨i, sink, hi, -, -, ahead⟩
    have mem : sink ∈ partialSinks.map fun s => { s with log := [] } := List.mem_of_getElem? hi
    obtain ⟨s, -, rfl⟩ := List.mem_map.1 mem
    exact ahead rfl
  · rintro ⟨-, ref, pend, -⟩
    cases pend
  -- at the second the list is where the counters are, and every sink accepts
  · rintro ⟨i, sink, hi, list, -, ahead⟩
    have level : ∀ sink ∈ (run (deployStep .SQLiteBackend "acme") partialStart
        ((partialOps 0).take 2)).manager.sinks, sink.repo = none →
        lastEpoch 0 (sink.readHeads (run (deployStep .SQLiteBackend "acme") partialStart
          ((partialOps 0).take 2)).manager.gaps) =
          ((run (deployStep .SQLiteBackend "acme") partialStart
            ((partialOps 0).take 2)).manager.state "acme").epoch := by
      decide +kernel
    exact ahead (level sink (List.mem_of_getElem? hi) list)
  · rintro ⟨refused, -⟩
    exact refused fun _ _ => rfl

/-- The list that accepted the first attempt has two anchors of epoch 1. -/
theorem partial_failure_repeats_epoch :
    (∀ op ∈ partialOps 1, op.Running) ∧
    ¬ ∀ sink ∈ (partialEnd 1).manager.sinks, LogSound (sink.readBack (partialEnd 1).manager.gaps) := by
  refine ⟨partialOps_running 1, fun claim => ?_⟩
  have epochs : (partialEnd 1).manager.sinks.map
      (fun sink => (heads (sink.readBack (partialEnd 1).manager.gaps)).map (·.epoch)) = [[1, 1], [1]] := by
    decide +kernel
  obtain ⟨sink, rest, split, eq, -⟩ := List.map_eq_cons_iff.1 epochs
  have good := (claim sink (by rw [split]; simp)).intact.pairwise
  rw [eq] at good
  exact absurd good (by decide)

end Sample

end Custos
