import Custos.Custody.Manager
import Custos.Custody.Verify

/-!
# Anchor logs

What a log of accepted anchors has to be for the re-walk to establish P3, and the rule by which the
manager's attempts keep it so. A log is *synced* with a tenant's counters when it is one intact chain of
anchors that ends where the counters stand; an anchor the manager builds from the counters extends it to
one that is synced with the counters after (`Synced.snoc`).
-/

namespace Custos

/-- The head anchors of a log, in the order they were accepted. -/
def heads (log : List AnchorDict) : List AnchorRecord :=
  (log.filter (!·.isPolicyCommit)).map .fromDict

/-- The epoch of the last anchor, `e` where there is none. -/
def lastEpoch (e : Int) (as : List AnchorRecord) : Int := (as.getLast?.map (·.epoch)).getD e

@[simp] lemma lastEpoch_nil (e : Int) : lastEpoch e [] = e := rfl

/-- The last epoch is that of the last anchor. -/
@[simp] lemma lastEpoch_snoc (e : Int) (as : List AnchorRecord) (a : AnchorRecord) :
    lastEpoch e (as ++ [a]) = a.epoch := by
  simp [lastEpoch]

lemma lastEpoch_cons (e : Int) (a : AnchorRecord) (as : List AnchorRecord) :
    lastEpoch e (a :: as) = lastEpoch a.epoch as := by
  cases as <;> simp [lastEpoch, List.getLast?_cons]

lemma heads_append (log log' : List AnchorDict) : heads (log ++ log') = heads log ++ heads log' := by
  simp [heads]

@[simp] lemma heads_singleton (a : AnchorRecord) : heads [a.toDict] = [a] := rfl

/-- Head anchors are read back from their dicts. -/
@[simp] lemma heads_map_toDict (as : List AnchorRecord) : heads (as.map (·.toDict)) = as := by
  induction as with
  | nil => rfl
  | cons a as ih =>
    rw [List.map_cons, ← List.singleton_append, heads_append, ih]
    rfl

/-- The head anchors of a log are what its records read as. -/
lemma mem_heads {log : List AnchorDict} {a : AnchorRecord} :
    a ∈ heads log ↔ ∃ d ∈ log, d.isPolicyCommit = false ∧ .fromDict d = a := by
  simp [heads, and_assoc]

/-- No epoch after `e` is left out. -/
def Consecutive (e : Int) (as : List AnchorRecord) : Prop :=
  (e :: as.map (·.epoch)).IsChain fun m n => n = m + 1

/-- Epochs follow one another from the first on. -/
lemma consecutive_cons {e : Int} {a : AnchorRecord} {as : List AnchorRecord} :
    Consecutive e (a :: as) ↔ a.epoch = e + 1 ∧ Consecutive a.epoch as := by
  simp [Consecutive]

lemma consecutive_append {e : Int} {as bs : List AnchorRecord} :
    Consecutive e (as ++ bs) ↔ Consecutive e as ∧ Consecutive (lastEpoch e as) bs := by
  induction as generalizing e with
  | nil => simp [Consecutive]
  | cons a as ih => rw [List.cons_append, consecutive_cons, ih, consecutive_cons, lastEpoch_cons, and_assoc]

variable [Platform]

/-- A chain of anchors is intact with one more exactly when it is intact and the new anchor continues
it. -/
lemma anchorsIntact_snoc {p : String} {e : Int} {as : List AnchorRecord} {a : AnchorRecord} :
    AnchorsIntact p e (as ++ [a]) ↔
      AnchorsIntact p e as ∧ lastEpoch e as < a.epoch ∧
        a.prevAnchorHash = anchorLink.head p as ∧ a.IsSealed := by
  induction as generalizing p e with
  | nil =>
    have nil : ∀ p e, AnchorsIntact p e [] := fun _ _ => ⟨by simp, trivial⟩
    simp [anchorsIntact_cons, nil]
  | cons b as ih =>
    rw [List.cons_append, anchorsIntact_cons, ih, anchorsIntact_cons, lastEpoch_cons,
      LinkSpec.head_cons]
    have own : anchorLink.own b = b.anchorHash := rfl
    rw [own]
    simp only [and_assoc]

/-- The epochs of an intact chain ascend. -/
lemma AnchorsIntact.pairwise {p : String} {e : Int} {as : List AnchorRecord}
    (intact : AnchorsIntact p e as) : (e :: as.map (·.epoch)).Pairwise (· < ·) :=
  List.isChain_iff_pairwise.1 intact.epochs

lemma AnchorsIntact.strict {p : String} {e : Int} {as : List AnchorRecord}
    (intact : AnchorsIntact p e as) : as.Pairwise (fun a b => a.epoch < b.epoch) :=
  List.pairwise_map.1 (List.pairwise_cons.1 intact.pairwise).2

/-- No epoch of an intact chain is beyond its last. -/
lemma AnchorsIntact.le_lastEpoch {p : String} {e : Int} {as : List AnchorRecord}
    (intact : AnchorsIntact p e as) : ∀ a ∈ as, a.epoch ≤ lastEpoch e as := by
  intro a ha
  rcases List.eq_nil_or_concat as with rfl | ⟨init, last, rfl⟩
  · cases ha
  · rw [List.concat_eq_append] at intact ha ⊢
    rw [lastEpoch_snoc]
    rcases List.mem_append.1 ha with ha | ha
    · exact le_of_lt ((List.pairwise_append.1 intact.strict).2.2 a ha last (by simp))
    · rw [List.mem_singleton.1 ha]

/-- No two anchors of an intact chain have one epoch. -/
lemma AnchorsIntact.epoch_inj {p : String} {e : Int} {as : List AnchorRecord}
    (intact : AnchorsIntact p e as) {a b : AnchorRecord} (ha : a ∈ as) (hb : b ∈ as)
    (eq : a.epoch = b.epoch) : a = b := by
  have nd : (as.map (·.epoch)).Nodup := by
    rw [List.Nodup, List.pairwise_map]
    exact intact.strict.imp ne_of_lt
  exact List.inj_on_of_nodup_map nd ha hb eq

/-- An intact chain is what any rearrangement of it sorts to. -/
lemma AnchorsIntact.insertionSort_eq {p : String} {e : Int} {as l : List AnchorRecord}
    (intact : AnchorsIntact p e as) (perm : l.Perm as) :
    l.insertionSort (·.epoch ≤ ·.epoch) = as := by
  have total : Std.Total fun a b : AnchorRecord => a.epoch ≤ b.epoch := ⟨fun _ _ => le_total _ _⟩
  have trans : IsTrans AnchorRecord fun a b => a.epoch ≤ b.epoch := ⟨fun _ _ _ => le_trans⟩
  have sorts := List.perm_insertionSort (fun a b : AnchorRecord => a.epoch ≤ b.epoch) l
  refine List.Perm.eq_of_pairwise (fun a b ha hb le ge => ?_)
    (List.pairwise_insertionSort _ l) (intact.strict.imp le_of_lt) (sorts.trans perm)
  exact intact.epoch_inj ((sorts.trans perm).mem_iff.1 ha) hb (le_antisymm le ge)

/-- On a log whose head anchors are intact in the order they were accepted, P3 is established as soon as
there is one. -/
lemma p3_of_intact {log : List AnchorDict} (intact : AnchorsIntact GENESIS_ANCHOR_HASH 0 (heads log))
    {records : List AuditRecord} (impl : ∀ r ∈ records, r.Implemented) :
    ∃ rep, verifyCustody records log = .ok rep ∧ rep.p3 ≠ .CONTRADICTION ∧
      (heads log ≠ [] → rep.p3 = .ESTABLISHED) := by
  obtain ⟨rep, e, spec⟩ := verifyCustody_returns log impl
  have sorted : headAnchors log = heads log := intact.insertionSort_eq (.refl _)
  have p3 := spec.p3
  rw [sorted] at p3
  refine ⟨rep, e, fun bad => ?_, fun ne => p3.established.2 ⟨ne, intact⟩⟩
  exact (p3.contradiction.1 bad).2 intact

/-- The anchors are one intact chain that ends where the tenant's counters stand. -/
structure Synced (st : TenantState) (as : List AnchorRecord) : Prop where
  intact : AnchorsIntact GENESIS_ANCHOR_HASH 0 as
  epoch : lastEpoch 0 as = st.epoch
  hash : anchorLink.head GENESIS_ANCHOR_HASH as = st.anchorHash

/-- Counters that were never moved are synced with the empty log. -/
lemma Synced.nil {st : TenantState} (epoch : st.epoch = 0)
    (hash : st.anchorHash = GENESIS_ANCHOR_HASH) : Synced st [] :=
  ⟨⟨by simp, trivial⟩, epoch.symm, hash.symm⟩

/-- Every anchor of the chain is of an earlier epoch than the next. -/
lemma Synced.older {st : TenantState} {as : List AnchorRecord} (sync : Synced st as) {n : Int}
    (next : n = st.epoch + 1) : ∀ a ∈ as, a.epoch < n := by
  intro a ha
  have le := sync.intact.le_lastEpoch a ha
  rw [sync.epoch] at le
  omega

/-- The anchor built from the counters continues the chain, and the counters after it are synced. -/
lemma Synced.snoc {st st' : TenantState} {as : List AnchorRecord} (sync : Synced st as)
    {a : AnchorRecord} (epoch : a.epoch = st.epoch + 1) (prev : a.prevAnchorHash = st.anchorHash)
    (sld : a.IsSealed) (epoch' : st'.epoch = a.epoch) (hash' : st'.anchorHash = a.anchorHash) :
    Synced st' (as ++ [a]) := by
  refine ⟨anchorsIntact_snoc.2 ⟨sync.intact, ?_, ?_, sld⟩, ?_, ?_⟩
  · rw [sync.epoch, epoch]
    omega
  · rw [prev, sync.hash]
  · rw [lastEpoch_snoc, epoch']
  · rw [LinkSpec.head_snoc, hash']
    rfl

end Custos
