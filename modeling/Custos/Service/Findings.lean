import Custos.Service.Reconciliation
import Mathlib.Data.List.Sort
import Mathlib.Logic.Equiv.Defs

/-!
# The findings of a reconciliation

`reconcile` reads the records into a tally and the tally against the store. What the tally holds under a
digest are the indexes of the records that claim it (`mem_claims_tally`), so the findings are given by the
sets of claimed and attested digests and by the store alone, whatever order the records stand in.
-/

namespace Custos

/-- The indexes of the records that claim the digest's content to be stored. -/
def claimIndexes (records : List AuditRecord) (d : String) : List Nat :=
  (records.zipIdx.filter fun x => x.1.contentHash = d ∧ x.1.Claims).map (·.2)

/-- What the loop over the records collects of them. -/
def tally (records : List AuditRecord) : Tally := records.zipIdx.foldl Tally.add {}

section Tally

variable {records : List AuditRecord} {r : AuditRecord} {d d' : String} {i : Nat}
  {claims : List (String × List Nat)} {indexes indexes' : List Nat}

lemma tally_snoc : tally (records ++ [r]) = (tally records).add (r, records.length) := by
  simp [tally, List.zipIdx_append]

/-- A further record that claims the digest adds its index. -/
lemma claimIndexes_snoc :
    claimIndexes (records ++ [r]) d =
      claimIndexes records d ++ if r.contentHash = d ∧ r.Claims then [records.length] else [] := by
  unfold claimIndexes
  rw [List.zipIdx_append, List.filter_append, List.map_append]
  by_cases h : r.contentHash = d ∧ r.Claims <;> simp [h]

/-- The indexes are those of the records that claim the digest. -/
lemma mem_claimIndexes :
    i ∈ claimIndexes records d ↔ ∃ r, records[i]? = some r ∧ r.contentHash = d ∧ r.Claims := by
  unfold claimIndexes
  rw [List.mem_map]
  constructor
  · rintro ⟨⟨r, i⟩, mem, rfl⟩
    obtain ⟨at_i, claims⟩ := List.mem_filter.1 mem
    exact ⟨r, List.mem_zipIdx_iff_getElem?.1 at_i, of_decide_eq_true claims⟩
  · rintro ⟨r, at_i, claims⟩
    exact ⟨(r, i), List.mem_filter.2 ⟨List.mem_zipIdx_iff_getElem?.2 at_i, decide_eq_true claims⟩, rfl⟩

/-- There are none where nothing claims it. -/
lemma claimIndexes_eq_nil : claimIndexes records d = [] ↔ ¬ Claimed records d := by
  rw [List.eq_nil_iff_forall_not_mem]
  constructor
  · rintro none ⟨r, mem, claims⟩
    obtain ⟨i, at_i⟩ := List.mem_iff_getElem?.1 mem
    exact none i (mem_claimIndexes.2 ⟨r, at_i, claims⟩)
  · intro no i mem
    obtain ⟨r, at_i, claims⟩ := mem_claimIndexes.1 mem
    exact no ⟨r, List.mem_of_getElem? at_i, claims⟩

/-- The indexes are in order. -/
lemma claimIndexes_sorted (records : List AuditRecord) (d : String) :
    (claimIndexes records d).Pairwise (· < ·) := by
  have all : (records.zipIdx.map Prod.snd).Pairwise (· < ·) := by
    rw [List.zipIdx_map_snd]
    exact List.pairwise_lt_range' ..
  exact all.sublist (List.filter_sublist.map _)

/-- A claim is added under its digest and under no other. -/
lemma mem_addClaim (nodup : (claims.map Prod.fst).Nodup) :
    (d', indexes') ∈ addClaim d i claims ↔
      if d' = d then
        (∃ indexes, (d, indexes) ∈ claims ∧ indexes' = indexes ++ [i]) ∨
          d ∉ claims.map Prod.fst ∧ indexes' = [i]
      else (d', indexes') ∈ claims := by
  induction claims with
  | nil => by_cases e : d' = d <;> simp [addClaim, e]
  | cons claim rest ih =>
    obtain ⟨k, at_k⟩ := claim
    obtain ⟨new, nodup⟩ := List.nodup_cons.1 nodup
    unfold addClaim
    by_cases e : d' = d
    · subst e
      rw [if_pos rfl]
      by_cases here : k = d'
      · subst here
        have gone : ∀ indexes, (k, indexes) ∉ rest := fun indexes mem => new (List.mem_map.2 ⟨_, mem, rfl⟩)
        simp [gone]
      · rw [if_neg here, List.mem_cons, ih nodup]
        simp [Ne.symm here]
    · rw [if_neg e]
      by_cases here : k = d
      · simp [here, e]
      · rw [if_neg here, List.mem_cons, ih nodup, if_neg e, List.mem_cons]

/-- A digest keeps one entry. -/
lemma nodup_addClaim (nodup : (claims.map Prod.fst).Nodup) :
    ((addClaim d i claims).map Prod.fst).Nodup := by
  induction claims with
  | nil => simp [addClaim]
  | cons claim rest ih =>
    obtain ⟨k, at_k⟩ := claim
    obtain ⟨new, nodup'⟩ := List.nodup_cons.1 nodup
    unfold addClaim
    by_cases here : k = d
    · rw [if_pos here]
      exact nodup
    · rw [if_neg here, List.map_cons, List.nodup_cons]
      refine ⟨fun mem => ?_, ih nodup'⟩
      rcases (mem_keys_addClaim rest).1 mem with eq | mem
      · exact here eq
      · exact new mem

/-- A record that claims a body is entered under its digest. -/
lemma claims_add (t : Tally) (r : AuditRecord) (i : Nat) :
    (t.add (r, i)).claims = if r.Claims then addClaim r.contentHash i t.claims else t.claims := by
  dsimp only [Tally.add]
  split
  · rename_i attests
    rw [if_neg attests.not_claims]
  · split <;> rfl

/-- An attested digest is entered once. -/
lemma nodup_attested_add {t : Tally} (nodup : t.attested.Nodup) (r : AuditRecord) (i : Nat) :
    (t.add (r, i)).attested.Nodup := by
  dsimp only [Tally.add]
  split
  · dsimp only
    split
    · exact nodup
    · rename_i new
      rw [List.nodup_append]
      exact ⟨nodup, List.nodup_singleton _, fun d mem d' mem' e => new (by simp_all)⟩
  · split <;> exact nodup

/-- A tally has each digest once. -/
lemma nodup_tally (records : List AuditRecord) :
    ((tally records).claims.map Prod.fst).Nodup ∧ (tally records).attested.Nodup := by
  induction records using List.reverseRecOn with
  | nil => exact ⟨List.nodup_nil, List.nodup_nil⟩
  | append_singleton records r ih =>
    rw [tally_snoc, claims_add]
    refine ⟨?_, nodup_attested_add ih.2 r _⟩
    split
    · exact nodup_addClaim ih.1
    · exact ih.1

/-- The digests of the tally are the claimed ones. -/
lemma mem_claims_keys : d ∈ (tally records).claims.map Prod.fst ↔ Claimed records d := by
  unfold tally
  rw [(mem_tally records 0 {} d).2]
  simp

lemma mem_attested_tally : d ∈ (tally records).attested ↔ Attested records d := by
  unfold tally
  rw [(mem_tally records 0 {} d).1]
  simp

/-- Under a claimed digest the tally holds the indexes of the records that claim it. -/
lemma mem_claims_tally :
    (d, indexes) ∈ (tally records).claims ↔ Claimed records d ∧ indexes = claimIndexes records d := by
  induction records using List.reverseRecOn generalizing d indexes with
  | nil => simp [tally, Claimed]
  | append_singleton records r ih =>
    rw [tally_snoc, claims_add, claimed_append, claimIndexes_snoc]
    by_cases claims : r.Claims
    · rw [if_pos claims, mem_addClaim (nodup_tally records).1, mem_claims_keys]
      by_cases e : d = r.contentHash
      · subst e
        by_cases before : Claimed records r.contentHash
        · simp [ih, before, claims]
        · simp [ih, before, claims, claimIndexes_eq_nil.2 before]
      · rw [if_neg e, ih]
        simp [Ne.symm e]
    · rw [if_neg claims, ih]
      simp [claims]

end Tally

/-! ## What the tally is found to be -/

section Findings

variable {records : List AuditRecord} {s : ContentStore} {attested : List String} {d : String}
  {indexes : List Nat} {f : Finding}

/-- A claim's finding stands under its digest, with its indexes. -/
lemma claimFinding_spec (found : claimFinding s attested (d, indexes) = some f) :
    f.contentHash = d ∧ f.recordIndexes = indexes ∧
      (f.kind = FINDING_UNATTESTED_PURGE ∧ s.status d = .STATUS_PURGED ∧ d ∉ attested ∨
        f.kind = FINDING_BODY_MISSING ∧ s.status d = .STATUS_UNKNOWN) := by
  dsimp only [claimFinding] at found
  split at found
  · rename_i purged
    split at found
    · cases found
    · rename_i missing
      cases found
      exact ⟨rfl, rfl, .inl ⟨rfl, purged, missing⟩⟩
  · rename_i unknown
    cases found
    exact ⟨rfl, rfl, .inr ⟨rfl, unknown⟩⟩
  · cases found

/-- There is a finding of a claim where the body was purged without a record, or is unknown. -/
lemma claimFinding_isSome :
    (claimFinding s attested (d, indexes)).isSome ↔
      s.status d = .STATUS_PURGED ∧ d ∉ attested ∨ s.status d = .STATUS_UNKNOWN := by
  dsimp only [claimFinding]
  cases s.status d with
  | STATUS_PURGED => by_cases there : d ∈ attested <;> simp [there]
  | STATUS_UNKNOWN => simp
  | STATUS_PRESENT => simp

/-- The indexes only go along into a claim's finding. -/
lemma claimFinding_reindex (d : String) (indexes indexes' : List Nat) :
    claimFinding s attested (d, indexes') =
      (claimFinding s attested (d, indexes)).map fun f => { f with recordIndexes := indexes' } := by
  dsimp only [claimFinding]
  cases s.status d with
  | STATUS_PURGED =>
    by_cases there : d ∈ attested
    · simp only [if_pos there, Option.map_none]
    · simp only [if_neg there, Option.map_some]
  | STATUS_UNKNOWN => rfl
  | STATUS_PRESENT => rfl

/-- What is found of a claim depends on whether its digest is attested. -/
lemma claimFinding_congr {attested' : List String} (same : d ∈ attested ↔ d ∈ attested') :
    claimFinding s attested (d, indexes) = claimFinding s attested' (d, indexes) := by
  dsimp only [claimFinding]
  rw [if_congr same rfl rfl]

/-- What is found of an attested digest is a purge without effect. -/
lemma attestedFinding_eq_some :
    attestedFinding s d = some f →
      f.kind = FINDING_UNEFFECTED_PURGE ∧ f.contentHash = d ∧ f.recordIndexes = [] := by
  intro found
  dsimp only [attestedFinding] at found
  split at found
  · cases found
    exact ⟨rfl, rfl, rfl⟩
  · cases found

lemma attestedFinding_isSome : (attestedFinding s d).isSome ↔ s.status d = .STATUS_PRESENT := by
  dsimp only [attestedFinding]
  cases s.status d <;> simp

/-- The findings, from what the records say of a digest and where. -/
lemma mem_findings :
    f ∈ (reconcile records s).findings ↔
      (∃ d, Claimed records d ∧
        claimFinding s (tally records).attested (d, claimIndexes records d) = some f) ∨
      ∃ d, Attested records d ∧ attestedFinding s d = some f := by
  have findings : (reconcile records s).findings =
      (tally records).claims.filterMap (claimFinding s (tally records).attested) ++
        (tally records).attested.filterMap (attestedFinding s) := rfl
  rw [findings, List.mem_append, List.mem_filterMap, List.mem_filterMap]
  refine or_congr ⟨?_, ?_⟩ ⟨?_, ?_⟩
  · rintro ⟨⟨d, indexes⟩, mem, found⟩
    obtain ⟨claimed, rfl⟩ := mem_claims_tally.1 mem
    exact ⟨d, claimed, found⟩
  · rintro ⟨d, claimed, found⟩
    exact ⟨(d, claimIndexes records d), mem_claims_tally.2 ⟨claimed, rfl⟩, found⟩
  · rintro ⟨d, mem, found⟩
    exact ⟨d, mem_attested_tally.1 mem, found⟩
  · rintro ⟨d, attests, found⟩
    exact ⟨d, mem_attested_tally.2 attests, found⟩

/-- What is found of the members of a list, each under its own key, is found in the list's order. -/
lemma sublist_map_filterMap {α β κ : Type*} {find : α → Option β} {key : α → κ} {key' : β → κ}
    (under : ∀ x y, find x = some y → key' y = key x) (xs : List α) :
    ((xs.filterMap find).map key').Sublist (xs.map key) := by
  induction xs with
  | nil => exact .slnil
  | cons x xs ih =>
    cases found : find x with
    | none =>
      rw [List.filterMap_cons_none found]
      exact ih.cons _
    | some y =>
      rw [List.filterMap_cons_some found, List.map_cons, List.map_cons, under x y found]
      exact ih.cons_cons _

/-- No digest is found twice in one way. -/
lemma nodup_findings (records : List AuditRecord) (s : ContentStore) :
    ((reconcile records s).findings.map fun f => (f.kind, f.contentHash)).Nodup := by
  have findings : (reconcile records s).findings =
      (tally records).claims.filterMap (claimFinding s (tally records).attested) ++
        (tally records).attested.filterMap (attestedFinding s) := rfl
  obtain ⟨claims, attests⟩ := nodup_tally records
  rw [findings, List.map_append, List.nodup_append]
  refine ⟨?_, ?_, ?_⟩
  · have under : ∀ (claim : String × List Nat) f,
        claimFinding s (tally records).attested claim = some f → f.contentHash = claim.1 :=
      fun _ _ found => (claimFinding_spec found).1
    have once := claims.sublist (sublist_map_filterMap under _)
    exact List.Nodup.of_map Prod.snd (by rwa [List.map_map])
  · have under : ∀ d f, attestedFinding s d = some f → f.contentHash = id d :=
      fun _ _ found => (attestedFinding_eq_some found).2.1
    rw [← List.map_id (tally records).attested] at attests
    have once := attests.sublist (sublist_map_filterMap under _)
    exact List.Nodup.of_map Prod.snd (by rwa [List.map_map])
  · intro k mem k' mem' e
    subst e
    obtain ⟨f, claim, rfl⟩ := List.mem_map.1 mem
    obtain ⟨f', attest, e⟩ := List.mem_map.1 mem'
    obtain ⟨⟨d, indexes⟩, -, found⟩ := List.mem_filterMap.1 claim
    obtain ⟨d', -, found'⟩ := List.mem_filterMap.1 attest
    have kind := (Prod.mk.inj e).1
    rw [(attestedFinding_eq_some found').1] at kind
    rcases (claimFinding_spec found).2.2 with ⟨kind', -⟩ | ⟨kind', -⟩
    · rw [kind'] at kind
      revert kind
      decide
    · rw [kind'] at kind
      revert kind
      decide

end Findings

/-! ## The order of the records -/

/-- The records in another order: at `i` the one that stood at `σ i`. -/
def permuted (records : List AuditRecord) (σ : Equiv.Perm (Fin records.length)) : List AuditRecord :=
  List.ofFn fun i => records.get (σ i)

/-- The index a record has in the other order. -/
def renumber {n : Nat} (σ : Equiv.Perm (Fin n)) (i : Nat) : Nat :=
  if h : i < n then σ.symm ⟨i, h⟩ else i

/-- The finding with its records renumbered, in their order. -/
def Finding.renumber {n : Nat} (σ : Equiv.Perm (Fin n)) (f : Finding) : Finding :=
  { f with recordIndexes := (f.recordIndexes.map (Custos.renumber σ)).insertionSort (· ≤ ·) }

section Order

variable {records : List AuditRecord} {σ : Equiv.Perm (Fin records.length)} {d : String}

/-- The records in another order, by index. -/
lemma getElem?_permuted {i : Nat} {r : AuditRecord} :
    (permuted records σ)[i]? = some r ↔ ∃ h : i < records.length, records.get (σ ⟨i, h⟩) = r := by
  unfold permuted
  rw [List.getElem?_ofFn]
  by_cases h : i < records.length <;> simp [h]

/-- Another order has the same records. -/
lemma mem_permuted {r : AuditRecord} : r ∈ permuted records σ ↔ r ∈ records := by
  unfold permuted
  rw [List.mem_ofFn, List.mem_iff_get]
  constructor
  · rintro ⟨i, eq⟩
    exact ⟨σ i, eq⟩
  · rintro ⟨i, eq⟩
    exact ⟨σ.symm i, by rw [σ.apply_symm_apply, eq]⟩

lemma claimed_permuted : Claimed (permuted records σ) d ↔ Claimed records d := by
  simp only [Claimed, mem_permuted]

lemma attested_permuted : Attested (permuted records σ) d ↔ Attested records d := by
  simp only [Attested, mem_permuted]

/-- Indexes are told apart in another order. -/
lemma renumber_injOn {i j : Nat} (hi : i < records.length) (hj : j < records.length)
    (same : renumber σ i = renumber σ j) : i = j := by
  unfold renumber at same
  rw [dif_pos hi, dif_pos hj] at same
  exact Fin.mk.inj_iff.1 (σ.symm.injective (Fin.ext same))

/-- The indexes are in range. -/
lemma lt_of_mem_claimIndexes {i : Nat} (mem : i ∈ claimIndexes records d) : i < records.length := by
  obtain ⟨r, at_i, -⟩ := mem_claimIndexes.1 mem
  exact (List.getElem?_eq_some_iff.1 at_i).1

/-- The records that claim a digest are the same, under their new numbers. -/
lemma claimIndexes_permuted :
    claimIndexes (permuted records σ) d =
      ((claimIndexes records d).map (renumber σ)).insertionSort (· ≤ ·) := by
  have nodup : ((claimIndexes records d).map (renumber σ)).Nodup := by
    refine List.Nodup.map_on (fun i hi j hj same => ?_) (claimIndexes_sorted records d).nodup
    exact renumber_injOn (lt_of_mem_claimIndexes hi) (lt_of_mem_claimIndexes hj) same
  have perm : (claimIndexes (permuted records σ) d).Perm ((claimIndexes records d).map (renumber σ)) := by
    refine (List.perm_ext_iff_of_nodup (claimIndexes_sorted _ d).nodup nodup).2 fun j => ?_
    rw [mem_claimIndexes, List.mem_map]
    constructor
    · rintro ⟨r, at_j, claims⟩
      obtain ⟨h, eq⟩ := getElem?_permuted.1 at_j
      refine ⟨σ ⟨j, h⟩, mem_claimIndexes.2 ⟨r, ?_, claims⟩, ?_⟩
      · rw [← eq]
        exact List.getElem?_eq_getElem (σ ⟨j, h⟩).isLt
      · unfold renumber
        rw [dif_pos (σ ⟨j, h⟩).isLt]
        exact congrArg Fin.val (σ.symm_apply_apply ⟨j, h⟩)
    · rintro ⟨i, mem, rfl⟩
      obtain ⟨r, at_i, claims⟩ := mem_claimIndexes.1 mem
      obtain ⟨h, eq⟩ := List.getElem?_eq_some_iff.1 at_i
      refine ⟨r, getElem?_permuted.2 ?_, claims⟩
      unfold renumber
      rw [dif_pos h]
      exact ⟨(σ.symm ⟨i, h⟩).isLt, by rw [Fin.eta, σ.apply_symm_apply]; exact eq⟩
  refine List.Perm.eq_of_pairwise (fun _ _ _ _ => le_antisymm)
    ((claimIndexes_sorted _ d).imp le_of_lt) (List.pairwise_insertionSort _ _) ?_
  exact perm.trans (List.perm_insertionSort _ _).symm

/-- A finding without indexes is the same in every order. -/
lemma Finding.renumber_of_nil {f : Finding} (none : f.recordIndexes = []) : f.renumber σ = f := by
  obtain ⟨kind, contentHash, detail, indexes⟩ := f
  dsimp only at none
  subst none
  rfl

/-- A finding in the other order is a finding with its records renumbered. -/
lemma mem_findings_permuted {s : ContentStore} {f : Finding} :
    f ∈ (reconcile (permuted records σ) s).findings ↔
      f ∈ (reconcile records s).findings.map (Finding.renumber σ) := by
  have same : ∀ d, d ∈ (tally (permuted records σ)).attested ↔ d ∈ (tally records).attested := fun d => by
    rw [mem_attested_tally, mem_attested_tally, attested_permuted]
  have claim : ∀ d, claimFinding s (tally (permuted records σ)).attested
      (d, claimIndexes (permuted records σ) d) =
        (claimFinding s (tally records).attested (d, claimIndexes records d)).map (Finding.renumber σ) := by
    intro d
    rw [claimFinding_congr (same d), claimIndexes_permuted,
      claimFinding_reindex d (claimIndexes records d)]
    refine Option.map_congr fun f found => ?_
    rw [Finding.renumber, (claimFinding_spec found).2.1]
  have attests : ∀ d f, attestedFinding s d = some f → f.renumber σ = f := fun d f found =>
    Finding.renumber_of_nil (attestedFinding_eq_some found).2.2
  rw [mem_findings, List.mem_map]
  simp only [claimed_permuted, attested_permuted, claim, Option.map_eq_some_iff]
  constructor
  · rintro (⟨d, claimed, f, found, rfl⟩ | ⟨d, attested, found⟩)
    · exact ⟨f, mem_findings.2 (.inl ⟨d, claimed, found⟩), rfl⟩
    · exact ⟨f, mem_findings.2 (.inr ⟨d, attested, found⟩), attests d f found⟩
  · rintro ⟨f, mem, rfl⟩
    rcases mem_findings.1 mem with ⟨d, claimed, found⟩ | ⟨d, attested, found⟩
    · exact .inl ⟨d, claimed, f, found, rfl⟩
    · exact .inr ⟨d, attested, (attests d f found).symm ▸ found⟩

end Order

/-- What is found of a digest, from what the records say of it and its state in the store. -/
lemma found_iff {records : List AuditRecord} {s : ContentStore} {kind d : String} :
    (∃ f ∈ (reconcile records s).findings, f.kind = kind ∧ f.contentHash = d) ↔
      kind = FINDING_UNATTESTED_PURGE ∧ Claimed records d ∧ s.status d = .STATUS_PURGED ∧ ¬ Attested records d ∨
        kind = FINDING_BODY_MISSING ∧ Claimed records d ∧ s.status d = .STATUS_UNKNOWN ∨
        kind = FINDING_UNEFFECTED_PURGE ∧ Attested records d ∧ s.status d = .STATUS_PRESENT := by
  constructor
  · rintro ⟨f, mem, rfl, rfl⟩
    rcases mem_findings.1 mem with ⟨d, claimed, found⟩ | ⟨d, attested, found⟩
    · obtain ⟨rfl, -, ⟨kind, purged, missing⟩ | ⟨kind, unknown⟩⟩ := claimFinding_spec found
      · exact .inl ⟨kind, claimed, purged, fun attested => missing (mem_attested_tally.2 attested)⟩
      · exact .inr (.inl ⟨kind, claimed, unknown⟩)
    · obtain ⟨kind, rfl, -⟩ := attestedFinding_eq_some found
      exact .inr (.inr ⟨kind, attested, attestedFinding_isSome.1 (found ▸ rfl)⟩)
  · rintro (⟨rfl, claimed, purged, missing⟩ | ⟨rfl, claimed, unknown⟩ | ⟨rfl, attested, present⟩)
    · have new : d ∉ (tally records).attested := fun mem => missing (mem_attested_tally.1 mem)
      obtain ⟨f, found⟩ := Option.isSome_iff_exists.1
        (claimFinding_isSome.2 (.inl ⟨purged, new⟩) :
          (claimFinding s (tally records).attested (d, claimIndexes records d)).isSome)
      obtain ⟨hash, -, ⟨kind, -⟩ | ⟨-, unknown⟩⟩ := claimFinding_spec found
      · exact ⟨f, mem_findings.2 (.inl ⟨d, claimed, found⟩), kind, hash⟩
      · cases purged.symm.trans unknown
    · obtain ⟨f, found⟩ := Option.isSome_iff_exists.1
        (claimFinding_isSome.2 (.inr unknown) :
          (claimFinding s (tally records).attested (d, claimIndexes records d)).isSome)
      obtain ⟨hash, -, ⟨-, purged, -⟩ | ⟨kind, -⟩⟩ := claimFinding_spec found
      · cases purged.symm.trans unknown
      · exact ⟨f, mem_findings.2 (.inl ⟨d, claimed, found⟩), kind, hash⟩
    · obtain ⟨f, found⟩ := Option.isSome_iff_exists.1 (attestedFinding_isSome.2 present)
      obtain ⟨kind, hash, -⟩ := attestedFinding_eq_some found
      exact ⟨f, mem_findings.2 (.inr ⟨d, attested, found⟩), kind, hash⟩

/-- `reconcile` is sound and complete. It finds a digest at most once in one way: an unattested purge where the
digest is claimed, purged and not attested, a missing body where it is claimed and unknown, an uneffected purge
where it is attested and present, and nothing else. A finding about a claimed digest lists the indexes of the
records that claim it, in order. Other orders of the records renumber the indexes. -/
theorem reconcile_sound_complete (records : List AuditRecord) (s : ContentStore) :
    ((reconcile records s).findings.map fun f => (f.kind, f.contentHash)).Nodup ∧
    (∀ kind d, (∃ f ∈ (reconcile records s).findings, f.kind = kind ∧ f.contentHash = d) ↔
      kind = FINDING_UNATTESTED_PURGE ∧ Claimed records d ∧ s.status d = .STATUS_PURGED ∧
          ¬ Attested records d ∨
        kind = FINDING_BODY_MISSING ∧ Claimed records d ∧ s.status d = .STATUS_UNKNOWN ∨
        kind = FINDING_UNEFFECTED_PURGE ∧ Attested records d ∧ s.status d = .STATUS_PRESENT) ∧
    (∀ f ∈ (reconcile records s).findings, f.kind ≠ FINDING_UNEFFECTED_PURGE →
      f.recordIndexes.Pairwise (· < ·) ∧
        ∀ i, i ∈ f.recordIndexes ↔
          ∃ r, records[i]? = some r ∧ r.contentHash = f.contentHash ∧ r.Claims) ∧
    ∀ σ : Equiv.Perm (Fin records.length),
      (reconcile (permuted records σ) s).findings.Perm
        ((reconcile records s).findings.map (Finding.renumber σ)) := by
  refine ⟨nodup_findings records s, fun kind d => found_iff, ?_, fun σ => ?_⟩
  · intro f mem other
    rcases mem_findings.1 mem with ⟨d, -, found⟩ | ⟨d, -, found⟩
    · obtain ⟨rfl, indexes, -⟩ := claimFinding_spec found
      rw [indexes]
      exact ⟨claimIndexes_sorted records _, fun i => mem_claimIndexes⟩
    · exact absurd (attestedFinding_eq_some found).1 other
  · have nodup := nodup_findings records s
    have nodup' : ((reconcile records s).findings.map (Finding.renumber σ)).Nodup := by
      refine List.Nodup.of_map (fun f => (f.kind, f.contentHash)) ?_
      rwa [List.map_map]
    exact (List.perm_ext_iff_of_nodup (List.Nodup.of_map _ (nodup_findings (permuted records σ) s))
      nodup').2 fun f => mem_findings_permuted

end Custos
