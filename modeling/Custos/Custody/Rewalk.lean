import Custos.Custody.Verify
import Custos.Reference

/-!
# The two verifiers

`AuditChain.verify` and the P1 loop of `verify_custody` walk a list of records alike, but for a record of a
version this build does not implement: `verify` reads the version and returns, the loop asks for the hash
and raises. `verify` stops at the first break; the loop goes on, so what it meets is what continues the walk
after a break as well (`walkOn`).

`verifiers_agree_iff` says when the two agree: as long as no such record continues the walk.
-/

namespace Custos

section

variable [Platform]

/-! ## `verify` returns -/

/-- The loop returns. -/
lemma verifyFrom_returns (i : Nat) (p : String) (rs : List AuditRecord) :
    ∃ v, AuditChain.verifyFrom i p rs = .ok v := by
  induction rs generalizing i p with
  | nil => exact ⟨_, rfl⟩
  | cons r rs ih =>
    unfold AuditChain.verifyFrom
    split
    · exact ⟨_, rfl⟩
    · split
      · exact ⟨_, rfl⟩
      · rename_i implemented
        obtain ⟨h, ok⟩ := computeRecordHash_ok (r := r) (not_lt.1 implemented) p
        simp only [ok, bind, Except.bind]
        split
        · exact ⟨_, rfl⟩
        · exact ih _ _

/-- `verify` does not raise, whatever the records. -/
theorem verify_returns (c : AuditChain) : ∃ v, c.verify = .ok v := by
  unfold AuditChain.verify
  split
  · exact ⟨_, rfl⟩
  · exact verifyFrom_returns _ _ _

/-! ## When the loop returns -/

/-- The hash the record after `r` is asked for, where `p` was asked of `r`: the recomputed one, or the stored
one where `r` broke the walk off. -/
def walkOn (p : String) (r : AuditRecord) : String :=
  if r.previousHash ≠ p then r.recordHash else (computeRecordHash r p).toOption.getD r.recordHash

/-- Every record that continues the walk is of a version this build implements. -/
def Walkable (p : String) (rs : List AuditRecord) : Prop :=
  ∀ earlier r later, rs = earlier ++ r :: later → r.previousHash = earlier.foldl walkOn p → r.Implemented

lemma walkable_nil (p : String) : Walkable p [] := by
  intro earlier r later e
  cases List.eq_nil_of_append_eq_nil e.symm |>.2

/-- A list can be walked where its linked records have known versions. -/
lemma walkable_cons {p : String} {r : AuditRecord} {rs : List AuditRecord} :
    Walkable p (r :: rs) ↔ (r.previousHash = p → r.Implemented) ∧ Walkable (walkOn p r) rs := by
  constructor
  · intro all
    refine ⟨all [] r rs rfl, fun earlier r' later e continues => ?_⟩
    exact all (r :: earlier) r' later (by rw [e]; rfl) continues
  · rintro ⟨first, rest⟩ earlier r' later e continues
    cases earlier with
    | nil =>
      cases e
      exact first continues
    | cons r'' earlier =>
      cases e
      exact rest earlier r' later rfl continues

/-- The loop returns exactly on those lists. -/
lemma p1Walk_returns_iff {i : Nat} {p : String} {s : P1State} {rs : List AuditRecord} :
    (∃ s', p1Walk i p s rs = .ok s') ↔ Walkable p rs := by
  induction rs generalizing i p s with
  | nil => exact iff_of_true ⟨s, rfl⟩ (walkable_nil p)
  | cons r rs ih =>
    rw [walkable_cons]
    unfold p1Walk
    by_cases continues : r.previousHash = p
    · rw [if_neg (not_not.2 continues)]
      by_cases impl : r.Implemented
      · obtain ⟨expected, ok⟩ := computeRecordHash_ok impl p
        have next : walkOn p r = expected := by
          unfold walkOn
          rw [if_neg (not_not.2 continues), ok]
          rfl
        simp only [ok, bind, Except.bind]
        rw [ih, next]
        exact ⟨fun rest => ⟨fun _ => impl, rest⟩, fun all => all.2⟩
      · -- an unimplemented version has no hash
        refine iff_of_false ?_ fun all => impl (all.1 continues)
        cases ok : computeRecordHash r p with
        | error e =>
          rintro ⟨s', returned⟩
          cases returned
        | ok h =>
          obtain ⟨f, hf, -⟩ := computeRecordHash_eq_ok.1 ok
          exact absurd (preimageFields_isOk.1 ⟨f, hf⟩) impl
    · have next : walkOn p r = r.recordHash := by
        unfold walkOn
        rw [if_pos continues]
      rw [if_pos continues, ih, next]
      exact ⟨fun rest => ⟨fun yes => absurd yes continues, rest⟩, fun all => all.2⟩

/-! ## The two verdicts -/

/-- Every record stores the hash that is recomputed over its predecessor's, and that hash, the first one
GENESIS. -/
def HashesHold (records : List AuditRecord) : Prop :=
  ∀ earlier r later, records = earlier ++ r :: later →
    r.previousHash = (earlier.getLast?.map (·.recordHash)).getD GENESIS_HASH ∧
      computeRecordHash r r.previousHash = .ok r.recordHash

/-- The hashes of a linked list hold. -/
lemma hashesHold_of_linked {records : List AuditRecord} (lk : recordLink.Linked GENESIS_HASH records) :
    HashesHold records := by
  rintro earlier r later rfl
  obtain ⟨prev, hash, -⟩ := (recordLink.linked_append.1 lk).2
  have prev : r.previousHash = recordLink.head GENESIS_HASH earlier := prev
  exact ⟨prev, AuditChain.recordLink_hash.1 (prev ▸ hash)⟩

/-- Both verifiers return on the chain's records, and `verify` returns True exactly when P1 is established;
then the hashes hold. -/
def VerifiersAgree (c : AuditChain) (anchors : List AnchorDict) : Prop :=
  ∃ verdict msg rep, c.verify = .ok (verdict, msg) ∧ verifyCustody c.records anchors = .ok rep ∧
    (verdict = true ↔ rep.p1 = .ESTABLISHED) ∧ (verdict = true → HashesHold c.records)

/-- The two verifiers agree exactly as long as no record of an unimplemented version continues the walk. -/
theorem verifiers_agree_iff (c : AuditChain) (anchors : List AnchorDict) :
    VerifiersAgree c anchors ↔ Walkable GENESIS_HASH c.records := by
  rw [← p1Walk_returns_iff (i := 0) (s := {})]
  constructor
  · rintro ⟨verdict, msg, rep, -, returned, -⟩
    cases walk : p1Walk 0 GENESIS_HASH {} c.records with
    | error e =>
      rw [verifyCustody, walk] at returned
      cases returned
    | ok s' => exact ⟨s', rfl⟩
  · rintro ⟨s', walk⟩
    obtain ⟨⟨verdict, msg⟩, verified⟩ := verify_returns c
    obtain ⟨rep, returned, spec⟩ := verifyCustody_of_p1 anchors walk
    have linked : verdict = true ↔ recordLink.Linked GENESIS_HASH c.records := by
      rw [← AuditChain.verified_iff_linked, AuditChain.Verified, verified]
      simp
    refine ⟨verdict, msg, rep, verified, returned, ?_, fun yes => hashesHold_of_linked (linked.1 yes)⟩
    rw [linked, spec.p1.established, true_and]

end

section Sample

local instance rewalkPlatform : Platform := .reference .empty

/-- A chain of one record that a later build has written. -/
def laterChain : AuditChain where
  records := [{ relabelledRecord 3 with previousHash := GENESIS_HASH }]
  tenantId := none
  backend := .SQLiteBackend

/-- `verify` says which record it cannot check, and the external re-walk raises. -/
theorem later_version_raises :
    (∃ msg, laterChain.verify = .ok (false, msg)) ∧
      verifyCustody laterChain.records [] = .error (unknownBindingVersion 3) ∧
      ¬ VerifiersAgree laterChain [] := by
  have raises : verifyCustody laterChain.records [] = .error (unknownBindingVersion 3) := rfl
  refine ⟨⟨_, rfl⟩, raises, ?_⟩
  rintro ⟨verdict, msg, rep, -, returned, -⟩
  cases raises.symm.trans returned

end Sample

end Custos
