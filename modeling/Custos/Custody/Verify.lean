import Custos.Audit.Chain
import Custos.Custody.Anchor

/-!
# The external re-walk

`verify_custody` of `custos/custody.py`: the verdicts P1 to P6 of a list of records against an anchor
log. Each loop is a recursion over its list with the variables it carries. `p1Walk_spec`, `p2Walk_spec`,
`p3Walk_spec` and `p5Walk_spec` say what a loop has checked when it ends without a contradiction, and
`verifyCustody_spec` puts the report together.
-/

namespace Custos

inductive Verdict where
  | ESTABLISHED
  | CANNOT_ESTABLISH
  | CONTRADICTION
  deriving DecidableEq

/-- A citation no anchored commit covers. -/
structure Unanchored where
  record : Nat
  tenant : String
  digest : String
  deriving DecidableEq

/-- `detail`: the keys that were set. -/
structure Detail where
  p1Break : Option String := none
  p2Break : Option String := none
  p3Break : Option String := none
  p4Break : Option String := none
  p4Note : Option String := none
  p5Break : Option String := none
  p6UnanchoredCitations : Option (List Unanchored) := none
  deriving DecidableEq

/-- The report. P5 and P6 are absent where there are no policy commits and no citations. -/
structure Report where
  p1 : Verdict
  p2 : Verdict
  p3 : Verdict
  p4 : Verdict
  p5 : Option Verdict
  p6 : Option Verdict
  overall : Verdict
  detail : Detail
  deriving DecidableEq

variable [Platform]

/-! ## P1: the record chain -/

/-- The variables of the first loop: the verdict, the recomputed hashes and the first break. -/
structure P1State where
  verdict : Verdict := .ESTABLISHED
  recomputed : List String := []
  p1Break : Option String := none

/-- The P1 loop from record `i` on. -/
def p1Walk : Nat → String → P1State → List AuditRecord → Except Exn P1State
  | _, _, s, [] => .ok s
  | i, prev, s, rec :: rest =>
    if rec.previousHash ≠ prev then
      p1Walk (i + 1) rec.recordHash
        { verdict := .CONTRADICTION
          recomputed := s.recomputed ++ [rec.recordHash]
          p1Break := some ("record " ++ toString i ++ ": previous_hash mismatch") } rest
    else do
      let expected ← computeRecordHash rec prev
      let s' :=
        if rec.recordHash ≠ expected then
          { s with
            verdict := .CONTRADICTION
            p1Break := s.p1Break.or (some ("record " ++ toString i ++ ": hash mismatch")) }
        else s
      p1Walk (i + 1) expected { s' with recomputed := s'.recomputed ++ [expected] } rest

/-! ## P3: the anchor chain -/

/-- The P3 loop over the head anchors in epoch order. -/
def p3Walk : String → Int → List AnchorRecord → Verdict × Option String
  | _, _, [] => (.ESTABLISHED, none)
  | prevAnch, lastEpoch, a :: rest =>
    if a.epoch ≤ lastEpoch then
      (.CONTRADICTION, some ("epoch not strictly increasing at " ++ toString a.epoch))
    else if a.prevAnchorHash ≠ prevAnch then
      (.CONTRADICTION, some ("anchor " ++ toString a.epoch ++ ": prev link mismatch"))
    else if a.anchorHash ≠ a.computeHash then
      (.CONTRADICTION, some ("anchor " ++ toString a.epoch ++ ": hash mismatch"))
    else p3Walk a.anchorHash a.epoch rest

/-! ## P2: the anchored heads -/

omit [Platform] in
/-- The P2 loop over the head anchors. -/
def p2Walk (recomputed : List String) : List AnchorRecord → Verdict × Option String
  | [] => (.ESTABLISHED, none)
  | a :: rest =>
    let head := recomputed.getD (a.chainLength - 1).toNat ""
    if a.chainLength < 1 ∨ (recomputed.length : Int) < a.chainLength then
      (.CONTRADICTION, some
        ("anchor " ++ toString a.epoch ++ ": chain_length " ++ toString a.chainLength ++
         " outside store length " ++ toString recomputed.length ++ " (truncated or forged)"))
    else if head ≠ a.headHash then
      (.CONTRADICTION, some
        ("anchor " ++ toString a.epoch ++ ": recomputed head " ++ slice head 12 ++ "… != " ++
         "anchored head " ++ slice a.headHash 12 ++ "… (rewrite detected)"))
    else p2Walk recomputed rest

/-! ## P4, P5, P6 and the report -/

/-- `max(a.chain_length for a in anchors)`, of a log with anchors. -/
def maxChainLength (anchors : List AnchorRecord) : Int :=
  (anchors.map (·.chainLength)).max?.getD 0

def p4 (records : Nat) (anchors : List AnchorRecord) : Verdict × Detail :=
  let last := maxChainLength anchors
  if anchors = [] then (.CANNOT_ESTABLISH, {})
  else if (records : Int) < last then
    (.CONTRADICTION,
      { p4Break := some
          ("store holds " ++ toString records ++ " records; anchors cover " ++ toString last ++ " " ++
           "(truncation detected)") })
  else
    (.ESTABLISHED,
      { p4Note := some
          ("anchored prefix: " ++ toString last ++ "/" ++ toString records ++ " records; " ++
           toString (records - last) ++ " records newer than the last anchor " ++
           "are covered by the next anchor") })

/-- The P5 loop over the policy commits. -/
def p5Walk : List PolicyCommitRecord → Verdict × Option String
  | [] => (.ESTABLISHED, none)
  | pc :: rest =>
    if pc.anchorHash ≠ pc.computeHash then
      (.CONTRADICTION, some ("policy commit " ++ toString pc.epoch ++ ": hash mismatch"))
    else if sha256 pc.canonicalJson ≠ pc.headHash then
      (.CONTRADICTION, some
        ("policy commit " ++ toString pc.epoch ++ ": canonical_json does not " ++
         "re-hash to the committed digest"))
    else p5Walk rest

/-- The tenant a record's citation is looked up under. -/
def AuditRecord.citedTenant (r : AuditRecord) : String := orElse r.tenantId r.clientId

/-- The records that cite a policy, with their positions. -/
def cited (records : List AuditRecord) : List Unanchored :=
  records.zipIdx.filterMap fun (rec, i) =>
    (present rec.policyDigest).map fun dg => { record := i, tenant := rec.citedTenant, digest := dg }

/-- A policy commit of the tenant holds the digest. -/
def Anchored (commits : List AnchorDict) (tenant digest : String) : Prop :=
  ∃ d ∈ commits, d.tenantId = tenant ∧ d.headHash = digest

instance (commits : List AnchorDict) (tenant digest : String) :
    Decidable (Anchored commits tenant digest) :=
  inferInstanceAs (Decidable (∃ d ∈ commits, _))

/-- `overall`. -/
def overallOf (verdicts : List Verdict) : Verdict :=
  if .CONTRADICTION ∈ verdicts then .CONTRADICTION
  else if ∀ v ∈ verdicts, v = .ESTABLISHED then .ESTABLISHED
  else .CANNOT_ESTABLISH

/-- The head anchors of a log, in epoch order. -/
def headAnchors (anchors : List AnchorDict) : List AnchorRecord :=
  ((anchors.filter (!·.isPolicyCommit)).map .fromDict).insertionSort (·.epoch ≤ ·.epoch)

/-- The policy commits of a log. -/
def policyCommits (anchors : List AnchorDict) : List AnchorDict := anchors.filter (·.isPolicyCommit)

/-- `verify_custody`. -/
def verifyCustody (records : List AuditRecord) (anchors : List AnchorDict) : Except Exn Report := do
  let policyCommitDicts := policyCommits anchors
  let anchors := headAnchors anchors
  let s1 ← p1Walk 0 GENESIS_HASH {} records
  let (p3, p3Break) :=
    if anchors = [] then (.CANNOT_ESTABLISH, none) else p3Walk GENESIS_ANCHOR_HASH 0 anchors
  let (p2, p2Break) :=
    if anchors = [] then (.CANNOT_ESTABLISH, none) else p2Walk s1.recomputed anchors
  let (p4, detail4) := p4 records.length anchors
  let (p5, p5Break) :=
    if policyCommitDicts = [] then (none, none)
    else
      let (v, b) := p5Walk (policyCommitDicts.map .fromDict)
      (some v, b)
  let citations := cited records
  let unanchored := citations.filter fun c => ¬ Anchored policyCommitDicts c.tenant c.digest
  let p6 : Option Verdict :=
    if citations = [] then none else if unanchored = [] then some .ESTABLISHED else some .CONTRADICTION
  return {
    p1 := s1.verdict, p2, p3, p4, p5, p6
    overall := overallOf ([s1.verdict, p3, p2, p4] ++ p5.toList ++ p6.toList)
    detail := { detail4 with
      p1Break := s1.p1Break, p2Break, p3Break, p5Break
      p6UnanchoredCitations := if unanchored = [] then none else some unanchored } }

/-! ## What each loop checks -/

/-- A contradiction found by the P1 loop stays. -/
lemma p1Walk_contradiction {i : Nat} {p : String} {s s' : P1State} {rs : List AuditRecord}
    (e : p1Walk i p s rs = .ok s') (bad : s.verdict = .CONTRADICTION) :
    s'.verdict = .CONTRADICTION := by
  induction rs generalizing i p s with
  | nil =>
    simp only [p1Walk, Except.ok.injEq] at e
    rwa [← e]
  | cons r rs ih =>
    unfold p1Walk at e
    split at e
    · exact ih e rfl
    · cases h : computeRecordHash r p with
      | error err => simp [h, bind, Except.bind] at e
      | ok expected =>
        simp only [h, bind, Except.bind] at e
        refine ih e ?_
        split <;> simp [bad]

/-- The P1 loop passes a linked list and recomputes the stored hashes; on any other it finds a
contradiction. -/
lemma p1Walk_spec {i : Nat} {p : String} {s s' : P1State} {rs : List AuditRecord}
    (e : p1Walk i p s rs = .ok s') :
    (recordLink.Linked p rs ∧
      s' = { s with recomputed := s.recomputed ++ rs.map (·.recordHash) }) ∨
    (¬ recordLink.Linked p rs ∧ s'.verdict = .CONTRADICTION) := by
  induction rs generalizing i p s with
  | nil =>
    simp only [p1Walk, Except.ok.injEq] at e
    exact .inl ⟨trivial, by simp [e]⟩
  | cons r rs ih =>
    unfold p1Walk at e
    by_cases hp : r.previousHash = p
    · rw [if_neg (not_not.2 hp)] at e
      cases h : computeRecordHash r p with
      | error err => simp [h, bind, Except.bind] at e
      | ok expected =>
        simp only [h, bind, Except.bind] at e
        by_cases hh : r.recordHash = expected
        · subst hh
          simp only [ne_eq, not_true_eq_false, if_false] at e
          have own : recordLink.own r = r.recordHash := rfl
          have link : recordLink.Linked p (r :: rs) ↔ recordLink.Linked r.recordHash rs := by
            rw [LinkSpec.linked_cons, own, AuditChain.recordLink_hash]
            exact ⟨fun l => l.2.2, fun l => ⟨hp, h, l⟩⟩
          rcases ih e with ⟨lk, eq⟩ | ⟨nlk, bad⟩
          · exact .inl ⟨link.2 lk, by simp [eq]⟩
          · exact .inr ⟨mt link.1 nlk, bad⟩
        -- a linked list stores the hash that is recomputed
        · refine .inr ⟨fun l => hh ?_, p1Walk_contradiction e (by simp [hh])⟩
          have stored := AuditChain.recordLink_hash.1 l.2.1
          rw [h] at stored
          exact (Except.ok.inj stored).symm
    · rw [if_pos hp] at e
      exact .inr ⟨fun l => hp l.1, p1Walk_contradiction e rfl⟩

/-- The P1 loop returns where every record's version is implemented. -/
lemma p1Walk_returns {i : Nat} {p : String} {s : P1State} {rs : List AuditRecord}
    (impl : ∀ r ∈ rs, r.Implemented) : ∃ s', p1Walk i p s rs = .ok s' := by
  induction rs generalizing i p s with
  | nil => exact ⟨s, rfl⟩
  | cons r rs ih =>
    unfold p1Walk
    split
    · exact ih fun x hx => impl x (.tail _ hx)
    · obtain ⟨expected, h⟩ := computeRecordHash_ok (impl r (.head _)) p
      simp only [h, bind, Except.bind]
      exact ih fun x hx => impl x (.tail _ hx)

/-- A linked list's versions are all implemented. -/
lemma implemented_of_linked {p : String} {rs : List AuditRecord} (lk : recordLink.Linked p rs) :
    ∀ r ∈ rs, r.Implemented := by
  induction rs generalizing p with
  | nil => simp
  | cons r rs ih =>
    obtain ⟨-, hash, lk⟩ := lk
    obtain ⟨f, hf, -⟩ := computeRecordHash_eq_ok.1 (AuditChain.recordLink_hash.1 hash)
    rintro x (_ | ⟨_, hx⟩)
    · exact preimageFields_isOk.1 ⟨f, hf⟩
    · exact ih lk x hx

/-- The head anchors form one intact chain: epochs from 1 up, links and hashes. -/
structure AnchorsIntact (prevAnch : String) (lastEpoch : Int) (anchors : List AnchorRecord) : Prop where
  epochs : (lastEpoch :: anchors.map (·.epoch)).IsChain (· < ·)
  linked : anchorLink.Linked prevAnch anchors

/-- A chain of anchors is intact from the first on. -/
lemma anchorsIntact_cons {p : String} {e : Int} {a : AnchorRecord} {as : List AnchorRecord} :
    AnchorsIntact p e (a :: as) ↔
      e < a.epoch ∧ a.prevAnchorHash = p ∧ a.IsSealed ∧ AnchorsIntact a.anchorHash a.epoch as := by
  have own : anchorLink.own a = a.anchorHash := rfl
  have prev : anchorLink.prev a = a.prevAnchorHash := rfl
  have hash : a.prevAnchorHash = p → (anchorLink.hash a p = some a.anchorHash ↔ a.IsSealed) := by
    rintro rfl
    show some a.computeHash = some a.anchorHash ↔ _
    rw [Option.some.injEq]
    exact eq_comm
  constructor
  · rintro ⟨epochs, linked⟩
    rw [List.map_cons, List.isChain_cons_cons] at epochs
    rw [LinkSpec.linked_cons, own, prev] at linked
    exact ⟨epochs.1, linked.1, (hash linked.1).1 linked.2.1, epochs.2, linked.2.2⟩
  · rintro ⟨lt, hp, sld, epochs, linked⟩
    refine ⟨?_, hp, (hash hp).2 sld, linked⟩
    rw [List.map_cons, List.isChain_cons_cons]
    exact ⟨lt, epochs⟩

/-- The P3 loop passes exactly an intact chain. -/
lemma p3Walk_spec (p : String) (e : Int) (as : List AnchorRecord) :
    (AnchorsIntact p e as ∧ (p3Walk p e as).1 = .ESTABLISHED) ∨
    (¬ AnchorsIntact p e as ∧ (p3Walk p e as).1 = .CONTRADICTION) := by
  induction as generalizing p e with
  | nil => exact .inl ⟨⟨by simp, trivial⟩, rfl⟩
  | cons a as ih =>
    rw [anchorsIntact_cons]
    unfold p3Walk
    by_cases he : a.epoch ≤ e
    · simp [he, not_lt.2 he]
    · by_cases hp : a.prevAnchorHash = p
      · by_cases hh : a.anchorHash = a.computeHash
        · have sld : a.IsSealed := hh
          rw [if_neg he, if_neg (not_not.2 hp), if_neg (not_not.2 hh)]
          simp only [not_le.1 he, hp, sld, true_and]
          exact ih _ _
        · have sld : ¬ a.IsSealed := hh
          simp [he, hp, hh, sld]
      · simp [he, hp]

omit [Platform] in
/-- The anchored head is the recomputed hash at the anchored length. -/
structure Matches (recomputed : List String) (a : AnchorRecord) : Prop where
  pos : 1 ≤ a.chainLength
  le : a.chainLength ≤ recomputed.length
  head : recomputed.getD (a.chainLength - 1).toNat "" = a.headHash

omit [Platform] in
/-- The P2 loop passes exactly the lists of anchors that all match. -/
lemma p2Walk_spec (recomputed : List String) (as : List AnchorRecord) :
    ((∀ a ∈ as, Matches recomputed a) ∧ (p2Walk recomputed as).1 = .ESTABLISHED) ∨
    (¬ (∀ a ∈ as, Matches recomputed a) ∧ (p2Walk recomputed as).1 = .CONTRADICTION) := by
  induction as with
  | nil => exact .inl ⟨by simp, rfl⟩
  | cons a as ih =>
    unfold p2Walk
    by_cases hl : a.chainLength < 1 ∨ (recomputed.length : Int) < a.chainLength
    · refine .inr ⟨fun all => ?_, by simp [hl]⟩
      have m := all a (.head _)
      rcases hl with hl | hl
      · exact absurd m.pos (not_le.2 hl)
      · exact absurd m.le (not_le.2 hl)
    · obtain ⟨pos, le⟩ := not_or.1 hl
      by_cases hh : recomputed.getD (a.chainLength - 1).toNat "" = a.headHash
      · have m : Matches recomputed a := ⟨not_lt.1 pos, not_lt.1 le, hh⟩
        rw [if_neg hl, if_neg (not_not.2 hh), List.forall_mem_cons]
        simpa only [m, true_and] using ih
      · refine .inr ⟨fun all => hh (all a (.head _)).head, ?_⟩
        rw [if_neg hl, if_pos hh]

omit [Platform] in
/-- The longest anchored length is anchored. -/
lemma exists_maxChainLength {as : List AnchorRecord} (ne : as ≠ []) :
    ∃ a ∈ as, a.chainLength = maxChainLength as := by
  unfold maxChainLength
  cases hm : (as.map (·.chainLength)).max? with
  | none => exact absurd (by simpa using hm) ne
  | some m => simpa using (List.max?_eq_some_iff.1 hm).1

/-- A policy commit stores its own hash and the digest of its canonical form. -/
structure CommitIntact (pc : PolicyCommitRecord) : Prop where
  hash : pc.anchorHash = pc.computeHash
  digest : sha256 pc.canonicalJson = pc.headHash

/-- The loop over the commits says whether each is intact. -/
lemma p5Walk_spec (pcs : List PolicyCommitRecord) :
    ((∀ pc ∈ pcs, CommitIntact pc) ∧ (p5Walk pcs).1 = .ESTABLISHED) ∨
    (¬ (∀ pc ∈ pcs, CommitIntact pc) ∧ (p5Walk pcs).1 = .CONTRADICTION) := by
  induction pcs with
  | nil => exact .inl ⟨by simp, rfl⟩
  | cons pc pcs ih =>
    unfold p5Walk
    by_cases hh : pc.anchorHash = pc.computeHash
    · by_cases hd : sha256 pc.canonicalJson = pc.headHash
      · have intact : CommitIntact pc := ⟨hh, hd⟩
        rw [if_neg (not_not.2 hh), if_neg (not_not.2 hd), List.forall_mem_cons]
        simpa only [intact, true_and] using ih
      · refine .inr ⟨fun all => hd (all pc (.head _)).digest, ?_⟩
        rw [if_neg (not_not.2 hh), if_pos hd]
    · refine .inr ⟨fun all => hh (all pc (.head _)).hash, ?_⟩
      rw [if_pos hh]

/-! ## The report -/

/-- The verdict on a proposition: established or contradicted when there is evidence to decide it. -/
def Verdict.Answers (v : Verdict) (evidence holds : Prop) : Prop :=
  match v with
  | .ESTABLISHED => evidence ∧ holds
  | .CONTRADICTION => evidence ∧ ¬ holds
  | .CANNOT_ESTABLISH => ¬ evidence

omit [Platform] in
/-- A verdict is established where its evidence is there and holds. -/
lemma Verdict.Answers.established {v : Verdict} {e h : Prop} (a : v.Answers e h) :
    v = .ESTABLISHED ↔ e ∧ h := by
  cases v <;> simp_all [Verdict.Answers]

omit [Platform] in
lemma Verdict.Answers.contradiction {v : Verdict} {e h : Prop} (a : v.Answers e h) :
    v = .CONTRADICTION ↔ e ∧ ¬ h := by
  cases v <;> simp_all [Verdict.Answers]

omit [Platform] in
/-- A loop that runs where there are anchors and ends in one of two verdicts answers. -/
lemma answers_of_spec {α : Type} {xs : List α} {holds : Prop} {w : Verdict × Option String}
    (spec : (holds ∧ w.1 = .ESTABLISHED) ∨ (¬ holds ∧ w.1 = .CONTRADICTION)) :
    (Prod.fst (if xs = [] then (.CANNOT_ESTABLISH, none) else w) : Verdict).Answers
      (xs ≠ []) holds := by
  by_cases e : xs = []
  · simp [e, Verdict.Answers]
  · rw [if_neg e]
    rcases spec with ⟨h, v⟩ | ⟨h, v⟩ <;> rw [v] <;> exact ⟨e, h⟩

/-- What a report says: every verdict answers a proposition about the records and the log. P2 compares
with the stored hashes where P1 is established. -/
structure ReportSpec (records : List AuditRecord) (anchors : List AnchorDict) (rep : Report) :
    Prop where
  p1 : rep.p1.Answers True (recordLink.Linked GENESIS_HASH records)
  p2 : recordLink.Linked GENESIS_HASH records → rep.p2.Answers (headAnchors anchors ≠ [])
    (∀ a ∈ headAnchors anchors, Matches (records.map (·.recordHash)) a)
  p3 : rep.p3.Answers (headAnchors anchors ≠ [])
    (AnchorsIntact GENESIS_ANCHOR_HASH 0 (headAnchors anchors))
  p4 : rep.p4.Answers (headAnchors anchors ≠ [])
    (maxChainLength (headAnchors anchors) ≤ records.length)
  p5 : if policyCommits anchors = [] then rep.p5 = none else ∃ v, rep.p5 = some v ∧
    v.Answers True (∀ pc ∈ (policyCommits anchors).map .fromDict, CommitIntact pc)
  p6 : if cited records = [] then rep.p6 = none else ∃ v, rep.p6 = some v ∧
    v.Answers True (∀ c ∈ cited records, Anchored (policyCommits anchors) c.tenant c.digest)

/-- `verify_custody` returns when its P1 loop does. -/
lemma verifyCustody_of_p1 {records : List AuditRecord} (anchors : List AnchorDict) {s1 : P1State}
    (e : p1Walk 0 GENESIS_HASH {} records = .ok s1) :
    ∃ rep, verifyCustody records anchors = .ok rep ∧ ReportSpec records anchors rep := by
  have walk := p1Walk_spec e
  refine ⟨_, by rw [verifyCustody, e]; rfl, ?_, ?_, ?_, ?_, ?_, ?_⟩
  · rcases walk with ⟨lk, rfl⟩ | ⟨nlk, bad⟩
    · exact ⟨trivial, lk⟩
    · show s1.verdict.Answers _ _
      rw [bad]
      exact ⟨trivial, nlk⟩
  · intro lk
    rcases walk with ⟨-, rfl⟩ | ⟨nlk, -⟩
    · exact answers_of_spec (p2Walk_spec _ _)
    · exact absurd lk nlk
  · exact answers_of_spec (p3Walk_spec _ _ _)
  · show (p4 records.length (headAnchors anchors)).1.Answers _ _
    unfold p4
    by_cases ne : headAnchors anchors = []
    · simp [ne, Verdict.Answers]
    · by_cases lt : (records.length : Int) < maxChainLength (headAnchors anchors)
      · simp [ne, lt, Verdict.Answers]
      · simp [ne, lt, Verdict.Answers, not_lt.1 lt]
  · by_cases ne : policyCommits anchors = []
    · rw [if_pos ne]
      show Prod.fst (if policyCommits anchors = [] then _ else _) = _
      rw [if_pos ne]
    · rw [if_neg ne]
      refine ⟨(p5Walk ((policyCommits anchors).map .fromDict)).1, ?_, ?_⟩
      · show Prod.fst (if policyCommits anchors = [] then _ else _) = _
        rw [if_neg ne]
      · rcases p5Walk_spec ((policyCommits anchors).map .fromDict) with ⟨h, v⟩ | ⟨h, v⟩ <;> rw [v] <;>
          exact ⟨trivial, h⟩
  · by_cases ne : cited records = []
    · simp [ne]
    · rw [if_neg ne]
      have all : (cited records).filter
            (fun c => ¬ Anchored (policyCommits anchors) c.tenant c.digest) = [] ↔
          ∀ c ∈ cited records, Anchored (policyCommits anchors) c.tenant c.digest := by
        simp [List.filter_eq_nil_iff]
      by_cases h : ∀ c ∈ cited records, Anchored (policyCommits anchors) c.tenant c.digest
      · exact ⟨.ESTABLISHED, by simp only [if_neg ne, if_pos (all.2 h)], trivial, h⟩
      · exact ⟨.CONTRADICTION, by simp only [if_neg ne, if_neg (mt all.1 h)], trivial, h⟩

/-- Whatever `verify_custody` returns says this. -/
theorem verifyCustody_spec {records : List AuditRecord} {anchors : List AnchorDict} {rep : Report}
    (e : verifyCustody records anchors = .ok rep) : ReportSpec records anchors rep := by
  cases h : p1Walk 0 GENESIS_HASH {} records with
  | error err => simp [verifyCustody, h, bind, Except.bind] at e
  | ok s1 =>
    obtain ⟨rep', e', spec⟩ := verifyCustody_of_p1 anchors h
    rw [e, Except.ok.injEq] at e'
    exact e' ▸ spec

/-- It returns where every record's version is implemented. -/
theorem verifyCustody_returns {records : List AuditRecord} (anchors : List AnchorDict)
    (impl : ∀ r ∈ records, r.Implemented) :
    ∃ rep, verifyCustody records anchors = .ok rep ∧ ReportSpec records anchors rep := by
  obtain ⟨s1, e⟩ := p1Walk_returns (i := 0) (p := GENESIS_HASH) (s := {}) impl
  exact verifyCustody_of_p1 anchors e

end Custos
