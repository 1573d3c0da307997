import Custos.Library.Bytes
import Custos.Library.Run
import Custos.Reference
import Custos.Service.Retention

/-!
# Content commitments

The rows of `content_bodies` in full: beside its body a row has the salt it was stored with and the commitment, a
digest of a marker, the salt and the body. What is hashed has the marker of its form in front (`payload_ne`), and a
salt of a fixed length, so that it gives salt and body back (`payload_salted_inj`). A row that was stored and not
purged therefore verifies its own body and no other (`commitment_binds`).

The tables without salts and commitments are the stores of `Service/Retention.lean` (`view_store`).
-/

namespace Custos

/-- `text.encode("utf-8")`. -/
def encodeUtf8 (text : String) : Bytes := text.toList.flatMap String.utf8EncodeChar

/-- The encoding determines the text. -/
lemma encodeUtf8_injective : Function.Injective encodeUtf8 := by
  intro s t same
  apply String.toByteArray_inj.1
  rw [← String.utf8Encode_toList, ← String.utf8Encode_toList]
  exact congrArg List.toByteArray same

/-- The digest of bytes; that of a text is the digest of its encoding. -/
class ByteHash extends Platform where
  /-- `hashlib.sha256(data).hexdigest()` -/
  hexdigest : Bytes → String
  sha256_eq : ∀ text, sha256 text = hexdigest (encodeUtf8 text)

export ByteHash (hexdigest)

/-! ## The commitment -/

def MARKER_SALTED : Bytes := encodeUtf8 "CUSTOS-COMMIT-v1:salted\x00"
def MARKER_UNSALTED : Bytes := encodeUtf8 "CUSTOS-COMMIT-v0:unsalted\x00"
def COMMITMENT_VERSION : ℕ := 1
def SALT_BYTES : ℕ := 32

/-- What `secrets.token_bytes(SALT_BYTES)` returns. -/
abbrev Salt := {bs : Bytes // bs.length = SALT_BYTES}

/-- What `_commitment` hashes: no salt and an empty one are the unsalted form. -/
def payload (body : String) (salt : Option Bytes) : Bytes :=
  match salt with
  | none | some [] => MARKER_UNSALTED ++ encodeUtf8 body
  | some salt => MARKER_SALTED ++ salt.take SALT_BYTES ++ encodeUtf8 body

/-- `_commitment`. -/
def commitmentOf [ByteHash] (body : String) (salt : Option Bytes) : String := hexdigest (payload body salt)

/-! ## The store -/

/-- A row of `content_bodies`. -/
structure BodyRow where
  algoVersion : ℕ
  marker : String
  salt : Option Bytes
  commitment : String
  body : String
  createdAt : ℚ

/-- The tables of a content store. -/
structure ContentTables where
  contentBodies : String → Option BodyRow := fun _ => none
  purges : String → Option PurgeRow := fun _ => none

namespace ContentTables

/-- The store as its readers other than `verify_commitment` see it. -/
def view (t : ContentTables) : ContentStore where
  bodies d := (t.contentBodies d).map fun row => ⟨row.marker, row.body⟩
  purges := t.purges

/-- The tables with a body's row in its place. -/
def insert (t : ContentTables) (contentHash : String) (row : BodyRow) : ContentTables :=
  { t with contentBodies := Function.update t.contentBodies contentHash (some row) }

section

variable [ByteHash]

/-- The row `put` inserts. -/
def saltedRow (salt : Salt) (now : ℚ) (body : String) : BodyRow where
  algoVersion := COMMITMENT_VERSION
  marker := "salted-v1"
  salt := some salt.1
  commitment := commitmentOf body (some salt.1)
  body := body
  createdAt := now

/-- The row `put_legacy` inserts. -/
def legacyRow (now : ℚ) (body : String) : BodyRow where
  algoVersion := 0
  marker := "unsalted-v0"
  salt := none
  commitment := commitmentOf body none
  body := body
  createdAt := now

/-- `put`, with the salt the generator returns. -/
def put (t : ContentTables) (fault : Option StoreExc) (salt : Salt) (now : ℚ) (body : String) :
    Except Exn String × ContentTables :=
  let contentHash := sha256 body
  match fault with
  | some exc => (.error (.Store exc), t)
  | none =>
    if (t.contentBodies contentHash).isSome then (.ok contentHash, t)
    else
      match t.purges contentHash with
      | some purged =>
        (.error (.ContentPurged
          ("content " ++ slice contentHash 16 ++ " was purged at " ++ dumps (.float purged.purgedAt) ++
           " and will not be stored again; a purge that can be undone by " ++
           "re-offering the same bytes is not a purge")), t)
      | none =>
        (.ok contentHash, t.insert contentHash (saltedRow salt now body))

/-- `put_legacy`: a body that is there already stays as it is. -/
def putLegacy (t : ContentTables) (fault : Option StoreExc) (now : ℚ) (body : String) :
    Except Exn String × ContentTables :=
  let contentHash := sha256 body
  match fault with
  | some exc => (.error (.Store exc), t)
  | none =>
    (.ok contentHash,
      if (t.contentBodies contentHash).isSome then t else t.insert contentHash (legacyRow now body))

/-- The first step of `put_and_record`. -/
def store (t : ContentTables) (legacy : Bool) (fault : Option StoreExc) (salt : Salt) (now : ℚ)
    (body : String) : Except Exn String × ContentTables :=
  match legacy with
  | true => t.putLegacy fault now body
  | false => t.put fault salt now body

/-- The deletion of `purge`: of the row with everything in it. -/
def deleteBody (t : ContentTables) (fault : Option StoreExc) (now : ℚ) (contentHash reason : String) :
    Except Exn String × ContentTables :=
  match t.view.deleteBody fault now contentHash reason with
  | (.error e, _) => (.error e, t)
  | (.ok body, v) =>
    (.ok body, { contentBodies := Function.update t.contentBodies contentHash none, purges := v.purges })

omit [ByteHash] in
/-- The attestation of a purge. -/
def attest (t : ContentTables) (contentHash recordHash : String) : ContentTables :=
  { t with purges := (t.view.attest contentHash recordHash).purges }

/-- `verify_commitment`. -/
def verifyCommitment (t : ContentTables) (contentHash body : String) : Except Exn Bool :=
  match t.contentBodies contentHash, t.purges contentHash with
  | some row, _ => .ok (commitmentOf body row.salt = row.commitment)
  | none, some prior =>
    .error (.ContentPurged
      ("content " ++ slice contentHash 16 ++ " was purged at " ++ dumps (.float prior.purgedAt) ++
       "; the commitment cannot be recomputed"))
  | none, none => .error (.PurgeRefused ("no content at " ++ slice contentHash 16))

end

end ContentTables

/-! ## What is hashed -/

/-- What is digested of a body with a salt. -/
lemma payload_some {body : String} (salt : Salt) :
    payload body (some salt.1) = MARKER_SALTED ++ salt.1 ++ encodeUtf8 body := by
  obtain ⟨salt, length⟩ := salt
  cases salt with
  | nil => cases length
  | cons b salt =>
    have whole : (b :: salt).take SALT_BYTES = b :: salt := List.take_of_length_le length.le
    dsimp only [payload]
    rw [whole]

/-- The two forms have nothing in common: their markers differ in the version. -/
lemma payload_ne (body body' : String) (salt : Salt) : payload body (some salt.1) ≠ payload body' none := by
  rw [payload_some]
  intro same
  have version := congrArg (List.take 16) same
  have salted : (MARKER_SALTED ++ salt.1 ++ encodeUtf8 body).take 16 = MARKER_SALTED.take 16 := by
    rw [List.append_assoc]
    exact List.take_append_of_le_length (by decide)
  have unsalted : (MARKER_UNSALTED ++ encodeUtf8 body').take 16 = MARKER_UNSALTED.take 16 :=
    List.take_append_of_le_length (by decide)
  rw [salted] at version
  have differ : MARKER_SALTED.take 16 ≠ MARKER_UNSALTED.take 16 := by decide
  exact differ (version.trans unsalted)

lemma payload_salted_inj {body body' : String} {salt salt' : Salt}
    (same : payload body (some salt.1) = payload body' (some salt'.1)) : salt = salt' ∧ body = body' := by
  rw [payload_some, payload_some, List.append_assoc, List.append_assoc] at same
  obtain ⟨salts, bodies⟩ := List.append_inj (List.append_cancel_left same) (salt.2.trans salt'.2.symm)
  exact ⟨Subtype.ext salts, encodeUtf8_injective bodies⟩

/-- With one salt, or none, the body is determined. -/
lemma payload_inj {body body' : String} {salt : Option Bytes}
    (same : payload body salt = payload body' salt) : body = body' := by
  unfold payload at same
  split at same
  · exact encodeUtf8_injective (List.append_cancel_left same)
  · exact encodeUtf8_injective (List.append_cancel_left same)
  · exact encodeUtf8_injective (List.append_cancel_left same)

/-! ## What the store does -/

namespace ContentTables

/-- The tables with a purge's row in the place of the body's. -/
def erase (t : ContentTables) (contentHash : String) (row : PurgeRow) : ContentTables where
  contentBodies := Function.update t.contentBodies contentHash none
  purges := Function.update t.purges contentHash (some row)

@[simp] lemma insert_self (t : ContentTables) (d : String) (row : BodyRow) :
    (t.insert d row).contentBodies d = some row := Function.update_self ..

lemma insert_of_ne {t : ContentTables} {d d' : String} (ne : d' ≠ d) (row : BodyRow) :
    (t.insert d row).contentBodies d' = t.contentBodies d' := Function.update_of_ne ne ..

@[simp] lemma erase_self (t : ContentTables) (d : String) (row : PurgeRow) :
    (t.erase d row).contentBodies d = none := Function.update_self ..

lemma erase_of_ne {t : ContentTables} {d d' : String} (ne : d' ≠ d) (row : PurgeRow) :
    (t.erase d row).contentBodies d' = t.contentBodies d' := Function.update_of_ne ne ..

/-- A row that is inserted is seen as the body it holds. -/
lemma view_insert (t : ContentTables) (d : String) (row : BodyRow) :
    (t.insert d row).view =
      { t.view with bodies := Function.update t.view.bodies d (some ⟨row.marker, row.body⟩) } := by
  unfold view
  congr 1
  funext d'
  by_cases e : d' = d
  · rw [e, insert_self, Function.update_self]
    rfl
  · rw [insert_of_ne e, Function.update_of_ne e]

section

variable [ByteHash]

/-- Storing in the tables is storing in the store they are seen as. -/
theorem view_store (t : ContentTables) (legacy : Bool) (fault : Option StoreExc) (salt : Salt) (now : ℚ)
    (body : String) :
    ((t.store legacy fault salt now body).1, (t.store legacy fault salt now body).2.view) =
      t.view.store legacy fault body := by
  have there : (t.view.bodies (sha256 body)).isSome = (t.contentBodies (sha256 body)).isSome :=
    Option.isSome_map
  cases fault with
  | some exc => cases legacy <;> rfl
  | none =>
    cases legacy with
    | true =>
      dsimp only [store, putLegacy, ContentStore.store, ContentStore.putLegacy]
      rw [there]
      split
      · rfl
      · rw [view_insert]
        rfl
    | false =>
      dsimp only [store, put, ContentStore.store, ContentStore.put]
      rw [there]
      have purges : t.view.purges = t.purges := rfl
      split
      · rfl
      · rw [purges]
        cases t.purges (sha256 body) with
        | some purged => rfl
        | none => exact congrArg _ (view_insert ..)

/-- A deletion in the tables is that of the view. -/
lemma deleteBody_cases (t : ContentTables) (fault : Option StoreExc) (now : ℚ) (d reason : String) :
    (∃ e, t.view.deleteBody fault now d reason = (.error e, t.view) ∧
      t.deleteBody fault now d reason = (.error e, t)) ∨
      ∃ row, t.contentBodies d = some row ∧
        t.view.deleteBody fault now d reason = (.ok row.body,
          { bodies := Function.update t.view.bodies d none
            purges := Function.update t.purges d (some { purgedAt := now, reason }) }) ∧
        t.deleteBody fault now d reason = (.ok row.body, t.erase d { purgedAt := now, reason }) := by
  have refused : ∀ e, t.view.deleteBody fault now d reason = (.error e, t.view) →
      t.deleteBody fault now d reason = (.error e, t) := by
    intro e eq
    rw [deleteBody, eq]
  cases fault with
  | some exc => exact .inl ⟨_, rfl, refused _ rfl⟩
  | none =>
    cases there : t.contentBodies d with
    | some row =>
      have body : t.view.bodies d = some ⟨row.marker, row.body⟩ := by
        dsimp only [view]
        rw [there]
        rfl
      cases purged : t.purges d with
      | some prior =>
        have eq : t.view.deleteBody none now d reason =
            (.error (.Store ContentStore.purgeViolation), t.view) := by
          have purged : t.view.purges d = some prior := purged
          rw [ContentStore.deleteBody, body, purged]
        exact .inl ⟨_, eq, refused _ eq⟩
      | none =>
        have eq : t.view.deleteBody none now d reason = (.ok row.body,
            { bodies := Function.update t.view.bodies d none
              purges := Function.update t.purges d (some { purgedAt := now, reason }) }) := by
          have purged : t.view.purges d = none := purged
          rw [ContentStore.deleteBody, body, purged]
          rfl
        refine .inr ⟨row, rfl, eq, ?_⟩
        rw [deleteBody, eq]
        rfl
    | none =>
      have body : t.view.bodies d = none := by
        dsimp only [view]
        rw [there]
        rfl
      have eq : ∃ e, t.view.deleteBody none now d reason = (.error e, t.view) := by
        rw [ContentStore.deleteBody, body]
        cases t.view.purges d <;> exact ⟨_, rfl⟩
      obtain ⟨e, eq⟩ := eq
      exact .inl ⟨e, eq, refused e eq⟩

/-- Deleting from the tables is deleting from the store they are seen as. -/
theorem view_deleteBody (t : ContentTables) (fault : Option StoreExc) (now : ℚ) (d reason : String) :
    ((t.deleteBody fault now d reason).1, (t.deleteBody fault now d reason).2.view) =
      t.view.deleteBody fault now d reason := by
  rcases t.deleteBody_cases fault now d reason with ⟨e, eq, eq'⟩ | ⟨row, there, eq, eq'⟩
  · rw [eq, eq']
  · rw [eq, eq', view]
    congr 2
    funext d'
    by_cases e : d' = d
    · rw [e, erase_self, Function.update_self]
      rfl
    · rw [erase_of_ne e, Function.update_of_ne e]
      rfl

/-- Storing raises and changes nothing, finds the body, or adds a row that commits to it. -/
lemma store_cases (t : ContentTables) (legacy : Bool) (fault : Option StoreExc) (salt : Salt) (now : ℚ)
    (body : String) :
    (∃ e, t.store legacy fault salt now body = (.error e, t)) ∨
      (t.contentBodies (sha256 body)).isSome ∧ t.store legacy fault salt now body = (.ok (sha256 body), t) ∨
      ∃ row, t.contentBodies (sha256 body) = none ∧ row.body = body ∧
        row.commitment = commitmentOf body row.salt ∧
        t.store legacy fault salt now body = (.ok (sha256 body), t.insert (sha256 body) row) := by
  cases fault with
  | some exc => cases legacy <;> exact .inl ⟨_, rfl⟩
  | none =>
    cases there : t.contentBodies (sha256 body) with
    | some row =>
      refine .inr (.inl ⟨rfl, ?_⟩)
      cases legacy <;> simp [store, put, putLegacy, there]
    | none =>
      cases legacy with
      | true =>
        refine .inr (.inr ⟨legacyRow now body, rfl, rfl, rfl, ?_⟩)
        simp [store, putLegacy, there]
      | false =>
        cases purged : t.purges (sha256 body) with
        | some row => exact .inl ⟨_, by simp [store, put, there, purged]; rfl⟩
        | none =>
          refine .inr (.inr ⟨saltedRow salt now body, rfl, rfl, rfl, ?_⟩)
          simp [store, put, there, purged]

/-! ## Runs -/

omit [ByteHash] in
/-- A transaction of the store: of `put` or `put_legacy`, or one of the two of `purge`. -/
inductive Transaction
  | store (legacy : Bool) (fault : Option StoreExc) (salt : Salt) (now : ℚ) (body : String)
  | delete (fault : Option StoreExc) (now : ℚ) (contentHash reason : String)
  | attest (contentHash recordHash : String)

def step (t : ContentTables) : Transaction → ContentTables
  | .store legacy fault salt now body => (t.store legacy fault salt now body).2
  | .delete fault now d reason => (t.deleteBody fault now d reason).2
  | .attest d recordHash => t.attest d recordHash

/-- The transaction purges the content with this hash. -/
def Purges (t : ContentTables) (contentHash : String) : Transaction → Prop
  | .delete fault now d reason => d = contentHash ∧ ∃ body, (t.deleteBody fault now d reason).1 = .ok body
  | _ => False

/-- Every row is that of its body, and commits to it. -/
def Committed (t : ContentTables) : Prop :=
  ∀ d row, t.contentBodies d = some row → d = sha256 row.body ∧ row.commitment = commitmentOf row.body row.salt

/-- A row whose commitment is its body's keeps the bodies committed to. -/
lemma Committed.insert {t : ContentTables} (ok : t.Committed) {row : BodyRow} {body : String}
    (own : row.body = body) (commits : row.commitment = commitmentOf body row.salt) :
    (t.insert (sha256 body) row).Committed := by
  intro d row' found
  by_cases e : d = sha256 body
  · rw [e, insert_self] at found
    obtain rfl := Option.some.inj found
    rw [own]
    exact ⟨e, commits⟩
  · rw [insert_of_ne e] at found
    exact ok d row' found

lemma Committed.step {t : ContentTables} (ok : t.Committed) (tx : Transaction) : (t.step tx).Committed := by
  cases tx with
  | store legacy fault salt now body =>
    rcases t.store_cases legacy fault salt now body with ⟨e, eq⟩ | ⟨-, eq⟩ | ⟨row, -, own, commits, eq⟩
    · rw [ContentTables.step, eq]
      exact ok
    · rw [ContentTables.step, eq]
      exact ok
    · rw [ContentTables.step, eq]
      exact ok.insert own commits
  | delete fault now d reason =>
    rcases t.deleteBody_cases fault now d reason with ⟨e, -, eq⟩ | ⟨row, -, -, eq⟩
    · rw [ContentTables.step, eq]
      exact ok
    · rw [ContentTables.step, eq]
      intro d' row' found
      by_cases e : d' = d
      · rw [e, erase_self] at found
        cases found
      · rw [erase_of_ne e] at found
        exact ok d' row' found
  | attest d recordHash => exact ok

/-- A row stays until it is purged. -/
lemma step_keeps {t : ContentTables} {d : String} (there : (t.contentBodies d).isSome) {tx : Transaction}
    (kept : ¬ t.Purges d tx) : (t.step tx).contentBodies d = t.contentBodies d := by
  cases tx with
  | store legacy fault salt now body =>
    rcases t.store_cases legacy fault salt now body with ⟨e, eq⟩ | ⟨-, eq⟩ | ⟨row, absent, -, -, eq⟩
    · rw [step, eq]
    · rw [step, eq]
    · rw [step, eq]
      refine insert_of_ne (fun e => ?_) row
      rw [e, absent] at there
      cases there
  | delete fault now d' reason =>
    rcases t.deleteBody_cases fault now d' reason with ⟨e, -, eq⟩ | ⟨row, -, -, eq⟩
    · rw [step, eq]
    · rw [step, eq]
      refine erase_of_ne (fun e => kept ⟨e.symm, row.body, ?_⟩) _
      rw [eq]
  | attest d' recordHash => rfl

/-- What storing returned is the hash of the body, and there is a row for it. -/
lemma store_ok {t : ContentTables} {legacy : Bool} {fault : Option StoreExc} {salt : Salt} {now : ℚ}
    {body d : String} (ok : (t.store legacy fault salt now body).1 = .ok d) :
    d = sha256 body ∧ ((t.store legacy fault salt now body).2.contentBodies d).isSome := by
  rcases t.store_cases legacy fault salt now body with ⟨e, eq⟩ | ⟨there, eq⟩ | ⟨row, -, -, -, eq⟩
  · rw [eq] at ok
    cases ok
  · rw [eq] at ok ⊢
    cases ok
    exact ⟨rfl, there⟩
  · rw [eq] at ok ⊢
    cases ok
    refine ⟨rfl, ?_⟩
    rw [insert_self]
    rfl

end

end ContentTables

/-- Commitments bind. What is hashed of a body tells the two forms apart, and gives the body and the salt back; and
without collisions of the digest a hash that was returned when a body was stored verifies that body and no other,
in every run, until it is purged. -/
theorem commitment_binds [ByteHash] :
    (∀ body body' (salt : Salt), payload body (some salt.1) ≠ payload body' none) ∧
    (∀ body body' (salt salt' : Salt), payload body (some salt.1) = payload body' (some salt'.1) →
      salt = salt' ∧ body = body') ∧
    (Function.Injective (hexdigest : Bytes → String) →
      ∀ (before : List ContentTables.Transaction) legacy fault (salt : Salt) now body contentHash,
        let stored := (run ContentTables.step {} before).store legacy fault salt now body
        stored.1 = .ok contentHash →
        ∀ since, Steps ContentTables.step (fun t tx => ¬ t.Purges contentHash tx) stored.2 since →
          ∀ body', (run ContentTables.step stored.2 since).verifyCommitment contentHash body' =
            .ok (decide (body' = body))) := by
  refine ⟨payload_ne, fun _ _ _ _ => payload_salted_inj, ?_⟩
  intro free before legacy fault salt now body contentHash stored ok since kept body'
  obtain ⟨rfl, there⟩ := ContentTables.store_ok ok
  have committed : stored.2.Committed := by
    have start : ({} : ContentTables).Committed := nofun
    have reached := run_invariant ContentTables.step start (fun _ tx inv => inv.step tx) before
    exact reached.step (.store legacy fault salt now body)
  -- along the run the row stays, and goes on committing to its body
  have still : (run ContentTables.step stored.2 since).Committed ∧
      ((run ContentTables.step stored.2 since).contentBodies (sha256 body)).isSome := by
    refine run_invariant_of_steps ContentTables.step
      (I := fun t => t.Committed ∧ (t.contentBodies (sha256 body)).isSome) ⟨committed, there⟩ ?_ kept
    rintro t tx ⟨inv, there⟩ unpurged
    refine ⟨inv.step tx, ?_⟩
    rw [ContentTables.step_keeps there unpurged]
    exact there
  obtain ⟨inv, there⟩ := still
  obtain ⟨row, found⟩ := Option.isSome_iff_exists.1 there
  obtain ⟨own, commits⟩ := inv _ row found
  have same : body = row.body := by
    rw [ByteHash.sha256_eq, ByteHash.sha256_eq] at own
    exact encodeUtf8_injective (free own)
  rw [ContentTables.verifyCommitment, found]
  dsimp only
  rw [commits, ← same]
  congr 1
  refine decide_eq_decide.2 ⟨fun digests => ?_, fun e => by rw [e]⟩
  exact payload_inj (free digests)

section Sample

/-- Bytes as the characters they are the code points of. -/
def latin1 (bs : Bytes) : String := .ofList (bs.map fun b => Char.ofNat b.toNat)

/-- The encoding of the sample determines the text. -/
lemma latin1_injective : Function.Injective latin1 := by
  intro bs bs' same
  have point : ∀ b : UInt8, (Char.ofNat b.toNat).toNat = b.toNat := by
    intro b
    have valid : b.toNat.isValidChar := .inl (b.toNat_lt.trans (by decide))
    rw [Char.ofNat, dif_pos valid]
    rfl
  have byteChar : Function.Injective fun b : UInt8 => Char.ofNat b.toNat := by
    intro b c e
    apply UInt8.toNat_inj.1
    rw [← point b, ← point c]
    exact congrArg Char.toNat e
  exact List.map_injective_iff.2 byteChar (String.ofList_inj.1 same)

def sampleSalt : Salt := ⟨List.replicate 32 0x41, rfl⟩

def commitmentDigests : DigestTable where
  entries :=
    [("x", "2d711642b726b04401627ca9fbac32f5c8530fb1903cc4db02258717921a4881"),
     ("CUSTOS-COMMIT-v1:salted\x00AAAAAAAAAAAAAAAAAAAAAAAAAAAAAAAAx",
      "697a8e5ee05a6830420247afac071e1288f578928857e88c05b26a60f0ad6690"),
     ("CUSTOS-COMMIT-v1:salted\x00AAAAAAAAAAAAAAAAAAAAAAAAAAAAAAAAy",
      "d197e55517f9eb7035016d37c77847578812f2c1295f788f5b7c00ac8247b36a")]
  distinct := by decide +kernel
  plain := by decide +kernel

local instance commitmentHash : ByteHash where
  toPlatform := { Platform.reference commitmentDigests with
    sha256 text := commitmentDigests.digest (latin1 (encodeUtf8 text)) }
  hexdigest bs := commitmentDigests.digest (latin1 bs)
  sha256_eq _ := rfl

/-- A body verifies under the salt it was stored with, after another put of it and a purge of other content. -/
theorem commitment_binds_sample :
    let put : ContentTables.Transaction := .store false none sampleSalt 1700000000 "x"
    let other : ContentTables.Transaction := .delete none 1700000001 (sha256 "y") "erasure"
    let t := run ContentTables.step {} [put, put, other]
    t.verifyCommitment (sha256 "x") "x" = .ok true ∧ t.verifyCommitment (sha256 "x") "y" = .ok false := by
  intro put other t
  have free : Function.Injective (hexdigest : Bytes → String) :=
    commitmentDigests.digest_injective.comp latin1_injective
  have distinct : sha256 "y" ≠ sha256 "x" := by decide +kernel
  have verifies := commitment_binds.2.2 free [] false none sampleSalt 1700000000 "x" (sha256 "x") rfl
    [put, other] ⟨id, fun purges => distinct purges.1, trivial⟩
  exact ⟨verifies "x", verifies "y"⟩

end Sample

end Custos
