import Custos.Library.Run
import Custos.Reference
import Custos.Service.Retention

/-!
# Purges

What happens to a body over its life: it is stored, salted (`put`) or as legacy content (`put_legacy`),
recorded with the form it was stored in, and deleted by a purge, which leaves a row of its own and an
attestation in the chain. Three things are meant to be final or to agree, and one slip spoils all three:
`put_legacy` does not look for the purge's row, so content that was purged comes back
(`purge_terminal_iff`).
-/

namespace Custos

/-! ## What the store's transactions do -/

namespace ContentStore

/-- The store with a body's row in its place. -/
def insert (s : ContentStore) (contentHash : String) (row : ContentBody) : ContentStore :=
  { s with bodies := Function.update s.bodies contentHash (some row) }

/-- The store with a purge's row in the place of the body's. -/
def erase (s : ContentStore) (contentHash : String) (row : PurgeRow) : ContentStore where
  bodies := Function.update s.bodies contentHash none
  purges := Function.update s.purges contentHash (some row)

def legacyMarker (legacy : Bool) : String := if legacy then "unsalted-v0" else "salted-v1"

@[simp] lemma insert_purges (s : ContentStore) (d : String) (row : ContentBody) :
    (s.insert d row).purges = s.purges := rfl

@[simp] lemma insert_bodies_self (s : ContentStore) (d : String) (row : ContentBody) :
    (s.insert d row).bodies d = some row := Function.update_self ..

lemma insert_bodies_of_ne {s : ContentStore} {d d' : String} (ne : d' ≠ d) (row : ContentBody) :
    (s.insert d row).bodies d' = s.bodies d' := Function.update_of_ne ne ..

@[simp] lemma erase_bodies_self (s : ContentStore) (d : String) (row : PurgeRow) :
    (s.erase d row).bodies d = none := Function.update_self ..

@[simp] lemma erase_purges_self (s : ContentStore) (d : String) (row : PurgeRow) :
    (s.erase d row).purges d = some row := Function.update_self ..

lemma erase_bodies_of_ne {s : ContentStore} {d d' : String} (ne : d' ≠ d) (row : PurgeRow) :
    (s.erase d row).bodies d' = s.bodies d' := Function.update_of_ne ne ..

lemma erase_purges_of_ne {s : ContentStore} {d d' : String} (ne : d' ≠ d) (row : PurgeRow) :
    (s.erase d row).purges d' = s.purges d' := Function.update_of_ne ne ..

/-- An attestation is entered in the row of the deletion. -/
lemma attest_erase (s : ContentStore) (d recordHash : String) (row : PurgeRow) :
    (s.erase d row).attest d recordHash = s.erase d { row with attestationHash := some recordHash } := by
  simp [attest, erase]

end ContentStore

section

variable [Platform]

/-- Storing a body comes to a store that holds it: as it was, or with a new row. Only legacy content gets
one although the body was purged. -/
inductive Stored (s : ContentStore) (legacy : Bool) (body : String) : ContentStore → Prop
  | there : (s.bodies (sha256 body)).isSome → Stored s legacy body s
  | new : s.bodies (sha256 body) = none → (legacy = false → s.purges (sha256 body) = none) →
      Stored s legacy body (s.insert (sha256 body) ⟨ContentStore.legacyMarker legacy, body⟩)

/-- The first step of `put_and_record` raises and changes nothing, or stores the body. -/
lemma store_stored (s : ContentStore) (legacy : Bool) (fault : Option StoreExc) (body : String) :
    (∃ e, s.store legacy fault body = (.error e, s)) ∨
      ∃ s', s.store legacy fault body = (.ok (sha256 body), s') ∧ Stored s legacy body s' := by
  cases fault with
  | some exc => cases legacy <;> exact .inl ⟨_, rfl⟩
  | none =>
    cases there : s.bodies (sha256 body) with
    | some row =>
      refine .inr ⟨s, ?_, .there (by simp [there])⟩
      cases legacy <;> simp [ContentStore.store, ContentStore.put, ContentStore.putLegacy, there]
    | none =>
      cases legacy with
      | true =>
        refine .inr ⟨_, ?_, .new there nofun⟩
        simp [ContentStore.store, ContentStore.putLegacy, there, ContentStore.insert,
          ContentStore.legacyMarker]
      | false =>
        cases purged : s.purges (sha256 body) with
        | some row => exact .inl ⟨_, by simp [ContentStore.store, ContentStore.put, there, purged]; rfl⟩
        | none =>
          refine .inr ⟨_, ?_, .new there fun _ => purged⟩
          simp [ContentStore.store, ContentStore.put, there, purged, ContentStore.insert,
            ContentStore.legacyMarker]

/-- The deletion takes a body that was not purged before, or raises and changes nothing. -/
lemma deleteBody_deleted (s : ContentStore) (fault : Option StoreExc) (now : ℚ) (d reason : String) :
    (∃ e, s.deleteBody fault now d reason = (.error e, s)) ∧
        (fault = none → ∀ row, s.bodies d = some row → s.purges d ≠ none) ∨
      ∃ row, fault = none ∧ s.bodies d = some row ∧ s.purges d = none ∧
        s.deleteBody fault now d reason = (.ok row.body, s.erase d { purgedAt := now, reason }) := by
  unfold ContentStore.deleteBody
  cases fault with
  | some exc => exact .inl ⟨⟨_, rfl⟩, nofun⟩
  | none =>
    cases body : s.bodies d with
    | some row =>
      cases purged : s.purges d with
      | some prior => exact .inl ⟨⟨_, rfl⟩, nofun⟩
      | none => exact .inr ⟨row, rfl, rfl, rfl, rfl⟩
    | none => cases s.purges d <;> exact .inl ⟨⟨_, rfl⟩, nofun⟩

/-- A call of `record` raises, or appends a record of the content it was given. -/
lemma recordIn_appends (c : AuditChain) (s : Stores) (env : RecordEnv) (a : RecordArgs) :
    (∃ e s', c.recordIn s env a = (.error e, c, s') ∧ s'.contents = s.contents) ∨
      ∃ r s', c.recordIn s env a = (.ok r, { c with records := c.records ++ [r] }, s') ∧
        s'.contents = s.contents ∧ r.contentHash = sha256 a.content ∧ r.commitment = some a.commitment := by
  unfold AuditChain.recordIn
  rcases c.record_cases s.audit env a with ⟨e, he⟩ | ⟨r, t', -, ent, -, he⟩
  · rw [he]
    exact .inl ⟨e, _, rfl, rfl⟩
  · rw [he]
    obtain ⟨id, -, eq⟩ := ent.eq
    refine .inr ⟨r, _, rfl, rfl, ?_, ?_⟩
    · rw [eq]
      rfl
    · rw [eq]
      rfl

/-- What keeping a body comes to for the store and the chain. -/
inductive Keeping (s : ContentStore) (records : List AuditRecord) (legacy : Bool) (body : String) :
    ContentStore → List AuditRecord → Prop
  | idle : Keeping s records legacy body s records
  | stored (s' : ContentStore) : Stored s legacy body s' → Keeping s records legacy body s' records
  | plain (r : AuditRecord) : r.contentHash = sha256 body → r.commitment = some COMMITMENT_NONE →
      Keeping s records legacy body s (records ++ [r])
  | recorded (s' : ContentStore) (r : AuditRecord) : Stored s legacy body s' →
      r.contentHash = sha256 body → r.commitment = some (s'.commitmentForm (sha256 body)) →
      Keeping s records legacy body s' (records ++ [r])

/-- What keeping a body adds to the chain, it adds to any. -/
lemma Keeping.grown {s s' : ContentStore} {records records' : List AuditRecord} {legacy : Bool} {body : String}
    (keeping : Keeping s records legacy body s' records') :
    ∃ new, records' = records ++ new ∧ Keeping s [] legacy body s' new := by
  cases keeping with
  | idle => exact ⟨[], (List.append_nil _).symm, .idle⟩
  | stored _ stored => exact ⟨[], (List.append_nil _).symm, .stored s' stored⟩
  | plain r hash form => exact ⟨[r], rfl, .plain r hash form⟩
  | recorded _ r stored hash form => exact ⟨[r], rfl, .recorded s' r stored hash form⟩

/-- A body that is put is kept. -/
lemma store_keeping (s : ContentStore) (records : List AuditRecord) (legacy : Bool)
    (fault : Option StoreExc) (body : String) :
    Keeping s records legacy body (s.store legacy fault body).2 records := by
  rcases store_stored s legacy fault body with ⟨e, eq⟩ | ⟨s', eq, stored⟩
  · rw [eq]
    exact .idle
  · rw [eq]
    exact .stored s' stored

/-- A decision whose body is kept. -/
lemma putAndRecord_keeping (path : String) (c : AuditChain) (s : Stores) (env : DecisionEnv)
    (a : RecordArgs) (legacy : Bool) :
    Keeping (s.contents path) c.records legacy a.content
      ((putAndRecord path c s env a legacy).2.2.contents path)
      (putAndRecord path c s env a legacy).2.1.records := by
  unfold putAndRecord
  rcases store_stored (s.contents path) legacy env.putFault a.content with ⟨e, eq⟩ | ⟨s', eq, stored⟩
  · rw [eq]
    dsimp only
    rw [setContent_contents]
    exact .idle
  · rw [eq]
    dsimp only
    cases env.formFault with
    | some exc =>
      dsimp only
      rw [setContent_contents]
      exact .stored s' stored
    | none =>
      dsimp only
      rcases recordIn_appends c (s.setContent path s') env.toRecordEnv
          { a with commitment := s'.commitmentForm (sha256 a.content) } with
        ⟨e, s'', eq, kept⟩ | ⟨r, s'', eq, kept, hash, form⟩
      · rw [eq, kept, setContent_contents]
        exact .stored s' stored
      · rw [eq, kept, setContent_contents]
        exact .recorded s' r stored hash form

/-- Content that was purged is refused before anything is stored. -/
lemma contents_of_contentPurged {path : String} {c c' : AuditChain} {s s' : Stores} {env : DecisionEnv}
    {a : RecordArgs} {legacy : Bool} {msg : String}
    (refused : putAndRecord path c s env a legacy = (.error (.ContentPurged msg), c', s')) :
    s'.contents path = s.contents path := by
  unfold putAndRecord at refused
  rcases store_stored (s.contents path) legacy env.putFault a.content with ⟨e, eq⟩ | ⟨store, eq, -⟩
  · rw [eq] at refused
    obtain ⟨-, -, rfl⟩ := Prod.mk.injEq .. ▸ refused
    exact Function.update_self ..
  · rw [eq] at refused
    dsimp only at refused
    split at refused
    · cases refused
    · have other := record_ne_contentPurged c (s.setContent path store).audit env.toRecordEnv
        { a with commitment := store.commitmentForm (sha256 a.content) } msg
      exact absurd (congrArg Prod.fst refused) other

/-- The store a decision is kept in is the one its environment selects. -/
lemma recordDecision_keeping (path : String) (ctx : TenantContext) (s : Stores) (env : DecisionEnv)
    (a : RecordArgs)
    (one : ∀ path', contentStoreFor env.environ env.openFault (orElse a.tenantId ctx.tenantId) =
      .ok (some path') → path' = path) :
    Keeping (s.contents path) ctx.auditChain.records false a.content
      ((recordDecision ctx s env a).2.2.contents path)
      (recordDecision ctx s env a).2.1.auditChain.records := by
  have plain : ∀ s' : Stores, s'.contents path = s.contents path →
      Keeping (s.contents path) ctx.auditChain.records false a.content
        ((ctx.auditChain.recordIn s' env.toRecordEnv { a with commitment := COMMITMENT_NONE }).2.2.contents
          path)
        (ctx.auditChain.recordIn s' env.toRecordEnv { a with commitment := COMMITMENT_NONE }).2.1.records := by
    intro s' same
    rcases recordIn_appends ctx.auditChain s' env.toRecordEnv { a with commitment := COMMITMENT_NONE } with
      ⟨e, s'', eq, kept⟩ | ⟨r, s'', eq, kept, hash, form⟩
    · rw [eq, kept, same]
      exact .idle
    · rw [eq, kept, same]
      exact .plain r hash form
  unfold recordDecision
  cases select : contentStoreFor env.environ env.openFault (orElse a.tenantId ctx.tenantId) with
  | error e => exact .idle
  | ok selected =>
    cases selected with
    | none => exact plain s rfl
    | some path' =>
      obtain rfl := one path' select
      dsimp only
      have keeps := putAndRecord_keeping path' ctx.auditChain s env a false
      split
      · rename_i msg c' s' refused
        exact plain s' (contents_of_contentPurged refused)
      · exact keeps

/-- What a purge comes to for the store and the chain: nothing, a deletion that its record attests, or one
whose record was refused. It deletes where the engine does not fail (`clean`). -/
inductive Purging (s : ContentStore) (c : AuditChain) (d : String) (clean : Prop)
    (refuses : String → Prop) : ContentStore → List AuditRecord → Prop
  | refused : (clean → ∀ row, s.bodies d = some row → s.purges d ≠ none) →
      Purging s c d clean refuses s c.records
  | unattested (row : ContentBody) (prior : PurgeRow) : clean → s.bodies d = some row →
      s.purges d = none → refuses row.body → Purging s c d clean refuses (s.erase d prior) c.records
  | attested (row : ContentBody) (prior : PurgeRow) (r : AuditRecord) : clean → s.bodies d = some row →
      s.purges d = none → ¬ refuses row.body → r.contentHash = sha256 row.body →
      r.commitment = some COMMITMENT_PURGED_V1 →
      Purging s c d clean refuses (s.erase d prior) (c.records ++ [r])

/-- The chain refuses the attestation of a deleted body. -/
def RefusesPurge (c : AuditChain) (audit : AuditTable) (env : RecordEnv) (clientId reason : String)
    (traceId policyDigest : Option String) (body : String) : Prop :=
  ∃ e, (c.record audit env (purgeArgs clientId reason traceId policyDigest body)).1 = .error e

/-- What `purge` makes of the store and the chain. -/
lemma purge_purging (path : String) (c : AuditChain) (s : Stores) (env : PurgeEnv)
    (d clientId reason : String) (traceId policyDigest : Option String) :
    Purging (s.contents path) c d (env.deleteFault = none)
      (RefusesPurge c s.audit env.toRecordEnv clientId reason traceId policyDigest)
      ((purge path c s env d clientId reason traceId policyDigest).2.2.contents path)
      (purge path c s env d clientId reason traceId policyDigest).2.1.records := by
  unfold purge
  rcases deleteBody_deleted (s.contents path) env.deleteFault env.purgedAt d reason with
    ⟨⟨e, eq⟩, kept⟩ | ⟨row, clean, body, purged, eq⟩
  · rw [eq]
    dsimp only
    rw [setContent_contents]
    exact .refused kept
  · rw [eq]
    dsimp only
    let store := (s.contents path).erase d { purgedAt := env.purgedAt, reason }
    rcases recordIn_appends c (s.setContent path store) env.toRecordEnv
        (purgeArgs clientId reason traceId policyDigest row.body) with
      ⟨e, s', res, kept⟩ | ⟨r, s', res, kept, hash, form⟩
    · have refuses : RefusesPurge c s.audit env.toRecordEnv clientId reason traceId policyDigest row.body :=
        ⟨e, congrArg Prod.fst res⟩
      rw [purgeArgs] at res
      rw [res]
      dsimp only
      rw [kept, setContent_contents]
      exact .unattested row _ clean body purged refuses
    · have attests : ¬ RefusesPurge c s.audit env.toRecordEnv clientId reason traceId policyDigest row.body := by
        rintro ⟨e, refused⟩
        cases (congrArg Prod.fst res).symm.trans refused
      rw [purgeArgs] at res
      rw [res]
      dsimp only
      split
      · rw [kept, setContent_contents]
        exact .attested row _ r clean body purged attests hash form
      · cases env.attestFault with
        | some exc =>
          dsimp only
          rw [kept, setContent_contents]
          exact .attested row _ r clean body purged attests hash form
        | none =>
          dsimp only
          rw [setContent_contents, kept, setContent_contents, ContentStore.attest_erase]
          exact .attested row _ r clean body purged attests hash form

/-- A purge leaves the store or deletes a body it holds. -/
lemma Purging.store_cases {s s' : ContentStore} {c : AuditChain} {d : String} {clean : Prop}
    {refuses : String → Prop} {records : List AuditRecord} (purging : Purging s c d clean refuses s' records) :
    s' = s ∨ ∃ row prior, s.bodies d = some row ∧ s.purges d = none ∧ s' = s.erase d prior := by
  cases purging with
  | refused _ => exact .inl rfl
  | unattested row prior _ body purged _ => exact .inr ⟨row, prior, body, purged, rfl⟩
  | attested row prior r _ body purged _ _ _ => exact .inr ⟨row, prior, body, purged, rfl⟩

/-! ## Runs -/

omit [Platform] in
/-- A tenant with its stores, and the digests whose body a purge has deleted. No function reads those: they
are there to be spoken of. -/
structure Keeper where
  ctx : TenantContext
  stores : Stores
  deleted : List String := []

omit [Platform] in
inductive ContentOp where
  | put (fault : Option StoreExc) (body : String)
  | putLegacy (fault : Option StoreExc) (body : String)
  | putAndRecord (env : DecisionEnv) (a : RecordArgs) (legacy : Bool)
  | recordDecision (env : DecisionEnv) (a : RecordArgs)
  | purge (env : PurgeEnv) (contentHash clientId reason : String) (traceId policyDigest : Option String)

omit [Platform] in
/-- The exception a call raised, if it did. -/
def raised {α : Type} : Except Exn α → Option Exn
  | .ok _ => none
  | .error e => some e

namespace Keeper

omit [Platform] in
/-- The content store. -/
def store (w : Keeper) (path : String) : ContentStore := w.stores.contents path

omit [Platform] in
/-- The chain. -/
def records (w : Keeper) : List AuditRecord := w.ctx.auditChain.records

omit [Platform] in
/-- A digest whose body a call has deleted. -/
def markDeleted (w w' : Keeper) (path d : String) : Keeper :=
  if ((w.store path).bodies d).isSome ∧ ((w'.store path).bodies d).isNone then
    { w' with deleted := d :: w.deleted }
  else { w' with deleted := w.deleted }

omit [Platform] in
/-- Marking what was deleted leaves the stores. -/
@[simp] lemma markDeleted_stores (w w' : Keeper) (path d : String) :
    (w.markDeleted w' path d).stores = w'.stores := by
  unfold markDeleted
  split <;> rfl

omit [Platform] in
@[simp] lemma markDeleted_ctx (w w' : Keeper) (path d : String) :
    (w.markDeleted w' path d).ctx = w'.ctx := by
  unfold markDeleted
  split <;> rfl

omit [Platform] in
@[simp] lemma markDeleted_store (w w' : Keeper) (path d path' : String) :
    (w.markDeleted w' path d).store path' = w'.store path' := by
  rw [store, markDeleted_stores, store]

omit [Platform] in
@[simp] lemma markDeleted_records (w w' : Keeper) (path d : String) :
    (w.markDeleted w' path d).records = w'.records := by
  rw [records, markDeleted_ctx, records]

omit [Platform] in
/-- Nothing is marked where the store is the same. -/
lemma markDeleted_of_same {w w' : Keeper} {path d : String} (same : w'.store path = w.store path) :
    (w.markDeleted w' path d).deleted = w.deleted := by
  unfold markDeleted
  rw [if_neg]
  rintro ⟨held, gone⟩
  rw [same] at gone
  simp [Option.isNone_iff_eq_none.1 gone] at held

omit [Platform] in
/-- What is deleted is marked. -/
lemma markDeleted_of_erased {w w' : Keeper} {path d : String} {row : ContentBody} {prior : PurgeRow}
    (body : (w.store path).bodies d = some row) (erased : w'.store path = (w.store path).erase d prior) :
    (w.markDeleted w' path d).deleted = d :: w.deleted := by
  unfold markDeleted
  rw [if_pos]
  rw [erased]
  simp [body]

/-- A call on the store at the path, with the exception it raised. -/
def call (path : String) (w : Keeper) : ContentOp → Option Exn × Keeper
  | .put fault body =>
    let (res, store) := (w.store path).put fault body
    (raised res, { w with stores := w.stores.setContent path store })
  | .putLegacy fault body =>
    let (res, store) := (w.store path).putLegacy fault body
    (raised res, { w with stores := w.stores.setContent path store })
  | .putAndRecord env a legacy =>
    let (res, auditChain, stores) := Custos.putAndRecord path w.ctx.auditChain w.stores env a legacy
    (raised res, { w with ctx := { w.ctx with auditChain }, stores })
  | .recordDecision env a =>
    let (res, ctx, stores) := Custos.recordDecision w.ctx w.stores env a
    (raised res, { w with ctx, stores })
  | .purge env contentHash clientId reason traceId policyDigest =>
    let (res, auditChain, stores) := Custos.purge path w.ctx.auditChain w.stores env contentHash clientId
      reason traceId policyDigest
    (raised res, w.markDeleted { w with ctx := { w.ctx with auditChain }, stores } path contentHash)

def step (path : String) (w : Keeper) (op : ContentOp) : Keeper := (w.call path op).2

/-- What a purge does to the store and the chain, apart from the note of the deleted digest. -/
lemma step_purge (path : String) (w : Keeper) (env : PurgeEnv) (d clientId reason : String)
    (traceId policyDigest : Option String) : ∃ w' : Keeper,
    w.step path (.purge env d clientId reason traceId policyDigest) = w.markDeleted w' path d ∧
      Purging (w.store path) w.ctx.auditChain d (env.deleteFault = none)
        (RefusesPurge w.ctx.auditChain w.stores.audit env.toRecordEnv clientId reason traceId policyDigest)
        (w'.store path) w'.records :=
  let out := Custos.purge path w.ctx.auditChain w.stores env d clientId reason traceId policyDigest
  ⟨{ w with ctx := { w.ctx with auditChain := out.2.1 }, stores := out.2.2 }, rfl,
    purge_purging path w.ctx.auditChain w.stores env d clientId reason traceId policyDigest⟩

end Keeper

/-! ## A purge is final -/

/-- The content stays purged: it is not readable, and another purge says so. -/
structure Terminal (path : String) (w : Keeper) (d : String) : Prop where
  status : (w.store path).status d = .STATUS_PURGED
  unreadable : ∃ msg, (w.store path).openBody d = .error (.ContentPurged msg)
  final : ∀ (env : PurgeEnv) (clientId reason : String) (traceId policyDigest : Option String),
    env.deleteFault = none → ∃ msg,
      (w.call path (.purge env d clientId reason traceId policyDigest)).1 = some (.ContentPurged msg)

/-- A call that offers content as legacy whose body a purge has deleted. -/
def Resurrects (w : Keeper) : ContentOp → Prop
  | .putLegacy fault body => fault = none ∧ sha256 body ∈ w.deleted
  | .putAndRecord env a legacy => legacy = true ∧ env.putFault = none ∧ sha256 a.content ∈ w.deleted
  | _ => False

/-- A deletion is final where no body is back. -/
lemma terminal_iff {path : String} {w : Keeper} {d : String} {row : PurgeRow}
    (purged : (w.store path).purges d = some row) :
    Terminal path w d ↔ (w.store path).bodies d = none := by
  constructor
  · intro terminal
    have status := terminal.status
    unfold ContentStore.status at status
    cases body : (w.store path).bodies d with
    | none => rfl
    | some row => simp [body] at status
  · intro gone
    refine ⟨by simp [ContentStore.status, gone, purged], ?_, fun env _ reason _ _ fault => ?_⟩
    · rw [ContentStore.openBody, gone, purged]
      exact ⟨_, rfl⟩
    · have deleted : ∃ msg, (w.stores.contents path).deleteBody env.deleteFault env.purgedAt d
          reason = (.error (.ContentPurged msg), w.stores.contents path) := by
        have gone : (w.stores.contents path).bodies d = none := gone
        have purged : (w.stores.contents path).purges d = some row := purged
        unfold ContentStore.deleteBody
        rw [fault, gone, purged]
        exact ⟨_, rfl⟩
      obtain ⟨msg, eq⟩ := deleted
      refine ⟨msg, ?_⟩
      dsimp only [Keeper.call, Custos.purge]
      rw [eq]
      rfl

/-- What a digest's rows look like once its body was stored. -/
lemma Stored.purges {s s' : ContentStore} {legacy : Bool} {body : String}
    (stored : Stored s legacy body s') : s'.purges = s.purges := by
  cases stored <;> rfl

/-- What is stored is held. -/
lemma Stored.holds {s s' : ContentStore} {legacy : Bool} {body : String}
    (stored : Stored s legacy body s') : (s'.bodies (sha256 body)).isSome := by
  cases stored with
  | there held => exact held
  | new _ _ => simp

/-- Storing brings no body back that was purged, unless it is offered as legacy content. -/
lemma Stored.gone {s s' : ContentStore} {legacy : Bool} {body d : String}
    (stored : Stored s legacy body s') {row : PurgeRow} (purged : s.purges d = some row)
    (gone : s.bodies d = none) (other : legacy = true → d ≠ sha256 body) : s'.bodies d = none := by
  cases stored with
  | there _ => exact gone
  | new _ clean =>
    by_cases e : d = sha256 body
    · have plain : legacy = false := by
        cases legacy with
        | false => rfl
        | true => exact absurd e (other rfl)
      rw [e] at purged
      cases (clean plain).symm.trans purged
    · rw [ContentStore.insert_bodies_of_ne e]
      exact gone

/-- The store is the same or holds the body. -/
lemma Keeping.stored_or_same {s s' : ContentStore} {records records' : List AuditRecord} {legacy : Bool}
    {body : String} (keeps : Keeping s records legacy body s' records') :
    s' = s ∨ Stored s legacy body s' := by
  cases keeps with
  | idle => exact .inl rfl
  | stored _ stored => exact .inr stored
  | plain _ _ _ => exact .inl rfl
  | recorded _ _ stored _ _ => exact .inr stored

/-- A decision is kept in one store at most. -/
lemma recordDecision_store (path : String) (ctx : TenantContext) (s : Stores) (env : DecisionEnv)
    (a : RecordArgs) : (recordDecision ctx s env a).2.2.contents path = s.contents path ∨
      Stored (s.contents path) false a.content ((recordDecision ctx s env a).2.2.contents path) := by
  by_cases one : ∀ path', contentStoreFor env.environ env.openFault (orElse a.tenantId ctx.tenantId) =
      .ok (some path') → path' = path
  · exact (recordDecision_keeping path ctx s env a one).stored_or_same
  · push Not at one
    obtain ⟨path', select, ne⟩ := one
    left
    have kept : ∀ (s : Stores) store, (s.setContent path' store).contents path = s.contents path :=
      fun s store => Function.update_of_ne (Ne.symm ne) ..
    have recorded : ∀ (s : Stores) (a : RecordArgs),
        (ctx.auditChain.recordIn s env.toRecordEnv a).2.2.contents path = s.contents path := fun s a => rfl
    have put : (putAndRecord path' ctx.auditChain s env a).2.2.contents path = s.contents path := by
      unfold putAndRecord
      rcases store_stored (s.contents path') false env.putFault a.content with ⟨e, eq⟩ | ⟨s', eq, -⟩
      · rw [eq]
        exact kept s _
      · rw [eq]
        dsimp only
        cases env.formFault with
        | some exc => exact kept s s'
        | none => exact (recorded _ _).trans (kept s s')
    unfold recordDecision
    rw [select]
    dsimp only
    split
    · rename_i msg c' s' refused
      rw [refused] at put
      exact (recorded s' { a with commitment := COMMITMENT_NONE }).trans put
    · exact put

namespace Keeper

/-- What a call comes to for the content store, other than a purge: nothing, or it stores a body. -/
lemma step_store (path : String) (w : Keeper) (op : ContentOp) :
    (w.step path op).store path = w.store path ∧ (w.step path op).deleted = w.deleted ∨
      (∃ legacy body, Stored (w.store path) legacy body ((w.step path op).store path) ∧
        (w.step path op).deleted = w.deleted ∧
        (legacy = true → sha256 body ∈ w.deleted → Resurrects w op)) ∨
      ∃ d row, (w.store path).bodies d ≠ none ∧ (w.store path).purges d = none ∧
        (w.step path op).store path = (w.store path).erase d row ∧
        (w.step path op).deleted = d :: w.deleted := by
  cases op with
  | put fault body =>
    have outcome := (store_keeping (w.store path) w.records false fault body).stored_or_same
    dsimp only [step, call, store]
    rw [setContent_contents]
    exact outcome.imp (fun same => ⟨same, rfl⟩) fun stored => .inl ⟨false, body, stored, rfl, nofun⟩
  | putLegacy fault body =>
    cases fault with
    | some exc => exact .inl ⟨setContent_contents .., rfl⟩
    | none =>
      have outcome := (store_keeping (w.store path) w.records true none body).stored_or_same
      dsimp only [step, call, store]
      rw [setContent_contents]
      refine outcome.imp (fun same => ⟨same, rfl⟩) fun stored => .inl ⟨true, body, stored, rfl, ?_⟩
      exact fun _ mem => ⟨rfl, mem⟩
  | putAndRecord env a legacy =>
    cases fault : env.putFault with
    | some exc =>
      left
      -- a put that raises ends the call before its record
      have refused : (w.stores.contents path).store legacy env.putFault a.content =
          (.error (.Store exc), w.stores.contents path) := by
        rw [fault]
        cases legacy <;> rfl
      dsimp only [step, call, store, Custos.putAndRecord]
      rw [refused]
      exact ⟨setContent_contents .., rfl⟩
    | none =>
      rcases (putAndRecord_keeping path w.ctx.auditChain w.stores env a legacy).stored_or_same with
        same | stored
      · exact .inl ⟨same, rfl⟩
      · exact .inr (.inl ⟨legacy, a.content, stored, rfl, fun yes mem => ⟨yes, fault, mem⟩⟩)
  | recordDecision env a =>
    rcases recordDecision_store path w.ctx w.stores env a with same | stored
    · exact .inl ⟨same, rfl⟩
    · exact .inr (.inl ⟨false, a.content, stored, rfl, nofun⟩)
  | purge env d clientId reason traceId policyDigest =>
    obtain ⟨w', goes, purging⟩ := w.step_purge path env d clientId reason traceId policyDigest
    rw [goes, markDeleted_store]
    rcases purging.store_cases with same | ⟨row, prior, body, purged, erased⟩
    · exact .inl ⟨same, markDeleted_of_same same⟩
    · exact .inr (.inr ⟨d, prior, by simp [body], purged, erased, markDeleted_of_erased body erased⟩)

/-- Content that comes back is in the store. -/
lemma exists_of_resurrects (path : String) {w : Keeper} {op : ContentOp} (back : Resurrects w op) :
    ∃ d ∈ (w.step path op).deleted, (((w.step path op).store path).bodies d).isSome := by
  cases op with
  | put fault body => cases back
  | recordDecision env a => cases back
  | purge env d clientId reason traceId policyDigest => cases back
  | putLegacy fault body =>
    obtain ⟨rfl, mem⟩ := back
    refine ⟨sha256 body, mem, ?_⟩
    dsimp only [step, call, store]
    rcases store_stored (w.stores.contents path) true none body with ⟨e, eq⟩ | ⟨s', eq, stored⟩
    · cases eq
    · have eq : (w.stores.contents path).putLegacy none body = (.ok (sha256 body), s') := eq
      rw [eq, setContent_contents]
      exact stored.holds
  | putAndRecord env a legacy =>
    obtain ⟨rfl, fault, mem⟩ := back
    refine ⟨sha256 a.content, mem, ?_⟩
    dsimp only [step, call, store, Custos.putAndRecord]
    rw [fault]
    rcases store_stored (w.stores.contents path) true none a.content with ⟨e, eq⟩ | ⟨s', eq, stored⟩
    · cases eq
    · rw [eq]
      dsimp only
      cases env.formFault with
      | some exc =>
        dsimp only
        rw [setContent_contents]
        exact stored.holds
      | none =>
        show (((w.stores.setContent path s').contents path).bodies (sha256 a.content)).isSome
        rw [setContent_contents]
        exact stored.holds

/-- A digest whose body was deleted has a purge's row, and no other has. -/
def Marked (path : String) (w : Keeper) : Prop :=
  ∀ d, d ∈ w.deleted ↔ ((w.store path).purges d).isSome

/-- Every call marks what it deletes. -/
lemma Marked.step {path : String} {w : Keeper} (marked : w.Marked path) (op : ContentOp) :
    (w.step path op).Marked path := by
  intro d
  rcases w.step_store path op with ⟨same, deleted⟩ | ⟨legacy, body, stored, deleted, -⟩ |
    ⟨d', row, body, purged, erased, deleted⟩
  · rw [same, deleted]
    exact marked d
  · rw [stored.purges, deleted]
    exact marked d
  · rw [erased, deleted, List.mem_cons]
    by_cases e : d = d'
    · simp [e]
    · rw [ContentStore.erase_purges_of_ne e, or_iff_right e]
      exact marked d

/-- No purge was undone. -/
def Final (path : String) (w : Keeper) : Prop := ∀ d ∈ w.deleted, Terminal path w d

/-- All deletions are final where no body is back. -/
lemma Marked.final_iff {path : String} {w : Keeper} (marked : w.Marked path) :
    w.Final path ↔ ∀ d ∈ w.deleted, (w.store path).bodies d = none := by
  refine forall₂_congr fun d mem => ?_
  obtain ⟨row, purged⟩ := Option.isSome_iff_exists.1 ((marked d).1 mem)
  exact terminal_iff purged

/-- A call undoes a purge exactly when it offers purged content as legacy content. -/
lemma Marked.final_step_iff {path : String} {w : Keeper} (marked : w.Marked path)
    (final : w.Final path) (op : ContentOp) :
    (w.step path op).Final path ↔ ¬ Resurrects w op := by
  rw [(marked.step op).final_iff]
  rw [marked.final_iff] at final
  refine ⟨fun all back => ?_, fun no d mem => ?_⟩
  · obtain ⟨d, mem, held⟩ := exists_of_resurrects path back
    rw [all d mem] at held
    cases held
  · rcases w.step_store path op with ⟨same, deleted⟩ | ⟨legacy, body, stored, deleted, back⟩ |
      ⟨d', row, body, purged, erased, deleted⟩
    · rw [same]
      exact final d (deleted ▸ mem)
    · rw [deleted] at mem
      obtain ⟨row, purged⟩ := Option.isSome_iff_exists.1 ((marked d).1 mem)
      exact stored.gone purged (final d mem) fun yes e => no (back yes (e ▸ mem))
    · rw [erased]
      by_cases e : d = d'
      · rw [e, ContentStore.erase_bodies_self]
      · rw [ContentStore.erase_bodies_of_ne e]
        rw [deleted, List.mem_cons, or_iff_right e] at mem
        exact final d mem

end Keeper

/-- In every run of calls on a store, what a purge has deleted stays purged exactly when no call offers
content as legacy that was purged. -/
theorem purge_terminal_iff (path : String) (ctx : TenantContext) (audit : AuditTable)
    (ops : List ContentOp) :
    Steps (Keeper.step path) (fun w op => ∀ d ∈ (w.step path op).deleted, Terminal path (w.step path op) d)
        { ctx, stores := { audit } } ops ↔
      Steps (Keeper.step path) (fun w op => ¬ Resurrects w op) { ctx, stores := { audit } } ops := by
  have start : ({ ctx, stores := { audit } } : Keeper).Marked path ∧
      ({ ctx, stores := { audit } } : Keeper).Final path := ⟨fun d => by simp [Keeper.store], nofun⟩
  refine steps_congr (I := fun w : Keeper => w.Marked path ∧ w.Final path) start ?_ ?_ ops
  · rintro w op ⟨marked, final⟩
    exact marked.final_step_iff final op
  · rintro w op ⟨marked, final⟩ no
    exact ⟨marked.step op, (marked.final_step_iff final op).2 no⟩

end

section Sample

def purgeDigests : DigestTable where
  entries := [("x", "2d711642b726b04401627ca9fbac32f5c8530fb1903cc4db02258717921a4881")]
  distinct := by decide
  plain := by decide

local instance purgePlatform : Platform := .reference purgeDigests

def purgeEnv : PurgeEnv where
  environ _ := none
  now := 1700000000
  purgedAt := 1700000000

/-- A tenant without records. -/
def purgeKeeper : Keeper where
  ctx := { tenantId := "acme", policyEngine := .opa { rules := [] }, rateLimiter := {}
           auditChain := ⟨[], some "acme", .InMemoryBackend⟩ }
  stores := { audit := .empty }

def purgeOp : ContentOp :=
  .purge purgeEnv "2d711642b726b04401627ca9fbac32f5c8530fb1903cc4db02258717921a4881" "dpo" "erasure" none none

/-- Purged content that is imported as legacy content is back in the store, and cannot be purged again. -/
theorem legacy_undoes_purge :
    let ops := [ .put none "x", purgeOp, .putLegacy none "x"]
    let w := run (Keeper.step "content-acme.sqlite") purgeKeeper ops
    ¬ Steps (Keeper.step "content-acme.sqlite") (fun w op =>
        ∀ d ∈ (w.step "content-acme.sqlite" op).deleted,
          Terminal "content-acme.sqlite" (w.step "content-acme.sqlite" op) d) purgeKeeper ops ∧
      (w.store "content-acme.sqlite").openBody (sha256 "x") = .ok "x" ∧
      (w.call "content-acme.sqlite" purgeOp).1 = some (.Store ContentStore.purgeViolation) := by
  refine ⟨fun steps => ?_, by decide +kernel, by decide +kernel⟩
  have mem : sha256 "x" ∈ (run (Keeper.step "content-acme.sqlite") purgeKeeper
      [ .put none "x", purgeOp, .putLegacy none "x"]).deleted := by decide +kernel
  have present : ((run (Keeper.step "content-acme.sqlite") purgeKeeper
      [ .put none "x", purgeOp, .putLegacy none "x"]).store "content-acme.sqlite").status (sha256 "x") =
        .STATUS_PRESENT := by decide +kernel
  cases present.symm.trans (steps.2.2.1 _ mem).status

end Sample

end Custos
