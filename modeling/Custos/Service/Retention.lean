import Custos.Library.Path
import Custos.Service.Tenant

/-!
# Content retention

`custos/content_retention.py` and `custos/retention.py`: the side store of a tenant, the purge, and
`record_decision`, through which every decision is recorded. The stores of a process (`Stores`) are the
audit table and the content stores by path, with the arguments of every call of `AuditChain.record` in
the order they were made: no function reads those, they are there to be spoken of.

`recordDecision_outcome` says what recording a decision can do: make one call of `record`, which appends
one record or raises and leaves the chain and the table, or make none.
-/

namespace Custos

def MODE_ENV : String := "CUSTOS_CONTENT_RETENTION"
def STORE_DIR_ENV : String := "CUSTOS_CONTENT_STORE_DIR"
def ADMIN_TOKEN_ENV : String := "CUSTOS_RETENTION_ADMIN_TOKEN"
def MODE_OFF : String := "off"
def MODE_STORE : String := "store"
def MODES : List String := [ MODE_OFF, MODE_STORE ]

/-- `content_retention_mode`. -/
def contentRetentionMode (environ : Environ) : Except Exn String :=
  match environ MODE_ENV with
  | none => .ok MODE_OFF
  | some raw =>
    if strip raw = "" then .ok MODE_OFF
    else
      let value := (strip raw).toLower
      if value ∉ MODES then
        .error (.RetentionConfigRefused
          (MODE_ENV ++ "=" ++ pyRepr raw ++ " is not a retention mode; this build implements " ++
           " and ".intercalate MODES ++ ". Refused rather than defaulted, because " ++
           "guessing here decides whether the service keeps the content it reads"))
      else .ok value

/-- A variable's value without the blanks around it, if there is more than blanks. -/
def stripped (environ : Environ) (name : String) : Option String :=
  present ((environ name).map strip)

/-- `store_directory`. -/
def storeDirectory (environ : Environ) : Option String := stripped environ STORE_DIR_ENV

/-- `admin_token`. -/
def adminToken (environ : Environ) : Option String := stripped environ ADMIN_TOKEN_ENV

/-- `_SAFE_TENANT.match`: an alphanumeric and up to 63 of `A-Za-z0-9._-`, and the `$` of the pattern also
stands before a newline at the end. -/
def safeTenant (tenantId : String) : Bool :=
  let cs := tenantId.toList
  let cs := if cs.getLast? = some '\n' then cs.dropLast else cs
  let alnum := fun c : Char => c.isAlphanum
  match cs with
  | [] => false
  | c :: rest => alnum c && rest.length ≤ 63 && rest.all fun c => alnum c || c ∈ ['.', '_', '-']

def HASHED_PREFIX : String := "t-"
def HASHED_NAME_BYTES : Nat := 16

/-! ## The content store -/

inductive StoreStatus where
  | STATUS_PRESENT
  | STATUS_PURGED
  | STATUS_UNKNOWN
  deriving DecidableEq

/-- A row of `content_bodies`. -/
structure ContentBody where
  marker : String
  body : String
  deriving DecidableEq

/-- A row of `purges`. -/
structure PurgeRow where
  purgedAt : ℚ
  reason : String
  attestationHash : Option String := none
  deriving DecidableEq

/-- `ContentStore`: its two tables by their key, the content hash. -/
structure ContentStore where
  bodies : String → Option ContentBody := fun _ => none
  purges : String → Option PurgeRow := fun _ => none

section

variable [Platform]

/-- `store_path_for`. -/
def storePathFor (directory tenantId : String) : String :=
  let name :=
    if safeTenant tenantId ∧ ¬ HASHED_PREFIX.toList <+: tenantId.toList then
      "content-" ++ tenantId ++ ".sqlite"
    else "content-" ++ HASHED_PREFIX ++ slice (sha256 tenantId) (HASHED_NAME_BYTES * 2) ++ ".sqlite"
  .ofList (Path.join directory.toList name.toList)

/-- `content_store_for`: the path of the tenant's store, none when retention is off. Opening a store may
fail in its engine. -/
def contentStoreFor (environ : Environ) (openFault : Option StoreExc) (tenantId : String) :
    Except Exn (Option String) := do
  let mode ← contentRetentionMode environ
  if mode = MODE_OFF then return none
  match storeDirectory environ with
  | none =>
    .error (.RetentionConfigRefused
      (MODE_ENV ++ "=" ++ MODE_STORE ++ " requires " ++ STORE_DIR_ENV ++ ". A retention mode " ++
       "with nowhere to store content would record bodies it cannot delete"))
  | some directory =>
    match openFault with
    | some exc => .error (.Store exc)
    | none => return some (storePathFor directory tenantId)

namespace ContentStore

omit [Platform] in
/-- `status`. -/
def status (s : ContentStore) (contentHash : String) : StoreStatus :=
  if (s.bodies contentHash).isSome then .STATUS_PRESENT
  else if (s.purges contentHash).isSome then .STATUS_PURGED
  else .STATUS_UNKNOWN

omit [Platform] in
/-- `marker`. -/
def marker (s : ContentStore) (contentHash : String) : String :=
  match s.bodies contentHash with
  | some row => row.marker
  | none => if (s.purges contentHash).isSome then "purged" else "unknown"

omit [Platform] in
/-- `commitment_form`. -/
def commitmentForm (s : ContentStore) (contentHash : String) : String :=
  let marker := s.marker contentHash
  if marker = "salted-v1" then COMMITMENT_SALTED_V1
  else if marker = "unsalted-v0" then COMMITMENT_UNSALTED_V0
  else if marker = "purged" then COMMITMENT_PURGED_V1
  else COMMITMENT_NONE

/-- `put`: a transaction that `fault` makes fail. -/
def put (s : ContentStore) (fault : Option StoreExc) (body : String) :
    Except Exn String × ContentStore :=
  let contentHash := sha256 body
  match fault with
  | some exc => (.error (.Store exc), s)
  | none =>
    if (s.bodies contentHash).isSome then (.ok contentHash, s)
    else
      match s.purges contentHash with
      | some purged =>
        (.error (.ContentPurged
          ("content " ++ slice contentHash 16 ++ " was purged at " ++ dumps (.float purged.purgedAt) ++
           " and will not be stored again; a purge that can be undone by " ++
           "re-offering the same bytes is not a purge")), s)
      | none =>
        (.ok contentHash, { s with
          bodies := Function.update s.bodies contentHash (some ⟨"salted-v1", body⟩) })

/-- `put_legacy`: a body that is there already stays as it is. -/
def putLegacy (s : ContentStore) (fault : Option StoreExc) (body : String) :
    Except Exn String × ContentStore :=
  let contentHash := sha256 body
  match fault with
  | some exc => (.error (.Store exc), s)
  | none =>
    (.ok contentHash,
      if (s.bodies contentHash).isSome then s
      else { s with bodies := Function.update s.bodies contentHash (some ⟨"unsalted-v0", body⟩) })

/-- The first step of `put_and_record`. -/
def store (s : ContentStore) (legacy : Bool) (fault : Option StoreExc) (body : String) :
    Except Exn String × ContentStore :=
  match legacy with
  | true => s.putLegacy fault body
  | false => s.put fault body

omit [Platform] in
/-- The exception of a second purge row of one content hash. -/
def purgeViolation : StoreExc :=
  { typeName := "IntegrityError", text := "UNIQUE constraint failed: purges.content_hash" }

/-- The deletion of `purge`, one transaction: the body it deleted. -/
def deleteBody (s : ContentStore) (fault : Option StoreExc) (now : ℚ) (contentHash reason : String) :
    Except Exn String × ContentStore :=
  match fault with
  | some exc => (.error (.Store exc), s)
  | none =>
    match s.bodies contentHash, s.purges contentHash with
    | some row, none =>
      (.ok row.body,
        { bodies := Function.update s.bodies contentHash none
          purges := Function.update s.purges contentHash (some { purgedAt := now, reason }) })
    -- the row of the first purge stands in the way, and the deletion is rolled back
    | some _, some _ => (.error (.Store purgeViolation), s)
    | none, some prior =>
      (.error (.ContentPurged
        ("content " ++ slice contentHash 16 ++ " was already purged at " ++
         dumps (.float prior.purgedAt))), s)
    | none, none =>
      (.error (.PurgeRefused
        ("no content at " ++ slice contentHash 16 ++ "; a purge of something the " ++
         "store never held would be recorded as a deletion that never " ++ "happened")), s)

/-- `open_body`. -/
def openBody (s : ContentStore) (contentHash : String) : Except Exn String :=
  match s.bodies contentHash, s.purges contentHash with
  | some row, _ => .ok row.body
  | none, some prior =>
    .error (.ContentPurged
      ("content " ++ slice contentHash 16 ++ " was purged at " ++ dumps (.float prior.purgedAt)))
  | none, none => .error (.PurgeRefused ("no content at " ++ slice contentHash 16))

omit [Platform] in
/-- The attestation of a purge. -/
def attest (s : ContentStore) (contentHash recordHash : String) : ContentStore :=
  { s with
    purges := Function.update s.purges contentHash
      ((s.purges contentHash).map fun row => { row with attestationHash := some recordHash }) }

end ContentStore

/-! ## Recording through the stores -/

omit [Platform] in
/-- What a process records to, and the calls of `AuditChain.record` it has made. -/
structure Stores where
  audit : AuditTable
  contents : String → ContentStore := fun _ => {}
  calls : List RecordArgs := []

omit [Platform] in
/-- What recording one decision meets outside. -/
structure DecisionEnv extends RecordEnv where
  openFault : Option StoreExc := none
  putFault : Option StoreExc := none
  formFault : Option StoreExc := none

/-- `AuditChain.record` on the process's table. -/
def AuditChain.recordIn (c : AuditChain) (s : Stores) (env : RecordEnv) (a : RecordArgs) :
    Except Exn AuditRecord × AuditChain × Stores :=
  let (res, c, audit) := c.record s.audit env a
  (res, c, { s with audit, calls := s.calls ++ [a] })

omit [Platform] in
def Stores.setContent (s : Stores) (path : String) (c : ContentStore) : Stores :=
  { s with contents := Function.update s.contents path c }

/-- `put_and_record`, on the store at the path. -/
def putAndRecord (path : String) (chain : AuditChain) (s : Stores) (env : DecisionEnv)
    (a : RecordArgs) (legacy : Bool := false) : Except Exn AuditRecord × AuditChain × Stores :=
  match (s.contents path).store legacy env.putFault a.content with
  | (.error e, store) => (.error e, chain, s.setContent path store)
  | (.ok contentHash, store) =>
    match env.formFault with
    | some exc => (.error (.Store exc), chain, s.setContent path store)
    | none =>
      chain.recordIn (s.setContent path store) env.toRecordEnv
        { a with commitment := store.commitmentForm contentHash }

/-- `record_decision`. A context always names its tenant, so one is always resolved. -/
def recordDecision (ctx : TenantContext) (s : Stores) (env : DecisionEnv) (a : RecordArgs) :
    Except Exn AuditRecord × TenantContext × Stores :=
  let withNone := fun s => ctx.auditChain.recordIn s env.toRecordEnv { a with commitment := COMMITMENT_NONE }
  let (res, auditChain, s) :=
    match contentStoreFor env.environ env.openFault (orElse a.tenantId ctx.tenantId) with
    | .error e => (.error e, ctx.auditChain, s)
    | .ok none => withNone s
    | .ok (some path) =>
      match putAndRecord path ctx.auditChain s env a with
      -- content that was purged is decided and not kept
      | (.error (.ContentPurged _), _, s) => withNone s
      | out => out
  (res, { ctx with auditChain }, s)

omit [Platform] in
/-- What a purge meets outside. -/
structure PurgeEnv extends RecordEnv where
  purgedAt : ℚ
  deleteFault : Option StoreExc := none
  attestFault : Option StoreExc := none

/-- `ContentStore.purge`, on the store at the path: the deletion first, then its record, then the
attestation. -/
def purge (path : String) (chain : AuditChain) (s : Stores) (env : PurgeEnv)
    (contentHash clientId reason : String) (traceId policyDigest : Option String) :
    Except Exn String × AuditChain × Stores :=
  match (s.contents path).deleteBody env.deleteFault env.purgedAt contentHash reason with
  | (.error e, store) => (.error e, chain, s.setContent path store)
  | (.ok body, store) =>
    match chain.recordIn (s.setContent path store) env.toRecordEnv
      { clientId, action := "PURGE", reason, content := body, triggeredRule := some "retention.purge",
        traceId, policyDigest, commitment := COMMITMENT_PURGED_V1 } with
    | (.error e, chain, s) => (.error e, chain, s)
    | (.ok record, chain, s) =>
      if record.contentHash ≠ contentHash then
        (.error (.RuntimeError
          ("the attestation hashed to a different content than the row that was " ++
           "deleted, so the deletion is not attributable to this chain record")), chain, s)
      else
        match env.attestFault with
        | some exc => (.error (.Store exc), chain, s)
        | none =>
          (.ok record.recordHash, chain,
            s.setContent path ((s.contents path).attest contentHash record.recordHash))

/-- What a purge hands to `record`. -/
def purgeArgs (clientId reason : String) (traceId policyDigest : Option String) (body : String) :
    RecordArgs where
  clientId := clientId
  action := "PURGE"
  reason := reason
  content := body
  triggeredRule := some "retention.purge"
  traceId := traceId
  policyDigest := policyDigest
  commitment := COMMITMENT_PURGED_V1

/-! ## What recording a decision does -/

omit [Platform] in
@[simp] lemma setContent_contents (s : Stores) (path : String) (c : ContentStore) :
    (s.setContent path c).contents path = c := Function.update_self ..

omit [Platform] in
@[simp] lemma setContent_audit (s : Stores) (path : String) (c : ContentStore) :
    (s.setContent path c).audit = s.audit := rfl

omit [Platform] in
@[simp] lemma setContent_calls (s : Stores) (path : String) (c : ContentStore) :
    (s.setContent path c).calls = s.calls := rfl

/-- The record was appended by a call with these arguments and this commitment form, and the backend
saved it: the table is now `t`. -/
structure Wrote (c : AuditChain) (audit : AuditTable) (env : RecordEnv) (a : RecordArgs)
    (r : AuditRecord) (t : AuditTable) : Prop where
  admissible : c.Admissible env.environ a
  entry : c.IsEntry env.now a r
  saved : c.backend.save env.fault audit r = (.ok (), t)

/-- What recording comes to for the chain and the stores. Where it is not ready to call `record`, no call
is made; else one call is made, with some commitment form, and it raises or appends one record. -/
inductive Recording (ready : Prop) (c : AuditChain) (s : Stores) (env : RecordEnv) (a : RecordArgs) :
    AuditChain → Stores → Prop
  | untried (s' : Stores) : ¬ ready → s'.audit = s.audit → s'.calls = s.calls →
      Recording ready c s env a c s'
  | refused (form : String) (s' : Stores) : ready → form ∈ COMMITMENT_FORMS →
      (∃ e, (c.record s.audit env { a with commitment := form }).1 = .error e) →
      s'.audit = s.audit → s'.calls = s.calls ++ [{ a with commitment := form }] →
      Recording ready c s env a c s'
  | written (form : String) (r : AuditRecord) (s' : Stores) : ready →
      Wrote c s.audit env { a with commitment := form } r s'.audit →
      s'.calls = s.calls ++ [{ a with commitment := form }] →
      Recording ready c s env a { c with records := c.records ++ [r] } s'

/-- The same with the result: the record appended, or an exception. -/
def RecordOutcome (ready : Prop) (c : AuditChain) (s : Stores) (env : RecordEnv) (a : RecordArgs)
    (out : Except Exn AuditRecord × AuditChain × Stores) : Prop :=
  Recording ready c s env a out.2.1 out.2.2 ∧
    ((∃ e, out.1 = .error e) ∧ out.2.1 = c ∨
      ∃ r, out.1 = .ok r ∧ out.2.1 = { c with records := c.records ++ [r] })

/-- What recording reads of the stores is their table and their calls. -/
lemma Recording.of_stores {ready : Prop} {c c' : AuditChain} {s₁ s₂ s' : Stores} {env : RecordEnv}
    {a : RecordArgs} (audit : s₁.audit = s₂.audit) (calls : s₁.calls = s₂.calls)
    (h : Recording ready c s₁ env a c' s') : Recording ready c s₂ env a c' s' := by
  cases h with
  | untried _ no same kept => exact .untried _ no (audit ▸ same) (calls ▸ kept)
  | refused form _ yes known err same one =>
    exact .refused form _ yes known (audit ▸ err) (audit ▸ same) (calls ▸ one)
  | written form r _ yes wrote one => exact .written form r _ yes (audit ▸ wrote) (calls ▸ one)

/-- Where it is ready, carries what evidence is asked for and the chain takes the entry, the call writes it. -/
lemma Recording.written_of_takes {ready : Prop} {c c' : AuditChain} {s s' : Stores} {env : RecordEnv}
    {a : RecordArgs} {own : String} (h : Recording ready c s env a c' s') (yes : ready)
    (scope : c.tenantId = some own) (tenant : a.tenantId = none ∨ a.tenantId = some own)
    (evidence : boundEvidenceRequired env.environ → AuditChain.missingEvidence a = [])
    (takes : c.Takes s.audit env) :
    ∃ form r, Wrote c s.audit env { a with commitment := form } r s'.audit ∧
      c' = { c with records := c.records ++ [r] } ∧ s'.calls = s.calls ++ [{ a with commitment := form }] := by
  cases h with
  | untried _ no => exact absurd yes no
  | refused form _ _ known err _ _ =>
    -- the arguments pass every check, so `record` does not raise
    have resolves : ∃ id, c.resolveTenant a.tenantId = .ok id := by
      rcases tenant with e | e
      · exact ⟨_, by rw [e]; rfl⟩
      · exact ⟨some own, by simp [e, AuditChain.resolveTenant, scope]⟩
    have adm : c.Admissible env.environ { a with commitment := form } := ⟨known, resolves, evidence⟩
    obtain ⟨r, ok⟩ := (AuditChain.record_ok_iff scope adm).2 takes
    obtain ⟨e, raised⟩ := err
    rw [ok] at raised
    cases raised
  | written form r _ _ wrote one => exact ⟨form, r, wrote, rfl, one⟩

/-- A record of a known form is made or refused. -/
lemma recordIn_outcome {ready : Prop} (yes : ready) (c : AuditChain) (s : Stores) (env : RecordEnv)
    (a : RecordArgs) {form : String} (known : form ∈ COMMITMENT_FORMS) :
    RecordOutcome ready c s env a (c.recordIn s env { a with commitment := form }) := by
  unfold AuditChain.recordIn
  rcases c.record_cases s.audit env { a with commitment := form } with
    ⟨e, he⟩ | ⟨r, t', adm, ent, save, he⟩
  · rw [he]
    exact ⟨.refused form _ yes known ⟨e, by rw [he]⟩ rfl rfl, .inl ⟨⟨e, rfl⟩, rfl⟩⟩
  · rw [he]
    exact ⟨.written form r _ yes ⟨adm, ent, save⟩ rfl, .inr ⟨r, rfl, rfl⟩⟩

omit [Platform] in
/-- The form of a content is known. -/
lemma commitmentForm_mem (s : ContentStore) (contentHash : String) :
    s.commitmentForm contentHash ∈ COMMITMENT_FORMS := by
  unfold ContentStore.commitmentForm COMMITMENT_FORMS
  dsimp only
  split_ifs <;> simp

omit [Platform] in
/-- Saving does not find content purged. -/
lemma save_ne_contentPurged (b : Backend) (fault : Option StoreExc) (t : AuditTable) (r : AuditRecord)
    (msg : String) : (b.save fault t r).1 ≠ .error (.ContentPurged msg) := by
  cases b with
  | InMemoryBackend => nofun
  | SQLiteBackend =>
    refine tableSave_ne (fun exc => ?_) sqliteUnique fault t r
    unfold sqliteRaise
    split_ifs <;> nofun
  | PostgreSQLBackend =>
    refine tableSave_ne (fun exc => ?_) postgresUnique fault t r
    unfold postgresRaise
    dsimp only
    split_ifs <;> nofun

omit [Platform] in
lemma resolveTenant_ne_contentPurged (c : AuditChain) (id : Option String) (msg : String) :
    c.resolveTenant id ≠ .error (.ContentPurged msg) := by
  unfold AuditChain.resolveTenant
  cases id with
  | none => nofun
  | some id =>
    cases c.tenantId with
    | none => nofun
    | some own =>
      dsimp only
      split_ifs <;> nofun

/-- The exceptions of `record` are not those of a content store. -/
lemma record_ne_contentPurged (c : AuditChain) (t : AuditTable) (env : RecordEnv) (a : RecordArgs)
    (msg : String) : (c.record t env a).1 ≠ .error (.ContentPurged msg) := by
  by_cases adm : c.Admissible env.environ a
  · obtain ⟨r, -, eq⟩ := AuditChain.record_of_admissible adm
    have save := save_ne_contentPurged c.backend env.fault t r msg
    rw [eq t]
    cases h : c.backend.save env.fault t r with
    | mk res t' =>
      rw [h] at save
      cases res with
      | error e => exact fun same => save (congrArg _ (Except.error.inj same))
      | ok => nofun
  · -- every check before the save raises a value error
    unfold AuditChain.record
    by_cases form : a.commitment ∈ COMMITMENT_FORMS
    · rw [if_neg (not_not.2 form)]
      cases hid : c.resolveTenant a.tenantId with
      | error e =>
        have tenant := resolveTenant_ne_contentPurged c a.tenantId msg
        rw [hid] at tenant
        exact fun same => tenant (congrArg _ (Except.error.inj same))
      | ok id =>
        have evidence : boundEvidenceRequired env.environ ∧ AuditChain.missingEvidence a ≠ [] := by
          by_contra h
          exact adm ⟨form, ⟨id, hid⟩, fun hb => by_contra fun hm => h ⟨hb, hm⟩⟩
        dsimp only
        rw [if_pos evidence]
        nofun
    · rw [if_pos form]
      nofun

/-- The content of a decision is where retention wants it, or does not keep the decision from being
recorded. -/
def ContentReady (ctx : TenantContext) (s : Stores) (env : DecisionEnv) (tenantId : Option String)
    (content : String) : Prop :=
  match contentStoreFor env.environ env.openFault (orElse tenantId ctx.tenantId) with
  | .error _ => False
  | .ok none => True
  | .ok (some path) =>
    match ((s.contents path).put env.putFault content).1 with
    | .error (.ContentPurged _) => True
    | .error _ => False
    | .ok _ => env.formFault = none

/-- Without retention no content keeps a decision from being recorded. -/
lemma contentReady_of_off {ctx : TenantContext} {s : Stores} {env : DecisionEnv}
    {tenantId : Option String} {content : String}
    (off : contentStoreFor env.environ env.openFault (orElse tenantId ctx.tenantId) = .ok none) :
    ContentReady ctx s env tenantId content := by
  unfold ContentReady
  rw [off]
  trivial

/-- Recording a decision makes one call of `record` where its content is ready for it, and none
elsewhere. -/
theorem recordDecision_outcome (ctx : TenantContext) (s : Stores) (env : DecisionEnv)
    (a : RecordArgs) :
    ∃ out, RecordOutcome (ContentReady ctx s env a.tenantId a.content) ctx.auditChain s
        env.toRecordEnv a out ∧
      recordDecision ctx s env a = (out.1, { ctx with auditChain := out.2.1 }, out.2.2) := by
  unfold recordDecision ContentReady
  cases contentStoreFor env.environ env.openFault (orElse a.tenantId ctx.tenantId) with
  | error e =>
    exact ⟨(.error e, ctx.auditChain, s), ⟨.untried s nofun rfl rfl, .inl ⟨⟨e, rfl⟩, rfl⟩⟩, rfl⟩
  | ok path =>
    cases path with
    | none => exact ⟨_, recordIn_outcome trivial ctx.auditChain s env.toRecordEnv a none_mem_forms, rfl⟩
    | some path =>
      dsimp only [putAndRecord, ContentStore.store]
      cases put : (s.contents path).put env.putFault a.content with
      | mk res store =>
        cases res with
        | error e =>
          -- only content that was purged is recorded all the same
          by_cases purged : ∃ msg, e = .ContentPurged msg
          · obtain ⟨msg, rfl⟩ := purged
            obtain ⟨rec, cases⟩ := recordIn_outcome trivial ctx.auditChain (s.setContent path store)
              env.toRecordEnv a none_mem_forms
            refine ⟨_, ⟨?_, cases⟩, rfl⟩
            exact rec.of_stores (setContent_audit s path store) (setContent_calls s path store)
          · refine ⟨(.error e, ctx.auditChain, s.setContent path store), ⟨.untried _ ?_ rfl rfl, .inl
              ⟨⟨e, rfl⟩, rfl⟩⟩, ?_⟩
            · cases e with
              | ContentPurged msg => exact absurd ⟨msg, rfl⟩ purged
              | _ => exact not_false
            · cases e with
              | ContentPurged msg => exact absurd ⟨msg, rfl⟩ purged
              | _ => rfl
        | ok contentHash =>
          cases form : env.formFault with
          | some exc =>
            exact ⟨(.error (.Store exc), ctx.auditChain, s.setContent path store),
              ⟨.untried _ nofun rfl rfl, .inl ⟨⟨_, rfl⟩, rfl⟩⟩, rfl⟩
          | none =>
            have ready : (none : Option StoreExc) = none := rfl
            obtain ⟨rec, cases⟩ := recordIn_outcome ready ctx.auditChain (s.setContent path store)
              env.toRecordEnv a (commitmentForm_mem store contentHash)
            refine ⟨_, ⟨?_, cases⟩, ?_⟩
            · exact rec.of_stores (setContent_audit s path store) (setContent_calls s path store)
            · -- an exception of `record` is none of the content store's
              have other := record_ne_contentPurged ctx.auditChain (s.setContent path store).audit
                env.toRecordEnv { a with commitment := store.commitmentForm contentHash }
              dsimp only
              split
              · rename_i msg _ _ h
                exact absurd (congrArg Prod.fst h) (other msg)
              · rfl

end

end Custos
