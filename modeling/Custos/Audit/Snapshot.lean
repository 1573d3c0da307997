import Custos.Audit.Writers
import Custos.Library.JsonRead
import Custos.Library.Run

/-!
# Decision snapshots

`custos/snapshot.py`: a snapshot is put together from four reads of the chain, the last two of its latest
hash, one for the payload that is signed and one for the result. Each read is atomic, and the chain may grow
between them. `Generating` is a generator between two reads.

`Faithful` is the invariant: what has been read so far is still true of the chain. Growth keeps it unless it is
within the range after the records were read, or between the two readings of the latest hash
(`step_faithful`), so `snapshot_sound` needs nothing else of the interleaving.
-/

namespace Custos

section

variable [Platform]

/-- `AuditRecord.to_dict`. -/
def AuditRecord.toDict (r : AuditRecord) : Json :=
  .obj
    [("timestamp", .float r.timestamp), ("client_id", .str r.clientId), ("action", .str r.action),
     ("triggered_rule", .ofOption r.triggeredRule), ("reason", .str r.reason),
     ("content_hash", .str r.contentHash), ("record_hash", .str r.recordHash),
     ("previous_hash", .str r.previousHash), ("trace_id", .ofOption r.traceId),
     ("policy_digest", .ofOption r.policyDigest), ("tenant_id", .ofOption r.tenantId),
     ("binding_version", (r.bindingVersion.map Json.int).getD .null), ("commitment", .ofOption r.commitment)]

/-- `SnapshotResult`. -/
structure SnapshotResult where
  generatedAt : ℚ
  startTime : Option ℚ
  endTime : ℚ
  recordCount : Nat
  records : List Json
  chainValid : Bool
  chainVerificationReason : String
  latestHash : String
  snapshotHash : String

namespace SnapshotResult

/-- The fields that are signed. -/
def payload (s : SnapshotResult) : List (String × Json) :=
  [("generated_at", .float s.generatedAt), ("start_time", (s.startTime.map Json.float).getD .null),
   ("end_time", .float s.endTime), ("record_count", .int s.recordCount), ("records", .arr s.records),
   ("chain_valid", .bool s.chainValid), ("chain_verification_reason", .str s.chainVerificationReason),
   ("latest_hash", .str s.latestHash)]

/-- `to_dict`. -/
def toDict (s : SnapshotResult) : List (String × Json) :=
  s.payload ++ [("snapshot_hash", .str s.snapshotHash)]

end SnapshotResult

namespace SnapshotEngine

/-- `_sign`. -/
def sign (payload : List (String × Json)) : String := sha256 (dumpsSorted (.obj payload))

/-- `verify_snapshot`. -/
def verifySnapshot (snapshot : List (String × Json)) : Bool × String :=
  let storedHash := (snapshot.lookup "snapshot_hash").getD .null
  if ¬ storedHash.truthy then (false, "No snapshot_hash present")
  else
    let expectedHash := sign (snapshot.filter (·.1 ≠ "snapshot_hash"))
    match storedHash with
    | .str s =>
      if s ≠ expectedHash then (false, "Snapshot hash mismatch — snapshot may have been tampered with")
      else (true, "OK")
    | _ => (false, "Snapshot hash mismatch — snapshot may have been tampered with")

omit [Platform] in
/-- `_in_range`. -/
def inRange (timestamp : ℚ) (start : Option ℚ) (stop : ℚ) : Bool :=
  if start.any (timestamp < ·) then false
  else if timestamp > stop then false
  else true

end SnapshotEngine

open SnapshotEngine

/-! ## A generator among appends -/

/-- The arguments of `generate`. -/
structure SnapshotRange where
  startTime : Option ℚ := none
  endTime : Option ℚ := none

/-- What the first read of `generate` leaves. -/
structure Selected where
  generatedAt : ℚ
  endTime : ℚ
  records : List Json

/-- A generator between two of its reads, or at its end. A result that is signed lacks its own reading of the
latest hash; it holds the one that was signed. -/
inductive Generating where
  | start
  | recorded (sel : Selected)
  | verified (sel : Selected) (chainValid : Bool) (chainReason : String)
  | signed (s : SnapshotResult)
  | done (s : SnapshotResult)
  | raised (e : Exn)

omit [Platform] in
/-- The dicts of a chain's records in a range. -/
def AuditChain.select (c : AuditChain) (start : Option ℚ) (stop : ℚ) : List Json :=
  (c.records.filter fun r => inRange r.timestamp start stop).map AuditRecord.toDict

/-- The next read of `generate`, with what stands before the one after. -/
def Generating.next (range : SnapshotRange) (now : ℚ) (c : AuditChain) : Generating → Generating
  | .start =>
    let effectiveEnd := range.endTime.getD now
    .recorded { generatedAt := now, endTime := effectiveEnd, records := c.select range.startTime effectiveEnd }
  | .recorded sel =>
    match c.verify with
    | .error e => .raised e
    | .ok (chainValid, chainReason) => .verified sel chainValid chainReason
  | .verified sel chainValid chainReason =>
    let s : SnapshotResult :=
      { generatedAt := sel.generatedAt, startTime := range.startTime, endTime := sel.endTime
        recordCount := sel.records.length, records := sel.records, chainValid
        chainVerificationReason := chainReason, latestHash := c.latestHash, snapshotHash := "" }
    .signed { s with snapshotHash := sign s.payload }
  | .signed s => .done { s with latestHash := c.latestHash }
  | g => g

/-- A chain and its table with a generator at work, and the states the chain has been in. -/
structure Snapshotting where
  chain : AuditChain
  audit : AuditTable
  generator : Generating := .start
  seen : List AuditChain := [chain]

/-- An append to the chain, or the generator's next read; the clock is the generator's at its start. -/
inductive SnapshotEvent where
  | append (env : RecordEnv) (a : RecordArgs)
  | read (now : ℚ)

/-! ## What a snapshot says of the chain -/

/-- The snapshot describes one state of the chain. -/
structure SnapshotResult.Describes (s : SnapshotResult) (c : AuditChain) : Prop where
  records : s.records = c.select s.startTime s.endTime
  recordCount : s.recordCount = (c.select s.startTime s.endTime).length
  latestHash : s.latestHash = c.latestHash
  chainValid : s.chainValid = true ↔ c.Verified

/-- A snapshot's own dict verifies exactly when its hash is that of its fields. -/
lemma verifySnapshot_toDict (s : SnapshotResult) :
    verifySnapshot s.toDict = (true, "OK") ↔ s.snapshotHash ≠ "" ∧ s.snapshotHash = sign s.payload := by
  have stored : s.toDict.lookup "snapshot_hash" = some (.str s.snapshotHash) := rfl
  have fields : s.toDict.filter (·.1 ≠ "snapshot_hash") = s.payload := rfl
  unfold verifySnapshot
  rw [stored, fields]
  dsimp only [Option.getD_some]
  by_cases empty : s.snapshotHash = ""
  · simp [empty, Json.truthy]
  · by_cases same : s.snapshotHash = sign s.payload
    · simp [empty, Json.truthy, ← same]
    · simp [empty, Json.truthy, same]

omit [Platform] in
/-- The fields of the payload are told apart. -/
lemma payload_keys (s : SnapshotResult) : (s.payload.map Prod.fst).Nodup := by
  show ["generated_at", "start_time", "end_time", "record_count", "records", "chain_valid",
    "chain_verification_reason", "latest_hash"].Nodup
  decide

/-- A snapshot whose latest hash is read anew after it was signed verifies only if the hash is the same. -/
theorem verifySnapshot_reread (cf : CollisionFree) {s : SnapshotResult} (signed : s.snapshotHash = sign s.payload)
    {latestHash : String} (ok : verifySnapshot { s with latestHash }.toDict = (true, "OK")) :
    latestHash = s.latestHash := by
  have same := ((verifySnapshot_toDict _).1 ok).2
  have texts := cf.dumps (cf.sha256 (signed.symm.trans same))
  have values := Json.lookup_eq_of_sortKeys_eq (payload_keys s) texts "latest_hash"
  have hashes : (some (Json.str s.latestHash)).map Json.sortKeys = (some (Json.str latestHash)).map Json.sortKeys :=
    values
  simpa [Json.sortKeys] using hashes.symm

/-! ## What an append leaves of the chain -/

namespace AuditChain

/-- A record from outside the range changes nothing of it. -/
lemma select_append {c : AuditChain} {now : ℚ} {a : RecordArgs} {r : AuditRecord} (ent : IsEntry c now a r)
    {start : Option ℚ} {stop : ℚ} (outside : inRange now start stop = false) :
    select { c with records := c.records ++ [r] } start stop = c.select start stop := by
  have timestamp : r.timestamp = now := by
    obtain ⟨id, -, e⟩ := ent.eq
    rw [e]
    rfl
  unfold select
  dsimp only
  rw [List.filter_append, List.filter_singleton, timestamp, outside]
  simp

/-- A chain that has grown verifies exactly when it did before. -/
lemma verified_append {c : AuditChain} {now : ℚ} {a : RecordArgs} {r : AuditRecord} (ent : IsEntry c now a r) :
    Verified { c with records := c.records ++ [r] } ↔ c.Verified := by
  rw [verified_iff_linked, verified_iff_linked]
  exact ⟨fun linked => (recordLink.linked_append.1 linked).1, ent.linked⟩

/-- `verify` never raises. -/
lemma verifyFrom_ok (i : Nat) (p : String) (rs : List AuditRecord) : ∃ out, verifyFrom i p rs = .ok out := by
  induction rs generalizing i p with
  | nil => exact ⟨_, rfl⟩
  | cons r rs ih =>
    unfold verifyFrom
    split
    · exact ⟨_, rfl⟩
    · split
      · exact ⟨_, rfl⟩
      · rename_i _ implemented
        obtain ⟨h, e⟩ := computeRecordHash_ok (not_lt.1 implemented) p
        rw [e]
        dsimp only [bind, Except.bind]
        split
        · exact ⟨_, rfl⟩
        · exact ih ..

/-- What `verify` answers of a chain. -/
lemma verify_spec (c : AuditChain) : ∃ valid reason, c.verify = .ok (valid, reason) ∧ (valid = true ↔ c.Verified) := by
  obtain ⟨⟨valid, reason⟩, out⟩ : ∃ out, c.verify = .ok out := by
    unfold verify
    split
    · exact ⟨_, rfl⟩
    · exact verifyFrom_ok ..
  refine ⟨valid, reason, out, ?_⟩
  unfold Verified
  rw [out]
  constructor
  · rintro rfl
    exact ⟨reason, rfl⟩
  · rintro ⟨msg, same⟩
    exact congrArg Prod.fst (Except.ok.inj same)

end AuditChain

/-! ## Runs -/

/-- What has been read so far is true of the chain, and what was read to the end of one of its states. -/
def Generating.Faithful (range : SnapshotRange) (c : AuditChain) (seen : List AuditChain) : Generating → Prop
  | .recorded sel => sel.records = c.select range.startTime sel.endTime
  | .verified sel valid _ =>
    sel.records = c.select range.startTime sel.endTime ∧ (valid = true ↔ c.Verified)
  | .signed s => s.Describes c ∧ s.snapshotHash = sign s.payload
  | .done s => (∃ c ∈ seen, s.Describes c) ∧ s.snapshotHash = sign s.payload
  | .start | .raised _ => True

/-- A read of the chain keeps what was read faithful. -/
lemma Generating.next_faithful {range : SnapshotRange} {c : AuditChain} {seen : List AuditChain} (now : ℚ)
    {g : Generating} (current : c ∈ seen) (faithful : g.Faithful range c seen) :
    (g.next range now c).Faithful range c seen := by
  cases g with
  | start => exact rfl
  | recorded sel =>
    obtain ⟨valid, reason, verify, iff⟩ := c.verify_spec
    unfold next
    dsimp only
    rw [verify]
    exact ⟨faithful, iff⟩
  | verified sel valid reason =>
    obtain ⟨records, iff⟩ := faithful
    exact ⟨⟨records, congrArg List.length records, rfl, iff⟩, rfl⟩
  | signed s =>
    obtain ⟨describes, signature⟩ := faithful
    have same : { s with latestHash := c.latestHash } = s := by rw [← describes.latestHash]
    show Faithful range c seen (.done { s with latestHash := c.latestHash })
    rw [same]
    exact ⟨⟨c, current, describes⟩, signature⟩
  | done s => exact faithful
  | raised e => trivial

/-- More that was seen keeps it faithful. -/
lemma Generating.Faithful.remember {range : SnapshotRange} {c : AuditChain} {seen : List AuditChain}
    {g : Generating} (faithful : g.Faithful range c seen) (c' : AuditChain) : g.Faithful range c (c' :: seen) := by
  cases g with
  | done s =>
    obtain ⟨⟨c'', mem, describes⟩, signature⟩ := faithful
    exact ⟨⟨c'', .tail _ mem, describes⟩, signature⟩
  | start => trivial
  | recorded sel => exact faithful
  | verified sel valid reason => exact faithful
  | signed s => exact faithful
  | raised e => trivial

/-- The clock's reading is where an append would show: in the range, once the records are read, and at any
time between the two readings of the latest hash. -/
def Generating.Shows (range : SnapshotRange) (now : ℚ) : Generating → Prop
  | .recorded sel | .verified sel _ _ => inRange now range.startTime sel.endTime = true
  | .signed _ => True
  | .start | .done _ | .raised _ => False

/-- A record that does not show keeps it faithful. -/
lemma Generating.grown_faithful {range : SnapshotRange} {c : AuditChain} {seen : List AuditChain} {now : ℚ}
    {a : RecordArgs} {r : AuditRecord} (ent : c.IsEntry now a r) {g : Generating}
    (faithful : g.Faithful range c seen) (hidden : ¬ g.Shows range now) :
    g.Faithful range { c with records := c.records ++ [r] } seen := by
  cases g with
  | start => trivial
  | recorded sel => exact faithful.trans (AuditChain.select_append ent (Bool.eq_false_iff.2 hidden)).symm
  | verified sel valid reason =>
    obtain ⟨records, iff⟩ := faithful
    exact ⟨records.trans (AuditChain.select_append ent (Bool.eq_false_iff.2 hidden)).symm,
      iff.trans (AuditChain.verified_append ent).symm⟩
  | signed s => exact absurd trivial hidden
  | done s => exact faithful
  | raised e => trivial

namespace Snapshotting

def step (range : SnapshotRange) (w : Snapshotting) : SnapshotEvent → Snapshotting
  | .append env a =>
    let (_, chain, audit) := w.chain.record w.audit env a
    { w with chain, audit, seen := chain :: w.seen }
  | .read now => { w with generator := w.generator.next range now w.chain }

def Faithful (range : SnapshotRange) (w : Snapshotting) : Prop :=
  w.chain ∈ w.seen ∧ w.generator.Faithful range w.chain w.seen

/-- An append that succeeds while a snapshot is put together is out of its range, and not between the two
readings of the latest hash. -/
def Quiet (range : SnapshotRange) (w : Snapshotting) : SnapshotEvent → Prop
  | .append env a => (∃ r, (w.chain.record w.audit env a).1 = .ok r) → ¬ w.generator.Shows range env.now
  | .read _ => True

/-- A quiet event keeps the snapshots faithful. -/
lemma step_faithful {range : SnapshotRange} {w : Snapshotting} (faithful : w.Faithful range)
    {event : SnapshotEvent} (quiet : w.Quiet range event) : (w.step range event).Faithful range := by
  obtain ⟨current, faithful⟩ := faithful
  cases event with
  | append env a =>
    unfold step
    unfold Quiet at quiet
    dsimp only at quiet ⊢
    rcases w.chain.record_cases w.audit env a with ⟨e, eq⟩ | ⟨r, t', -, ent, -, eq⟩
    · rw [eq]
      exact ⟨.head _, faithful.remember _⟩
    · rw [eq] at quiet ⊢
      exact ⟨.head _, (Generating.grown_faithful ent faithful (quiet ⟨r, rfl⟩)).remember _⟩
  | read now => exact ⟨current, Generating.next_faithful now current faithful⟩

/-- What an append that succeeds leaves. -/
lemma step_append {range : SnapshotRange} {w : Snapshotting} {env : RecordEnv} {a : RecordArgs}
    {res : Except Exn AuditRecord} {chain : AuditChain} {audit : AuditTable}
    (eq : w.chain.record w.audit env a = (res, chain, audit)) :
    w.step range (.append env a) = { w with chain, audit, seen := chain :: w.seen } := by
  show (match w.chain.record w.audit env a with
    | (_, chain, audit) => ({ w with chain, audit, seen := chain :: w.seen } : Snapshotting)) = _
  rw [eq]

/-- Once the records are read, three more reads finish the snapshot. -/
lemma finish_of_recorded (range : SnapshotRange) {w : Snapshotting} {sel : Selected}
    (recorded : w.generator = .recorded sel) (now : ℚ) :
    ∃ s, run (step range) w [ .read now, .read now, .read now] = { w with generator := .done s } ∧
      s.recordCount = sel.records.length ∧ s.startTime = range.startTime ∧ s.endTime = sel.endTime ∧
      s.latestHash = w.chain.latestHash := by
  obtain ⟨valid, reason, verify, -⟩ := w.chain.verify_spec
  have read : w.step range (.read now) = { w with generator := .verified sel valid reason } := by
    unfold step Generating.next
    rw [recorded]
    dsimp only
    rw [verify]
  rw [run_cons, read]
  exact ⟨_, rfl, rfl, rfl, rfl, rfl⟩

/-- A snapshot that is finished verifies and describes one state of the chain. -/
def Sound (w : Snapshotting) : Prop :=
  ∀ s, w.generator = .done s → verifySnapshot s.toDict = (true, "OK") ∧ ∃ c ∈ w.seen, s.Describes c

/-- Whatever is appended quietly while a snapshot is put together, the snapshot is sound. -/
theorem snapshot_sound (digest : ∀ s : String, sha256 s ≠ "") (range : SnapshotRange) (chain : AuditChain)
    (audit : AuditTable) (events : List SnapshotEvent)
    (quiet : Steps (step range) (Quiet range) { chain, audit } events) :
    (run (step range) { chain, audit } events).Sound := by
  intro s finished
  have init : Faithful range { chain, audit } := ⟨.head _, trivial⟩
  have faithful := (run_invariant_of_steps _ init (fun _ _ faithful => step_faithful faithful) quiet).2
  rw [finished] at faithful
  obtain ⟨state, signature⟩ := faithful
  refine ⟨(verifySnapshot_toDict s).2 ⟨?_, signature⟩, state⟩
  rw [signature]
  exact digest _

end Snapshotting

end

section Sample

open Snapshotting

/-- The digests of a chain's one record and of the snapshots of the samples. -/
def snapshotDigests : DigestTable where
  entries := sampleDigests.entries ++
    [("\x7b\"chain_valid\": true, \"chain_verification_reason\": \"OK\", " ++
      "\"end_time\": 1600000000.0, \"generated_at\": 1700000000.0, " ++
      "\"latest_hash\": \"29bebed3c4ccc5d7a01d5781f84b868d2d8a87c8fd742b19e0a5824182f3140b\", " ++
      "\"record_count\": 0, \"records\": [], \"start_time\": null\x7d",
      "55518a3095bb289ab31f3b9f9cb6687305bdcee55db71048275e5984732df822"),
     ("\x7b\"chain_valid\": true, \"chain_verification_reason\": \"Empty chain -- OK\", " ++
      "\"end_time\": 1700000000.0, \"generated_at\": 1700000000.0, " ++
      "\"latest_hash\": \"0000000000000000000000000000000000000000000000000000000000000000\", " ++
      "\"record_count\": 0, \"records\": [], \"start_time\": null\x7d",
      "481caf244da4221a09da6557f056ffcedb534a2a9fbe76910dd593a34f40e90b"),
     ("\x7b\"chain_valid\": true, \"chain_verification_reason\": \"Empty chain -- OK\", " ++
      "\"end_time\": 1700000000.0, \"generated_at\": 1700000000.0, " ++
      "\"latest_hash\": \"29bebed3c4ccc5d7a01d5781f84b868d2d8a87c8fd742b19e0a5824182f3140b\", " ++
      "\"record_count\": 0, \"records\": [], \"start_time\": null\x7d",
      "3f243c922d49acabb575a00fe54d8563d47dd892268ef99cfc7dd5771504673c"),
     ("\x7b\"chain_valid\": true, \"chain_verification_reason\": \"OK\", " ++
      "\"end_time\": 1700000000.0, \"generated_at\": 1700000000.0, " ++
      "\"latest_hash\": \"29bebed3c4ccc5d7a01d5781f84b868d2d8a87c8fd742b19e0a5824182f3140b\", " ++
      "\"record_count\": 0, \"records\": [], \"start_time\": null\x7d",
      "d08af689afc65ca6b34781efe8b3eb267a7f985ad8881eec0feae6b30cdeea7c")]
  distinct := by decide +kernel
  plain := by decide +kernel

local instance snapshotPlatform : Platform := .reference snapshotDigests

lemma snapshotDigests_ne_empty (s : String) : sha256 s ≠ "" :=
  snapshotDigests.digest_ne (by decide +kernel) (by decide) s

lemma snapshotDigests_ne_genesis (s : String) : sha256 s ≠ GENESIS_HASH :=
  snapshotDigests.digest_ne (by decide +kernel) (by decide +kernel) s

/-- An empty chain. -/
def emptyChain : Snapshotting := { chain := ⟨[], some "acme", .InMemoryBackend⟩, audit := .empty }

/-- An append out of the range, while the snapshot is put together. -/
theorem snapshot_sound_sample :
    (run (step { endTime := some 1600000000 }) emptyChain
      [ .read 1700000000, .append sampleEnv sampleArgs, .read 0, .read 0, .read 0]).Sound := by
  refine snapshot_sound snapshotDigests_ne_empty _ ⟨[], some "acme", .InMemoryBackend⟩ .empty _
    ⟨trivial, fun _ => ?_, trivial, trivial, trivial, trivial⟩
  show ¬ SnapshotEngine.inRange 1700000000 none 1600000000 = true
  norm_num [SnapshotEngine.inRange]

/-- The empty chain takes the sample's record, which does not have the hash of an empty chain. -/
lemma sample_taken (range : SnapshotRange) {w : Snapshotting} (chain : w.chain = emptyChain.chain)
    (audit : w.audit = .empty) : ∃ r, r.timestamp = 1700000000 ∧ r.recordHash ≠ GENESIS_HASH ∧
      w.step range (.append sampleEnv sampleArgs) =
        { w with chain := ⟨[r], some "acme", .InMemoryBackend⟩
                 seen := ⟨[r], some "acme", .InMemoryBackend⟩ :: w.seen } := by
  have admissible : emptyChain.chain.Admissible sampleEnv.environ sampleArgs :=
    ⟨by decide, ⟨some "acme", rfl⟩, fun required => absurd required (by decide +kernel)⟩
  obtain ⟨r, ent, eq⟩ := AuditChain.record_of_admissible admissible
  obtain ⟨id, -, e⟩ := ent.eq
  obtain ⟨f, -, hash⟩ := computeRecordHash_eq_ok.1 ent.hash
  refine ⟨r, by rw [e]; rfl, hash ▸ snapshotDigests_ne_genesis _, ?_⟩
  rw [← chain] at eq
  rw [step_append (eq w.audit), chain, audit]
  rfl

/-- The snapshot of the empty chain, signed. -/
lemma emptyChain_signed : ∃ s, s.latestHash = GENESIS_HASH ∧ s.snapshotHash = SnapshotEngine.sign s.payload ∧
    run (step {}) emptyChain [ .read 1700000000, .read 0, .read 0] =
      { emptyChain with generator := .signed s } := by
  obtain ⟨s, reads⟩ : ∃ s, run (step {}) emptyChain [ .read 1700000000, .read 0, .read 0] =
      { emptyChain with generator := .signed s } := ⟨_, rfl⟩
  have init : Faithful {} emptyChain := ⟨.head _, trivial⟩
  have quiet : Steps (step {}) (Quiet {}) emptyChain [ .read 1700000000, .read 0, .read 0] :=
    ⟨trivial, trivial, trivial, trivial⟩
  have faithful := (run_invariant_of_steps _ init (fun _ _ faithful => step_faithful faithful) quiet).2
  rw [reads] at faithful
  exact ⟨s, faithful.1.latestHash, faithful.2, reads⟩

/-- An append between the two readings of the latest hash. -/
def signedEarly : Snapshotting :=
  run (step {}) emptyChain [ .read 1700000000, .read 0, .read 0, .append sampleEnv sampleArgs, .read 0]

/-- An append within the range, after the records were read. -/
def selectedEarly : Snapshotting :=
  run (step {}) emptyChain [ .read 1700000000, .append sampleEnv sampleArgs, .read 0, .read 0, .read 0]

/-- The first append has the snapshot reported as tampered with; after the second its latest hash is the hash
of a record that it does not have. -/
theorem append_shows : ¬ signedEarly.Sound ∧ ¬ selectedEarly.Sound := by
  constructor
  · intro sound
    obtain ⟨s, latest, signature, signed⟩ := emptyChain_signed
    obtain ⟨r, -, hash, taken⟩ := sample_taken {} (w := { emptyChain with generator := .signed s }) rfl rfl
    have done : signedEarly.generator = .done { s with latestHash := r.recordHash } := by
      show (run (step {}) (run (step {}) emptyChain [ .read 1700000000, .read 0, .read 0])
        [ .append sampleEnv sampleArgs, .read 0]).generator = _
      rw [signed, run_cons, taken]
      rfl
    -- the hash was taken over the hash of the empty chain
    have reread := verifySnapshot_reread (collisionFree_reference _) signature (sound _ done).1
    exact hash (reread.trans latest)
  · intro sound
    obtain ⟨r, timestamp, hash, taken⟩ := sample_taken {} (w := emptyChain.step {} (.read 1700000000)) rfl rfl
    obtain ⟨s, finished, count, start, stop, latest⟩ := finish_of_recorded {}
      (w := (emptyChain.step {} (.read 1700000000)).step {} (.append sampleEnv sampleArgs)) (by rw [taken]; rfl) 0
    change selectedEarly = _ at finished
    rw [taken] at finished latest
    obtain ⟨c, mem, describes⟩ := (sound s (by rw [finished])).2
    rw [finished] at mem
    obtain rfl | rfl := List.mem_pair.1 mem
    · -- the records were selected from the empty chain
      have one : s.recordCount = 1 := by
        rw [describes.recordCount, start, stop]
        norm_num [AuditChain.select, SnapshotEngine.inRange, timestamp]
      exact absurd (count.symm.trans one) (by decide)
    · exact hash (latest.symm.trans describes.latestHash)

end Sample

end Custos
