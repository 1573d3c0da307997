import Custos.Audit.Chain
import Custos.Library.Run
import Custos.Reference

/-!
# Many writers over one store

Any number of `AuditChain` writers, each scoped to a tenant and each with the list it loaded when it was
opened, over one durable table. A step opens a writer or lets one writer record; `record` touches what
the writers share only in the one `INSERT` of its save, so the step is taken whole.

The invariant (`WritersInv`) is that every tenant's stored rows are linked from GENESIS and that every
writer's list is a prefix of its tenant's rows. The index is what keeps it: a list that is a proper
prefix has a successor in the table, and that row already holds the key the writer's next entry would
need (`insert_of_stale`). So a save is accepted only from a writer whose list is the whole chain.
-/

namespace Custos

section

variable [Platform]

/-- The shared table and the writers opened so far. -/
structure Writers where
  table : AuditTable
  writers : List AuditChain

/-- One step of one party. -/
inductive WriterOp where
  /-- a process opens a chain of a tenant over the store -/
  | load (tenantId : String)
  /-- writer `i` records, under the clock, environment and engine of `env` -/
  | record (i : Nat) (env : RecordEnv) (a : RecordArgs)

/-- One step over a store of backend `b`. -/
def writerStep (b : Backend) (s : Writers) : WriterOp → Writers
  | .load tenantId =>
    match AuditChain.init b (some tenantId) s.table with
    | .ok c => { s with writers := s.writers ++ [c] }
    | .error _ => s
  | .record i env a =>
    match s.writers[i]? with
    | some c =>
      let (_, c', table') := c.record s.table env a
      { table := table', writers := s.writers.set i c' }
    | none => s

/-- Every tenant's stored rows, in id order, are linked from GENESIS. -/
def Sound (b : Backend) (t : AuditTable) : Prop :=
  ∀ id, recordLink.Linked GENESIS_HASH (b.loadAll (some id) t)

/-- The writer's list is not the whole stored chain of its tenant. -/
def Stale (c : AuditChain) (t : AuditTable) : Prop := c.records ≠ c.backend.loadAll c.tenantId t

/-- A writer of the store: scoped, and with a prefix of its tenant's stored chain in memory. -/
structure IsWriter (b : Backend) (t : AuditTable) (c : AuditChain) : Prop where
  backend : c.backend = b
  ofTenant : ∃ id, c.tenantId = some id
  behind : c.records <+: b.loadAll c.tenantId t

/-- The invariant of every interleaving. -/
structure WritersInv (b : Backend) (s : Writers) : Prop where
  sound : Sound b s.table
  writers : ∀ c ∈ s.writers, IsWriter b s.table c

/-! ## The table -/

omit [Platform] in
/-- A durable backend loads the rows. -/
lemma loadAll_durable {b : Backend} (dur : b.Durable) (id : Option String) (t : AuditTable) :
    b.loadAll id t = (t.select id).map AuditRecord.ofRow := by
  cases b with
  | InMemoryBackend => exact absurd rfl dur
  | _ => rfl

omit [Platform] in
/-- An inserted row is the last of its tenant's rows and not among any other tenant's. -/
lemma loadAll_insert {b : Backend} (dur : b.Durable) {t t' : AuditTable} {r : AuditRecord}
    {own : String} (ins : t.insert r = some t') (hr : r.tenantId = some own) (fix : r.ofRow = r)
    (id : String) :
    b.loadAll (some id) t' = b.loadAll (some id) t ++ if id = own then [r] else [] := by
  rw [loadAll_durable dur, loadAll_durable dur, AuditTable.select, AuditTable.select,
    (AuditTable.insert_eq_some ins).2, List.filter_append, List.map_append]
  congr 1
  by_cases e : id = own
  · simp [e, hr, fix]
  · simp [e, hr, Ne.symm e]

omit [Platform] in
/-- Opening a scoped chain always succeeds and loads its tenant's rows. -/
lemma init_scoped (b : Backend) (id : String) (t : AuditTable) :
    AuditChain.init b (some id) t =
      .ok { records := b.loadAll (some id) t, tenantId := some id, backend := b } := by
  simp [AuditChain.init]

/-- An entry is read back as it was written. -/
lemma AuditChain.IsEntry.ofRow {c : AuditChain} {now : ℚ} {a : RecordArgs} {r : AuditRecord}
    (ent : IsEntry c now a r) (form : a.commitment ∈ COMMITMENT_FORMS) : r.ofRow = r := by
  obtain ⟨id, -, e⟩ := ent.eq
  have ne : a.commitment ≠ "" := by
    intro h
    rw [h] at form
    exact absurd form (by decide)
  rw [e]
  simp [AuditRecord.ofRow, AuditChain.entry, orElse, present_some ne]

/-! ## Stale writers -/

/-- The key a stale writer's next entry needs is already in the table. -/
lemma insert_of_stale {b : Backend} (dur : b.Durable) {t : AuditTable} (sound : Sound b t)
    {c : AuditChain} (w : IsWriter b t c) (stale : Stale c t) {now : ℚ} {a : RecordArgs}
    {r : AuditRecord} (ent : c.IsEntry now a r) : t.insert r = none := by
  obtain ⟨id, sc⟩ := w.ofTenant
  obtain ⟨rest, split⟩ := w.behind
  cases rest with
  | nil =>
    rw [List.append_nil] at split
    exact absurd (by rw [w.backend]; exact split) stale
  | cons x rest =>
    rw [sc] at split
    -- the successor of the writer's list stores the writer's head as its predecessor
    have prev : x.previousHash = c.latestHash := by
      have lk := sound id
      rw [← split] at lk
      rw [AuditChain.latestHash_eq]
      exact lk.prev_of_split
    have mem : x ∈ b.loadAll (some id) t := by rw [← split]; simp
    rw [loadAll_durable dur] at mem
    obtain ⟨y, hy, rfl⟩ := List.mem_map.1 mem
    obtain ⟨hy, hid⟩ := List.mem_filter.1 hy
    refine AuditTable.insert_eq_none.2 ⟨y, hy, ?_⟩
    have hid' : y.tenantId.getD "" = id := by simpa using hid
    simp only [AuditRecord.indexKey, hid', ent.tenantId sc, ent.previousHash, Option.getD_some]
    exact congrArg _ prev

/-- A stale writer's call raises and changes neither its list nor the store; it is a fork error whenever
the call reaches its save and the engine does not fail there. -/
lemma record_of_stale {b : Backend} (dur : b.Durable) {t : AuditTable} (sound : Sound b t)
    {c : AuditChain} (w : IsWriter b t c) (stale : Stale c t) (env : RecordEnv) (a : RecordArgs) :
    ∃ e, c.record t env a = (.error e, c, t) ∧
      (c.Admissible env.environ a → env.fault = none → e = .ChainForkError FORK_MESSAGE) := by
  by_cases adm : c.Admissible env.environ a
  · obtain ⟨r, ent, eq⟩ := AuditChain.record_of_admissible adm
    have none := insert_of_stale dur sound w stale ent
    have save : ∃ e, c.backend.save env.fault t r = (.error e, t) ∧
        (env.fault = .none → e = .ChainForkError FORK_MESSAGE) := by
      rw [w.backend]
      cases hf : env.fault with
      | some exc =>
        rcases save_cases dur (some exc) t r with ⟨e, he⟩ | ⟨_, h, _⟩
        · exact ⟨e, he, nofun⟩
        · cases h
      | none =>
        rcases save_of_no_fault dur t r with ⟨t', h, _⟩ | ⟨_, he⟩
        · rw [none] at h; cases h
        · exact ⟨_, he, fun _ => rfl⟩
    obtain ⟨e, he, fork⟩ := save
    exact ⟨e, by rw [eq, he], fun _ => fork⟩
  · obtain ⟨e, he⟩ := AuditChain.record_of_not_admissible (t := t) adm
    exact ⟨e, he, fun h => absurd h adm⟩

/-! ## The invariant -/

/-- Opening a writer keeps the invariant. -/
lemma WritersInv.load {b : Backend} {s : Writers} (inv : WritersInv b s) (id : String) :
    WritersInv b (writerStep b s (.load id)) := by
  simp only [writerStep, init_scoped]
  refine ⟨inv.sound, fun c hc => ?_⟩
  rcases List.mem_append.1 hc with hc | hc
  · exact inv.writers c hc
  · rw [List.mem_singleton.1 hc]
    exact ⟨rfl, ⟨id, rfl⟩, List.prefix_refl _⟩

/-- An accepted save came from a writer whose list was the whole chain, and extends that chain by the
entry. -/
lemma Sound.insert {b : Backend} (dur : b.Durable) {t t' : AuditTable} (sound : Sound b t)
    {c : AuditChain} (w : IsWriter b t c) {own : String} (sc : c.tenantId = some own)
    {now : ℚ} {a : RecordArgs} {r : AuditRecord} (ent : c.IsEntry now a r)
    (form : a.commitment ∈ COMMITMENT_FORMS) (ins : t.insert r = some t') :
    Sound b t' ∧ b.loadAll (some own) t' = c.records ++ [r] := by
  have whole : c.records = b.loadAll (some own) t := by
    by_contra h
    have stale : Stale c t := by rw [Stale, w.backend, sc]; exact h
    rw [insert_of_stale dur sound w stale ent] at ins
    cases ins
  have loads := loadAll_insert dur ins (ent.tenantId sc) (ent.ofRow form)
  refine ⟨fun id => ?_, by rw [loads own, if_pos rfl, whole]⟩
  rw [loads id]
  by_cases e : id = own
  · rw [if_pos e, e, ← whole]
    exact ent.linked (whole ▸ sound own)
  · rw [if_neg e, List.append_nil]
    exact sound id

/-- A step of a writer is a call of its chain. -/
lemma writerStep_record {b : Backend} {s : Writers} {i : Nat} {c : AuditChain}
    (hi : s.writers[i]? = some c) (env : RecordEnv) (a : RecordArgs) :
    writerStep b s (.record i env a) =
      { table := (c.record s.table env a).2.2,
        writers := s.writers.set i (c.record s.table env a).2.1 } := by
  simp only [writerStep, hi]

/-- One writer's call keeps the invariant. -/
lemma WritersInv.record {b : Backend} (dur : b.Durable) {s : Writers} (inv : WritersInv b s)
    (i : Nat) (env : RecordEnv) (a : RecordArgs) :
    WritersInv b (writerStep b s (.record i env a)) := by
  cases hi : s.writers[i]? with
  | none =>
    simp only [writerStep, hi]
    exact inv
  | some c =>
    have w := inv.writers c (List.mem_of_getElem? hi)
    obtain ⟨own, sc⟩ := w.ofTenant
    rw [writerStep_record hi]
    rcases c.record_cases s.table env a with ⟨e, he⟩ | ⟨r, t', adm, ent, save, he⟩
    · rw [he]
      refine ⟨inv.sound, fun d hd => ?_⟩
      rcases List.mem_or_eq_of_mem_set hd with hd | rfl
      · exact inv.writers d hd
      · exact w
    · rw [he]
      rcases save_cases dur env.fault s.table r with ⟨e, bad⟩ | ⟨t'', -, ins, good⟩
      · rw [w.backend, bad] at save
        cases (Prod.mk.inj save).1
      · rw [w.backend, good] at save
        obtain rfl := (Prod.mk.inj save).2
        obtain ⟨sound, rows⟩ := inv.sound.insert dur w sc ent adm.commitment ins
        refine ⟨sound, fun d hd => ?_⟩
        rcases List.mem_or_eq_of_mem_set hd with hd | rfl
        · -- the other writers fall behind, or stand where they stood
          obtain ⟨back, ⟨id, scd⟩, behind⟩ := inv.writers d hd
          refine ⟨back, ⟨id, scd⟩, ?_⟩
          rw [scd] at behind ⊢
          rw [loadAll_insert dur ins (ent.tenantId sc) (ent.ofRow adm.commitment)]
          exact behind.trans (List.prefix_append _ _)
        · refine ⟨w.backend, ⟨own, sc⟩, ?_⟩
          show _ <+: b.loadAll c.tenantId _
          rw [sc, rows]

/-- The invariant holds after every interleaving. -/
lemma writersInv_run {b : Backend} (dur : b.Durable) {t : AuditTable} (sound : Sound b t)
    (ops : List WriterOp) : WritersInv b (run (writerStep b) ⟨t, []⟩ ops) := by
  refine run_invariant _ ⟨sound, by simp⟩ (fun s op inv => ?_) ops
  cases op with
  | load id => exact inv.load id
  | record i env a => exact inv.record dur i env a

/-- What holds of a store and its writers at every moment. -/
structure ForkFree (b : Backend) (s : Writers) : Prop where
  /-- a tenant's rows, in id order, are one chain that `verify` accepts -/
  chain : ∀ id, ∃ c, AuditChain.init b (some id) s.table = .ok c ∧
    c.records = b.loadAll (some id) s.table ∧ c.Verified
  /-- a writer's list is a prefix of its tenant's rows -/
  behind : ∀ c ∈ s.writers, ∃ id, c.tenantId = some id ∧ c.records <+: b.loadAll (some id) s.table
  /-- a stale writer's `record` raises and changes nothing; where its arguments pass the checks before
  the save and the engine does not fail, what it raises is the fork error -/
  stale : ∀ c ∈ s.writers, Stale c s.table → ∀ env a,
    ∃ e, c.record s.table env a = (.error e, c, s.table) ∧
      (c.Admissible env.environ a → env.fault = none → e = .ChainForkError FORK_MESSAGE)

/-- Every interleaving of openings, records and failing saves over a store that starts empty is free of
forks. -/
theorem fork_free {b : Backend} (dur : b.Durable) (ops : List WriterOp) :
    ForkFree b (run (writerStep b) ⟨.empty, []⟩ ops) := by
  have sound : Sound b .empty := fun id => by
    rw [loadAll_durable dur]
    exact recordLink.linked_nil _
  have inv := writersInv_run dur sound ops
  refine ⟨fun id => ?_, fun c hc => ?_, fun c hc stale env a => ?_⟩
  · exact ⟨_, init_scoped b id _, rfl, AuditChain.verified_iff_linked.2 (inv.sound id)⟩
  · obtain ⟨-, ⟨id, sc⟩, behind⟩ := inv.writers c hc
    exact ⟨id, sc, sc ▸ behind⟩
  · exact record_of_stale dur inv.sound (inv.writers c hc) stale env a

end

section Sample

/-- The digests of a content and of the first record of a chain over it. -/
def sampleDigests : DigestTable where
  entries :=
    [("hello", "2cf24dba5fb0a30e26e83b2ac5b9e29e1b161e5c1fa7425e73043362938b9824"),
     ("\x7b\"action\": \"ALLOW\", \"binding\": \"v2\", \"client_id\": \"acme\", \"commitment\": \"none\", " ++
      "\"content_hash\": \"2cf24dba5fb0a30e26e83b2ac5b9e29e1b161e5c1fa7425e73043362938b9824\", " ++
      "\"previous_hash\": \"0000000000000000000000000000000000000000000000000000000000000000\", " ++
      "\"reason\": \"ok\", \"tenant_id\": \"acme\", \"timestamp\": 1700000000.0, " ++
      "\"triggered_rule\": null\x7d",
      "29bebed3c4ccc5d7a01d5781f84b868d2d8a87c8fd742b19e0a5824182f3140b")]
  distinct := by decide +kernel
  plain := by decide +kernel

local instance samplePlatform : Platform := .reference sampleDigests

def sampleArgs : RecordArgs :=
  { clientId := "acme", action := "ALLOW", reason := "ok", content := "hello" }

def sampleEnv : RecordEnv := { now := 1700000000, environ := fun _ => none }

/-- Two writers of one tenant are opened, and the first records. -/
def sampleOps : List WriterOp := [.load "acme", .load "acme", .record 0 sampleEnv sampleArgs]

def sampleWriters : Writers := run (writerStep .SQLiteBackend) ⟨.empty, []⟩ sampleOps

example : sampleWriters.table.rows.map (·.recordHash) =
    ["29bebed3c4ccc5d7a01d5781f84b868d2d8a87c8fd742b19e0a5824182f3140b"] := by decide +kernel

/-- The run of the sample has no fork. -/
theorem fork_free_sample : ForkFree .SQLiteBackend sampleWriters :=
  fork_free (by decide) sampleOps

/-- The second writer of the sample is stale, and a call with an unknown commitment form is refused with
a value error before the save, not with a fork error. -/
theorem stale_refused_before_save :
    ¬ ∀ c ∈ sampleWriters.writers, Stale c sampleWriters.table → ∀ env a, env.fault = none →
      ∃ msg, (c.record sampleWriters.table env a).1 = .error (.ChainForkError msg) := by
  intro claim
  have mem : (⟨[], some "acme", .SQLiteBackend⟩ : AuditChain) ∈ sampleWriters.writers := by
    decide +kernel
  have stale : Stale ⟨[], some "acme", .SQLiteBackend⟩ sampleWriters.table := by
    unfold Stale
    decide +kernel
  obtain ⟨msg, h⟩ := claim _ mem stale sampleEnv { sampleArgs with commitment := "sealed" } rfl
  have refused : ("sealed" : String) ∉ COMMITMENT_FORMS := by decide
  rw [AuditChain.record, if_pos refused] at h
  cases h

end Sample

end Custos
