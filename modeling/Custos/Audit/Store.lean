import Custos.Audit.Record

/-!
# The audit store

`custos/audit.py`, the storage backends. A SQLite or Postgres store is a table whose rows stand in id
order under the unique index on `(COALESCE(tenant_id, ''), previous_hash)`; the index is a field of
`AuditTable`, so a table that breaks it cannot be built and `insert` has to refuse. A `save` may be made
to fail by the engine (`fault`), and then leaves the table as it was.

`save_cases` is what the rest of the development uses: a durable save either fails and changes nothing
or appends the record as the table's last row.
-/

namespace Custos

/-- SQLSTATEs of a full store (`_FULL_STORE_SQLSTATES`). -/
def FULL_STORE_SQLSTATES : List String := ["53100", "53200"]

/-- Texts of a full store (`_FULL_STORE_TEXT`). -/
def FULL_STORE_TEXT : List String :=
  ["database or disk is full", "no space left on device", "disk full", "could not extend file",
   "insufficient space"]

/-- Whether an exception from a store means "no space". -/
def isFullStoreError (exc : StoreExc) : Bool :=
  exc.sqlstate.any (· ∈ FULL_STORE_SQLSTATES) ||
    FULL_STORE_TEXT.any fun fragment => isIn fragment exc.text.toLower

def FORK_MESSAGE : String :=
  "another writer extended this chain after this process loaded it. The predecessor this record " ++
  "would append after is already claimed in the store, so appending would fork the chain. Two " ++
  "writers must not share one store: reload the chain before appending."

def STORE_FULL_MESSAGE : String :=
  "the audit store is full, so this decision was not recorded and the chain was not advanced"

/-- The key of the unique index. -/
def AuditRecord.indexKey (r : AuditRecord) : String × String := (r.tenantId.getD "", r.previousHash)

/-- The table `audit_records`: the rows in id order, under the unique index. -/
structure AuditTable where
  rows : List AuditRecord
  unique : (rows.map AuditRecord.indexKey).Nodup

namespace AuditTable

def empty : AuditTable := ⟨[], List.nodup_nil⟩

/-- `INSERT INTO audit_records`; `none` is a violation of the unique index. -/
def insert (t : AuditTable) (r : AuditRecord) : Option AuditTable :=
  if h : r.indexKey ∈ t.rows.map AuditRecord.indexKey then none
  else some ⟨t.rows ++ [r], by
    rw [List.map_append]
    exact t.unique.append (by simp) (by simpa using h)⟩

/-- A row is refused where its key is taken. -/
lemma insert_eq_none {t : AuditTable} {r : AuditRecord} :
    t.insert r = none ↔ ∃ r' ∈ t.rows, r'.indexKey = r.indexKey := by
  unfold insert
  split
  · rename_i h
    simpa using h
  · rename_i h
    simpa using h

lemma insert_eq_some {t t' : AuditTable} {r : AuditRecord} (e : t.insert r = some t') :
    r.indexKey ∉ t.rows.map AuditRecord.indexKey ∧ t'.rows = t.rows ++ [r] := by
  unfold insert at e
  split at e
  · cases e
  · rename_i h
    simp only [Option.some.injEq] at e
    subst e
    exact ⟨h, rfl⟩

end AuditTable

/-! ## Backends -/

/-- The three storage backends. -/
inductive Backend where
  | InMemoryBackend
  | SQLiteBackend
  | PostgreSQLBackend
  deriving DecidableEq

/-- A durable backend keeps its records in a table. -/
def Backend.Durable (b : Backend) : Prop := b ≠ .InMemoryBackend

instance (b : Backend) : Decidable b.Durable := inferInstanceAs (Decidable (_ ≠ _))

/-- What `SQLiteBackend.save` raises on an exception of its engine. -/
def sqliteRaise (exc : StoreExc) : Exn :=
  if exc.typeName = "IntegrityError" then .ChainForkError FORK_MESSAGE
  else if exc.typeName = "OperationalError" then
    if isFullStoreError exc then .AuditStoreFull STORE_FULL_MESSAGE else .Store exc
  else .Store exc

/-- What `PostgreSQLBackend.save` raises on an exception of its engine. -/
def postgresRaise (exc : StoreExc) : Exn :=
  let duplicate := isIn "duplicate key" exc.text.toLower ||
    exc.typeName ∈ ["UniqueViolation", "IntegrityError"]
  if duplicate then .ChainForkError FORK_MESSAGE
  else if isFullStoreError exc then .AuditStoreFull STORE_FULL_MESSAGE
  else .Store exc

/-- The engine's own exception when the unique index refuses a row. -/
def sqliteUnique : StoreExc :=
  { typeName := "IntegrityError",
    text := "UNIQUE constraint failed: index 'idx_audit_tenant_previous_hash'" }

def postgresUnique : StoreExc :=
  { typeName := "UniqueViolation", sqlstate := some "23505",
    text := "duplicate key value violates unique constraint idx_audit_tenant_previous_hash" }

/-- One `INSERT` in one transaction: `fault` is the exception the engine raises instead, if it does. -/
def tableSave (raised : StoreExc → Exn) (violation : StoreExc) (fault : Option StoreExc)
    (t : AuditTable) (r : AuditRecord) : Except Exn Unit × AuditTable :=
  match fault with
  | some exc => (.error (raised exc), t)
  | none =>
    match t.insert r with
    | some t' => (.ok (), t')
    | none => (.error (raised violation), t)

/-- `save`, for each backend. -/
def Backend.save : Backend → Option StoreExc → AuditTable → AuditRecord →
    Except Exn Unit × AuditTable
  | .InMemoryBackend => fun _ t _ => (.ok (), t)
  | .SQLiteBackend => tableSave sqliteRaise sqliteUnique
  | .PostgreSQLBackend => tableSave postgresRaise postgresUnique

/-- What a save raises is what its backend makes of an exception of the engine. -/
lemma tableSave_ne {raised : StoreExc → Exn} {e : Exn} (no : ∀ exc, raised exc ≠ e)
    (violation : StoreExc) (fault : Option StoreExc) (t : AuditTable) (r : AuditRecord) :
    (tableSave raised violation fault t r).1 ≠ .error e := by
  unfold tableSave
  cases fault with
  | some exc => exact fun h => no exc (Except.error.inj h)
  | none =>
    cases t.insert r with
    | some t' => nofun
    | none => exact fun h => no violation (Except.error.inj h)

/-- A row as `load_all` reads it back. -/
def AuditRecord.ofRow (r : AuditRecord) : AuditRecord :=
  { r with
    bindingVersion := some (r.bindingVersion.getD 0)
    commitment := some (orElse r.commitment COMMITMENT_NONE) }

/-- The rows `load_all` selects: one tenant's when the backend is scoped, else all. -/
def AuditTable.select (t : AuditTable) (tenantId : Option String) : List AuditRecord :=
  t.rows.filter fun r => tenantId.all fun id => r.tenantId.getD "" = id

/-- `load_all`, for each backend. -/
def Backend.loadAll (b : Backend) (tenantId : Option String) (t : AuditTable) : List AuditRecord :=
  match b with
  | .InMemoryBackend => []
  | _ => (t.select tenantId).map AuditRecord.ofRow

/-- A unique violation is reported as a fork. -/
lemma sqliteRaise_unique : sqliteRaise sqliteUnique = .ChainForkError FORK_MESSAGE := by
  simp [sqliteRaise, sqliteUnique]

lemma postgresRaise_unique : postgresRaise postgresUnique = .ChainForkError FORK_MESSAGE := by
  simp [postgresRaise, postgresUnique]

/-- A durable save without an engine fault appends the row, or is refused as a fork. -/
lemma save_of_no_fault {b : Backend} (dur : b.Durable) (t : AuditTable) (r : AuditRecord) :
    (∃ t', t.insert r = some t' ∧ b.save none t r = (.ok (), t')) ∨
    (t.insert r = none ∧ b.save none t r = (.error (.ChainForkError FORK_MESSAGE), t)) := by
  cases b with
  | InMemoryBackend => exact absurd rfl dur
  | SQLiteBackend =>
    cases h : t.insert r with
    | some t' => exact .inl ⟨t', rfl, by simp [Backend.save, tableSave, h]⟩
    | none => exact .inr ⟨rfl, by simp [Backend.save, tableSave, h, sqliteRaise_unique]⟩
  | PostgreSQLBackend =>
    cases h : t.insert r with
    | some t' => exact .inl ⟨t', rfl, by simp [Backend.save, tableSave, h]⟩
    | none => exact .inr ⟨rfl, by simp [Backend.save, tableSave, h, postgresRaise_unique]⟩

/-- A durable save either fails and leaves the table as it was, or appends the row. -/
lemma save_cases {b : Backend} (dur : b.Durable) (fault : Option StoreExc) (t : AuditTable)
    (r : AuditRecord) :
    (∃ e, b.save fault t r = (.error e, t)) ∨
    (∃ t', fault = none ∧ t.insert r = some t' ∧ b.save fault t r = (.ok (), t')) := by
  cases fault with
  | some exc =>
    left
    cases b with
    | InMemoryBackend => exact absurd rfl dur
    | SQLiteBackend => exact ⟨_, rfl⟩
    | PostgreSQLBackend => exact ⟨_, rfl⟩
  | none =>
    rcases save_of_no_fault dur t r with ⟨t', ins, e⟩ | ⟨_, e⟩
    · exact .inr ⟨t', rfl, ins, e⟩
    · exact .inl ⟨_, e⟩

end Custos
