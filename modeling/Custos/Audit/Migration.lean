import Custos.Audit.Chain
import Custos.Reference
import Mathlib.Data.Finset.Dedup
import Mathlib.Data.Fintype.Basic
import Mathlib.Data.Fintype.Sets

/-!
# Opening a store of an earlier release

`_init` and `_migrate` of the SQL backends in `custos/audit.py`: the columns that came after the first release are
added with their defaults, an index over predecessors alone gives way to one for each tenant, and a store that holds a
fork is refused.

What stands in a store is a `StoredTable`, which need not have every column. `store_upgrades` says which stores are
opened, with what in them, and that the records of a release before `binding_version` verify as they did.
-/

namespace Custos

/-- The columns added after the first release. -/
inductive Added where
  | policyDigest
  | tenantId
  | bindingVersion
  | commitment
  deriving DecidableEq

/-- The columns in the order `_migrate` adds them. -/
def ADDED : List Added := [ .policyDigest, .tenantId, .bindingVersion, .commitment]

instance : Fintype Added := ⟨ADDED.toFinset, fun c => by cases c <;> decide⟩

/-- A row once a column is added to it. -/
def AuditRecord.fill (r : AuditRecord) : Added → AuditRecord
  | .policyDigest => { r with policyDigest := none }
  | .tenantId => { r with tenantId := none }
  | .bindingVersion => { r with bindingVersion := some 0 }
  | .commitment => { r with commitment := some COMMITMENT_NONE }

/-- A row with every column, of a table that has some of them. -/
def AuditRecord.complete (columns : Finset Added) (r : AuditRecord) : AuditRecord :=
  { r with
    policyDigest := if .policyDigest ∈ columns then r.policyDigest else none
    tenantId := if .tenantId ∈ columns then r.tenantId else none
    bindingVersion := if .bindingVersion ∈ columns then r.bindingVersion else some 0
    commitment := if .commitment ∈ columns then r.commitment else some COMMITMENT_NONE }

/-- `audit_records` as a store has it: which of the added columns there are, the rows in id order, of which the fields
of other columns mean nothing, and whether the old index (`idx_audit_previous_hash`) and the new one
(`idx_audit_tenant_previous_hash`) stand. -/
structure StoredTable where
  columns : Finset Added
  rows : List AuditRecord
  previousIndex : Bool := false
  tenantIndex : Bool := false
  previousUnique : previousIndex = true → (rows.map (·.previousHash)).Nodup := by
    intro stands
    cases stands
  tenantUnique : tenantIndex = true → .tenantId ∈ columns ∧ (rows.map AuditRecord.indexKey).Nodup := by
    intro stands
    cases stands

def OPEN_FORK_MESSAGE : String :=
  "this store already contains a fork: more than one record claims the same predecessor within one tenant, which " ++
  "is the state two writers produce. Refusing to open it, because appending to a store that no longer verifies " ++
  "would extend a chain nobody can check. Preserve the store and investigate."

/-- What PostgreSQL raises where the new index cannot be built. -/
def postgresIndexFault : StoreExc :=
  { typeName := "UniqueViolation", sqlstate := some "23505",
    text := "could not create unique index idx_audit_tenant_previous_hash" }

/-- The table with every column and the new index. -/
def AuditTable.stored (t : AuditTable) : StoredTable where
  columns := .univ
  rows := t.rows
  tenantIndex := true
  tenantUnique _ := ⟨Finset.mem_univ _, t.unique⟩

namespace StoredTable

lemma fill_previousHash (c : Added) (r : AuditRecord) : (r.fill c).previousHash = r.previousHash := by
  cases c <;> rfl

/-- `ALTER TABLE ... ADD COLUMN`. -/
def addColumn (t : StoredTable) (c : Added) (new : c ∉ t.columns) : StoredTable where
  columns := insert c t.columns
  rows := t.rows.map (·.fill c)
  previousIndex := t.previousIndex
  tenantIndex := t.tenantIndex
  previousUnique stands := by
    have same : (t.rows.map (·.fill c)).map (·.previousHash) = t.rows.map (·.previousHash) := by
      simp [fill_previousHash]
    rw [same]
    exact t.previousUnique stands
  tenantUnique stands := by
    obtain ⟨has, unique⟩ := t.tenantUnique stands
    have other : c ≠ .tenantId := fun is => new (is ▸ has)
    have same : (t.rows.map (·.fill c)).map AuditRecord.indexKey = t.rows.map AuditRecord.indexKey := by
      rw [List.map_map]
      refine List.map_congr_left fun r _ => ?_
      cases c with
      | tenantId => exact absurd rfl other
      | _ => rfl
    rw [same]
    exact ⟨Finset.mem_insert_of_mem has, unique⟩

/-- `_migrate`, with the columns still to look for. -/
def migrate (t : StoredTable) : List Added → StoredTable
  | [] => t
  | c :: columns => if new : c ∉ t.columns then (t.addColumn c new).migrate columns else t.migrate columns

/-- `DROP INDEX IF EXISTS idx_audit_previous_hash`. -/
def dropPreviousIndex (t : StoredTable) : StoredTable where
  columns := t.columns
  rows := t.rows
  tenantIndex := t.tenantIndex
  tenantUnique := t.tenantUnique

/-- `CREATE UNIQUE INDEX IF NOT EXISTS idx_audit_tenant_previous_hash`; `none` is a violation. -/
def createTenantIndex (t : StoredTable) : Option AuditTable :=
  if stands : t.tenantIndex then some ⟨t.rows, (t.tenantUnique stands).2⟩
  else if unique : (t.rows.map AuditRecord.indexKey).Nodup then some ⟨t.rows, unique⟩
  else none

/-- `CREATE TABLE IF NOT EXISTS`. -/
def created : StoredTable := { columns := .univ, rows := [] }

/-- `_init`: what a store is opened as, and what then stands in it. SQLite keeps what it did before a refusal,
PostgreSQL does it in one transaction, and in memory there is no store. -/
def init (b : Backend) (file : Option StoredTable) : Except Exn AuditTable × Option StoredTable :=
  match b with
  | .InMemoryBackend => (.ok .empty, file)
  | _ =>
    let t := ((file.getD created).migrate ADDED).dropPreviousIndex
    match t.createTenantIndex with
    | some table => (.ok table, some table.stored)
    | none =>
      match b with
      | .SQLiteBackend => (.error (.ChainForkError OPEN_FORK_MESSAGE), some t)
      | _ => (.error (.Store postgresIndexFault), file)

/-! ## What a migration comes to -/

/-- What a row claims: a predecessor, within a tenant where the table has tenants. -/
def claims (t : StoredTable) : List (String × String) := t.rows.map fun r => (r.complete t.columns).indexKey

/-- The columns that are added are there. -/
lemma columns_migrate (t : StoredTable) (columns : List Added) :
    (t.migrate columns).columns = t.columns ∪ columns.toFinset := by
  induction columns generalizing t with
  | nil => simp [migrate]
  | cons c columns ih =>
    unfold migrate
    split
    · rw [ih, List.toFinset_cons, Finset.union_insert]
      exact Finset.insert_union c t.columns _
    · rename_i has
      rw [ih, List.toFinset_cons, Finset.union_insert, ← Finset.insert_union, Finset.insert_eq_of_mem (not_not.1 has)]

/-- A column more is one field less to fill. -/
lemma complete_fill (columns : Finset Added) {c : Added} (new : c ∉ columns) (r : AuditRecord) :
    (r.fill c).complete (insert c columns) = r.complete columns := by
  cases c <;> simp [AuditRecord.fill, AuditRecord.complete, new]

/-- Columns are added, and what the rows come to is what they came to. -/
lemma complete_migrate (t : StoredTable) (columns : List Added) :
    (t.migrate columns).rows.map (·.complete (t.migrate columns).columns) = t.rows.map (·.complete t.columns) := by
  induction columns generalizing t with
  | nil => rfl
  | cons c columns ih =>
    unfold migrate
    split
    · rename_i new
      rw [ih]
      dsimp only [addColumn]
      rw [List.map_map]
      exact List.map_congr_left fun r _ => complete_fill t.columns new r
    · exact ih t

lemma complete_univ (r : AuditRecord) : r.complete .univ = r := by
  simp [AuditRecord.complete]

/-- A migrated table has every column, and its rows are filled. -/
lemma migrated (t : StoredTable) :
    (t.migrate ADDED).columns = .univ ∧ (t.migrate ADDED).rows = t.rows.map (·.complete t.columns) := by
  have all : (t.migrate ADDED).columns = .univ := by
    rw [columns_migrate]
    exact Finset.eq_univ_iff_forall.2 fun c => Finset.mem_union_right _ (Finset.mem_univ c)
  have rows := t.complete_migrate ADDED
  rw [all] at rows
  exact ⟨all, by simpa [complete_univ] using rows⟩

/-- The index is created where no two rows share a key. -/
lemma createTenantIndex_some {t : StoredTable} (unique : (t.rows.map AuditRecord.indexKey).Nodup) :
    t.createTenantIndex = some ⟨t.rows, unique⟩ := by
  unfold createTenantIndex
  split
  · rfl
  · rfl

lemma createTenantIndex_none {t : StoredTable} (forked : ¬ (t.rows.map AuditRecord.indexKey).Nodup) :
    t.createTenantIndex = none := by
  unfold createTenantIndex
  rw [dif_neg fun stands => forked (t.tenantUnique stands).2, dif_neg forked]

/-- Where no two rows claim the same, the store is opened with its rows filled. -/
lemma init_opens {b : Backend} (dur : b.Durable) {t : StoredTable} (single : t.claims.Nodup) :
    ∃ table, table.rows = t.rows.map (·.complete t.columns) ∧ init b (some t) = (.ok table, some table.stored) := by
  have keys : ((t.migrate ADDED).dropPreviousIndex.rows.map AuditRecord.indexKey).Nodup := by
    dsimp only [dropPreviousIndex]
    rw [t.migrated.2, List.map_map]
    exact single
  refine ⟨⟨_, keys⟩, t.migrated.2, ?_⟩
  cases b with
  | InMemoryBackend => exact absurd rfl dur
  | SQLiteBackend =>
    unfold init
    dsimp only [Option.getD_some]
    rw [createTenantIndex_some keys]
  | PostgreSQLBackend =>
    unfold init
    dsimp only [Option.getD_some]
    rw [createTenantIndex_some keys]

/-- What has been opened is opened as it is. -/
lemma init_stored {b : Backend} (dur : b.Durable) (table : AuditTable) :
    init b (some table.stored) = (.ok table, some table.stored) := by
  have same : table.stored.rows.map (·.complete table.stored.columns) = table.rows := by
    dsimp only [AuditTable.stored]
    simp [complete_univ]
  have single : table.stored.claims.Nodup := by
    have keys := table.unique
    rw [← same, List.map_map] at keys
    exact keys
  obtain ⟨table', rows, opened⟩ := init_opens dur single
  have eq : table' = table := by
    obtain ⟨rows', unique⟩ := table'
    obtain ⟨rows'', unique'⟩ := table
    exact AuditTable.mk.injEq .. ▸ rows.trans same
  rw [opened, eq]

/-- A store that holds a fork is refused, and whatever of the migration stays in it, it is refused again. -/
lemma init_refuses {b : Backend} (dur : b.Durable) {t : StoredTable} (forked : ¬ t.claims.Nodup) :
    ∃ e file, init b (some t) = (.error e, some file) ∧ file.claims = t.claims := by
  have keys : ¬ ((t.migrate ADDED).dropPreviousIndex.rows.map AuditRecord.indexKey).Nodup := by
    dsimp only [dropPreviousIndex]
    rw [t.migrated.2, List.map_map]
    exact forked
  have kept : (t.migrate ADDED).dropPreviousIndex.claims = t.claims := by
    have same := congrArg (List.map AuditRecord.indexKey) (t.complete_migrate ADDED)
    rw [List.map_map, List.map_map] at same
    exact same
  cases b with
  | InMemoryBackend => exact absurd rfl dur
  | SQLiteBackend =>
    refine ⟨.ChainForkError OPEN_FORK_MESSAGE, _, ?_, kept⟩
    unfold init
    dsimp only [Option.getD_some]
    rw [createTenantIndex_none keys]
  | PostgreSQLBackend =>
    refine ⟨.Store postgresIndexFault, t, ?_, rfl⟩
    unfold init
    dsimp only [Option.getD_some]
    rw [createTenantIndex_none keys]

end StoredTable

/-! ## Records from before `binding_version` -/

section

variable [Platform]

/-- The preimage of a record of such a release, by the columns it has. -/
def originalFields (columns : Finset Added) (r : AuditRecord) (previousHash : String) : List (String × Json) :=
  [ ("timestamp", .float r.timestamp), ("client_id", .str r.clientId), ("action", .str r.action),
    ("triggered_rule", .ofOption r.triggeredRule), ("reason", .str r.reason), ("content_hash", .str r.contentHash),
    ("previous_hash", .str previousHash)] ++
  (if .policyDigest ∈ columns then optField "policy_digest" r.policyDigest else []) ++
  (if .tenantId ∈ columns then optField "tenant_id" r.tenantId else [])

/-- How its records are linked. -/
def originalLink (columns : Finset Added) : LinkSpec AuditRecord String where
  prev := AuditRecord.previousHash
  own := AuditRecord.recordHash
  hash r previousHash := some (sha256 (dumpsSorted (.obj (originalFields columns r previousHash))))

omit [Platform] in
/-- A field that is absent is left out. -/
lemma optField_ite (key : String) (has : Prop) [Decidable has] (value : Option String) :
    optField key (if has then value else none) = if has then optField key value else [] := by
  split
  · rfl
  · rfl

/-- A row from before the binding's version hashes as it did. -/
lemma hash_complete {columns : Finset Added} (unbound : .bindingVersion ∉ columns) (r : AuditRecord) (p : String) :
    recordLink.hash (r.complete columns).ofRow p = (originalLink columns).hash r p := by
  refine AuditChain.recordLink_hash.2 (computeRecordHash_eq_ok.2 ⟨originalFields columns r p, ?_, rfl⟩)
  have version : (r.complete columns).ofRow.bindingVersion = some 0 := by
    dsimp only [AuditRecord.complete, AuditRecord.ofRow]
    rw [if_neg unbound]
    rfl
  unfold preimageFields originalFields
  rw [version, ← optField_ite, ← optField_ite]
  simp [RECORD_BINDING_CURRENT, AuditRecord.complete, AuditRecord.ofRow]

omit [Platform] in
/-- What a chain over an opened store holds. -/
lemma AuditChain.records_of_opened {b : Backend} (dur : b.Durable) {t : StoredTable} {table : AuditTable}
    (rows : table.rows = t.rows.map (·.complete t.columns)) {scope : Option String} {c : AuditChain}
    (init : AuditChain.init b scope table = .ok c) :
    c.records = (t.rows.filter fun r => scope.all fun id => (r.complete t.columns).tenantId.getD "" = id).map
      fun r => (r.complete t.columns).ofRow := by
  have held : c.records = (table.select scope).map AuditRecord.ofRow := by
    unfold AuditChain.init at init
    dsimp only at init
    split at init
    · cases init
    · cases init
      cases b with
      | InMemoryBackend => exact absurd rfl dur
      | SQLiteBackend => rfl
      | PostgreSQLBackend => rfl
  rw [held, AuditTable.select, rows, List.filter_map, List.map_map]
  rfl

/-- Such records verify over the opened store as they did. -/
lemma AuditChain.verified_of_opened {b : Backend} (dur : b.Durable) {t : StoredTable} {table : AuditTable}
    (rows : table.rows = t.rows.map (·.complete t.columns)) (unbound : .bindingVersion ∉ t.columns)
    {scope : Option String} {c : AuditChain} (init : AuditChain.init b scope table = .ok c) :
    c.Verified ↔ (originalLink t.columns).Linked GENESIS_HASH
      (t.rows.filter fun r => scope.all fun id => (r.complete t.columns).tenantId.getD "" = id) := by
  rw [AuditChain.verified_iff_linked, AuditChain.records_of_opened dur rows init]
  exact LinkSpec.linked_map (fun r : AuditRecord => (r.complete t.columns).ofRow) (fun _ => rfl) (fun _ => rfl)
    (hash_complete unbound)

/-- What opening a store of an earlier release comes to. -/
structure Upgrades (b : Backend) (t : StoredTable) : Prop where
  /-- a store without forks is opened, with its rows in their order and the defaults in the columns it lacked -/
  opens : t.claims.Nodup → ∃ table, table.rows = t.rows.map (·.complete t.columns) ∧
    StoredTable.init b (some t) = (.ok table, some table.stored) ∧
    -- what verified of a release before `binding_version`, and nothing else, verifies
    (.bindingVersion ∉ t.columns → ∀ scope c, AuditChain.init b scope table = .ok c → (c.Verified ↔
      (originalLink t.columns).Linked GENESIS_HASH
        (t.rows.filter fun r => scope.all fun id => (r.complete t.columns).tenantId.getD "" = id))) ∧
    -- and no tenant's chain has a record of a release before `tenant_id`
    (.tenantId ∉ t.columns → ∀ id c, id ≠ "" → AuditChain.init b (some id) table = .ok c → c.records = [])
  /-- whatever is then written, the store is opened as it is -/
  reopens : ∀ table, StoredTable.init b (some table.stored) = (.ok table, some table.stored)
  /-- a store with a fork is refused, then and later -/
  refuses : ¬ t.claims.Nodup → ∃ e file, StoredTable.init b (some t) = (.error e, some file) ∧
    file.claims = t.claims

/-- An SQL backend opens a store of any earlier release, and refuses exactly those that hold a fork. -/
theorem store_upgrades {b : Backend} (dur : b.Durable) (t : StoredTable) : Upgrades b t where
  opens single := by
    obtain ⟨table, rows, opened⟩ := StoredTable.init_opens dur single
    refine ⟨table, rows, opened, fun unbound scope c init => AuditChain.verified_of_opened dur rows unbound init,
      fun untenanted id c named init => ?_⟩
    rw [AuditChain.records_of_opened dur rows init, List.map_eq_nil_iff, List.filter_eq_nil_iff]
    intro r _ own
    have tenant : (r.complete t.columns).tenantId = none := if_neg untenanted
    rw [tenant] at own
    exact named (of_decide_eq_true own).symm
  reopens table := StoredTable.init_stored dur table
  refuses forked := StoredTable.init_refuses dur forked

end

section Sample

local instance migrationPlatform : Platform := .reference .empty

/-- A store of the first release with two records on the same predecessor. -/
def forkedStore : StoredTable where
  columns := ∅
  rows :=
    [ { timestamp := 1, clientId := "agent", action := "allow", triggeredRule := none, reason := "", contentHash := ""
        previousHash := GENESIS_HASH, tenantId := some "left over" },
      { timestamp := 2, clientId := "agent", action := "deny", triggeredRule := none, reason := "", contentHash := ""
        previousHash := GENESIS_HASH }]

theorem store_upgrades_sample : Upgrades .SQLiteBackend forkedStore ∧ ¬ forkedStore.claims.Nodup :=
  ⟨store_upgrades (by decide) forkedStore, by decide +kernel⟩

end Sample

end Custos
