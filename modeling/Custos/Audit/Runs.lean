import Custos.Audit.Writers
import Mathlib.Data.Finset.Card

/-!
# Runs of one chain

One `AuditChain` over a durable table. A call of `record` or `append_reconciliation` leaves the chain in
step with the store (`Backed`): its list is what `load_all` reads, and the list is linked from GENESIS.

`chain_backed` is the run of a scoped chain beside the writers of other tenants. `reopens_iff` says when a
chain whose calls have all succeeded can be opened again: always, if it is scoped, and else as long as its
calls have named one tenant only.
-/

namespace Custos

section

variable [Platform]

/-! ## One call -/

/-- The chain's list is what is stored for it, and linked from GENESIS. -/
structure Backed (c : AuditChain) (t : AuditTable) : Prop where
  durable : c.backend.Durable
  stored : c.records = c.backend.loadAll c.tenantId t
  linked : recordLink.Linked GENESIS_HASH c.records

namespace AuditChain

omit [Platform] in
/-- An unscoped chain writes for the tenant it is told. -/
lemma resolveTenant_unscoped {c : AuditChain} (unscoped : c.tenantId = none) (o : Option String) :
    c.resolveTenant o = .ok o := by
  unfold resolveTenant
  cases o <;> simp [unscoped]

omit [Platform] in
/-- What a chain writes is among the rows that are loaded for it. -/
lemma resolveTenant_selected {c : AuditChain} {o id : Option String} (e : c.resolveTenant o = .ok id) :
    (c.tenantId.all fun own => id.getD "" = own) = true := by
  cases sc : c.tenantId with
  | none => rfl
  | some own => simp [resolveTenant_scoped sc e]

end AuditChain

/-- What a call that returned `r` has done: one record more in the list and in the table, linked to the
head. -/
structure Extended (c : AuditChain) (t : AuditTable) (c' : AuditChain) (t' : AuditTable) (r : AuditRecord) :
    Prop where
  chain : c' = { c with records := c.records ++ [r] }
  rows : t'.rows = t.rows ++ [r]
  previousHash : r.previousHash = c.latestHash

/-- A call raises and changes nothing, or extends list and table alike. -/
lemma Backed.record {c : AuditChain} {t : AuditTable} (backed : Backed c t) (env : RecordEnv) (a : RecordArgs) :
    (∃ e, c.record t env a = (.error e, c, t)) ∨
    ∃ r c' t', c.record t env a = (.ok r, c', t') ∧ Extended c t c' t' r ∧ Backed c' t' ∧
      c.resolveTenant a.tenantId = .ok r.tenantId := by
  rcases c.record_cases t env a with raised | ⟨r, t', adm, ent, save, eq⟩
  · exact .inl raised
  · have ins : t.insert r = some t' := by
      rcases save_cases backed.durable env.fault t r with ⟨e, bad⟩ | ⟨t'', -, ins, good⟩
      · cases (Prod.mk.inj (bad.symm.trans save)).1
      · rw [ins, (Prod.mk.inj (good.symm.trans save)).2]
    have rows := (AuditTable.insert_eq_some ins).2
    have tenant : c.resolveTenant a.tenantId = .ok r.tenantId := by
      obtain ⟨id, hid, e⟩ := ent.eq
      rw [hid, e]
      rfl
    refine .inr ⟨r, _, t', eq, ⟨rfl, rows, ent.previousHash⟩, ⟨backed.durable, ?_, ent.linked backed.linked⟩,
      tenant⟩
    -- the new row is the last of those loaded for the chain, and is read back as written
    show c.records ++ [r] = c.backend.loadAll c.tenantId t'
    rw [loadAll_durable backed.durable, AuditTable.select, rows, List.filter_append,
      List.filter_singleton, AuditChain.resolveTenant_selected tenant, List.map_append, backed.stored,
      loadAll_durable backed.durable, AuditTable.select]
    simp [ent.ofRow adm.commitment]

/-- `append_reconciliation` asks for a trace and a rule, and is a call of `record` then. -/
lemma appendReconciliation_cases (c : AuditChain) (t : AuditTable) (env : RecordEnv)
    (clientId traceId rule content reason : String) (policyDigest tenantId : Option String) :
    (∃ e, c.appendReconciliation t env clientId traceId rule content reason policyDigest tenantId =
      (.error e, c, t)) ∨
    ∃ a, c.appendReconciliation t env clientId traceId rule content reason policyDigest tenantId =
      c.record t env a := by
  unfold AuditChain.appendReconciliation
  split
  · exact .inl ⟨_, rfl⟩
  · split
    · exact .inl ⟨_, rfl⟩
    · exact .inr ⟨_, rfl⟩

/-! ## A scoped chain and its store -/

/-- A chain over its table. -/
structure ChainRun where
  chain : AuditChain
  table : AuditTable

/-- What happens to a chain and its store. -/
inductive ChainOp where
  | record (env : RecordEnv) (a : RecordArgs)
  | appendReconciliation (env : RecordEnv) (clientId traceId rule content reason : String)
      (policyDigest tenantId : Option String)
  /-- the other writers of the store leave it as `t` -/
  | others (t : AuditTable)

/-- What a call returns or raises, with the chain and the table after it. -/
def ChainRun.call (s : ChainRun) : ChainOp → Option (Except Exn AuditRecord × AuditChain × AuditTable)
  | .record env a => some (s.chain.record s.table env a)
  | .appendReconciliation env clientId traceId rule content reason policyDigest tenantId =>
    some (s.chain.appendReconciliation s.table env clientId traceId rule content reason policyDigest tenantId)
  | .others _ => none

/-- The chain and the table after the step, of this chain or of the others. -/
def chainStep (s : ChainRun) (op : ChainOp) : ChainRun :=
  match s.call op, op with
  | some (_, c, t), _ => ⟨c, t⟩
  | none, .others t => { s with table := t }
  | none, _ => s

/-- The chain is the only writer of its tenant: the others leave its tenant's rows as they are. -/
def OnlyWriter (own : String) (s : ChainRun) (op : ChainOp) : Prop :=
  ∀ t, op = .others t → t.select (some own) = s.table.select (some own)

/-- After the step the list is the tenant's stored rows in their order, and `verify` returns True; a call that
returned has extended both by the one record it returned, linked to the head, and one that raised has
changed neither. -/
structure BackedAfter (b : Backend) (own : String) (s : ChainRun) (op : ChainOp) : Prop where
  stored : (chainStep s op).chain.records = b.loadAll (some own) (chainStep s op).table
  verified : (chainStep s op).chain.Verified
  extended : ∀ r c t, s.call op = some (.ok r, c, t) → Extended s.chain s.table c t r
  unchanged : ∀ e c t, s.call op = some (.error e, c, t) → c = s.chain ∧ t = s.table

/-- The chain is scoped to the tenant and in step with the store. -/
structure ScopedBacked (b : Backend) (own : String) (s : ChainRun) : Prop where
  backend : s.chain.backend = b
  ofTenant : s.chain.tenantId = some own
  backed : Backed s.chain s.table

/-- The list is the tenant's stored rows. -/
lemma ScopedBacked.stored {b : Backend} {own : String} {s : ChainRun} (inv : ScopedBacked b own s) :
    s.chain.records = b.loadAll (some own) s.table := by
  rw [inv.backed.stored, inv.backend, inv.ofTenant]

/-- One call, by either way. -/
lemma ScopedBacked.call {b : Backend} {own : String} {s : ChainRun} (inv : ScopedBacked b own s) {op : ChainOp}
    {out : Except Exn AuditRecord × AuditChain × AuditTable} (called : s.call op = some out) :
    (∃ e, out = (.error e, s.chain, s.table)) ∨
    ∃ r c t, out = (.ok r, c, t) ∧ Extended s.chain s.table c t r ∧ ScopedBacked b own ⟨c, t⟩ := by
  have recorded : ∀ env a, out = s.chain.record s.table env a →
      (∃ e, out = (.error e, s.chain, s.table)) ∨
      ∃ r c t, out = (.ok r, c, t) ∧ Extended s.chain s.table c t r ∧ ScopedBacked b own ⟨c, t⟩ := by
    rintro env a rfl
    rcases inv.backed.record env a with raised | ⟨r, c, t, eq, ext, backed, -⟩
    · exact .inl raised
    · refine .inr ⟨r, c, t, eq, ext, ?_, ?_, backed⟩
      · rw [ext.chain]
        exact inv.backend
      · rw [ext.chain]
        exact inv.ofTenant
  cases op with
  | record env a => exact recorded env a (Option.some.inj called).symm
  | appendReconciliation env clientId traceId rule content reason policyDigest tenantId =>
    rcases appendReconciliation_cases s.chain s.table env clientId traceId rule content reason policyDigest
      tenantId with ⟨e, raised⟩ | ⟨a, eq⟩
    · exact .inl ⟨e, (Option.some.inj called).symm.trans raised⟩
    · exact recorded env a ((Option.some.inj called).symm.trans eq)
  | others t => cases called

/-- A step that calls the chain has what the call leaves. -/
lemma chainStep_of_call {s : ChainRun} {op : ChainOp} {out : Except Exn AuditRecord × AuditChain × AuditTable}
    (called : s.call op = some out) : chainStep s op = ⟨out.2.1, out.2.2⟩ := by
  unfold chainStep
  rw [called]

/-- A step keeps list and rows together. -/
lemma ScopedBacked.step {b : Backend} {own : String} {s : ChainRun} (inv : ScopedBacked b own s) {op : ChainOp}
    (only : OnlyWriter own s op) : ScopedBacked b own (chainStep s op) := by
  cases called : s.call op with
  | some out =>
    rw [chainStep_of_call called]
    rcases inv.call called with ⟨e, rfl⟩ | ⟨r, c, t, rfl, -, inv'⟩
    · exact inv
    · exact inv'
  | none =>
    cases op with
    | record env a => cases called
    | appendReconciliation env clientId traceId rule content reason policyDigest tenantId => cases called
    | others t =>
      -- the rows of the tenant are the same, so the same list is loaded
      refine ⟨inv.backend, inv.ofTenant, inv.backed.durable, ?_, inv.backed.linked⟩
      show s.chain.records = s.chain.backend.loadAll s.chain.tenantId t
      rw [inv.backed.stored, loadAll_durable inv.backed.durable, loadAll_durable inv.backed.durable, inv.ofTenant,
        only t rfl]

/-- After a step they are, and the call has done what it says. -/
lemma ScopedBacked.after {b : Backend} {own : String} {s : ChainRun} (inv : ScopedBacked b own s) {op : ChainOp}
    (only : OnlyWriter own s op) : BackedAfter b own s op := by
  have inv' := inv.step only
  refine ⟨inv'.stored, AuditChain.verified_iff_linked.2 inv'.backed.linked, fun r c t called => ?_,
    fun e c t called => ?_⟩
  · rcases inv.call called with ⟨e, raised⟩ | ⟨r', c', t', eq, ext, -⟩
    · cases raised
    · cases eq
      exact ext
  · rcases inv.call called with ⟨e', raised⟩ | ⟨r, c', t', eq, -, -⟩
    · cases raised
      exact ⟨rfl, rfl⟩
    · cases eq

/-- A scoped chain opened on a store whose rows verify stays in step with it, whichever of its saves fail. -/
theorem chain_backed {b : Backend} (dur : b.Durable) {own : String} {t : AuditTable} {c : AuditChain}
    (opened : AuditChain.init b (some own) t = .ok c) (verified : c.Verified) {ops : List ChainOp}
    (only : Steps chainStep (OnlyWriter own) ⟨c, t⟩ ops) :
    Steps chainStep (BackedAfter b own) ⟨c, t⟩ ops := by
  have start : ScopedBacked b own ⟨c, t⟩ := by
    rw [init_scoped] at opened
    cases opened
    exact ⟨rfl, rfl, dur, rfl, AuditChain.verified_iff_linked.1 verified⟩
  exact steps_of_steps start only (fun _ _ inv only => inv.after only) fun _ _ inv only => inv.step only

/-! ## Opening a chain again -/

/-- A call of `record`, with what it meets outside. -/
abbrev RecordCall := RecordEnv × RecordArgs

def callStep (s : ChainRun) (call : RecordCall) : ChainRun :=
  ⟨(s.chain.record s.table call.1 call.2).2.1, (s.chain.record s.table call.1 call.2).2.2⟩

def Succeeds (s : ChainRun) (call : RecordCall) : Prop :=
  ∃ r, (s.chain.record s.table call.1 call.2).1 = .ok r

/-- A new chain over the store, under the same arguments, is opened with the list of the old one, and
verifies. -/
def Reopens (b : Backend) (tenantId : Option String) (s : ChainRun) : Prop :=
  ∃ c, AuditChain.init b tenantId s.table = .ok c ∧ c.records = s.chain.records ∧ c.Verified

/-- The tenants are one, an absent one and the empty one being the same. -/
def OneTenant (tenants : List (Option String)) : Prop :=
  ∀ o ∈ tenants, ∀ o' ∈ tenants, orElse o "" = orElse o' ""

omit [Platform] in
/-- That is what the opening of an unscoped chain counts. -/
lemma oneTenant_iff {records : List AuditRecord} : OneTenant (records.map (·.tenantId)) ↔
    (records.map fun r => orElse r.tenantId "").dedup.length ≤ 1 := by
  rw [← List.card_toFinset, Finset.card_le_one]
  simp [OneTenant]

/-- A chain in step with its store can be opened again exactly if it is scoped or its records are of one
tenant. -/
lemma Backed.reopens {s : ChainRun} (backed : Backed s.chain s.table) :
    Reopens s.chain.backend s.chain.tenantId s ↔ s.chain.tenantId ≠ none ∨
      OneTenant (s.chain.records.map (·.tenantId)) := by
  unfold Reopens AuditChain.init
  rw [← backed.stored, oneTenant_iff]
  dsimp only
  split
  · rename_i refused
    refine iff_of_false ?_ ?_
    · rintro ⟨c, raised, -⟩
      cases raised
    · rintro (named | few)
      · exact named refused.1
      · exact absurd few (not_le.2 refused.2)
  · rename_i accepted
    refine iff_of_true ⟨_, rfl, rfl, AuditChain.verified_iff_linked.2 backed.linked⟩ ?_
    by_cases unscoped : s.chain.tenantId = none
    · exact .inr (not_lt.1 fun many => accepted ⟨unscoped, many⟩)
    · exact .inl unscoped

/-- What the calls of a chain in step with its store leave: the chain in step, under its own arguments, and
where it is unscoped with a record of each tenant named. -/
structure AfterCalls (s : ChainRun) (calls : List RecordCall) (s' : ChainRun) : Prop where
  backed : Backed s'.chain s'.table
  backend : s'.chain.backend = s.chain.backend
  tenantId : s'.chain.tenantId = s.chain.tenantId
  tenants : s.chain.tenantId = none →
    s'.chain.records.map (·.tenantId) = s.chain.records.map (·.tenantId) ++ calls.map (·.2.tenantId)

/-- A call that succeeds adds one record. -/
lemma Backed.succeeds {s : ChainRun} (backed : Backed s.chain s.table) {call : RecordCall}
    (succeeds : Succeeds s call) : AfterCalls s [call] (callStep s call) := by
  obtain ⟨r, ok⟩ := succeeds
  rcases backed.record call.1 call.2 with ⟨e, raised⟩ | ⟨r', c', t', eq, ext, backed', tenant⟩
  · rw [raised] at ok
    cases ok
  · unfold callStep
    rw [eq]
    refine ⟨backed', by rw [ext.chain], by rw [ext.chain], fun unscoped => ?_⟩
    rw [AuditChain.resolveTenant_unscoped unscoped] at tenant
    rw [ext.chain]
    show (s.chain.records ++ [r']).map (·.tenantId) = s.chain.records.map (·.tenantId) ++ [call.2.tenantId]
    rw [Except.ok.inj tenant, List.map_append]
    rfl

/-- Calls that succeed add one record each. -/
lemma Backed.run {s : ChainRun} (backed : Backed s.chain s.table) {calls : List RecordCall}
    (succeed : Steps callStep Succeeds s calls) : AfterCalls s calls (run callStep s calls) := by
  induction calls generalizing s with
  | nil => exact ⟨backed, rfl, rfl, fun _ => (List.append_nil _).symm⟩
  | cons call calls ih =>
    have one := backed.succeeds succeed.1
    have rest := ih one.backed succeed.2
    refine ⟨rest.backed, rest.backend.trans one.backend, rest.tenantId.trans one.tenantId, fun unscoped => ?_⟩
    rw [run_cons, rest.tenants (one.tenantId.trans unscoped), one.tenants unscoped, List.append_assoc]
    rfl

/-- A chain over an empty store whose calls all succeed can be opened again, with the same list, exactly if it
is scoped or its calls name one tenant. -/
theorem reopens_iff {b : Backend} (dur : b.Durable) {tenantId : Option String} {c : AuditChain}
    (opened : AuditChain.init b tenantId .empty = .ok c) {calls : List RecordCall}
    (succeed : Steps callStep Succeeds ⟨c, .empty⟩ calls) :
    Reopens b tenantId (run callStep ⟨c, .empty⟩ calls) ↔
      tenantId ≠ none ∨ OneTenant (calls.map (·.2.tenantId)) := by
  have empty : b.loadAll tenantId .empty = [] := by
    rw [loadAll_durable dur]
    rfl
  have fresh : c = { records := [], tenantId, backend := b } := by
    unfold AuditChain.init at opened
    rw [empty] at opened
    simpa using opened.symm
  have start : Backed c .empty := by
    rw [fresh]
    exact ⟨dur, empty.symm, recordLink.linked_nil _⟩
  have after := Backed.run (s := ⟨c, .empty⟩) start succeed
  have reopens := after.backed.reopens
  rw [after.backend, after.tenantId] at reopens
  rw [fresh] at reopens after ⊢
  refine reopens.trans ?_
  cases tenantId with
  | some id => exact iff_of_true (.inl nofun) (.inl nofun)
  | none =>
    -- an unscoped chain holds a record of each tenant its calls name
    rw [after.tenants rfl]
    rfl

end

section Sample

local instance runsPlatform : Platform := .reference sampleDigests

def lockedStore : StoreExc := { typeName := "OperationalError", text := "database is locked" }

/-- A record, one that the engine does not store, and one after it. -/
theorem chain_backed_sample :
    Steps chainStep (BackedAfter .SQLiteBackend "acme") ⟨⟨[], some "acme", .SQLiteBackend⟩, .empty⟩
      [.record sampleEnv sampleArgs, .record { sampleEnv with fault := some lockedStore } sampleArgs,
        .appendReconciliation sampleEnv "acme" "t-1" "timeout" "hello" "no answer" none none] := by
  have opened : AuditChain.init .SQLiteBackend (some "acme") .empty = .ok ⟨[], some "acme", .SQLiteBackend⟩ := rfl
  refine chain_backed (by decide) opened (AuditChain.verified_iff_linked.2 (recordLink.linked_nil _))
    (show Steps chainStep (OnlyWriter "acme") _ [_, _, _] from ⟨?_, ?_, ?_, trivial⟩)
  all_goals
    intro t others
    cases others

/-- An unscoped chain. -/
def unscopedChain : AuditChain := { records := [], tenantId := none, backend := .SQLiteBackend }

def twoTenantCalls : List RecordCall :=
  [(sampleEnv, { sampleArgs with tenantId := some "acme" }), (sampleEnv, { sampleArgs with tenantId := some "beta" })]

/-- A call that returns succeeds. -/
lemma succeeds_of_isSome {s : ChainRun} {call : RecordCall}
    (some : (s.chain.record s.table call.1 call.2).1.toOption.isSome = true) : Succeeds s call := by
  unfold Succeeds
  cases out : (s.chain.record s.table call.1 call.2).1 with
  | error e =>
    rw [out] at some
    cases some
  | ok r => exact ⟨r, rfl⟩

/-- An unscoped chain takes the records of two tenants, and its store is not opened again. -/
theorem unscoped_not_reopened :
    AuditChain.init .SQLiteBackend none .empty = .ok unscopedChain ∧
      Steps callStep Succeeds ⟨unscopedChain, .empty⟩ twoTenantCalls ∧
      ¬ Reopens .SQLiteBackend none (run callStep ⟨unscopedChain, .empty⟩ twoTenantCalls) := by
  refine ⟨rfl, ⟨succeeds_of_isSome (by decide +kernel), succeeds_of_isSome (by decide +kernel), trivial⟩, ?_⟩
  rintro ⟨c, opened, -⟩
  have refused : (AuditChain.init .SQLiteBackend none
      (run callStep ⟨unscopedChain, .empty⟩ twoTenantCalls).table).toOption = none := by decide +kernel
  rw [opened] at refused
  cases refused

/-- A chain that names one tenant is opened again. -/
theorem reopens_iff_sample :
    Reopens .SQLiteBackend none (run callStep ⟨unscopedChain, .empty⟩ (twoTenantCalls.take 1)) := by
  have opened : AuditChain.init .SQLiteBackend none .empty = .ok unscopedChain := rfl
  have succeed : Steps callStep Succeeds ⟨unscopedChain, .empty⟩ (twoTenantCalls.take 1) :=
    ⟨succeeds_of_isSome (by decide +kernel), trivial⟩
  refine (reopens_iff (by decide) opened succeed).2 (.inr ?_)
  rintro o (_ | ⟨_, ⟨⟩⟩) o' (_ | ⟨_, ⟨⟩⟩)
  rfl

end Sample

end Custos
