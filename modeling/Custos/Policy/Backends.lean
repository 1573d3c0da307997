import Mathlib.Data.Finset.Dedup
import Mathlib.Data.List.AList
import Mathlib.Data.List.Dedup
import Mathlib.Data.List.Sort
import Custos.Library.Run
import Custos.Policy.Engine

/-!
# The backends of the policy store

`custos/policy_store.py`: rule dicts by tenant in memory, and a table of rows behind two SQL engines. A row is
numbered when it is inserted and rows are read back in that order; the index is unique by tenant and name.

What a driver refuses of a statement's text parameters is a parameter (`Drivers`). `Same` is the simulation:
per tenant, the rows of both tables are the dicts in memory. `backends_agree_iff` says in which calls the
three answer alike.
-/

namespace Custos

/-- What a driver raises for the text parameters of a statement, if it does: psycopg2 refuses a NUL, and
PostgreSQL a key that is too long for its index. -/
class Drivers where
  sqlite3 : List String → Option StoreExc
  psycopg2 : List String → Option StoreExc

/-! ## Rules as they are stored -/

/-- A rule as a dict, or as the columns of a row. -/
structure RuleDict where
  name : String
  pattern : String
  action : String
  reason : String
  deriving DecidableEq

/-- `_rule_to_dict`. -/
def PolicyRule.toDict (rule : PolicyRule) : RuleDict :=
  { name := rule.name, pattern := rule.pattern, action := rule.action.value, reason := rule.reason }

/-- `PolicyAction(value)`. -/
def PolicyAction.ofValue (value : String) : Except Exn PolicyAction :=
  if value = "allow" then .ok .ALLOW
  else if value = "deny" then .ok .DENY
  else if value = "audit" then .ok .AUDIT
  else .error (.ValueError (pyRepr value ++ " is not a valid PolicyAction"))

/-- `_rule_from_dict`. -/
def PolicyRule.fromDict (d : RuleDict) : Except Exn PolicyRule :=
  (PolicyAction.ofValue d.action).map fun action =>
    { name := d.name, pattern := d.pattern, action, reason := d.reason }

/-- A rule is read back from its dict. -/
@[simp] lemma fromDict_toDict (rule : PolicyRule) : PolicyRule.fromDict (PolicyRule.toDict rule) = .ok rule := by
  obtain ⟨name, pattern, action, reason⟩ := rule
  cases action <;> rfl

lemma mapM_fromDict (rules : List PolicyRule) : (rules.map PolicyRule.toDict).mapM PolicyRule.fromDict = .ok rules := by
  induction rules with
  | nil => rfl
  | cons rule rules ih =>
    rw [List.map_cons, List.mapM_cons, fromDict_toDict, ih]
    rfl

/-! ## In memory -/

/-- `InMemoryPolicyBackend`. -/
structure InMemoryPolicyBackend where
  rules : AList fun _ : String => List RuleDict := ∅

namespace InMemoryPolicyBackend

/-- `save_rules`. -/
def saveRules (b : InMemoryPolicyBackend) (tenantId : String) (rules : List PolicyRule) : InMemoryPolicyBackend :=
  { rules := b.rules.insert tenantId (rules.map PolicyRule.toDict) }

def contents (b : InMemoryPolicyBackend) (tenantId : String) : List RuleDict := (b.rules.lookup tenantId).getD []

/-- `load_rules`. -/
def loadRules (b : InMemoryPolicyBackend) (tenantId : String) : Except Exn (List PolicyRule) :=
  (b.contents tenantId).mapM PolicyRule.fromDict

/-- `delete_tenant`. -/
def deleteTenant (b : InMemoryPolicyBackend) (tenantId : String) : InMemoryPolicyBackend :=
  { rules := b.rules.erase tenantId }

/-- `list_tenants`. -/
def listTenants (b : InMemoryPolicyBackend) : List String := b.rules.keys

end InMemoryPolicyBackend

/-! ## The table -/

structure PolicyRow where
  id : Nat
  tenantId : String
  rule : RuleDict

def PolicyRow.key (r : PolicyRow) : String × String := (r.tenantId, r.rule.name)

/-- The table `policy_rules`, rows by id, and the last id that was given out. -/
structure PolicyTable where
  lastId : Nat
  rows : List PolicyRow
  ordered : rows.Pairwise (·.id < ·.id)
  issued : ∀ r ∈ rows, r.id ≤ lastId
  unique : (rows.map PolicyRow.key).Nodup

namespace PolicyTable

def empty : PolicyTable := ⟨0, [], .nil, nofun, .nil⟩

/-- The id is drawn, and nothing is inserted. -/
def draw (t : PolicyTable) : PolicyTable :=
  { t with lastId := t.lastId + 1, issued := fun r mem => Nat.le_succ_of_le (t.issued r mem) }

/-- `INSERT INTO policy_rules`, under a fresh id; `none` is a violation of the unique index. -/
def insert (t : PolicyTable) (tenantId : String) (rule : RuleDict) : Option PolicyTable :=
  if new : ∀ row ∈ t.rows, row.key ≠ (tenantId, rule.name) then
    some
      { lastId := t.lastId + 1
        rows := t.rows ++ [⟨t.lastId + 1, tenantId, rule⟩]
        ordered := by
          refine List.pairwise_append.2 ⟨t.ordered, List.pairwise_singleton .., fun r mem r' mem' => ?_⟩
          rw [List.mem_singleton.1 mem']
          exact Nat.lt_succ_of_le (t.issued r mem)
        issued := fun r mem => by
          rcases List.mem_append.1 mem with mem | mem
          · exact Nat.le_succ_of_le (t.issued r mem)
          · rw [List.mem_singleton.1 mem]
        unique := by
          rw [List.map_append]
          exact t.unique.append (List.nodup_singleton _) (by simpa [PolicyRow.key] using new) }
  else none

/-- `DELETE FROM policy_rules WHERE tenant_id = ?`. -/
def delete (t : PolicyTable) (tenantId : String) : PolicyTable :=
  { t with
    rows := t.rows.filter (·.tenantId ≠ tenantId)
    ordered := t.ordered.filter _
    issued := fun r mem => t.issued r (List.mem_of_mem_filter mem)
    unique := t.unique.sublist (List.filter_sublist.map _) }

/-- `SELECT … WHERE tenant_id = ? ORDER BY id ASC`. -/
def select (t : PolicyTable) (tenantId : String) : List RuleDict :=
  ((t.rows.filter (·.tenantId = tenantId)).insertionSort (·.id ≤ ·.id)).map (·.rule)

/-- `SELECT DISTINCT tenant_id`. -/
def tenants (t : PolicyTable) : List String := (t.rows.map (·.tenantId)).dedup

end PolicyTable

/-- What sets the two SQL backends apart. A sequence of PostgreSQL keeps the ids that were drawn when its
transaction is rolled back. -/
structure SqlBackend where
  refuses : List String → Option StoreExc
  violation : String → String → StoreExc
  maxId : Nat
  exhausted : StoreExc
  keepsIds : Bool

/-- `SQLitePolicyBackend`. -/
def SQLitePolicyBackend [Drivers] : SqlBackend where
  refuses := Drivers.sqlite3
  violation _ _ :=
    { typeName := "IntegrityError", text := "UNIQUE constraint failed: policy_rules.tenant_id, policy_rules.name" }
  maxId := 2 ^ 63 - 1
  exhausted := { typeName := "OperationalError", text := "database or disk is full" }
  keepsIds := false

/-- `PostgreSQLPolicyBackend`. -/
def PostgreSQLPolicyBackend [Drivers] : SqlBackend where
  refuses := Drivers.psycopg2
  violation tenantId name :=
    { typeName := "UniqueViolation", sqlstate := some "23505"
      text := "duplicate key value violates unique constraint \"policy_rules_tenant_id_name_key\"\n" ++
        "DETAIL:  Key (tenant_id, name)=(" ++ tenantId ++ ", " ++ name ++ ") already exists.\n" }
  maxId := 2 ^ 31 - 1
  exhausted :=
    { typeName := "SequenceGeneratorLimitExceeded", sqlstate := some "2200H"
      text := "nextval: reached maximum value of sequence \"policy_rules_id_seq\" (2147483647)\n" }
  keepsIds := true

namespace SqlBackend

/-- One `INSERT`: the driver takes the parameters, the row is numbered, the index takes it. -/
def insert (b : SqlBackend) (t : PolicyTable) (tenantId : String) (rule : PolicyRule) :
    Except Exn Unit × PolicyTable :=
  match b.refuses [tenantId, rule.name, rule.pattern, rule.action.value, rule.reason] with
  | some exc => (.error (.Store exc), t)
  | none =>
    if b.maxId ≤ t.lastId then (.error (.Store b.exhausted), t)
    else
      match t.insert tenantId (PolicyRule.toDict rule) with
      | some t => (.ok (), t)
      | none => (.error (.Store (b.violation tenantId rule.name)), t.draw)

/-- The loop of `save_rules`. -/
def insertAll (b : SqlBackend) (t : PolicyTable) (tenantId : String) :
    List PolicyRule → Except Exn Unit × PolicyTable
  | [] => (.ok (), t)
  | rule :: rules =>
    match b.insert t tenantId rule with
    | (.error e, t) => (.error e, t)
    | (.ok (), t) => b.insertAll t tenantId rules

/-- The table before a transaction, when that came as far as `during`. -/
def rollback (b : SqlBackend) (t during : PolicyTable) : PolicyTable :=
  if b.keepsIds then
    { t with
      lastId := max t.lastId during.lastId
      issued := fun r mem => (t.issued r mem).trans (le_max_left ..) }
  else t

/-- `save_rules`, in one transaction. -/
def saveRules (b : SqlBackend) (t : PolicyTable) (tenantId : String) (rules : List PolicyRule) :
    Except Exn Unit × PolicyTable :=
  match b.refuses [tenantId] with
  | some exc => (.error (.Store exc), t)
  | none =>
    match b.insertAll (t.delete tenantId) tenantId rules with
    | (.ok (), t') => (.ok (), t')
    | (.error e, during) => (.error e, b.rollback t during)

/-- `load_rules`. -/
def loadRules (b : SqlBackend) (t : PolicyTable) (tenantId : String) : Except Exn (List PolicyRule) :=
  match b.refuses [tenantId] with
  | some exc => .error (.Store exc)
  | none => (t.select tenantId).mapM PolicyRule.fromDict

/-- `delete_tenant`. -/
def deleteTenant (b : SqlBackend) (t : PolicyTable) (tenantId : String) : Except Exn Unit × PolicyTable :=
  match b.refuses [tenantId] with
  | some exc => (.error (.Store exc), t)
  | none => (.ok (), t.delete tenantId)

end SqlBackend

/-! ## What a tenant has in a table -/

namespace PolicyTable

def contents (t : PolicyTable) (tenantId : String) : List RuleDict :=
  (t.rows.filter (·.tenantId = tenantId)).map (·.rule)

/-- The order of the ids is the order of the rows. -/
lemma select_eq (t : PolicyTable) (id : String) : t.select id = t.contents id := by
  have sorted : (t.rows.filter (·.tenantId = id)).Pairwise (·.id ≤ ·.id) :=
    (t.ordered.filter _).imp Nat.le_of_lt
  rw [select, contents, List.Pairwise.insertionSort_eq sorted]

/-- A deletion deletes one tenant's rules. -/
lemma contents_delete (t : PolicyTable) (id other : String) :
    (t.delete id).contents other = if other = id then [] else t.contents other := by
  unfold delete contents
  dsimp only
  rw [List.filter_filter]
  split
  · rename_i e
    rw [List.map_eq_nil_iff, List.filter_eq_nil_iff]
    simp [e]
  · rename_i ne
    congr 1
    refine List.filter_congr fun r _ => ?_
    by_cases e : r.tenantId = other
    · simp [e, ne]
    · simp [e]

/-- A rule can be inserted exactly where the tenant has none of its name. -/
lemma insert_eq_none {t : PolicyTable} {id : String} {rule : RuleDict} :
    t.insert id rule = none ↔ rule.name ∈ (t.contents id).map (·.name) := by
  have taken : rule.name ∈ (t.contents id).map (·.name) ↔ ¬ ∀ row ∈ t.rows, row.key ≠ (id, rule.name) := by
    unfold contents
    simp [PolicyRow.key, and_comm, and_left_comm, and_assoc]
  rw [taken]
  unfold insert
  split
  · rename_i new
    exact iff_of_false nofun (not_not.2 new)
  · rename_i taken
    exact iff_of_true rfl taken

/-- A row that is inserted is the last of its tenant's. -/
lemma insert_spec {t t' : PolicyTable} {id : String} {rule : RuleDict} (ok : t.insert id rule = some t') :
    t'.lastId = t.lastId + 1 ∧
      ∀ other, t'.contents other = t.contents other ++ if other = id then [rule] else [] := by
  unfold insert at ok
  split at ok
  · cases ok
    refine ⟨rfl, fun other => ?_⟩
    unfold contents
    rw [List.filter_append, List.map_append]
    by_cases e : other = id
    · simp [e]
    · simp [e, Ne.symm e]
  · cases ok

/-- The tenants are those with a row. -/
lemma mem_tenants {t : PolicyTable} {id : String} : id ∈ t.tenants ↔ t.contents id ≠ [] := by
  unfold tenants contents
  simp [List.mem_dedup, List.filter_eq_nil_iff]

end PolicyTable

namespace SqlBackend

variable {b : SqlBackend}

/-- One more row of a tenant goes into the table. -/
structure Takes (b : SqlBackend) (t : PolicyTable) (id : String) (rule : PolicyRule) : Prop where
  accepted : b.refuses [id, rule.name, rule.pattern, rule.action.value, rule.reason] = none
  ids : t.lastId < b.maxId
  fresh : rule.name ∉ (t.contents id).map (·.name)

/-- An insert is taken or refused. -/
lemma insert_cases (b : SqlBackend) (t : PolicyTable) (id : String) (rule : PolicyRule) :
    (b.Takes t id rule ∧ ∃ t', b.insert t id rule = (.ok (), t') ∧ t'.lastId = t.lastId + 1 ∧
      ∀ other, t'.contents other = t.contents other ++ if other = id then [PolicyRule.toDict rule] else []) ∨
    (¬ b.Takes t id rule ∧ ∃ e t', b.insert t id rule = (.error e, t')) := by
  unfold insert
  cases accepted : b.refuses [id, rule.name, rule.pattern, rule.action.value, rule.reason] with
  | some exc =>
    refine .inr ⟨fun takes => ?_, _, t, rfl⟩
    cases accepted.symm.trans takes.accepted
  | none =>
    dsimp only
    split
    · rename_i exhausted
      exact .inr ⟨fun takes => absurd takes.ids (not_lt.mpr exhausted), _, t, rfl⟩
    · rename_i ids
      cases inserted : t.insert id (PolicyRule.toDict rule) with
      | none =>
        have taken := PolicyTable.insert_eq_none.1 inserted
        exact .inr ⟨fun takes => takes.fresh taken, _, t.draw, rfl⟩
      | some t' =>
        have fresh : rule.name ∉ (t.contents id).map (·.name) := by
          intro taken
          cases inserted.symm.trans (PolicyTable.insert_eq_none.2 taken)
        exact .inl ⟨⟨accepted, not_le.mp ids, fresh⟩, t', rfl, PolicyTable.insert_spec inserted⟩

/-- All of a tenant's rules go into the table, one after the other. -/
structure TakesAll (b : SqlBackend) (t : PolicyTable) (id : String) (rules : List PolicyRule) : Prop where
  accepted : ∀ rule ∈ rules, b.refuses [id, rule.name, rule.pattern, rule.action.value, rule.reason] = none
  ids : rules = [] ∨ t.lastId + rules.length ≤ b.maxId
  distinct : (rules.map (·.name)).Nodup
  fresh : ∀ rule ∈ rules, rule.name ∉ (t.contents id).map (·.name)

/-- Rules are taken one by one. -/
lemma takesAll_cons {t t' : PolicyTable} {id : String} {rule : PolicyRule} {rules : List PolicyRule}
    (drawn : t'.lastId = t.lastId + 1) (after : t'.contents id = t.contents id ++ [PolicyRule.toDict rule]) :
    b.TakesAll t id (rule :: rules) ↔ b.Takes t id rule ∧ b.TakesAll t' id rules := by
  constructor
  · rintro ⟨accepted, ids, distinct, fresh⟩
    obtain ⟨unlike, distinct⟩ := List.nodup_cons.1 distinct
    have ids := ids.resolve_left nofun
    rw [List.length_cons] at ids
    refine ⟨⟨accepted rule (.head _), by omega, fresh rule (.head _)⟩,
      fun r mem => accepted r (.tail _ mem), .inr (by omega), distinct, fun r mem => ?_⟩
    rw [after, List.map_append, List.mem_append, not_or]
    refine ⟨fresh r (.tail _ mem), fun same => unlike ?_⟩
    rw [List.map_singleton, List.mem_singleton] at same
    exact List.mem_map.2 ⟨r, mem, same⟩
  · rintro ⟨takes, accepted, ids, distinct, fresh⟩
    simp only [after, List.map_append, List.mem_append, not_or, List.map_singleton, List.mem_singleton] at fresh
    refine ⟨?_, .inr ?_, ?_, ?_⟩
    · exact List.forall_mem_cons.2 ⟨takes.accepted, accepted⟩
    · have one := takes.ids
      rw [List.length_cons]
      rcases ids with rfl | ids
      · rw [List.length_nil]
        omega
      · omega
    · refine List.nodup_cons.2 ⟨fun mem => ?_, distinct⟩
      obtain ⟨r, mem, same⟩ := List.mem_map.1 mem
      exact (fresh r mem).2 same
    · exact List.forall_mem_cons.2 ⟨takes.fresh, fun r mem => (fresh r mem).1⟩

/-- A list of rules is inserted whole, or its insertion raises. -/
lemma insertAll_cases (b : SqlBackend) (t : PolicyTable) (id : String) (rules : List PolicyRule) :
    (b.TakesAll t id rules ∧ ∃ t', b.insertAll t id rules = (.ok (), t') ∧
      ∀ other, t'.contents other = t.contents other ++ if other = id then rules.map PolicyRule.toDict else []) ∨
    (¬ b.TakesAll t id rules ∧ ∃ e t', b.insertAll t id rules = (.error e, t')) := by
  induction rules generalizing t with
  | nil => exact .inl ⟨⟨nofun, .inl rfl, List.nodup_nil, nofun⟩, t, rfl, fun other => by simp⟩
  | cons rule rules ih =>
    unfold insertAll
    rcases b.insert_cases t id rule with ⟨takes, t', eq, drawn, after⟩ | ⟨no, e, t', eq⟩
    · rw [eq]
      have own := after id
      rw [if_pos rfl] at own
      rw [takesAll_cons drawn own]
      rcases ih t' with ⟨all, t'', eq', after'⟩ | ⟨no, e, t'', eq'⟩
      · refine .inl ⟨⟨takes, all⟩, t'', eq', fun other => ?_⟩
        rw [after', after, List.append_assoc]
        split
        · rfl
        · rfl
      · exact .inr ⟨fun both => no both.2, e, t'', eq'⟩
    · rw [eq]
      refine .inr ⟨fun all => no ?_, e, t', rfl⟩
      have ids := all.ids.resolve_left nofun
      rw [List.length_cons] at ids
      exact ⟨all.accepted rule (.head _), by omega, all.fresh rule (.head _)⟩

/-- What a transaction needs of a tenant's rules to store them. -/
structure Storable (b : SqlBackend) (t : PolicyTable) (id : String) (rules : List PolicyRule) : Prop where
  tenant : b.refuses [id] = none
  accepted : ∀ rule ∈ rules, b.refuses [id, rule.name, rule.pattern, rule.action.value, rule.reason] = none
  ids : rules = [] ∨ t.lastId + rules.length ≤ b.maxId
  distinct : (rules.map (·.name)).Nodup

/-- A save replaces the tenant's rows, or raises and leaves all rows. -/
lemma saveRules_cases (b : SqlBackend) (t : PolicyTable) (id : String) (rules : List PolicyRule) :
    (b.Storable t id rules ∧ ∃ t', b.saveRules t id rules = (.ok (), t') ∧
      ∀ other, t'.contents other = if other = id then rules.map PolicyRule.toDict else t.contents other) ∨
    (¬ b.Storable t id rules ∧ ∃ e t', b.saveRules t id rules = (.error e, t') ∧ t'.rows = t.rows) := by
  unfold saveRules
  cases tenant : b.refuses [id] with
  | some exc =>
    refine .inr ⟨fun storable => ?_, _, t, rfl, rfl⟩
    cases tenant.symm.trans storable.tenant
  | none =>
    have gone : (t.delete id).contents id = [] := by
      rw [PolicyTable.contents_delete, if_pos rfl]
    -- the tenant's rows are gone before the first insert, so no old name is in the way
    have storable : b.TakesAll (t.delete id) id rules ↔ b.Storable t id rules := by
      refine ⟨fun all => ⟨tenant, all.accepted, all.ids, all.distinct⟩,
        fun storable => ⟨storable.accepted, storable.ids, storable.distinct, fun rule _ => ?_⟩⟩
      rw [gone]
      exact List.not_mem_nil
    rw [← storable]
    dsimp only
    rcases b.insertAll_cases (t.delete id) id rules with ⟨all, t', eq, after⟩ | ⟨no, e, during, eq⟩
    · rw [eq]
      refine .inl ⟨all, t', rfl, fun other => ?_⟩
      rw [after, PolicyTable.contents_delete]
      split
      · rfl
      · exact List.append_nil _
    -- the rows come back, and of the drawn ids at most the counter stays
    · rw [eq]
      refine .inr ⟨no, e, _, rfl, ?_⟩
      unfold rollback
      split
      · rfl
      · rfl

end SqlBackend

/-! ## Calls and answers -/

inductive PolicyOp where
  | save (tenantId : String) (rules : List PolicyRule)
  | load (tenantId : String)
  | delete (tenantId : String)
  | listTenants

/-- What a call returns; the tenants as a set. -/
inductive PolicyAnswer where
  | done
  | rules (rules : List PolicyRule)
  | tenants (ids : Finset String)
  deriving DecidableEq

def InMemoryPolicyBackend.apply (m : InMemoryPolicyBackend) :
    PolicyOp → Except Exn PolicyAnswer × InMemoryPolicyBackend
  | .save tenantId rules => (.ok .done, m.saveRules tenantId rules)
  | .load tenantId => ((m.loadRules tenantId).map .rules, m)
  | .delete tenantId => (.ok .done, m.deleteTenant tenantId)
  | .listTenants => (.ok (.tenants m.listTenants.toFinset), m)

def SqlBackend.apply (b : SqlBackend) (t : PolicyTable) : PolicyOp → Except Exn PolicyAnswer × PolicyTable
  | .save tenantId rules =>
    let (result, t) := b.saveRules t tenantId rules
    (result.map fun _ => .done, t)
  | .load tenantId => ((b.loadRules t tenantId).map .rules, t)
  | .delete tenantId =>
    let (result, t) := b.deleteTenant t tenantId
    (result.map fun _ => .done, t)
  | .listTenants => (.ok (.tenants t.tenants.toFinset), t)

namespace InMemoryPolicyBackend

variable (m : InMemoryPolicyBackend) (id other : String)

/-- Rules that are saved are the tenant's. -/
lemma contents_save (rules : List PolicyRule) :
    (m.saveRules id rules).contents other = if other = id then rules.map PolicyRule.toDict else m.contents other := by
  unfold contents saveRules
  split
  · rename_i e
    rw [e, AList.lookup_insert]
    rfl
  · rename_i ne
    rw [AList.lookup_insert_ne ne]

lemma contents_delete :
    (m.deleteTenant id).contents other = if other = id then [] else m.contents other := by
  unfold contents deleteTenant
  split
  · rename_i e
    rw [e, AList.lookup_erase]
    rfl
  · rename_i ne
    rw [AList.lookup_erase_ne ne]

end InMemoryPolicyBackend

/-! ## The simulation -/

/-- A table holds for every tenant what is in memory, and that is read back as rules. -/
structure SameRows (m : InMemoryPolicyBackend) (t : PolicyTable) : Prop where
  contents : ∀ id, t.contents id = m.contents id
  decodes : ∀ id, ∃ rules, m.loadRules id = .ok rules

namespace SqlBackend

/-- The call is one that this SQL backend takes as the one in memory does: what is saved can be stored, the
driver takes the tenant's name, and no tenant is listed that has an empty list of rules. -/
def Fine (b : SqlBackend) (m : InMemoryPolicyBackend) (t : PolicyTable) : PolicyOp → Prop
  | .save id rules => b.Storable t id rules
  | .load id => b.refuses [id] = none
  | .delete id => b.refuses [id] = none
  | .listTenants => ∀ id, m.rules.lookup id ≠ some []

variable {b : SqlBackend} {m : InMemoryPolicyBackend} {t : PolicyTable}

/-- The tenants that are listed are the same but for one without rules. -/
lemma tenants_eq_iff (same : SameRows m t) :
    t.tenants.toFinset = m.listTenants.toFinset ↔ ∀ id, m.rules.lookup id ≠ some [] := by
  have listed : ∀ id, id ∈ m.listTenants ↔ ∃ rules, m.rules.lookup id = some rules := fun id =>
    AList.mem_keys.symm.trans (AList.lookup_isSome.symm.trans Option.isSome_iff_exists)
  have stored : ∀ id, id ∈ t.tenants ↔ ∃ rules, m.rules.lookup id = some rules ∧ rules ≠ [] := by
    intro id
    rw [PolicyTable.mem_tenants, same.contents, InMemoryPolicyBackend.contents]
    cases m.rules.lookup id with
    | none => simp
    | some rules => simp
  constructor
  · intro eq id empty
    have mem := List.mem_toFinset.2 ((listed id).2 ⟨[], empty⟩)
    rw [← eq, List.mem_toFinset, stored, empty] at mem
    obtain ⟨rules, e, ne⟩ := mem
    exact ne (Option.some.inj e).symm
  · intro nonempty
    ext id
    rw [List.mem_toFinset, List.mem_toFinset, stored, listed]
    refine exists_congr fun rules => and_iff_left_of_imp ?_
    rintro some rfl
    exact nonempty id some

/-- Over the same rows, an SQL backend answers as the one in memory exactly where the call is fine. -/
lemma apply_alike_iff (same : SameRows m t) (op : PolicyOp) :
    (b.apply t op).1.toOption = (m.apply op).1.toOption ↔ b.Fine m t op := by
  cases op with
  | save id rules =>
    unfold apply
    rcases b.saveRules_cases t id rules with ⟨storable, t', eq, -⟩ | ⟨no, e, t', eq, -⟩
    · simp only [eq]
      exact iff_of_true rfl storable
    · simp only [eq]
      exact iff_of_false nofun no
  | load id =>
    -- what was saved can be read back, so only the driver can refuse
    obtain ⟨rules, decodes⟩ := same.decodes id
    have read : (t.select id).mapM PolicyRule.fromDict = .ok rules := by
      rw [PolicyTable.select_eq, same.contents]
      exact decodes
    unfold apply Fine InMemoryPolicyBackend.apply loadRules
    dsimp only
    rw [decodes, read]
    cases b.refuses [id] with
    | some exc => exact iff_of_false nofun nofun
    | none => exact iff_of_true rfl rfl
  | delete id =>
    unfold apply Fine deleteTenant
    dsimp only
    cases b.refuses [id] with
    | some exc => exact iff_of_false nofun nofun
    | none => exact iff_of_true rfl rfl
  | listTenants =>
    refine Iff.trans ?_ (tenants_eq_iff same)
    unfold apply InMemoryPolicyBackend.apply
    simp [Except.toOption]

/-- A call that raises leaves the rows. -/
lemma apply_kept {op : PolicyOp} {e : Exn} (raised : (b.apply t op).1 = .error e) :
    (b.apply t op).2.rows = t.rows := by
  unfold apply at raised ⊢
  cases op with
  | save id rules =>
    rcases b.saveRules_cases t id rules with ⟨-, t', eq, -⟩ | ⟨-, e, t', eq, kept⟩
    · simp only [eq] at raised
      cases raised
    · simp only [eq]
      exact kept
  | load id => rfl
  | delete id =>
    unfold deleteTenant at raised ⊢
    cases refused : b.refuses [id] with
    | some exc => simp only [refused]
    | none =>
      simp only [refused] at raised
      cases raised
  | listTenants => rfl

/-- A call that is fine keeps the rows the same. -/
lemma apply_same (same : SameRows m t) {op : PolicyOp} (fine : b.Fine m t op) :
    SameRows (m.apply op).2 (b.apply t op).2 := by
  cases op with
  | save id rules =>
    unfold apply InMemoryPolicyBackend.apply
    rcases b.saveRules_cases t id rules with ⟨-, t', eq, after⟩ | ⟨no, -⟩
    · simp only [eq]
      refine ⟨fun other => ?_, fun other => ?_⟩
      · rw [after, m.contents_save, same.contents]
      · unfold InMemoryPolicyBackend.loadRules
        rw [m.contents_save]
        split
        · exact ⟨rules, mapM_fromDict rules⟩
        · exact same.decodes other
    · exact absurd fine no
  | load id => exact same
  | delete id =>
    have accepted : b.refuses [id] = none := fine
    unfold apply InMemoryPolicyBackend.apply deleteTenant
    simp only [accepted]
    refine ⟨fun other => ?_, fun other => ?_⟩
    · rw [t.contents_delete, m.contents_delete, same.contents]
    · unfold InMemoryPolicyBackend.loadRules
      rw [m.contents_delete]
      split
      · exact ⟨[], rfl⟩
      · exact same.decodes other
  | listTenants => exact same

end SqlBackend

/-- The three backends, each after the same calls. -/
structure PolicyBackends where
  memory : InMemoryPolicyBackend := {}
  sqlite : PolicyTable := .empty
  postgres : PolicyTable := .empty

namespace PolicyBackends

variable [Drivers]

def step (s : PolicyBackends) (op : PolicyOp) : PolicyBackends where
  memory := (s.memory.apply op).2
  sqlite := (SQLitePolicyBackend.apply s.sqlite op).2
  postgres := (PostgreSQLPolicyBackend.apply s.postgres op).2

/-- The three give the same answer or raise together, and what raises changes nothing. -/
structure Alike (s : PolicyBackends) (op : PolicyOp) : Prop where
  sqlite : (SQLitePolicyBackend.apply s.sqlite op).1.toOption = (s.memory.apply op).1.toOption
  postgres : (PostgreSQLPolicyBackend.apply s.postgres op).1.toOption = (s.memory.apply op).1.toOption
  memoryKept : ∀ e, (s.memory.apply op).1 = .error e → (s.memory.apply op).2 = s.memory
  sqliteKept : ∀ e, (SQLitePolicyBackend.apply s.sqlite op).1 = .error e →
    (SQLitePolicyBackend.apply s.sqlite op).2.rows = s.sqlite.rows
  postgresKept : ∀ e, (PostgreSQLPolicyBackend.apply s.postgres op).1 = .error e →
    (PostgreSQLPolicyBackend.apply s.postgres op).2.rows = s.postgres.rows

/-- The call is fine for both SQL backends. -/
def Fine (s : PolicyBackends) (op : PolicyOp) : Prop :=
  SQLitePolicyBackend.Fine s.memory s.sqlite op ∧ PostgreSQLPolicyBackend.Fine s.memory s.postgres op

/-- Both tables hold what is in memory. -/
def Same (s : PolicyBackends) : Prop := SameRows s.memory s.sqlite ∧ SameRows s.memory s.postgres

omit [Drivers] in
lemma same_empty : Same {} := ⟨⟨fun _ => rfl, fun _ => ⟨[], rfl⟩⟩, ⟨fun _ => rfl, fun _ => ⟨[], rfl⟩⟩⟩

/-- Backends that hold the same answer alike where the call is one of those that do. -/
lemma alike_iff_fine {s : PolicyBackends} (same : s.Same) (op : PolicyOp) : s.Alike op ↔ s.Fine op := by
  have sqlite := SqlBackend.apply_alike_iff (b := SQLitePolicyBackend) same.1 op
  have postgres := SqlBackend.apply_alike_iff (b := PostgreSQLPolicyBackend) same.2 op
  constructor
  · intro alike
    exact ⟨sqlite.1 alike.sqlite, postgres.1 alike.postgres⟩
  · intro fine
    refine ⟨sqlite.2 fine.1, postgres.2 fine.2, fun e raised => ?_, fun e => SqlBackend.apply_kept,
      fun e => SqlBackend.apply_kept⟩
    cases op with
    | load id => rfl
    | save id rules => cases raised
    | delete id => cases raised
    | listTenants => cases raised

/-- The three backends are alike in exactly those runs whose calls are fine for both SQL backends. -/
theorem backends_agree_iff (ops : List PolicyOp) : Steps step Alike {} ops ↔ Steps step Fine {} ops :=
  steps_congr same_empty (fun _ op same => alike_iff_fine same op)
    (fun _ _ same fine => ⟨SqlBackend.apply_same same.1 fine.1, SqlBackend.apply_same same.2 fine.2⟩) ops

end PolicyBackends

section Sample

/-- Drivers that refuse nothing but psycopg2 a NUL. -/
local instance sampleDrivers : Drivers where
  sqlite3 _ := none
  psycopg2 params :=
    if params.any fun s => s.toList.contains (Char.ofNat 0) then
      some { typeName := "ValueError", text := "A string literal cannot contain NUL (0x00) characters." }
    else none

def noJokes : PolicyRule := ⟨"no_jokes", "joke", .DENY, "no jokes"⟩

/-- A list with one rule twice is saved in memory and refused by both tables; an empty list is listed in
memory only; and a tenant with a NUL in its name is one that psycopg2 alone refuses. -/
theorem backends_disagree :
    ¬ Steps PolicyBackends.step PolicyBackends.Alike {} [ .save "acme" [noJokes, noJokes]] ∧
      ¬ Steps PolicyBackends.step PolicyBackends.Alike {} [ .save "acme" [], .listTenants] ∧
      ¬ Steps PolicyBackends.step PolicyBackends.Alike {} [ .load (String.singleton (Char.ofNat 0))] := by
  refine ⟨?_, ?_, ?_⟩
  · rintro ⟨alike, -⟩
    exact absurd alike.sqlite (by decide)
  · rintro ⟨-, alike, -⟩
    exact absurd alike.sqlite (by decide)
  · rintro ⟨alike, -⟩
    exact absurd alike.postgres (by decide)

end Sample

end Custos
