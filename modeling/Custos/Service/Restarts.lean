import Custos.Service.Startup

/-!
# Restarts

One process after another over the same stores, in production. A process starts as `main.py` does: it boots, `lifespan`
checks it and writes its binding, and it serves, or it is refused and is gone. It may die at any time, also while it
serves a call, and then nobody hears of what the call came to.

`records_outlive_processes` says that the tenants' logs stand above the processes: what anyone was told, by whichever
process, is in the log of its tenant, in the order it was told, and what the process that runs now lists and verifies
is that log.
-/

namespace Custos

variable {γ : Type}

/-- A process over its stores, or the stores alone. -/
inductive Site (γ : Type) where
  | down (stores : Stores)
  | running (s : Service γ)

def Site.stores : Site γ → Stores
  | .down stores => stores
  | .running s => s.stores

/-- What a process starts with in production. -/
structure ProductionStart (γ : Type) where
  env : RequestEnv
  production : Auth.production env.environ = true
  policyStore : PolicyStore
  now : ℚ
  gate : ActionGate γ

inductive SiteOp (γ : Type) where
  | start (p : ProductionStart γ)
  | call (c : ApiCall)
  | die (during : Option ApiCall)

section

variable [Platform] [Regex] [BindingLib] [StartupLib] [JwtLib]

/-- The start of a process over the stores: the binding it tells of, and what it leaves. -/
def ProductionStart.process (p : ProductionStart γ) (stores : Stores) : Option Binding × Site γ :=
  match TenantManager.boot (AuditPersistence.buildBackend p.env.environ) p.policyStore p.env.environ p.now
      stores.audit with
  | .error _ => (none, .down stores)
  | .ok tenants =>
    match Main.lifespan { tenants, gate := p.gate, stores } p.env with
    | (.error _, s) => (none, .down s.stores)
    | (.ok binding, s) => (binding, .running s)

namespace Site

/-- What happens next. Where nothing runs, nothing is served. -/
def step (hooks : CustodyHooks γ) (d : Site γ) : SiteOp γ → Site γ
  | .start p => (p.process d.stores).2
  | .call c =>
    match d with
    | .down stores => .down stores
    | .running s => .running (apiStep hooks s c)
  | .die none => .down d.stores
  | .die (some c) =>
    match d with
    | .down stores => .down stores
    | .running s => .down (apiStep hooks s c).stores

/-- What is told of the tenant's records: by a start of its binding, and by a process that lives of its decisions. -/
def tells (hooks : CustodyHooks γ) (id : String) (d : Site γ) : SiteOp γ → Option Told
  | .start p => if BINDING_TENANT = id then (p.process d.stores).1.map Binding.told else none
  | .call c =>
    match d with
    | .down _ => none
    | .running s => tellsOf hooks id s c
  | .die _ => none

/-- The tenant's rows. -/
def history (d : Site γ) (id : String) : List AuditRecord :=
  (d.stores.audit.select (some id)).map AuditRecord.ofRow

/-- What runs has its chains in step with the table. -/
def Kept : Site γ → Prop
  | .down _ => True
  | .running s => Custos.Kept s

variable {hooks : CustodyHooks γ} {d : Site γ}

omit [Platform] [Regex] [BindingLib] [StartupLib] [JwtLib] in
/-- A durable backend loads the tenant's rows. -/
lemma history_of_durable {backend : Backend} (dur : backend.Durable) (t : AuditTable) (id : String) :
    backend.loadAll (some id) t = (t.select (some id)).map AuditRecord.ofRow := by
  cases backend with
  | InMemoryBackend => exact absurd rfl dur
  | SQLiteBackend => rfl
  | PostgreSQLBackend => rfl

omit [Platform] [Regex] [BindingLib] [StartupLib] [JwtLib] in
lemma history_running {s : Service γ} (kept : Custos.Kept s) (id : String) : (running s).history id = s.history id :=
  (history_of_durable kept.durable _ id).symm

/-- What one step adds to a tenant's rows. -/
structure Gains (id : String) (new : List AuditRecord) (d d' : Site γ) : Prop where
  kept : d'.Kept
  rows : d'.history id = d.history id ++ new
  verified : recordLink.Linked GENESIS_HASH (d.history id) → recordLink.Linked GENESIS_HASH (d'.history id)

omit [Regex] [BindingLib] [StartupLib] [JwtLib] in
/-- A step that leaves the table gains nothing. -/
lemma Gains.idle {id : String} {d d' : Site γ} (kept : d'.Kept) (audit : d'.stores.audit = d.stores.audit) :
    Gains id [] d d' := by
  have same : d'.history id = d.history id := by
    unfold history
    rw [audit]
  refine ⟨kept, ?_, fun linked => ?_⟩
  · rw [same, List.append_nil]
  · rw [same]
    exact linked

omit [Regex] [BindingLib] [StartupLib] [JwtLib] in
/-- What a service adds to the rows of a tenant of its own, its site adds to each tenant's. -/
lemma Gains.of_grows {own : String} {new : List AuditRecord} {s s' : Service γ} (kept : Custos.Kept s)
    (grows : Grows own new s s') (id : String) :
    Gains id (if id = own then new else []) (running s) (running s') := by
  refine ⟨grows.kept, ?_, fun linked => ?_⟩
  · rw [history_running grows.kept, history_running kept]
    exact grows.rows id
  · rw [history_running kept] at linked
    rw [history_running grows.kept]
    exact grows.verified id linked

/-- A start adds the record of the binding it tells of, or leaves the table as it was. -/
lemma start_gains (hooks : CustodyHooks γ) (p : ProductionStart γ) (d : Site γ) (id : String) :
    ∃ new, Gains id new d (d.step hooks (.start p)) ∧
      (d.tells hooks id (.start p)).toList.Sublist (new.map AuditRecord.told) := by
  obtain ⟨tenants, booted, -⟩ := TenantManager.boot_spec (AuditPersistence.buildBackend p.env.environ) p.policyStore
    p.env.environ p.now d.stores.audit
  dsimp only [step, tells]
  unfold ProductionStart.process
  rw [booted]
  dsimp only
  rcases ended : Main.lifespan { tenants, gate := p.gate, stores := d.stores } p.env with ⟨e | binding, s⟩
  · have audit := lifespan_refused booted p.gate (congrArg Prod.fst ended)
    rw [ended] at audit
    exact ⟨[], .idle trivial audit, by simp⟩
  · obtain ⟨kept, -, new, grows, bound⟩ := lifespan_started hooks booted p.gate p.production (congrArg Prod.fst ended)
    rw [ended] at grows
    have gains := Gains.of_grows kept grows id
    refine ⟨_, ⟨gains.kept, gains.rows, gains.verified⟩, ?_⟩
    by_cases own : BINDING_TENANT = id
    · rw [if_pos own, if_pos own.symm]
      cases binding with
      | none => exact List.nil_sublist _
      | some b =>
        obtain ⟨-, r, one, written⟩ := bound b rfl
        rw [one, List.map_singleton, written.told]
        exact List.Sublist.refl _
    · rw [if_neg own]
      exact List.nil_sublist _

/-- A call that is served adds what it tells of. -/
lemma call_gains (hooks : CustodyHooks γ) (kept : d.Kept) (c : ApiCall) (id : String) :
    ∃ new, Gains id new d (d.step hooks (.call c)) ∧
      (d.tells hooks id (.call c)).toList.Sublist (new.map AuditRecord.told) := by
  cases d with
  | down stores => exact ⟨[], .idle trivial rfl, List.Sublist.refl _⟩
  | running s =>
    obtain ⟨own, new, grows, told⟩ := apiStep_grows hooks kept c id
    exact ⟨_, .of_grows kept grows id, told⟩

/-- What dies leaves its rows. -/
lemma die_gains (hooks : CustodyHooks γ) (kept : d.Kept) (during : Option ApiCall) (id : String) :
    ∃ new, Gains id new d (d.step hooks (.die during)) := by
  cases during with
  | none => exact ⟨[], .idle trivial rfl⟩
  | some c =>
    obtain ⟨new, gains, -⟩ := call_gains hooks kept c id
    cases d with
    | down stores => exact ⟨new, gains⟩
    | running s => exact ⟨new, trivial, gains.rows, gains.verified⟩

/-- A step tells what it records. -/
lemma step_gains (hooks : CustodyHooks γ) (kept : d.Kept) (op : SiteOp γ) (id : String) :
    ∃ new, Gains id new d (d.step hooks op) ∧ (d.tells hooks id op).toList.Sublist (new.map AuditRecord.told) := by
  cases op with
  | start p => exact start_gains hooks p d id
  | call c => exact call_gains hooks kept c id
  | die during =>
    obtain ⟨new, gains⟩ := die_gains hooks kept during id
    exact ⟨new, gains, List.nil_sublist _⟩

/-- What a tenant's log is above the processes that wrote it. -/
structure LogAbove (id : String) (stores : Stores) (d : Site γ) (told : List Told) : Prop where
  grown : ∃ new, d.history id = (down stores : Site γ).history id ++ new ∧
    told.Sublist (new.map AuditRecord.told)
  linked : recordLink.Linked GENESIS_HASH ((down stores : Site γ).history id) →
    recordLink.Linked GENESIS_HASH (d.history id)
  served (s : Service γ) : d = running s → (s.tenants.getStrict id).isSome →
    Main.getAuditLog s none id = .ok ((d.history id).map AuditRecord.response)
  verifies (s : Service γ) : d = running s → (s.tenants.getStrict id).isSome →
    recordLink.Linked GENESIS_HASH ((down stores : Site γ).history id) →
    ∃ report, Main.verifyAuditChain s id = .ok report ∧ report.valid = true ∧
      report.chainLength = (d.history id).length

/-- In production, whatever processes start, are refused, serve and die over the stores: what any of them told of a
tenant's records is in the tenant's log, each in a record of its own and in the order it was told, the log verifies if
it did at first, and the process that runs lists and verifies that log. -/
theorem records_outlive_processes (hooks : CustodyHooks γ) (stores : Stores) (ops : List (SiteOp γ)) (id : String) :
    LogAbove id stores (run (step hooks) (down stores) ops) (outputs (step hooks) (tells hooks id) (down stores) ops) := by
  have keep : ∀ (d : Site γ) op, d.Kept → (d.step hooks op).Kept := fun d op kept =>
    have ⟨_, gains, _⟩ := step_gains hooks kept op id
    gains.kept
  have held := run_invariant (step hooks) (s := down stores) trivial keep ops
  have linked := run_invariant (step hooks) (s := down stores) (I := fun d => d.Kept ∧
    (recordLink.Linked GENESIS_HASH ((down stores : Site γ).history id) →
      recordLink.Linked GENESIS_HASH (d.history id)))
    ⟨trivial, fun linked => linked⟩ (fun d op inv =>
      have ⟨_, gains, _⟩ := step_gains hooks inv.1 op id
      ⟨gains.kept, fun linked => gains.verified (inv.2 linked)⟩) ops
  refine ⟨?_, linked.2, fun s now known => ?_, fun s now known verified => ?_⟩
  · exact outputs_sublist (s := down stores) (fun d => d.history id) keep (fun d op kept =>
      have ⟨new, gains, told⟩ := step_gains hooks kept op id
      ⟨new, gains.rows, told⟩) trivial ops
  · rw [now] at held ⊢
    rw [history_running held]
    exact (held.logOf hooks [] id).listed known
  · have still := linked.2 verified
    rw [now] at held still ⊢
    rw [history_running held] at still ⊢
    exact (held.logOf hooks [] id).verifies still known

end Site

end

end Custos
