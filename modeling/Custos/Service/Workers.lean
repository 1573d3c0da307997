import Custos.Service.Reconciliation

/-!
# Workers

Several workers call `put_and_record` and `purge` on one content store. Each of the two is cut where another
worker may step in: a decision puts its body, reads the form and appends its record; a purge deletes the
body, appends its attestation and updates the row. The chains are one for each process, over one audit
table. `Workers.run_putAndRecord` and `Workers.run_purge` say that the steps of a call in a row are the call.

The form is read in a step of its own, so a purge may fall between the put and the reading, and the
decision's record then attests a purge. `forms_truthful_iff` says that nothing else goes wrong.
-/

namespace Custos

/-- A call under way. -/
inductive ContentCall where
  | stored (process : Nat) (a : RecordArgs)
  | formed (process : Nat) (a : RecordArgs) (form : String)
  | deleted (process : Nat) (contentHash clientId reason : String) (traceId policyDigest : Option String)
      (body : String)
  | attested (contentHash recordHash : String)

inductive WorkerOp where
  | put (id process : Nat) (fault : Option StoreExc) (a : RecordArgs) (legacy : Bool)
  | readForm (id : Nat) (fault : Option StoreExc)
  | record (id : Nat) (env : RecordEnv)
  | delete (id process : Nat) (fault : Option StoreExc) (purgedAt : ℚ)
      (contentHash clientId reason : String) (traceId policyDigest : Option String)
  | attest (id : Nat) (env : RecordEnv)
  | update (id : Nat) (fault : Option StoreExc)

/-- The call a step is of. -/
def WorkerOp.id : WorkerOp → Nat
  | .put id _ _ _ _ | .readForm id _ | .record id _ | .delete id _ _ _ _ _ _ _ _ | .attest id _
  | .update id _ => id

section

variable [Platform]

structure Workers where
  content : ContentStore := {}
  audit : AuditTable
  chains : Nat → AuditChain
  calls : Nat → Option ContentCall := fun _ => none

namespace Workers

def setCall (w : Workers) (id : Nat) (call : Option ContentCall) : Workers :=
  { w with calls := Function.update w.calls id call }

/-- `AuditChain.record` in a process. -/
def recordIn (w : Workers) (process : Nat) (env : RecordEnv) (a : RecordArgs) :
    Except Exn AuditRecord × Workers :=
  let (res, chain, audit) := (w.chains process).record w.audit env a
  (res, { w with audit, chains := Function.update w.chains process chain })

/-- A step of a call. What does not fit the call's progress does nothing. -/
def step (w : Workers) : WorkerOp → Workers
  | .put id process fault a legacy =>
    match w.calls id with
    | some _ => w
    | none =>
      match w.content.store legacy fault a.content with
      | (.error _, content) => { w with content }
      | (.ok _, content) => { w with content }.setCall id (some (.stored process a))
  | .readForm id fault =>
    match w.calls id, fault with
    | some (.stored _ _), some _ => w.setCall id none
    | some (.stored process a), none =>
      w.setCall id (some (.formed process a (w.content.commitmentForm (sha256 a.content))))
    | _, _ => w
  | .record id env =>
    match w.calls id with
    | some (.formed process a form) =>
      (w.recordIn process env { a with commitment := form }).2.setCall id none
    | _ => w
  | .delete id process fault purgedAt contentHash clientId reason traceId policyDigest =>
    match w.calls id with
    | some _ => w
    | none =>
      match w.content.deleteBody fault purgedAt contentHash reason with
      | (.error _, content) => { w with content }
      | (.ok body, content) => { w with content }.setCall id
          (some (.deleted process contentHash clientId reason traceId policyDigest body))
  | .attest id env =>
    match w.calls id with
    | some (.deleted process contentHash clientId reason traceId policyDigest body) =>
      match w.recordIn process env (purgeArgs clientId reason traceId policyDigest body) with
      | (.error _, w) => w.setCall id none
      | (.ok record, w) =>
        w.setCall id
          (if record.contentHash ≠ contentHash then none else some (.attested contentHash record.recordHash))
    | _ => w
  | .update id fault =>
    match w.calls id, fault with
    | some (.attested _ _), some _ => w.setCall id none
    | some (.attested contentHash recordHash), none =>
      { w with content := w.content.attest contentHash recordHash }.setCall id none
    | _, _ => w

/-- The record a step appends. -/
def writes (w : Workers) : WorkerOp → Option AuditRecord
  | .record id env =>
    match w.calls id with
    | some (.formed process a form) => (w.recordIn process env { a with commitment := form }).1.toOption
    | _ => none
  | .attest id env =>
    match w.calls id with
    | some (.deleted process _ clientId reason traceId policyDigest body) =>
      (w.recordIn process env (purgeArgs clientId reason traceId policyDigest body)).1.toOption
    | _ => none
  | _ => none

omit [Platform] in
@[simp] lemma setCall_calls_self (w : Workers) (id : Nat) (call : Option ContentCall) :
    (w.setCall id call).calls id = call := Function.update_self ..

omit [Platform] in
@[simp] lemma setCall_content (w : Workers) (id : Nat) (call : Option ContentCall) :
    (w.setCall id call).content = w.content := rfl

omit [Platform] in
@[simp] lemma setCall_chains (w : Workers) (id : Nat) (call : Option ContentCall) :
    (w.setCall id call).chains = w.chains := rfl

@[simp] lemma recordIn_calls (w : Workers) (process : Nat) (env : RecordEnv) (a : RecordArgs) :
    (w.recordIn process env a).2.calls = w.calls := rfl

@[simp] lemma recordIn_content (w : Workers) (process : Nat) (env : RecordEnv) (a : RecordArgs) :
    (w.recordIn process env a).2.content = w.content := rfl

omit [Platform] in
lemma setCall_calls_of_ne (w : Workers) {id id' : Nat} (ne : id' ≠ id) (call : Option ContentCall) :
    (w.setCall id call).calls id' = w.calls id' := Function.update_of_ne ne ..

/-! ## The steps in a row are the call -/

/-- The stores and the chain of a process, as one call of it sees them. -/
structure Sees (w : Workers) (path : String) (process : Nat) (c : AuditChain) (s : Stores) : Prop where
  content : s.contents path = w.content
  audit : s.audit = w.audit
  chain : w.chains process = c

omit [Platform] in
/-- A worker's progress leaves what is seen. -/
lemma Sees.setCall {w : Workers} {path : String} {process : Nat} {c : AuditChain} {s : Stores}
    (sees : w.Sees path process c s) (id : Nat) (call : Option ContentCall) :
    (w.setCall id call).Sees path process c s := ⟨sees.content, sees.audit, sees.chain⟩

omit [Platform] in
/-- A change of the content is seen. -/
lemma Sees.setContent {w : Workers} {path : String} {process : Nat} {c : AuditChain} {s : Stores}
    (sees : w.Sees path process c s) (content : ContentStore) :
    { w with content }.Sees path process c (s.setContent path content) :=
  ⟨Function.update_self .., sees.audit, sees.chain⟩

/-- A record of the process is made on what it sees. -/
lemma Sees.recordIn {w : Workers} {path : String} {process : Nat} {c : AuditChain} {s : Stores}
    (sees : w.Sees path process c s) (env : RecordEnv) (a : RecordArgs) :
    (w.recordIn process env a).1 = (c.recordIn s env a).1 ∧
      (w.recordIn process env a).2.Sees path process (c.recordIn s env a).2.1 (c.recordIn s env a).2.2 := by
  obtain ⟨content, audit, rfl⟩ := sees
  unfold Workers.recordIn AuditChain.recordIn
  rw [audit]
  exact ⟨rfl, content, rfl, Function.update_self ..⟩

/-- The steps of a worker come to one call of `put_and_record`. -/
theorem run_putAndRecord {w : Workers} {id process : Nat} (idle : w.calls id = none) {path : String}
    {c : AuditChain} {s : Stores} (sees : w.Sees path process c s) (env : DecisionEnv) (a : RecordArgs)
    (legacy : Bool) :
    (run step w [ .put id process env.putFault a legacy, .readForm id env.formFault,
        .record id env.toRecordEnv]).Sees path process
      (putAndRecord path c s env a legacy).2.1 (putAndRecord path c s env a legacy).2.2 := by
  -- once its put has failed, the call's other steps find no call of theirs
  have unchanged : ∀ {w : Workers}, w.calls id = none →
      run step w [ .readForm id env.formFault, .record id env.toRecordEnv] = w := by
    intro w idle
    simp [step, idle]
  rw [run_cons]
  unfold putAndRecord
  rw [sees.content]
  rcases stored : w.content.store legacy env.putFault a.content with ⟨e | contentHash, content⟩
  · have puts : w.step (.put id process env.putFault a legacy) = { w with content } := by
      simp [step, idle, stored]
    rw [puts, unchanged (w := { w with content }) idle]
    exact sees.setContent content
  · have puts : w.step (.put id process env.putFault a legacy) =
        { w with content }.setCall id (some (.stored process a)) := by
      simp [step, idle, stored]
    have hash : contentHash = sha256 a.content := by
      rcases store_stored w.content legacy env.putFault a.content with ⟨e, eq⟩ | ⟨s', eq, -⟩
      · cases stored.symm.trans eq
      · exact Except.ok.inj (congrArg Prod.fst (stored.symm.trans eq))
    have sees := (sees.setContent content).setCall id (some (.stored process a))
    rw [puts, run_cons]
    cases fault : env.formFault with
    | some exc =>
      have ends : ({ w with content }.setCall id (some (.stored process a))).step (.readForm id (some exc)) =
          ({ w with content }.setCall id (some (.stored process a))).setCall id none := by
        simp [step]
      rw [ends]
      simpa [step] using sees.setCall id none
    | none =>
      have reads : ({ w with content }.setCall id (some (.stored process a))).step (.readForm id none) =
          ({ w with content }.setCall id (some (.stored process a))).setCall id
            (some (.formed process a (content.commitmentForm (sha256 a.content)))) := by
        simp [step, setCall]
      rw [reads, hash]
      have records := ((sees.setCall id
        (some (.formed process a (content.commitmentForm (sha256 a.content))))).recordIn env.toRecordEnv
          { a with commitment := content.commitmentForm (sha256 a.content) }).2
      simpa [step] using records.setCall id none

/-- The steps of a purge in a row are the purge. -/
theorem run_purge {w : Workers} {id process : Nat} (idle : w.calls id = none) {path : String}
    {c : AuditChain} {s : Stores} (sees : w.Sees path process c s) (env : PurgeEnv)
    (contentHash clientId reason : String) (traceId policyDigest : Option String) :
    (run step w [ .delete id process env.deleteFault env.purgedAt contentHash clientId reason traceId
        policyDigest, .attest id env.toRecordEnv, .update id env.attestFault]).Sees path process
      (purge path c s env contentHash clientId reason traceId policyDigest).2.1
      (purge path c s env contentHash clientId reason traceId policyDigest).2.2 := by
  rw [run_cons]
  unfold purge
  rw [sees.content]
  rcases deletes : w.content.deleteBody env.deleteFault env.purgedAt contentHash reason with
    ⟨e | body, content⟩
  · have ends : w.step (.delete id process env.deleteFault env.purgedAt contentHash clientId reason traceId
        policyDigest) = { w with content } := by
      simp [step, idle, deletes]
    rw [ends]
    simpa [step, idle] using sees.setContent content
  · let call := ContentCall.deleted process contentHash clientId reason traceId policyDigest body
    have goes : w.step (.delete id process env.deleteFault env.purgedAt contentHash clientId reason traceId
        policyDigest) = { w with content }.setCall id (some call) := by
      simp [step, idle, deletes, call]
    have sees := (sees.setContent content).setCall id (some call)
    obtain ⟨res, seesRecord⟩ := sees.recordIn env.toRecordEnv
      (purgeArgs clientId reason traceId policyDigest body)
    rw [goes, run_cons]
    dsimp only
    rw [← purgeArgs]
    -- from here on the step and the purge make the same call of `record`
    have attests : ({ w with content }.setCall id (some call)).step (.attest id env.toRecordEnv) =
        match ({ w with content }.setCall id (some call)).recordIn process env.toRecordEnv
          (purgeArgs clientId reason traceId policyDigest body) with
        | (.error _, w) => w.setCall id none
        | (.ok record, w) => w.setCall id
          (if record.contentHash ≠ contentHash then none
            else some (.attested contentHash record.recordHash)) := by
      simp only [step, setCall_calls_self, call]
    rw [attests]
    generalize ({ w with content }.setCall id (some call)).recordIn process env.toRecordEnv
      (purgeArgs clientId reason traceId policyDigest body) = out at res seesRecord
    generalize c.recordIn (s.setContent path content) env.toRecordEnv
      (purgeArgs clientId reason traceId policyDigest body) = out' at res seesRecord
    obtain ⟨r, w'⟩ := out
    obtain ⟨r', c', s'⟩ := out'
    obtain rfl : r = r' := res
    cases r with
    | error e => simpa [step] using seesRecord.setCall id none
    | ok record =>
      dsimp only
      split
      · simpa [step] using seesRecord.setCall id none
      · cases env.attestFault with
        | some exc =>
          simpa [step] using (seesRecord.setCall id (some (.attested contentHash record.recordHash))).setCall id none
        | none =>
          have marked := ((seesRecord.setCall id (some (.attested contentHash record.recordHash))).setContent
            (w'.content.attest contentHash record.recordHash)).setCall id none
          rw [seesRecord.content]
          simpa [step] using marked

/-! ## What a step does -/

/-- The call has put its body, and its record is not written yet. -/
def Deciding (w : Workers) (id : Nat) (a : RecordArgs) : Prop :=
  ∃ process, w.calls id = some (.stored process a) ∨ ∃ form, w.calls id = some (.formed process a form)

omit [Platform] in
/-- A call that is not there is not ended. -/
lemma setCall_none {w : Workers} {id : Nat} (idle : w.calls id = none) (content : ContentStore) :
    { w with content }.setCall id none = { w with content } := by
  unfold setCall
  rw [← idle, Function.update_eq_self]

/-- What a step comes to. -/
inductive Progress (w : Workers) : WorkerOp → Workers → Prop
  | still (op : WorkerOp) : w.writes op = none → Progress w op w
  | put (id process : Nat) (fault : Option StoreExc) (a : RecordArgs) (legacy : Bool)
      (content : ContentStore) (call : Option ContentCall) : w.calls id = none →
      (content = w.content ∨ Stored w.content legacy a.content content) →
      (call = none ∨ call = some (.stored process a)) →
      Progress w (.put id process fault a legacy) ({ w with content }.setCall id call)
  | read (id process : Nat) (fault : Option StoreExc) (a : RecordArgs) (call : Option ContentCall) :
      w.calls id = some (.stored process a) →
      (call = none ∨ fault = none ∧
        call = some (.formed process a (w.content.commitmentForm (sha256 a.content)))) →
      Progress w (.readForm id fault) (w.setCall id call)
  | record (id process : Nat) (env : RecordEnv) (a : RecordArgs) (form : String) :
      w.calls id = some (.formed process a form) →
      Progress w (.record id env) ((w.recordIn process env { a with commitment := form }).2.setCall id none)
  | delete (id process : Nat) (fault : Option StoreExc) (purgedAt : ℚ)
      (contentHash clientId reason : String) (traceId policyDigest : Option String)
      (content : ContentStore) (call : Option ContentCall) : w.calls id = none →
      (content = w.content ∨ ∃ row, content = w.content.erase contentHash row) →
      (call = none ∨ ∃ body,
        call = some (.deleted process contentHash clientId reason traceId policyDigest body)) →
      Progress w (.delete id process fault purgedAt contentHash clientId reason traceId policyDigest)
        ({ w with content }.setCall id call)
  | attest (id process : Nat) (env : RecordEnv) (contentHash clientId reason : String)
      (traceId policyDigest : Option String) (body : String) (call : Option ContentCall) :
      w.calls id = some (.deleted process contentHash clientId reason traceId policyDigest body) →
      (call = none ∨ ∃ recordHash, call = some (.attested contentHash recordHash)) →
      Progress w (.attest id env)
        ((w.recordIn process env (purgeArgs clientId reason traceId policyDigest body)).2.setCall id call)
  | update (id : Nat) (fault : Option StoreExc) (contentHash recordHash : String) (content : ContentStore) :
      w.calls id = some (.attested contentHash recordHash) →
      (content = w.content ∨ content = w.content.attest contentHash recordHash) →
      Progress w (.update id fault) ({ w with content }.setCall id none)

/-- What a step of a worker changes. -/
lemma step_progress (w : Workers) (op : WorkerOp) : Progress w op (w.step op) := by
  cases op with
  | put id process fault a legacy =>
    dsimp only [step]
    cases idle : w.calls id with
    | some call => exact .still _ rfl
    | none =>
      dsimp only
      rcases store_stored w.content legacy fault a.content with ⟨e, eq⟩ | ⟨content, eq, stored⟩
      · rw [eq]
        dsimp only
        rw [← setCall_none idle]
        exact .put id process fault a legacy w.content none idle (.inl rfl) (.inl rfl)
      · rw [eq]
        exact .put id process fault a legacy content _ idle (.inr stored) (.inr rfl)
  | readForm id fault =>
    dsimp only [step]
    split
    · rename_i process a exc calls
      exact .read id process (some exc) a none calls (.inl rfl)
    · rename_i process a calls
      exact .read id process none a _ calls (.inr ⟨rfl, rfl⟩)
    · exact .still _ rfl
  | record id env =>
    dsimp only [step]
    split
    · rename_i process a form calls
      exact .record id process env a form calls
    -- the call is at another point, where this step writes nothing
    · rename_i other
      refine .still _ ?_
      dsimp only [writes]
      split
      · rename_i calls
        exact absurd calls (other _ _ _)
      · rfl
  | delete id process fault purgedAt contentHash clientId reason traceId policyDigest =>
    dsimp only [step]
    cases idle : w.calls id with
    | some call => exact .still _ rfl
    | none =>
      dsimp only
      rcases deleteBody_deleted w.content fault purgedAt contentHash reason with
        ⟨⟨e, eq⟩, -⟩ | ⟨row, -, -, -, eq⟩
      · rw [eq]
        dsimp only
        rw [← setCall_none idle]
        exact .delete id process fault purgedAt contentHash clientId reason traceId policyDigest w.content none
          idle (.inl rfl) (.inl rfl)
      · rw [eq]
        exact .delete id process fault purgedAt contentHash clientId reason traceId policyDigest _ _ idle
          (.inr ⟨_, rfl⟩) (.inr ⟨row.body, rfl⟩)
  | attest id env =>
    dsimp only [step]
    split
    · rename_i process contentHash clientId reason traceId policyDigest body calls
      have progress := fun call => Progress.attest id process env contentHash clientId reason traceId
        policyDigest body call calls
      rcases eq : w.recordIn process env (purgeArgs clientId reason traceId policyDigest body) with
        ⟨e | record, w'⟩
      · rw [eq] at progress
        exact progress none (.inl rfl)
      · rw [eq] at progress
        dsimp only
        split
        · exact progress none (.inl rfl)
        · exact progress _ (.inr ⟨record.recordHash, rfl⟩)
    · rename_i other
      refine .still _ ?_
      dsimp only [writes]
      split
      · rename_i calls
        exact absurd calls (other _ _ _ _ _ _ _)
      · rfl
  | update id fault =>
    dsimp only [step]
    split
    · rename_i contentHash recordHash exc calls
      exact .update id (some exc) contentHash recordHash w.content calls (.inl rfl)
    · rename_i contentHash recordHash calls
      exact .update id none contentHash recordHash _ calls (.inr rfl)
    · exact .still _ rfl

/-- A step touches no other call. -/
lemma step_calls_of_ne {w : Workers} {op : WorkerOp} {id : Nat} (ne : id ≠ op.id) :
    (w.step op).calls id = w.calls id := by
  have progress := w.step_progress op
  generalize w.step op = w' at progress ⊢
  cases progress with
  | still _ _ => rfl
  | put _ _ _ _ _ _ _ _ _ _ => exact setCall_calls_of_ne _ ne _
  | read _ _ _ _ _ _ _ => exact setCall_calls_of_ne _ ne _
  | record _ _ _ _ _ _ => exact setCall_calls_of_ne _ ne _
  | delete _ _ _ _ _ _ _ _ _ _ _ _ _ _ => exact setCall_calls_of_ne _ ne _
  | attest _ _ _ _ _ _ _ _ _ _ _ _ => exact setCall_calls_of_ne _ ne _
  | update _ _ _ _ _ _ _ => exact setCall_calls_of_ne _ ne _

/-- A form is read by the step that makes it known. -/
lemma read_of_formed {w : Workers} {op : WorkerOp} {id process : Nat} {a : RecordArgs} {form : String}
    (before : w.calls id ≠ some (.formed process a form))
    (after : (w.step op).calls id = some (.formed process a form)) :
    op = .readForm id none ∧ w.calls id = some (.stored process a) ∧
      form = w.content.commitmentForm (sha256 a.content) := by
  by_cases own : id = op.id
  · subst own
    have progress := w.step_progress op
    generalize w.step op = w' at progress after
    cases progress with
    | still _ _ => exact absurd after before
    | put _ _ _ _ _ _ call _ _ is =>
      have known : call = some (.formed process a form) := (setCall_calls_self ..).symm.trans after
      rcases is with rfl | rfl <;> cases known
    | read _ _ _ _ call calls is =>
      have known : call = some (.formed process a form) := (setCall_calls_self ..).symm.trans after
      rcases is with rfl | ⟨rfl, rfl⟩
      · cases known
      · cases known
        exact ⟨rfl, calls, rfl⟩
    | record _ _ _ _ _ _ =>
      cases (setCall_calls_self ..).symm.trans after
    | delete _ _ _ _ _ _ _ _ _ _ call _ _ is =>
      have known : call = some (.formed process a form) := (setCall_calls_self ..).symm.trans after
      rcases is with rfl | ⟨_, rfl⟩ <;> cases known
    | attest _ _ _ _ _ _ _ _ _ call _ is =>
      have known : call = some (.formed process a form) := (setCall_calls_self ..).symm.trans after
      rcases is with rfl | ⟨_, rfl⟩ <;> cases known
    | update _ _ _ _ _ _ _ =>
      cases (setCall_calls_self ..).symm.trans after
  · rw [step_calls_of_ne own] at after
    exact absurd after before

/-- A step leaves every body under its digest. -/
lemma step_keyed {w : Workers} (keyed : w.content.Keyed) (op : WorkerOp) : (w.step op).content.Keyed := by
  have progress := w.step_progress op
  generalize w.step op = w' at progress ⊢
  cases progress with
  | still _ _ => exact keyed
  | put _ _ _ _ _ _ _ _ stored _ =>
    rcases stored with rfl | stored
    · exact keyed
    · exact stored.keyed keyed
  | read _ _ _ _ _ _ _ => exact keyed
  | record _ _ _ _ _ _ => exact keyed
  | delete _ _ _ _ _ _ _ _ _ _ _ _ erased _ =>
    rcases erased with rfl | ⟨row, rfl⟩
    · exact keyed
    · exact keyed.erase _ row
  | attest _ _ _ _ _ _ _ _ _ _ _ _ => exact keyed
  | update _ _ _ _ _ _ attested =>
    rcases attested with rfl | rfl
    · exact keyed
    · exact keyed

/-- A call of `record` in a process appends what it returns to that process's chain. -/
lemma recordIn_chains (w : Workers) (process : Nat) (env : RecordEnv) (a : RecordArgs) :
    (∀ other, other ≠ process → (w.recordIn process env a).2.chains other = w.chains other) ∧
      ((w.recordIn process env a).2.chains process).records =
        (w.chains process).records ++ (w.recordIn process env a).1.toOption.toList := by
  refine ⟨fun other ne => Function.update_of_ne ne .., ?_⟩
  unfold recordIn
  rcases (w.chains process).record_cases w.audit env a with ⟨e, eq⟩ | ⟨r, t', -, -, -, eq⟩
  · rw [eq]
    simp [Except.toOption]
  · rw [eq]
    simp [Except.toOption]

/-- The chains grow by what the step writes, in one process. -/
lemma step_chains (w : Workers) (op : WorkerOp) : ∃ process,
    (∀ other, other ≠ process → (w.step op).chains other = w.chains other) ∧
      ((w.step op).chains process).records = (w.chains process).records ++ (w.writes op).toList := by
  have still : ∀ {w' : Workers}, w'.chains = w.chains → w.writes op = none → ∃ process,
      (∀ other, other ≠ process → w'.chains other = w.chains other) ∧
        (w'.chains process).records = (w.chains process).records ++ (w.writes op).toList := by
    intro w' same none
    exact ⟨0, fun _ _ => by rw [same], by simp [same, none]⟩
  have progress := w.step_progress op
  generalize w.step op = w' at progress ⊢
  cases progress with
  | still _ none => exact still rfl none
  | put _ _ _ _ _ _ _ _ _ _ => exact still rfl rfl
  | read _ _ _ _ _ _ _ => exact still rfl rfl
  | record id process env a form calls =>
    refine ⟨process, ?_⟩
    dsimp only [writes]
    rw [calls]
    exact w.recordIn_chains process env { a with commitment := form }
  | delete _ _ _ _ _ _ _ _ _ _ _ _ _ _ => exact still rfl rfl
  | attest id process env contentHash clientId reason traceId policyDigest body call calls _ =>
    refine ⟨process, ?_⟩
    dsimp only [writes]
    rw [calls]
    exact w.recordIn_chains process env (purgeArgs clientId reason traceId policyDigest body)
  | update _ _ _ _ _ _ _ => exact still rfl rfl

/-- A decision's record has the form that was read, and its body's digest. -/
lemma writes_record {w : Workers} {id : Nat} {env : RecordEnv} {r : AuditRecord}
    (writes : w.writes (.record id env) = some r) : ∃ process a form,
      w.calls id = some (.formed process a form) ∧ r.contentHash = sha256 a.content ∧
        r.commitment = some form := by
  dsimp only [Workers.writes] at writes
  split at writes
  · rename_i process a form calls
    refine ⟨process, a, form, calls, ?_⟩
    unfold recordIn at writes
    rcases (w.chains process).record_cases w.audit env { a with commitment := form } with
      ⟨e, eq⟩ | ⟨r', t', -, entry, -, eq⟩
    · rw [eq] at writes
      cases writes
    · rw [eq] at writes
      cases writes
      obtain ⟨tenantId, -, same⟩ := entry.eq
      rw [same]
      exact ⟨rfl, rfl⟩
  · cases writes

end Workers

/-! ## Runs -/

/-- At some moment since the call put its body and before it wrote its record, the form was true of the
body. -/
def TrueSincePut (start : Workers) (past : List WorkerOp) (id : Nat) (a : RecordArgs)
    (form : Option String) : Prop :=
  ∃ before after, past = before ++ after ∧
    form = some ((run Workers.step start before).content.commitmentForm (sha256 a.content)) ∧
    ∀ mid, mid <+: after → (run Workers.step start (before ++ mid)).Deciding id a

/-- Only a purge writes that content is purged, and a decision writes a stored form that was true since it
put its body. -/
def FormsTruthful (start : Workers) (ops : List WorkerOp) : Prop :=
  ∀ (past : List WorkerOp) (op : WorkerOp) (rest : List WorkerOp) (r : AuditRecord),
    ops = past ++ op :: rest → (run Workers.step start past).writes op = some r →
    (r.AttestsPurge → ∃ id env, op = .attest id env) ∧
      ∀ id env, op = .record id env → r.Claims ∧
        ∃ a, r.contentHash = sha256 a.content ∧ TrueSincePut start past id a r.commitment

/-- A decision that writes a record has read the form while its body was stored. -/
def ReadWhileStored (start : Workers) (ops : List WorkerOp) : Prop :=
  ∀ (past : List WorkerOp) (id : Nat) (env : RecordEnv) (rest : List WorkerOp) (r : AuditRecord),
    ops = past ++ .record id env :: rest →
    (run Workers.step start past).writes (.record id env) = some r →
      ∃ (before after : List WorkerOp) (process : Nat) (a : RecordArgs) (form : String),
        past = before ++ .readForm id none :: after ∧
        (run Workers.step start before).calls id = some (.stored process a) ∧
        ((run Workers.step start before).content.bodies (sha256 a.content)).isSome ∧
        ∀ mid, mid <+: after →
          (run Workers.step start (before ++ .readForm id none :: mid)).calls id =
            some (.formed process a form)

/-- A form that is known was read, and has been known since. -/
lemma Workers.formed_since {start : Workers} {past : List WorkerOp} {id process : Nat} {a : RecordArgs}
    {form : String} (fresh : start.calls id = none)
    (formed : (run Workers.step start past).calls id = some (.formed process a form)) :
    ∃ before after : List WorkerOp, past = before ++ .readForm id none :: after ∧
      (run Workers.step start before).calls id = some (.stored process a) ∧
      form = (run Workers.step start before).content.commitmentForm (sha256 a.content) ∧
      ∀ mid, mid <+: after →
        (run Workers.step start (before ++ .readForm id none :: mid)).calls id =
          some (.formed process a form) := by
  have not_yet : ¬ start.calls id = some (.formed process a form) := by
    rw [fresh]
    nofun
  obtain ⟨before, op, after, rfl, no, since⟩ := exists_since Workers.step
    (P := fun w => w.calls id = some (.formed process a form)) not_yet formed
  have reads := since [] List.nil_prefix
  rw [run_snoc] at reads
  obtain ⟨rfl, stored, same⟩ := read_of_formed no reads
  exact ⟨before, after, rfl, stored, same, since⟩

omit [Platform] in
/-- Only a stored body has a stored form. -/
lemma isSome_of_form {s : ContentStore} {d : String}
    (form : s.commitmentForm d = COMMITMENT_SALTED_V1 ∨ s.commitmentForm d = COMMITMENT_UNSALTED_V0) :
    (s.bodies d).isSome := by
  cases body : s.bodies d with
  | some row => rfl
  | none =>
    have marker : s.marker d = "purged" ∨ s.marker d = "unknown" := by
      unfold ContentStore.marker
      rw [body]
      cases s.purges d with
      | some prior => exact .inl rfl
      | none => exact .inr rfl
    unfold ContentStore.commitmentForm at form
    revert form
    rcases marker with purged | unknown
    · rw [purged]
      decide
    · rw [unknown]
      decide

/-- Over every interleaving of the workers' steps, the records say the truth about their content exactly when
no decision reads its form while its body is gone. -/
theorem forms_truthful_iff (audit : AuditTable) (chains : Nat → AuditChain) (ops : List WorkerOp) :
    FormsTruthful { audit, chains } ops ↔ ReadWhileStored { audit, chains } ops := by
  let start : Workers := { audit, chains }
  have keyed : ∀ past, (run Workers.step start past).content.Keyed := fun past =>
    run_invariant Workers.step (I := fun w : Workers => w.content.Keyed) (nofun : start.content.Keyed)
      (fun w op keyed => w.step_keyed keyed op) past
  constructor
  · rintro truthful past id env rest r rfl writes
    -- the form was read by a step of the call, and the record claims what the store held there
    obtain ⟨process, a, form, formed, -, commitment⟩ := Workers.writes_record writes
    obtain ⟨before, after, rfl, stored, read, since⟩ := Workers.formed_since rfl formed
    refine ⟨before, after, process, a, form, rfl, stored, ?_, since⟩
    obtain ⟨claims, -⟩ := (truthful _ _ rest r rfl writes).2 id env rfl
    rw [AuditRecord.Claims, commitment, read, Option.some.injEq, Option.some.injEq] at claims
    exact isSome_of_form claims
  · rintro whileStored past op rest r rfl writes
    cases op with
    | attest id env => exact ⟨fun _ => ⟨id, env, rfl⟩, fun _ _ decides => by cases decides⟩
    | record id env =>
      -- the body was there when the form was read, so the form says so
      obtain ⟨before, after, process, a, form, rfl, stored, held, since⟩ :=
        whileStored past id env rest r rfl writes
      obtain ⟨process', a', form', formed, hash, commitment⟩ := Workers.writes_record writes
      cases (since after (List.prefix_refl after)).symm.trans formed
      have reads := since [] List.nil_prefix
      rw [run_snoc] at reads
      obtain ⟨-, -, read⟩ := Workers.read_of_formed (fun formed => by cases stored.symm.trans formed) reads
      have claims : r.Claims := by
        rw [AuditRecord.Claims, commitment, read, Option.some.injEq, Option.some.injEq]
        exact (keyed before).form held
      refine ⟨fun attests => absurd claims attests.not_claims, ?_⟩
      rintro _ _ ⟨⟩
      refine ⟨claims, a, hash, before, _, rfl, by rw [commitment, read], fun mid le => ?_⟩
      rcases List.prefix_cons_iff.1 le with rfl | ⟨mid', rfl, le'⟩
      · rw [List.append_nil]
        exact ⟨process, .inl stored⟩
      · exact ⟨process, .inr ⟨form, since mid' le'⟩⟩
    | _ => cases writes

/-- Where the records say the truth, what `reconcile` counts as an attestation a purge has written. -/
theorem exists_attest_of_attested {start : Workers} (new : ∀ process, (start.chains process).records = [])
    {ops : List WorkerOp} (truthful : FormsTruthful start ops) {process : Nat} {d : String}
    (attested : Attested ((run Workers.step start ops).chains process).records d) :
    ∃ (past : List WorkerOp) (id : Nat) (env : RecordEnv) (rest : List WorkerOp) (r : AuditRecord),
      ops = past ++ .attest id env :: rest ∧
      (run Workers.step start past).writes (.attest id env) = some r ∧ r.contentHash = d := by
  induction ops using List.reverseRecOn with
  | nil =>
    rw [run_nil, new] at attested
    obtain ⟨r, mem, -⟩ := attested
    cases mem
  | append_singleton ops op ih =>
    -- by induction on the run: the record that attests is an older one or the last step's own
    have before : FormsTruthful start ops := by
      rintro past op' rest r rfl writes
      exact truthful past op' (rest ++ [op]) r (by simp) writes
    have earlier : Attested ((run Workers.step start ops).chains process).records d →
        ∃ (past : List WorkerOp) (id : Nat) (env : RecordEnv) (rest : List WorkerOp) (r : AuditRecord),
          ops ++ [op] = past ++ .attest id env :: rest ∧
          (run Workers.step start past).writes (.attest id env) = some r ∧ r.contentHash = d := by
      intro attested
      obtain ⟨past, id, env, rest, r, rfl, writes, hash⟩ := ih before attested
      exact ⟨past, id, env, rest ++ [op], r, by simp, writes, hash⟩
    obtain ⟨process', same, grows⟩ := (run Workers.step start ops).step_chains op
    rw [run_snoc] at attested
    by_cases e : process = process'
    · rw [e, grows] at attested
      obtain ⟨r, mem, hash, attests⟩ := attested
      rcases List.mem_append.1 mem with old | new
      · exact earlier (e ▸ ⟨r, old, hash, attests⟩)
      · have writes := Option.mem_toList.1 new
        obtain ⟨id, env, rfl⟩ := (truthful ops op [] r rfl writes).1 attests
        exact ⟨ops, id, env, [], r, rfl, writes, hash⟩
    · rw [same process e] at attested
      exact earlier attested

end

section Sample

local instance workersPlatform : Platform := .reference purgeDigests

/-- The chain of a tenant's only process. -/
def workersStart : Workers where
  audit := .empty
  chains _ := ⟨[], some "acme", .InMemoryBackend⟩

def allowArgs : RecordArgs := { clientId := "agent", action := "ALLOW", reason := "ok", content := "x" }

def workerEnv : RecordEnv where
  now := 1700000000
  environ _ := none

/-- A decision on "x" is recorded; a second one has put its body when a purge deletes it, and reads the form
then. -/
def overtaken : List WorkerOp :=
  [ .put 0 0 none allowArgs false, .readForm 0 none, .record 0 workerEnv, .put 1 0 none allowArgs false,
    .delete 2 0 none 1700000000 "2d711642b726b04401627ca9fbac32f5c8530fb1903cc4db02258717921a4881" "dpo"
      "erasure" none none,
    .readForm 1 none]

/-- The second decision's record attests the purge, whose own record is not written yet, and `reconcile` takes
it for the attestation. -/
theorem decision_attests_purge :
    ¬ FormsTruthful workersStart (overtaken ++ [ .record 1 workerEnv]) ∧
      (let w := run Workers.step workersStart (overtaken ++ [ .record 1 workerEnv])
       ((w.chains 0).records.map fun r => (r.action, r.commitment)) =
          [("ALLOW", some "salted-v1"), ("ALLOW", some "purged-v1")] ∧
        (reconcile (w.chains 0).records w.content).ok = true) := by
  refine ⟨fun truthful => ?_, by decide +kernel⟩
  have attests : ((run Workers.step workersStart overtaken).writes (.record 1 workerEnv)).any
      (fun r => decide r.AttestsPurge) = true := by decide +kernel
  obtain ⟨r, writes, attests⟩ := (Option.any_eq_true _ _).1 attests
  have attests := of_decide_eq_true attests
  obtain ⟨id, env, other⟩ := (truthful overtaken (.record 1 workerEnv) [] r rfl writes).1 attests
  cases other

end Sample

end Custos
