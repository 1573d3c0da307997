import Custos.Library.Run
import Custos.Mediation.Gateway

/-!
# Every forward is authorized

`forwards_authorized` is what mediation is for: the upstream is invoked once for a call at most, only when
the tenant's chain already holds the record that allows it, and never for a call that the time limit has
ended. Behind every allow a job of the executor holds stands its record (`Granted`): the gate writes it
before it answers, and no step takes it back.
-/

namespace Custos

variable {γ : Type} [Platform]

/-- The record that allows the call, and that the decision returned cites. -/
structure Grant (records : List AuditRecord) (c : Call) (g : ActionGateResult) (r : AuditRecord) :
    Prop where
  written : r ∈ records
  action : r.action = PolicyAction.ALLOW.value
  trace : r.traceId = some c.traceId
  cited : g.auditRecordHash = some r.recordHash

/-- In this step the gate's answer for a call that waits for it is an allow, the chain holds the record
already, and the call goes on with its hash. -/
structure Authorized [Regex] (p : Mediator) (hooks : CustodyHooks γ) (m : Mediation γ)
    (op : MediationOp) (id : Nat) (c : Call) (g : ActionGateResult) (r : AuditRecord) : Prop where
  answers : ∃ env now, op = .answer env id now
  waits : m.proxy.calls id = some c ∧ c.Waiting
  decided : m.jobs id = some (.done (.ok g))
  allowed : ∃ v, CustosGateAdapter.waitEnd (.ok g) = .answered (some v) ∧ v.allowed = .literal true
  granted : Grant (m.service.records p.tenantId) c g r
  goes : (m.step p hooks op).proxy.calls id = some { c with phase := .forwarding (some r.recordHash) }

namespace Mediation

/-- Behind every allow an executor's job holds stands its record. -/
def Granted (p : Mediator) (m : Mediation γ) : Prop :=
  ∀ id g, m.jobs id = some (.done (.ok g)) → g.decision.action = .ALLOW →
    ∃ c r, m.proxy.calls id = some c ∧ Grant (m.service.records p.tenantId) c g r

omit [Platform] in
/-- The records of a grant stay, and so does all that it says of its call. -/
lemma Granted.mono {p : Mediator} {m m' : Mediation γ} (granted : m.Granted p)
    (calls : ∀ id c, m.proxy.calls id = some c →
      ∃ phase, m'.proxy.calls id = some { c with phase })
    (jobs : ∀ id result, m'.jobs id = some (.done result) → m.jobs id = some (.done result))
    (records : m.service.records p.tenantId ⊆ m'.service.records p.tenantId) : m'.Granted p := by
  intro id g done allows
  obtain ⟨c, r, known, grant⟩ := granted id g (jobs id _ done) allows
  obtain ⟨phase, after⟩ := calls id c known
  exact ⟨_, r, after, records grant.written, grant.action, grant.trace, grant.cited⟩

/-- A step up to the hook forwards what was granted. -/
lemma Granted.upToHook [Regex] {p : Mediator} (hooks : CustodyHooks γ) {m : Mediation γ}
    (granted : m.Granted p) (op : MediationOp) : (m.upToHook p hooks op).Granted p := by
  have moves := m.upToHook_moves p hooks op
  generalize m.upToHook p hooks op = m' at moves
  cases moves with
  | proxied step jobs runs kept =>
    exact granted.mono (fun id c known => (m.proxy.step_keeps p.toMcpProxy step known).imp
      fun _ kept => kept.1) (fun id result => (kept id result).1) (List.Subset.refl _)
  | worked jobs same =>
    exact granted.mono (fun id c known => ⟨c.phase, known⟩) (fun id result => (same id result).1)
      (List.Subset.refl _)
  | @decided env id c known running =>
    have gates := evaluateAction_gates hooks m.service env p.tenantId (Mediator.action c) p.clientId
      c.traceId
    have grown := gates.records_subset
    generalize m.service.evaluateAction hooks env p.tenantId (Mediator.action c) p.clientId
      (some c.traceId) = out at gates grown ⊢
    intro id' g done allows
    dsimp only at done ⊢
    by_cases e : id' = id
    · obtain rfl := e
      rw [Function.update_self] at done
      cases gates with
      | silent result s' _ denies =>
        have no := denies g (by simpa using done)
        rw [g.decision.consistent, allows] at no
        cases no
      | recorded r g' s' app action trace hash =>
        obtain rfl : g' = g := by simpa using done
        refine ⟨c, r, known, ?_, by rw [action, allows], trace, hash⟩
        rw [app.records]
        exact List.mem_append_right _ (List.mem_singleton_self r)
    · rw [Function.update_of_ne e] at done
      obtain ⟨c', r, known', grant⟩ := granted id' g done allows
      exact ⟨c', r, known', grown grant.written, grant.action, grant.trace, grant.cited⟩

/-- The hook forwards nothing. -/
lemma Granted.reconcile {p : Mediator} {m : Mediation γ} (granted : m.Granted p) (env : RequestEnv)
    (id : Nat) : (m.reconcile p env id).Granted p := by
  rcases m.reconcile_cases p env id with ⟨c, refusal, known, phase, eq⟩ | eq
  · rw [eq]
    have reconciles := recordDenial_reconciles m.service env (p.denial c refusal)
    exact granted.mono (fun id c known => (m.proxy.step_keeps p.toMcpProxy _ known).imp
      fun _ kept => kept.1) (fun id result done => done) reconciles.records_subset
  · rw [eq]
    exact granted

/-- Every step forwards what was granted. -/
lemma Granted.step [Regex] {p : Mediator} (hooks : CustodyHooks γ) {m : Mediation γ}
    (granted : m.Granted p) (op : MediationOp) : (m.step p hooks op).Granted p :=
  step_of_hook (P := fun m => m.Granted p) (granted.upToHook hooks op)
    fun env id _ => (granted.upToHook hooks op).reconcile env id

/-- What holds of the system at any time. -/
structure Sound (p : Mediator) (m : Mediation γ) : Prop where
  once : m.proxy.Once
  granted : m.Granted p

lemma Sound.step [Regex] {p : Mediator} (hooks : CustodyHooks γ) {m : Mediation γ} (sound : m.Sound p)
    (op : MediationOp) : (m.step p hooks op).Sound p := by
  refine ⟨?_, sound.granted.step hooks op⟩
  have before : (m.upToHook p hooks op).proxy.Once := by
    have moves := m.upToHook_moves p hooks op
    generalize m.upToHook p hooks op = m' at moves
    cases moves with
    | proxied step jobs _ _ => exact sound.once.step p.toMcpProxy step
    | worked jobs _ => exact sound.once
    | decided c _ _ => exact sound.once
  rcases m.step_proxy p hooks op with same | ⟨env, id, how, -, same⟩
  · exact same ▸ before
  · exact same ▸ before.step p.toMcpProxy _

/-- An upstream invoked in a step was invoked by the proxy's wait that the step ends. -/
lemma forwards_step [Regex] {p : Mediator} {hooks : CustodyHooks γ} {m : Mediation γ} {op : MediationOp}
    {id : Nat} (mem : id ∈ (m.step p hooks op).proxy.forwards) (new : id ∉ m.proxy.forwards) :
    ∃ env now g c v, op = .answer env id now ∧ m.jobs id = some (.done (.ok g)) ∧
      CustosGateAdapter.waitEnd (.ok g) = .answered (some v) ∧ v.allowed = .literal true ∧
      m.proxy.calls id = some c ∧ c.Waiting ∧
      (m.upToHook p hooks op).proxy.calls id = some { c with phase := .forwarding v.recordHash } := by
  have before : id ∈ (m.upToHook p hooks op).proxy.forwards := by
    rcases m.step_proxy p hooks op with same | ⟨env, id', how, -, same⟩
    · rwa [same] at mem
    · rw [same] at mem
      rcases ProxyState.step_forwards p.toMcpProxy (m.upToHook p hooks op).proxy (.reconcile id' how) with
        same | ⟨_, _, _, _, e, -⟩
      · rwa [same] at mem
      · cases e
  have moves := m.upToHook_moves p hooks op
  generalize m.upToHook p hooks op = m' at moves before ⊢
  cases moves with
  | worked jobs _ => exact absurd before new
  | decided c _ _ => exact absurd before new
  | proxied step jobs runs _ =>
    rcases m.proxy.step_forwards p.toMcpProxy step with
      same | ⟨id', c, v, now, rfl, known, waiting, allowed, grown, after⟩
    · exact absurd (same ▸ before) new
    · have e : id = id' := by
        rw [show _ = m.proxy.forwards ++ [id'] from grown] at before
        exact List.mem_singleton.1 ((List.mem_append.1 before).resolve_left new)
      obtain rfl := e
      rcases runs.of_wait with ⟨env, result, rfl, done, answered⟩ | ⟨env, -, e⟩ | ⟨-, e⟩
      · cases result with
        | ok g => exact ⟨env, now, g, c, v, rfl, done, answered.symm, allowed, known, waiting, after⟩
        | error e =>
          -- an exception of the gate is no answer
          unfold CustosGateAdapter.waitEnd at answered
          split at answered
          · rename_i none
            cases none
          · split at answered <;> cases answered
      · cases e
      · cases e

omit [Platform] in
/-- The time limit ends the call's wait for the gate. -/
def TimesOut (id : Nat) (m : Mediation γ) (op : MediationOp) : Prop :=
  (∃ env now, op = .timeout env id now) ∧ ∃ c, m.proxy.calls id = some c ∧ c.Waiting

omit [Platform] in
/-- The call's wait for the gate is over. -/
def Waited (id : Nat) (s : ProxyState) : Prop := ∃ c, s.calls id = some c ∧ ¬ c.Waiting

omit [Platform] in
/-- A wait that is over does not begin again. -/
lemma Waited.proxyStep {id : Nat} {s : ProxyState} (waited : Waited id s) (p : McpProxy) (op : ProxyOp) :
    Waited id (s.step p op) := by
  obtain ⟨c, known, ended⟩ := waited
  obtain ⟨phase, after, asking, -⟩ := s.step_keeps p op known
  exact ⟨_, after, fun waiting => ended (asking waiting)⟩

/-- What has waited has, whatever the hook does. -/
lemma Waited.hook [Regex] {p : Mediator} {hooks : CustodyHooks γ} {m : Mediation γ} {op : MediationOp}
    {id : Nat} (waited : Waited id (m.upToHook p hooks op).proxy) : Waited id (m.step p hooks op).proxy := by
  rcases m.step_proxy p hooks op with same | ⟨_, _, _, -, same⟩
  · rwa [same]
  · rw [same]
    exact waited.proxyStep p.toMcpProxy _

lemma Waited.step [Regex] {p : Mediator} (hooks : CustodyHooks γ) {m : Mediation γ} {id : Nat}
    (waited : Waited id m.proxy) (op : MediationOp) : Waited id (m.step p hooks op).proxy := by
  refine Waited.hook ?_
  have moves := m.upToHook_moves p hooks op
  generalize m.upToHook p hooks op = m' at moves
  cases moves with
  | proxied step jobs _ _ => exact waited.proxyStep p.toMcpProxy step
  | worked jobs _ => exact waited
  | decided c _ _ => exact waited

/-- A call that the time limit has ended is not forwarded in that step. -/
lemma TimesOut.ends [Regex] {p : Mediator} {hooks : CustodyHooks γ} {m : Mediation γ} (sound : m.Sound p)
    {op : MediationOp} {id : Nat} (out : TimesOut id m op) :
    Waited id (m.step p hooks op).proxy ∧ id ∉ (m.step p hooks op).proxy.forwards := by
  obtain ⟨⟨env, now, rfl⟩, c, known, waiting⟩ := out
  constructor
  · obtain ⟨after, -⟩ := m.proxy.step_wait p.toMcpProxy .timedOut now known waiting
    exact Waited.hook ⟨_, after, nofun⟩
  · intro mem
    obtain ⟨_, _, _, _, _, e, -⟩ := forwards_step mem (sound.once.not_mem_of_waiting known waiting)
    cases e

/-- Nor is it later. -/
lemma not_forwarded_step [Regex] {p : Mediator} {hooks : CustodyHooks γ} {m : Mediation γ}
    {op : MediationOp} {id : Nat} (waited : Waited id m.proxy) (no : id ∉ m.proxy.forwards) :
    id ∉ (m.step p hooks op).proxy.forwards := by
  intro mem
  obtain ⟨_, _, _, _, _, _, _, _, _, known, waiting, _⟩ := forwards_step mem no
  obtain ⟨c, known', ended⟩ := waited
  cases known.symm.trans known'
  exact ended waiting

end Mediation

/-- In every run of overlapping calls the upstream is invoked once for a call at most, and only when the
gate answered with an allow whose record is in the tenant's chain, to a call whose wait the time limit did
not end at any time. -/
theorem forwards_authorized [Regex] (p : Mediator) (hooks : CustodyHooks γ) (s : Service γ)
    (ops : List MediationOp) :
    (run (Mediation.step p hooks) { service := s } ops).proxy.forwards.Nodup ∧
      Steps (Mediation.step p hooks)
        (fun m op => ∀ id ∈ (m.step p hooks op).proxy.forwards, id ∉ m.proxy.forwards →
          ∃ c g r, Authorized p hooks m op id c g r)
        { service := s } ops ∧
      ∀ id ∈ (run (Mediation.step p hooks) { service := s } ops).proxy.forwards,
        ¬ Somewhere (Mediation.step p hooks) (Mediation.TimesOut id) { service := s } ops := by
  have start : ({ service := s } : Mediation γ).Sound p := ⟨.init, nofun⟩
  have keep : ∀ (m : Mediation γ) op, m.Sound p → (m.step p hooks op).Sound p :=
    fun m op sound => sound.step hooks op
  have inTime : ∀ id ∈ (run (Mediation.step p hooks) { service := s } ops).proxy.forwards,
      ¬ Somewhere (Mediation.step p hooks) (Mediation.TimesOut id) { service := s } ops := by
    intro id mem out
    have unsent := out.run_invariant (J := fun m => m.Sound p)
      (I := fun m => Mediation.Waited id m.proxy ∧ id ∉ m.proxy.forwards)
      (steps_of_forall (Q := fun _ => True) fun _ _ => trivial) start (fun m op sound _ => keep m op sound)
      (fun m op sound _ out => out.ends sound)
      fun m op ended _ => ⟨ended.1.step hooks op, Mediation.not_forwarded_step ended.1 ended.2⟩
    exact unsent.2 mem
  refine ⟨(run_invariant _ start keep ops).once.nodup, steps_of_invariant start keep ?_ ops, inTime⟩
  intro m op sound id mem new
  obtain ⟨env, now, g, c, v, rfl, done, answered, allowed, known, waiting, goes⟩ :=
    m.forwards_step mem new
  have e := Option.some.inj (WaitEnd.answered.inj answered)
  have allows : g.decision.action = .ALLOW := by
    rw [← e] at allowed
    exact of_decide_eq_true (Allowed.literal.inj allowed)
  obtain ⟨c', r, known', grant⟩ := sound.granted id g done allows
  cases known.symm.trans known'
  have hash : v.recordHash = some r.recordHash := by
    rw [← e]
    exact grant.cited
  rw [hash] at goes
  have still : m.step p hooks (.answer env id now) = m.upToHook p hooks (.answer env id now) := by
    refine Mediation.reconcile_of_not env fun c' refusal known' phase => ?_
    cases goes.symm.trans known'
    cases phase
  exact ⟨c, g, r, ⟨env, now, rfl⟩, ⟨known, waiting⟩, done, ⟨v, answered, allowed⟩, grant, still ▸ goes⟩

end Custos
