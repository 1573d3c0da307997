import Custos.Library.Run
import Custos.Mediation.Proxy

/-!
# The circuit breaker

After timeouts in a row the circuit is open and calls are refused unasked; when its cooldown has lapsed,
one call is the probe, and holds the slot `probing` until an answer or a timeout is recorded. Two things
are not as they are meant. A probe that ends with an exception or a cancellation records nothing and
leaves the slot taken (`slot_free_iff`). And the slot is given back by the answer or the timeout of any
call, also of one that was asking since before the circuit opened (`single_probe_iff`).
-/

namespace Custos

/-- A proxy, the call last admitted as a probe, and whether an answer or a timeout has been recorded since.
No function reads the last two: they are there to be spoken of. -/
structure Watch where
  proxy : ProxyState := {}
  probe : Option Nat := none
  recorded : Bool := false

/-- An answer and a timeout are recorded. -/
def WaitEnd.records : WaitEnd → Bool
  | .answered _ | .timedOut => true
  | _ => false

namespace ProxyState

/-- The call that takes the probe's slot in a step. -/
def takesProbe (p : McpProxy) (s : ProxyState) : ProxyOp → Option Nat
  | .call id _ _ _ traceId now =>
    if (s.calls id).isNone ∧ traceId ≠ "" ∧ s.breaker.probing = false ∧
        (s.breaker.denies p now).2.probing = true then some id
    else none
  | _ => none

/-- The step records an answer or a timeout. -/
def recordsAnswer (s : ProxyState) : ProxyOp → Bool
  | .wait id how _ => (s.calls id).any (·.phase = .asking) && how.records
  | _ => false

end ProxyState

def watchProxy (p : McpProxy) (w : Watch) (op : ProxyOp) : Watch where
  proxy := w.proxy.step p op
  probe := (w.proxy.takesProbe p op).or w.probe
  recorded := (w.recorded || w.proxy.recordsAnswer op) && (w.proxy.takesProbe p op).isNone

/-- The call ended with an exception of the gate, or was cancelled. -/
def Call.Lost (c : Call) : Prop :=
  c.phase = .ended .cancelled ∨
    ∃ typeName, c.phase = .ended (.returned
      { forwarded := false, traceId := c.traceId, reason := REASON_ERROR ++ ": " ++ typeName,
        rule := some REASON_ERROR })

/-! ## The breaker -/

namespace Breaker

/-- What asking the breaker comes to: a refusal, a call that passes, or the probe. -/
inductive Denies (p : McpProxy) (b : Breaker) (now : ℚ) : Bool × Breaker → Prop
  | denied : (b.probing = true ∨ ∃ t, b.openUntil = some t ∧ now < t) → Denies p b now (true, b)
  | passed : b.probing = false → b.openUntil = none → Denies p b now (false, b)
  | probe (t : ℚ) : b.probing = false → b.openUntil = some t → t ≤ now →
      Denies p b now
        (false, { probing := true, openUntil := none, consecutive := p.timeoutLimit - 1 })

/-- What the breaker answers, case by case. -/
lemma denies_denies (p : McpProxy) (b : Breaker) (now : ℚ) : Denies p b now (b.denies p now) := by
  unfold denies
  cases probing : b.probing with
  | true => exact .denied (.inl probing)
  | false =>
    cases opened : b.openUntil with
    | none => exact .passed probing opened
    | some t =>
      by_cases early : now < t
      · simp only [Bool.false_eq_true, if_false, if_pos early]
        exact .denied (.inr ⟨t, opened, early⟩)
      · simp only [Bool.false_eq_true, if_false, if_neg early]
        exact .probe t probing opened (Rat.not_lt.1 early)

/-- A call passes exactly where the slot is free and the cooldown, if there is one, has lapsed. -/
lemma denies_eq_false_iff {p : McpProxy} {b : Breaker} {now : ℚ} :
    (b.denies p now).1 = false ↔ b.probing = false ∧ ∀ t, b.openUntil = some t → t ≤ now := by
  have cases := b.denies_denies p now
  generalize b.denies p now = out at cases
  cases cases with
  | denied closed =>
    refine iff_of_false nofun ?_
    rintro ⟨free, lapsed⟩
    rcases closed with probing | ⟨t, opened, early⟩
    · rw [free] at probing
      cases probing
    · exact absurd (lapsed t opened) (Rat.not_le.2 early)
  | passed free opened => exact iff_of_true rfl ⟨free, fun t e => absurd (opened.symm.trans e) nofun⟩
  | probe t free opened lapsed =>
    refine iff_of_true rfl ⟨free, fun t' e => ?_⟩
    cases opened.symm.trans e
    exact lapsed

/-- An answer ends the probe. -/
@[simp] lemma recordAnswer_probing (p : McpProxy) (b : Breaker) (timedOut : Bool) (now : ℚ) :
    (b.recordAnswer p timedOut now).probing = false := by
  cases timedOut <;> rfl

end Breaker

/-- A recorded answer frees the slot, and nothing else gets to the breaker. -/
lemma WaitEnd.breaker_cases (p : McpProxy) (b : Breaker) (now : ℚ) (how : WaitEnd) :
    how.records = true ∧ (how.breaker p b now).probing = false ∨
      how.records = false ∧ how.breaker p b now = b := by
  cases how with
  | answered verdict => exact .inl ⟨rfl, Breaker.recordAnswer_probing ..⟩
  | timedOut => exact .inl ⟨rfl, Breaker.recordAnswer_probing ..⟩
  | raised typeName => exact .inr ⟨rfl, rfl⟩
  | cancelled => exact .inr ⟨rfl, rfl⟩

/-- A wait that is over leaves its call no longer asking. -/
lemma WaitEnd.phase_ne_asking (c : Call) (how : WaitEnd) : how.phase c ≠ .asking := by
  cases how with
  | answered verdict =>
    cases refused : refusal verdict c.traceId with
    | some outcome => simp [phase, refused]
    | none => cases forward : c.forward <;> simp [phase, refused, forward]
  | timedOut => simp [phase]
  | raised typeName => exact Phase.ended_ne_asking _
  | cancelled => exact Phase.ended_ne_asking _

/-- A wait that nothing is recorded of loses its call. -/
lemma WaitEnd.lost_of_not_records (c : Call) {how : WaitEnd} (no : how.records = false) :
    ({ c with phase := how.phase c } : Call).Lost := by
  cases how with
  | answered verdict => cases no
  | timedOut => cases no
  | raised typeName => exact .inr ⟨typeName, rfl⟩
  | cancelled => exact .inl rfl

namespace ProxyState

/-- A step that no call waits for is not seen. -/
lemma watch_of_idle {p : McpProxy} {s : ProxyState} {op : ProxyOp} (no : ¬ s.Takes op) :
    s.takesProbe p op = none ∧ s.recordsAnswer op = false := by
  cases op with
  | call id tool arguments forward traceId now =>
    refine ⟨if_neg ?_, rfl⟩
    rintro ⟨new, traced, -⟩
    exact no ⟨Option.isNone_iff_eq_none.1 new, traced⟩
  | wait id how now =>
    refine ⟨rfl, ?_⟩
    have waits : (s.calls id).any (·.phase = .asking) = false := by
      cases known : s.calls id with
      | none => rfl
      | some c => exact decide_eq_false fun waiting => no ⟨c, known, waiting⟩
    rw [recordsAnswer, waits, Bool.false_and]
  | reconcile id how => exact ⟨rfl, rfl⟩
  | forward id how => exact ⟨rfl, rfl⟩

/-- A new call is a probe where the cooldown has lapsed. -/
lemma takesProbe_of_new {p : McpProxy} {s : ProxyState} {id : Nat} {tool : String}
    {arguments : List (String × Json)} {forward : Bool} {traceId : String} {now : ℚ}
    (new : s.calls id = none) (traced : traceId ≠ "") :
    s.takesProbe p (.call id tool arguments forward traceId now) =
      if s.breaker.probing = false ∧ (s.breaker.denies p now).2.probing = true then some id else none := by
  simp [takesProbe, new, traced]

/-- The end of a call that waits is recorded. -/
lemma recordsAnswer_of_waiting {s : ProxyState} {id : Nat} {c : Call} {how : WaitEnd} {now : ℚ}
    (known : s.calls id = some c) (waiting : c.Waiting) :
    s.recordsAnswer (.wait id how now) = how.records := by
  have waiting : c.phase = .asking := waiting
  simp [recordsAnswer, known, waiting]

end ProxyState

/-! ## The slot -/

/-- The slot is the last probe's until an answer or a timeout is recorded, and until then the probe is
asking or lost. -/
structure Slotted (w : Watch) : Prop where
  slot : w.proxy.breaker.probing = true ↔ w.probe.isSome ∧ w.recorded = false
  probe : ∀ q, w.probe = some q → ∃ c, w.proxy.calls q = some c ∧
    (w.recorded = false → c.Waiting ∨ c.Lost)

lemma Slotted.init : Slotted {} := ⟨by simp, nofun⟩

/-- A call that is not asking and not lost goes on. -/
lemma Slotted.setPhase {w : Watch} (slotted : Slotted w) {id : Nat} {c : Call}
    (known : w.proxy.calls id = some c) (on : ¬ c.Waiting) (found : ¬ c.Lost) (phase : Phase) :
    Slotted { w with proxy := w.proxy.setPhase id c phase } := by
  refine ⟨slotted.slot, fun q probe => ?_⟩
  obtain ⟨c', known', asks⟩ := slotted.probe q probe
  by_cases e : q = id
  · subst e
    obtain rfl := Option.some.inj (known.symm.trans known')
    exact ⟨_, ProxyState.setPhase_self .., fun no => ((asks no).elim on found).elim⟩
  · exact ⟨c', (ProxyState.setPhase_of_ne e ..).trans known', asks⟩

/-- Every step keeps the slot with its probe. -/
lemma Slotted.step (p : McpProxy) {w : Watch} (slotted : Slotted w) (op : ProxyOp) :
    Slotted (watchProxy p w op) := by
  have stepped := w.proxy.step_stepped p op
  unfold watchProxy
  generalize w.proxy.step p op = s at stepped
  cases stepped with
  | idle no =>
    obtain ⟨takes, records⟩ := ProxyState.watch_of_idle (p := p) no
    rw [takes, records]
    simpa using slotted
  | @begun id tool arguments forward traceId now traced new =>
    -- a new call is not the last probe, so it matters only if it becomes the probe
    have fresh : ∀ q, w.probe = some q → q ≠ id := by
      rintro q probe rfl
      obtain ⟨c, known, -⟩ := slotted.probe q probe
      rw [new] at known
      cases known
    rw [ProxyState.takesProbe_of_new new traced]
    have cases := w.proxy.breaker.denies_denies p now
    generalize w.proxy.breaker.denies p now = out at cases
    have unprobed : ∀ phase, Slotted
        { w with proxy := w.proxy.setPhase id ⟨tool, arguments, forward, traceId, traced, .asking⟩ phase } := by
      intro phase
      refine ⟨slotted.slot, fun q probe => ?_⟩
      obtain ⟨c, known, asks⟩ := slotted.probe q probe
      exact ⟨c, (ProxyState.setPhase_of_ne (fresh q probe) ..).trans known, asks⟩
    cases cases with
    | denied closed =>
      have none : ¬ (w.proxy.breaker.probing = false ∧ w.proxy.breaker.probing = true) := by
        rintro ⟨free, taken⟩
        rw [free] at taken
        cases taken
      rw [if_neg none]
      simpa [ProxyState.recordsAnswer] using unprobed (.reconciling .circuitOpen)
    | passed free opened =>
      have none : ¬ (w.proxy.breaker.probing = false ∧ w.proxy.breaker.probing = true) := by
        rintro ⟨-, taken⟩
        rw [free] at taken
        cases taken
      rw [if_neg none]
      simpa [ProxyState.recordsAnswer] using unprobed .asking
    | probe t free opened lapsed =>
      refine ⟨by simp [free], fun q probe => ?_⟩
      obtain rfl : id = q := by simpa [free] using probe
      exact ⟨_, ProxyState.setPhase_self .., fun _ => .inl rfl⟩
  | @waited id how now c forwards known waiting _ =>
    have records : w.proxy.recordsAnswer (.wait id how now) = how.records :=
      ProxyState.recordsAnswer_of_waiting known waiting
    rw [records]
    -- an end that is recorded frees the slot, and any other leaves its call lost
    rcases how.breaker_cases p w.proxy.breaker now with ⟨yes, free⟩ | ⟨no, same⟩
    · refine ⟨by simp [free, yes, ProxyState.takesProbe], fun q probe => ?_⟩
      obtain ⟨c', known', -⟩ := slotted.probe q probe
      by_cases e : q = id
      · subst e
        exact ⟨_, ProxyState.setPhase_self .., by simp [yes, ProxyState.takesProbe]⟩
      · exact ⟨c', (ProxyState.setPhase_of_ne e ..).trans known', by
          simp [yes, ProxyState.takesProbe]⟩
    · rw [same, no]
      refine ⟨by simpa [ProxyState.takesProbe] using slotted.slot, fun q probe => ?_⟩
      obtain ⟨c', known', asks⟩ := slotted.probe q probe
      by_cases e : q = id
      · subst e
        exact ⟨_, ProxyState.setPhase_self .., fun _ => .inr (WaitEnd.lost_of_not_records c no)⟩
      · refine ⟨c', (ProxyState.setPhase_of_ne e ..).trans known', fun still => asks ?_⟩
        simpa [ProxyState.takesProbe] using still
  | @reconciled id how c refusal known phase =>
    have next := slotted.setPhase known (by simp [Call.Waiting, phase]) (by simp [Call.Lost, phase])
      (.ended (ProxyState.reconcileEnd c refusal how))
    simpa [ProxyState.takesProbe, ProxyState.recordsAnswer] using next
  | @forwarded id how c recordHash known phase =>
    have next := slotted.setPhase known (by simp [Call.Waiting, phase]) (by simp [Call.Lost, phase])
      (.ended (ProxyState.forwardEnd c recordHash how))
    simpa [ProxyState.takesProbe, ProxyState.recordsAnswer] using next

/-- The last probe is lost, and nothing has been recorded since it was admitted. -/
def Watch.Leaked (w : Watch) : Prop :=
  w.recorded = false ∧ ∃ q c, w.probe = some q ∧ w.proxy.calls q = some c ∧ c.Lost

/-- In every state a run comes to with no call in flight, the slot is free, and the next call passes as
soon as the cooldown has lapsed, exactly when the last probe was not lost or something has been recorded
since it was admitted. -/
theorem slot_free_iff (p : McpProxy) (ops : List ProxyOp) :
    let w := run (watchProxy p) {} ops
    (∀ id c, w.proxy.calls id = some c → c.Ended) →
      ((w.proxy.breaker.probing = false ∧ ∀ now,
        (∀ t, w.proxy.breaker.openUntil = some t → t ≤ now) → (w.proxy.breaker.denies p now).1 = false) ↔
          ¬ w.Leaked) := by
  intro w quiet
  have slotted : Slotted w := run_invariant _ Slotted.init (fun w op slotted => slotted.step p op) ops
  have passes : (w.proxy.breaker.probing = false ∧ ∀ now,
      (∀ t, w.proxy.breaker.openUntil = some t → t ≤ now) → (w.proxy.breaker.denies p now).1 = false) ↔
        w.proxy.breaker.probing = false :=
    and_iff_left_of_imp fun free now lapsed => Breaker.denies_eq_false_iff.2 ⟨free, lapsed⟩
  rw [passes, ← Bool.not_eq_true, slotted.slot, not_iff_not]
  constructor
  · rintro ⟨some, still⟩
    obtain ⟨q, probe⟩ := Option.isSome_iff_exists.1 some
    obtain ⟨c, known, asks⟩ := slotted.probe q probe
    -- no call is in flight, so the probe is not asking
    refine ⟨still, q, c, probe, known, (asks still).resolve_left fun waiting => ?_⟩
    obtain ⟨how, ended⟩ := quiet q c known
    have waiting : c.phase = .asking := waiting
    rw [ended] at waiting
    cases waiting
  · rintro ⟨still, q, c, probe, -, -⟩
    exact ⟨Option.isSome_iff_exists.2 ⟨q, probe⟩, still⟩

section Sample

/-- A proxy that opens its circuit after one timeout. -/
def shortProxy : McpProxy := { sampleProxy with timeoutLimit := 1, limit_pos := by decide }

/-- A call of a tool. -/
def shortCall (id : Nat) (now : ℚ) : ProxyOp := .call id "search" [] true "4bf92f3577b34da6" now

/-- A call times out, and opens the circuit. -/
def timedOutOps : List ProxyOp := [ shortCall 0 0, .wait 0 .timedOut 2, .reconcile 0 (.returned true) ]

/-- The probe that is admitted five seconds later meets an exception of the gate. -/
def lostProbeOps : List ProxyOp := timedOutOps ++ [ shortCall 1 7, .wait 1 (.raised "RuntimeError") 8 ]

/-- After the sample's timeout no call is left. -/
lemma timedOut_quiet : ∀ id c, (run (watchProxy shortProxy) {} timedOutOps).proxy.calls id = some c →
    c.Ended
  | 0, _, known => by
    cases known
    exact ⟨_, rfl⟩
  | _ + 1, _, known => by cases known

/-- The probe of a call that timed out raises. -/
theorem slot_free_iff_sample :
    let w := run (watchProxy shortProxy) {} timedOutOps
    (w.proxy.breaker.probing = false ∧ ∀ now, (∀ t, w.proxy.breaker.openUntil = some t → t ≤ now) →
      (w.proxy.breaker.denies shortProxy now).1 = false) ↔ ¬ w.Leaked :=
  slot_free_iff shortProxy timedOutOps timedOut_quiet

/-- After the lost probe nothing is in flight, and no call will ever pass. -/
theorem lost_probe_locks :
    let s := run (ProxyState.step shortProxy) {} lostProbeOps
    (∀ id c, s.calls id = some c → c.Ended) ∧ s.breaker.probing = true ∧
      ∀ now, (s.breaker.denies shortProxy now).1 = true := by
  have taken : (run (ProxyState.step shortProxy) {} lostProbeOps).breaker.probing = true := by
    decide +kernel
  have ended : ∀ id < 2, ((run (ProxyState.step shortProxy) {} lostProbeOps).calls id).all
      (fun c => c.phase matches .ended _) = true := by
    decide +kernel
  refine ⟨fun id c known => ?_, taken, fun now => by rw [Breaker.denies, if_pos taken]⟩
  by_cases small : id < 2
  · have ended := ended id small
    rw [known] at ended
    cases phase : c.phase with
    | ended how => exact ⟨how, phase⟩
    | _ => simp [phase] at ended
  · -- no step is of another call
    have none : (run (ProxyState.step shortProxy) {} lostProbeOps).calls id = none :=
      run_invariant_of_steps _ (I := fun s : ProxyState => s.calls id = none) rfl
        (fun s op none ne => (ProxyState.step_calls_of_ne shortProxy s ne).trans none)
        (steps_of_forall (Q := fun op : ProxyOp => id ≠ op.id) (by
          simp [lostProbeOps, timedOutOps, shortCall, ProxyOp.id]
          omega))
    rw [none] at known
    cases known

end Sample

/-! ## One probe -/

/-- A probe was admitted and has not ended. -/
def Watch.HalfOpen (w : Watch) : Prop :=
  ∃ q c, w.probe = some q ∧ w.proxy.calls q = some c ∧ c.Waiting

/-- The cooldown of an open circuit has lapsed, or a probe was admitted and has not ended. -/
def Watch.Probes (w : Watch) (now : ℚ) : Prop :=
  w.HalfOpen ∨ ∃ t, w.proxy.breaker.openUntil = some t ∧ t ≤ now

/-- While a probe is out no call is passed to the gate, and from the moment the cooldown has lapsed until
the probe has ended no other call's wait changes the circuit. -/
def SingleProbe (p : McpProxy) (w : Watch) : ProxyOp → Prop
  | .call id tool arguments forward traceId now => w.HalfOpen → w.proxy.calls id = none →
    ∀ c, (w.proxy.step p (.call id tool arguments forward traceId now)).calls id = some c → ¬ c.Waiting
  | .wait id how now => w.Probes now →
    (w.proxy.step p (.wait id how now)).breaker ≠ w.proxy.breaker → w.probe = some id
  | _ => True

/-- From the moment the cooldown of an open circuit has lapsed until its probe has ended, no call but the
probe is answered or times out. -/
def OwnAnswers (w : Watch) : ProxyOp → Prop
  | .wait id how now => w.Probes now → how.records = true →
    (∃ c, w.proxy.calls id = some c ∧ c.Waiting) → w.probe = some id
  | _ => True

/-- A recorded answer does not leave an open circuit as it was. -/
lemma WaitEnd.breaker_ne_of_opened {p : McpProxy} {b : Breaker} {now t : ℚ} {how : WaitEnd}
    (opened : b.openUntil = some t) (yes : how.records = true) : how.breaker p b now ≠ b := by
  intro same
  cases how with
  | answered verdict =>
    have closed := congrArg Breaker.openUntil same
    rw [opened] at closed
    cases closed
  | timedOut =>
    have more : b.consecutive + 1 = b.consecutive := congrArg Breaker.consecutive same
    omega
  | raised typeName => cases yes
  | cancelled => cases yes

/-- While a probe is out, the slot is taken. -/
def Guarded (w : Watch) : Prop := Slotted w ∧ (w.HalfOpen → w.proxy.breaker.probing = true)

/-- While a probe is out the breaker denies. -/
lemma Guarded.denies {w : Watch} (guarded : Guarded w) (half : w.HalfOpen) (p : McpProxy) (now : ℚ) :
    w.proxy.breaker.denies p now = (true, w.proxy.breaker) := by
  rw [Breaker.denies, if_pos (guarded.2 half)]

/-- On a state whose slot is guarded, the two conditions are one. -/
lemma Guarded.singleProbe_iff (p : McpProxy) {w : Watch} (guarded : Guarded w) (op : ProxyOp) :
    SingleProbe p w op ↔ OwnAnswers w op := by
  have stepped := w.proxy.step_stepped p op
  cases op with
  | call id tool arguments forward traceId now =>
    refine iff_of_true (fun half new c after waiting => ?_) trivial
    generalize w.proxy.step p (.call id tool arguments forward traceId now) = s at stepped after
    cases stepped with
    | idle _ =>
      rw [new] at after
      cases after
    | begun traced _ =>
      rw [guarded.denies half, ProxyState.setPhase_self] at after
      cases after
      cases waiting
  | wait id how now =>
    dsimp only [SingleProbe, OwnAnswers]
    generalize w.proxy.step p (.wait id how now) = s at stepped
    cases stepped with
    | idle no => exact iff_of_true (fun _ changed => absurd rfl changed) fun _ _ takes => absurd takes no
    | waited c forwards known waiting _ =>
      rcases how.breaker_cases p w.proxy.breaker now with ⟨yes, free⟩ | ⟨no, same⟩
      · have changes : w.Probes now → how.breaker p w.proxy.breaker now ≠ w.proxy.breaker := by
          rintro (half | ⟨t, opened, -⟩) same
          · rw [same, guarded.2 half] at free
            cases free
          · exact WaitEnd.breaker_ne_of_opened opened yes same
        exact ⟨fun single probes _ _ => single probes (changes probes),
          fun own probes _ => own probes yes ⟨c, known, waiting⟩⟩
      · refine iff_of_true (fun _ changed => absurd same changed) fun _ yes => ?_
        rw [no] at yes
        cases yes
  | reconcile id how => exact Iff.rfl
  | forward id how => exact Iff.rfl

/-- A probe that is out after a call went on was out before. -/
lemma Watch.halfOpen_of_setPhase {w w' : Watch} {s : ProxyState} {id : Nat} {c : Call} {phase : Phase}
    (half : w'.HalfOpen) (proxy : w'.proxy = s.setPhase id c phase) (calls : s.calls = w.proxy.calls)
    (same : w'.probe = w.probe) (on : phase ≠ .asking) : w.HalfOpen ∧ w.probe ≠ some id := by
  obtain ⟨q, c', probe, known, waiting⟩ := half
  rw [same] at probe
  have ne : q ≠ id := by
    rintro rfl
    rw [proxy, ProxyState.setPhase_self] at known
    cases known
    exact on waiting
  rw [proxy, ProxyState.setPhase_of_ne ne, calls] at known
  exact ⟨⟨q, c', probe, known, waiting⟩, fun e => ne (Option.some.inj (probe.symm.trans e))⟩

/-- A step with no answer but the probe's keeps it so. -/
lemma Guarded.step (p : McpProxy) {w : Watch} (guarded : Guarded w) {op : ProxyOp}
    (own : OwnAnswers w op) : Guarded (watchProxy p w op) := by
  refine ⟨guarded.1.step p op, fun half => ?_⟩
  have stepped := w.proxy.step_stepped p op
  unfold watchProxy at half ⊢
  generalize w.proxy.step p op = s at stepped half ⊢
  cases stepped with
  | idle no =>
    obtain ⟨takes, -⟩ := ProxyState.watch_of_idle (p := p) no
    rw [takes] at half
    exact guarded.2 half
  | @begun id tool arguments forward traceId now traced new =>
    rw [ProxyState.takesProbe_of_new new traced] at half
    -- the call is new, so a probe that is out was out before
    have before : ∀ {s : ProxyState} {c : Call} {phase : Phase} {recorded : Bool},
        s.calls = w.proxy.calls → Watch.HalfOpen ⟨s.setPhase id c phase, w.probe, recorded⟩ →
        w.HalfOpen := by
      rintro s c phase recorded calls ⟨q, c', probe, known, waiting⟩
      have ne : q ≠ id := by
        rintro rfl
        obtain ⟨_, old, -⟩ := guarded.1.probe q probe
        rw [new] at old
        cases old
      rw [ProxyState.setPhase_of_ne ne, calls] at known
      exact ⟨q, c', probe, known, waiting⟩
    have cases := w.proxy.breaker.denies_denies p now
    generalize w.proxy.breaker.denies p now = out at cases half
    cases cases with
    | denied closed =>
      by_cases taken : w.proxy.breaker.probing = false
      · simp only [taken, Bool.false_eq_true, and_false, if_false, Option.none_or] at half
        exact guarded.2 (before rfl half)
      · exact Bool.eq_true_of_not_eq_false taken
    | passed free opened =>
      simp only [free, Bool.false_eq_true, and_false, if_false, Option.none_or] at half
      exact guarded.2 (before rfl half)
    | probe t free opened lapsed => rfl
  | @waited id how now c forwards known waiting _ =>
    obtain ⟨half, other⟩ := Watch.halfOpen_of_setPhase (w := w) half rfl rfl rfl (how.phase_ne_asking c)
    rcases how.breaker_cases p w.proxy.breaker now with ⟨yes, -⟩ | ⟨-, same⟩
    · exact absurd (own (.inl half) yes ⟨c, known, waiting⟩) other
    · rw [ProxyState.setPhase_breaker, same]
      exact guarded.2 half
  | @reconciled _ how c refusal known phase =>
    exact guarded.2 (Watch.halfOpen_of_setPhase (w := w) half rfl rfl rfl (Phase.ended_ne_asking _)).1
  | @forwarded _ how c recordHash known phase =>
    exact guarded.2 (Watch.halfOpen_of_setPhase (w := w) half rfl rfl rfl (Phase.ended_ne_asking _)).1

/-- A run has single probes throughout exactly when from the moment a cooldown has lapsed until its probe
has ended no call but the probe is answered or times out. -/
theorem single_probe_iff (p : McpProxy) (ops : List ProxyOp) :
    Steps (watchProxy p) (SingleProbe p) {} ops ↔ Steps (watchProxy p) OwnAnswers {} ops := by
  have start : Guarded {} := ⟨Slotted.init, by rintro ⟨q, c, probe, -⟩; cases probe⟩
  exact steps_congr start (fun w op guarded => guarded.singleProbe_iff p op)
    (fun w op guarded own => guarded.step p own) ops

section Sample

/-- A call that is asking since before the circuit opened is answered while the probe is out. -/
def staleAnswerOps : List ProxyOp :=
  [ shortCall 0 0, shortCall 1 0, .wait 0 .timedOut 2, .reconcile 0 (.returned true), shortCall 2 7,
    .wait 1 (.answered (some { allowed := .literal false })) 7 ]

/-- The next call is passed to the gate while the probe is out. -/
theorem stale_answer_frees :
    ¬ Steps (watchProxy shortProxy) (SingleProbe shortProxy) {} (staleAnswerOps ++ [shortCall 3 8]) := by
  rw [steps_snoc]
  rintro ⟨-, single⟩
  let w := run (watchProxy shortProxy) {} staleAnswerOps
  have probe : w.probe = some 2 ∧ (w.proxy.calls 2).map (·.phase) = some .asking := by decide +kernel
  have next : ((w.proxy.step shortProxy (shortCall 3 8)).calls 3).map (·.phase) = some .asking := by
    decide +kernel
  obtain ⟨c, known, waiting⟩ := Option.map_eq_some_iff.1 probe.2
  obtain ⟨c', after, passed⟩ := Option.map_eq_some_iff.1 next
  exact single ⟨2, c, probe.1, known, waiting⟩ rfl c' after passed

end Sample

end Custos
