import Custos.Custody.Sinks

/-!
# Gaps

A manager with one sink, and attempts for any tenants. The gap dict an anchor carries is an account of the
tenant's attempts that were refused since its last anchor (`refusedSince`): none where there were none, and
else their number and the times of the first and the last (`gapOf`).

The dicts are mutable and shared, so the invariant (`Accounted`) says which of them are pending: each
tenant's own, in no other tenant's state and in no sink's log. `gap_accounting` is what one attempt does
after any others.
-/

namespace Custos

/-- An attempt to anchor a tenant's head. -/
structure Attempt where
  tenantId : String
  head : Nat × String
  env : EmitEnv

/-- The one sink there is refuses it. -/
def Attempt.Refused (a : Attempt) : Prop := a.env.raises 0 ≠ none

instance (a : Attempt) : Decidable a.Refused := inferInstanceAs (Decidable (_ ≠ none))

/-- A sink, and the gap dicts that are there when the manager is started; those its log holds are among
them. -/
structure HeldSink where
  sink : Sink
  gaps : List Gap
  held : ∀ h ∈ sink.log, ∀ ref, h.gapRef = some ref → ref < gaps.length

/-- The times of the tenant's attempts that were refused since its last accepted one. -/
def refusedSince (id : String) (attempts : List Attempt) : List String :=
  attempts.foldl (fun times a =>
    if a.tenantId ≠ id then times else if a.Refused then times ++ [a.env.now] else []) []

/-- The gap those attempts come to. -/
def gapOf (epoch : Int) : List String → Option Gap
  | [] => none
  | first :: rest =>
    some { fromEpoch := epoch, attempts := (first :: rest).length, firstAttemptUtc := first
           lastAttemptUtc := (first :: rest).getLast? }

/-- The gap an anchor carries for them. -/
def gapJsonOf (epoch : Int) (times : List String) : Json :=
  match gapOf epoch times with
  | some gap => gap.toJson
  | none => .null

variable [Platform]

def attemptStep (m : AnchorManager) (a : Attempt) : AnchorManager := m.emit a.tenantId a.head a.env

/-! ## The history -/

omit [Platform] in
/-- A further attempt is refused, or ends what was. -/
lemma refusedSince_snoc (id : String) (attempts : List Attempt) (a : Attempt) :
    refusedSince id (attempts ++ [a]) =
      if a.tenantId ≠ id then refusedSince id attempts
      else if a.Refused then refusedSince id attempts ++ [a.env.now] else [] := by
  rw [refusedSince, List.foldl_append]
  rfl

omit [Platform] in
/-- One more refused attempt is counted up in the gap, or opens it. -/
lemma gapOf_snoc (epoch : Int) (times : List String) (now : String) :
    gapOf epoch (times ++ [now]) =
      let gap := (gapOf epoch times).getD { fromEpoch := epoch, attempts := 0, firstAttemptUtc := now }
      some { gap with attempts := gap.attempts + 1, lastAttemptUtc := some now } := by
  cases times with
  | nil => rfl
  | cons first rest => simp [gapOf, List.getLast?_cons]

example : gapOf 4 ["10:00", "10:05", "10:10"] =
    some { fromEpoch := 4, attempts := 3, firstAttemptUtc := "10:00", lastAttemptUtc := some "10:10" } := rfl

/-! ## The heap -/

omit [Platform] in
/-- The gap a refused attempt counts up: the pending one, or a new one at the end of the heap. -/
lemma counted_spec {m : AnchorManager} {id : String} {pending : Option Gap}
    (at_ref : (m.state id).pendingGap.map (m.gaps[·]?) = pending.map some) (epoch : Int) (now : String)
    (f : Gap → Gap) :
    let o := m.openGap id epoch now
    (o.2.modify o.1 f)[o.1]? =
        some (f (pending.getD { fromEpoch := epoch, attempts := 0, firstAttemptUtc := now })) ∧
      ((m.state id).pendingGap = some o.1 ∨ o.1 = m.gaps.length) := by
  cases ref : (m.state id).pendingGap with
  | some r =>
    rw [ref] at at_ref
    cases pending with
    | none => cases at_ref
    | some gap =>
      have at_r : m.gaps[r]? = some gap := Option.some.inj at_ref
      simp only [AnchorManager.openGap, ref]
      refine ⟨?_, .inl trivial⟩
      rw [List.getElem?_modify_eq, at_r]
      rfl
  | none =>
    rw [ref] at at_ref
    cases pending with
    | some gap => cases at_ref
    | none =>
      simp only [AnchorManager.openGap, ref]
      refine ⟨?_, .inr trivial⟩
      rw [List.getElem?_modify_eq, List.getElem?_append_right (le_refl _), Nat.sub_self]
      rfl

omit [Platform] in
/-- The heap has the gap at its place, and what no state of the tenant had pending where it was. -/
structure Counted (m : AnchorManager) (id : String) (ref : Nat) (gaps : List Gap) (gap : Option Gap) : Prop where
  at_ref : some gaps[ref]? = gap.map some
  grow : m.gaps.length ≤ gaps.length
  elsewhere : ∀ r < m.gaps.length, (m.state id).pendingGap ≠ some r → r ≠ ref ∧ gaps[r]? = m.gaps[r]?

omit [Platform] in
/-- Moving one tenant's state leaves every other's. -/
lemma update_cases {α : Type} (state : String → α) (own : String) (st : α) (id : String) :
    own = id ∨ Function.update state own st id = state id ∧ own ≠ id := by
  by_cases same : own = id
  · exact .inl same
  · exact .inr ⟨Function.update_of_ne (Ne.symm same) _ _, same⟩

/-- The pending gap dicts are the account of the history: each tenant's own one, held by no sink. -/
structure Accounted (history : List Attempt) (m : AnchorManager) : Prop where
  one : ∃ sink, m.sinks = [sink]
  pending : ∀ id, (m.state id).pendingGap.map (m.gaps[·]?) =
    (gapOf ((m.state id).epoch + 1) (refusedSince id history)).map some
  apart : ∀ id id' ref, (m.state id).pendingGap = some ref → (m.state id').pendingGap = some ref → id = id'
  unheld : ∀ sink ∈ m.sinks, ∀ h ∈ sink.log, ∀ ref, h.gapRef = some ref →
    ref < m.gaps.length ∧ ∀ id, (m.state id).pendingGap ≠ some ref

namespace Accounted

variable {history : List Attempt} {m : AnchorManager}

omit [Platform] in
/-- The gap dict that is pending is the account of what was refused. -/
lemma gap_of_pending (acc : Accounted history m) {id : String} {ref : Nat}
    (pending : (m.state id).pendingGap = some ref) :
    ∃ g, gapOf ((m.state id).epoch + 1) (refusedSince id history) = some g ∧ m.gaps[ref]? = some g := by
  have at_ref := acc.pending id
  rw [pending] at at_ref
  cases gap : gapOf ((m.state id).epoch + 1) (refusedSince id history) with
  | none =>
    rw [gap] at at_ref
    cases at_ref
  | some g =>
    rw [gap] at at_ref
    exact ⟨g, rfl, Option.some.inj at_ref⟩

omit [Platform] in
/-- A pending gap is among the gaps. -/
lemma lt_length (acc : Accounted history m) {id : String} {ref : Nat}
    (pending : (m.state id).pendingGap = some ref) : ref < m.gaps.length := by
  obtain ⟨g, -, at_ref⟩ := acc.gap_of_pending pending
  exact (List.getElem?_eq_some_iff.1 at_ref).1

omit [Platform] in
/-- The gap the tenant's next anchor carries. -/
lemma pendingGapJson_eq (acc : Accounted history m) (id : String) :
    m.pendingGapJson id = gapJsonOf ((m.state id).epoch + 1) (refusedSince id history) := by
  unfold AnchorManager.pendingGapJson gapJsonOf
  cases ref : (m.state id).pendingGap with
  | none =>
    have at_ref := acc.pending id
    rw [ref] at at_ref
    cases gap : gapOf ((m.state id).epoch + 1) (refusedSince id history) with
    | none => rfl
    | some g =>
      rw [gap] at at_ref
      cases at_ref
  | some r =>
    obtain ⟨g, gap, at_r⟩ := acc.gap_of_pending ref
    rw [gap, Option.bind_some, at_r]

/-- An accepted attempt closes the tenant's gap. -/
lemma accept (acc : Accounted history m) {a : Attempt} (accepts : a.env.Accepts m.sinks)
    (accepted : ¬ a.Refused) : Accounted (history ++ [a]) (attemptStep m a) := by
  unfold attemptStep
  rw [AnchorManager.emit_of_accepts accepts]
  obtain ⟨sink, one⟩ := acc.one
  have state := update_cases m.state a.tenantId
    { epoch := (m.nextAnchor a.tenantId a.head a.env.now).epoch, length := a.head.1
      anchorHash := (m.nextAnchor a.tenantId a.head a.env.now).anchorHash
      lastAnchorUtc := some a.env.now, pendingGap := none }
  refine ⟨⟨_, by rw [one]; rfl⟩, fun id => ?_, fun id id' ref pend pend' => ?_,
    fun s mem h hh ref at_ref => ?_⟩
  · rw [refusedSince_snoc]
    rcases state id with rfl | ⟨same, other⟩
    · simp [accepted, gapOf]
    · dsimp only
      rw [same, if_pos other]
      exact acc.pending id
  · dsimp only at pend pend'
    rcases state id with rfl | ⟨same, -⟩
    · simp at pend
    · rcases state id' with rfl | ⟨same', -⟩
      · simp at pend'
      · rw [same] at pend
        rw [same'] at pend'
        exact acc.apart id id' ref pend pend'
  · -- what the sink now holds is the gap that is pending no more
    have only : ref < m.gaps.length ∧ ∀ id, a.tenantId ≠ id → (m.state id).pendingGap ≠ some ref := by
      obtain ⟨s', mem', rfl⟩ := List.mem_map.1 mem
      rcases List.mem_append.1 hh with hh | hh
      · obtain ⟨lt, unheld⟩ := acc.unheld s' mem' h hh ref at_ref
        exact ⟨lt, fun id _ => unheld id⟩
      · rw [List.mem_singleton.1 hh] at at_ref
        have own : (m.state a.tenantId).pendingGap = some ref := by
          by_contra no
          split at at_ref <;> simp_all
        exact ⟨acc.lt_length own, fun id other pend => other (acc.apart _ _ ref own pend)⟩
    refine ⟨only.1, fun id => ?_⟩
    dsimp only
    rcases state id with rfl | ⟨same, other⟩
    · simp
    · rw [same]
      exact only.2 id other

omit [Platform] in
/-- The gap dict that a refused attempt of the tenant counts up. -/
lemma counted (acc : Accounted history m) (id now : String) :
    let o := m.openGap id ((m.state id).epoch + 1) now
    Counted m id o.1
      (o.2.modify o.1 fun gap => { gap with attempts := gap.attempts + 1, lastAttemptUtc := some now })
      (gapOf ((m.state id).epoch + 1) (refusedSince id history ++ [now])) := by
  obtain ⟨at_ref, fresh⟩ := counted_spec (acc.pending id) ((m.state id).epoch + 1) now
    fun gap => { gap with attempts := gap.attempts + 1, lastAttemptUtc := some now }
  obtain ⟨-, grow, -, same⟩ := openGap_spec
    (fun ref (pend : (m.state id).pendingGap = some ref) => acc.lt_length pend) ((m.state id).epoch + 1) now
    fun gap => { gap with attempts := gap.attempts + 1, lastAttemptUtc := some now }
  refine ⟨by rw [gapOf_snoc]; exact congrArg some at_ref, grow, fun ref lt no => ⟨?_, same ref lt no⟩⟩
  rintro rfl
  rcases fresh with own | new
  · exact no own
  · omega

omit [Platform] in
/-- Counting it up accounts for the attempt. -/
lemma count (acc : Accounted history m) {a : Attempt} (refused : a.Refused) {ref : Nat} {gaps : List Gap}
    (counted : Counted m a.tenantId ref gaps
      (gapOf ((m.state a.tenantId).epoch + 1) (refusedSince a.tenantId history ++ [a.env.now])))
    (lastError : Option String) :
    Accounted (history ++ [a])
      { m with
        gaps, lastError
        state := Function.update m.state a.tenantId { m.state a.tenantId with pendingGap := some ref } } := by
  have state := update_cases m.state a.tenantId { m.state a.tenantId with pendingGap := some ref }
  have others : ∀ id r, a.tenantId ≠ id → (m.state id).pendingGap = some r → r ≠ ref ∧ gaps[r]? = m.gaps[r]? :=
    fun id r other pend => counted.elsewhere r (acc.lt_length pend) fun own => other (acc.apart _ _ r own pend)
  refine ⟨acc.one, fun id => ?_, fun id id' r pend pend' => ?_, fun s mem h hh r held => ?_⟩
  · rw [refusedSince_snoc]
    dsimp only
    rcases state id with rfl | ⟨kept, other⟩
    · rw [Function.update_self, if_neg (not_not.2 rfl), if_pos refused]
      exact counted.at_ref
    · rw [kept, if_pos other, ← acc.pending id]
      cases pend : (m.state id).pendingGap with
      | none => rfl
      | some r => exact congrArg some (others id r other pend).2
  · dsimp only at pend pend'
    rcases state id with rfl | ⟨kept, other⟩ <;> rcases state id' with rfl | ⟨kept', other'⟩
    · rfl
    · rw [Function.update_self] at pend
      rw [kept'] at pend'
      exact absurd (Option.some.inj pend).symm (others id' r other' pend').1
    · rw [Function.update_self] at pend'
      rw [kept] at pend
      exact absurd (Option.some.inj pend').symm (others id r other pend).1
    · rw [kept] at pend
      rw [kept'] at pend'
      exact acc.apart id id' r pend pend'
  · obtain ⟨lt, unheld⟩ := acc.unheld s mem h hh r held
    refine ⟨lt.trans_le counted.grow, fun id => ?_⟩
    dsimp only
    rcases state id with rfl | ⟨kept, other⟩
    · rw [Function.update_self]
      exact fun pend => (counted.elsewhere r lt (unheld _)).1 (Option.some.inj pend).symm
    · rw [kept]
      exact unheld id

/-- A refused attempt counts up the tenant's gap, and nothing else reads differently for it. -/
lemma refuse (acc : Accounted history m) {a : Attempt} (refuses : ¬ a.env.Accepts m.sinks)
    (refused : a.Refused) :
    Accounted (history ++ [a]) (attemptStep m a) ∧ (attemptStep m a).sinks = m.sinks ∧
      ∀ sink ∈ m.sinks, sink.read (attemptStep m a).gaps = sink.read m.gaps := by
  have kept : offer a.env.raises (m.nextAnchor a.tenantId a.head a.env.now).toDict
      (m.state a.tenantId).pendingGap m.sinks = m.sinks := by
    obtain ⟨sink, one⟩ := acc.one
    rw [one]
    show [if (a.env.raises 0).isNone then _ else sink] = [sink]
    rw [if_neg fun accepted => refused (Option.isNone_iff_eq_none.1 accepted)]
  have counted := acc.counted a.tenantId a.env.now
  unfold attemptStep
  rw [AnchorManager.emit_of_refused refuses, kept]
  refine ⟨acc.count refused counted _, rfl, fun s mem => read_congr fun h hh ref held => ?_⟩
  obtain ⟨lt, unheld⟩ := acc.unheld s mem h hh ref held
  exact (counted.elsewhere ref lt (unheld _)).2

omit [Platform] in
/-- With one sink an attempt is accepted where the sink does not refuse it. -/
lemma accepts_iff (acc : Accounted history m) (a : Attempt) : a.env.Accepts m.sinks ↔ ¬ a.Refused := by
  obtain ⟨sink, one⟩ := acc.one
  rw [one, EmitEnv.Accepts, Attempt.Refused, not_not]
  constructor
  · intro all
    exact all 0 Nat.zero_lt_one
  · intro accepted i lt
    rw [List.length_singleton, Nat.lt_one_iff] at lt
    rw [lt, accepted]

/-- A further attempt keeps the accounts. -/
lemma step (acc : Accounted history m) (a : Attempt) : Accounted (history ++ [a]) (attemptStep m a) := by
  by_cases refused : a.Refused
  · exact (acc.refuse (fun accepts => (acc.accepts_iff a).1 accepts refused) refused).1
  · exact acc.accept ((acc.accepts_iff a).2 refused) refused

end Accounted

omit [Platform] in
/-- At the start there is nothing to account for. -/
lemma accounted_start (h : HeldSink) (anchorN : Int) : Accounted [] (.init [h.sink] h.gaps anchorN) := by
  refine ⟨⟨h.sink, rfl⟩, fun _ => rfl, nofun, fun s mem k hk ref held => ⟨?_, nofun⟩⟩
  rw [List.mem_singleton.1 mem] at hk
  exact h.held k hk ref held

/-- The account is kept by every run. -/
lemma accounted_run (h : HeldSink) (anchorN : Int) (history : List Attempt) :
    Accounted history (run attemptStep (.init [h.sink] h.gaps anchorN) history) := by
  induction history using List.reverseRecOn with
  | nil => exact accounted_start h anchorN
  | append_singleton history a ih =>
    rw [run_snoc]
    exact ih.step a

/-! ## The anchors -/

/-- What one attempt does after those of the history: where the sink accepts it, the tenant's next anchor with
the gap of the history is what the log gains, and the counters move to it; where it refuses, neither moves; the
other tenants' states stay either way. -/
structure AttemptAccounted (history : List Attempt) (m : AnchorManager) (a : Attempt) : Prop where
  accepted : ¬ a.Refused → ∃ sink sink' anchor, m.sinks = [sink] ∧ (attemptStep m a).sinks = [sink'] ∧
    sink'.read (attemptStep m a).gaps = sink.read m.gaps ++ [AnchorRecord.toDict anchor] ∧
    anchor.tenantId = a.tenantId ∧ anchor.epoch = (m.state a.tenantId).epoch + 1 ∧
    (anchor.chainLength, anchor.headHash) = ((a.head.1 : Int), a.head.2) ∧
    anchor.prevAnchorHash = (m.state a.tenantId).anchorHash ∧
    anchor.gap = gapJsonOf anchor.epoch (refusedSince a.tenantId history) ∧ anchor.IsSealed ∧
    (attemptStep m a).state a.tenantId =
      { epoch := anchor.epoch, length := a.head.1, anchorHash := anchor.anchorHash
        lastAnchorUtc := some a.env.now, pendingGap := none }
  refused : a.Refused → (attemptStep m a).sinks = m.sinks ∧
    (∀ sink ∈ m.sinks, sink.read (attemptStep m a).gaps = sink.read m.gaps) ∧
    ((attemptStep m a).state a.tenantId).epoch = (m.state a.tenantId).epoch ∧
    ((attemptStep m a).state a.tenantId).length = (m.state a.tenantId).length ∧
    ((attemptStep m a).state a.tenantId).anchorHash = (m.state a.tenantId).anchorHash
  others : ∀ id, id ≠ a.tenantId → (attemptStep m a).state id = m.state id

/-- What an attempt accounts for. -/
lemma Accounted.attempt {history : List Attempt} {m : AnchorManager} (acc : Accounted history m) (a : Attempt) :
    AttemptAccounted history m a := by
  obtain ⟨sink, one⟩ := acc.one
  refine ⟨fun accepted => ?_, fun refused => ?_, fun id other => ?_⟩
  · have accepts := (acc.accepts_iff a).2 accepted
    let anchor := m.nextAnchor a.tenantId a.head a.env.now
    refine ⟨sink, sink.accept anchor.toDict (m.state a.tenantId).pendingGap, anchor, one, ?_, ?_, rfl, rfl, rfl,
      rfl, acc.pendingGapJson_eq a.tenantId, AnchorRecord.sealed_isSealed _, ?_⟩
    · unfold attemptStep
      rw [AnchorManager.emit_of_accepts accepts, one]
      rfl
    · unfold attemptStep
      rw [AnchorManager.emit_of_accepts accepts]
      exact read_accept m sink _ rfl
    · unfold attemptStep
      rw [AnchorManager.emit_of_accepts accepts]
      exact Function.update_self ..
  · have refuses : ¬ a.env.Accepts m.sinks := fun accepts => (acc.accepts_iff a).1 accepts refused
    obtain ⟨-, sinks, reads⟩ := acc.refuse refuses refused
    refine ⟨sinks, reads, ?_⟩
    unfold attemptStep
    rw [AnchorManager.emit_of_refused refuses]
    dsimp only
    rw [Function.update_self]
    exact ⟨rfl, rfl, rfl⟩
  · by_cases accepts : a.env.Accepts m.sinks
    · unfold attemptStep
      rw [AnchorManager.emit_of_accepts accepts]
      exact Function.update_of_ne other ..
    · unfold attemptStep
      rw [AnchorManager.emit_of_refused accepts]
      exact Function.update_of_ne other ..

/-- Whatever the attempts before, in any order of tenants, the next one is accounted for. -/
theorem gap_accounting (h : HeldSink) (anchorN : Int) (history : List Attempt) (a : Attempt) :
    AttemptAccounted history (run attemptStep (.init [h.sink] h.gaps anchorN) history) a :=
  (accounted_run h anchorN history).attempt a

end Custos
