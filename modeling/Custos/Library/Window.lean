import Mathlib.Algebra.Order.BigOperators.Group.List
import Mathlib.Algebra.Order.Field.Basic
import Mathlib.Tactic.Linarith

/-!
# Fixed windows

A counter that starts again from zero at the first look taken a window's length after its last start. Such
a counter limits what it counts in a window of its own. Over any other stretch of time shorter than the
length it limits to twice the cap (`Window.Tracks.within`): the stretch meets at most two windows.

The times are those of looks, in any rhythm; only that they do not go back is asked of them.
-/

namespace Custos

section Spent

variable {τ κ : Type*} [AddCommMonoid κ]

/-- What was spent at the times with `p`. -/
def spent (spends : List (τ × κ)) (p : τ → Prop) [DecidablePred p] : κ :=
  ((spends.filter fun x => p x.1).map Prod.snd).sum

variable {spends : List (τ × κ)} {p q : τ → Prop} [DecidablePred p] [DecidablePred q]

@[simp] lemma spent_nil : spent ([] : List (τ × κ)) p = 0 := rfl

lemma spent_cons (x : τ × κ) : spent (x :: spends) p = (if p x.1 then x.2 else 0) + spent spends p := by
  by_cases h : p x.1 <;> simp [spent, h]

/-- What is spent with one more. -/
lemma spent_snoc (t : τ) (c : κ) :
    spent (spends ++ [(t, c)]) p = spent spends p + if p t then c else 0 := by
  by_cases h : p t <;> simp [spent, h]

/-- Nothing is spent where nothing counts. -/
lemma spent_of_none (none : ∀ x ∈ spends, ¬ p x.1) : spent spends p = 0 := by
  unfold spent
  rw [List.filter_eq_nil_iff.2 fun x hx => by simp [none x hx]]
  rfl

variable [PartialOrder κ] [IsOrderedAddMonoid κ]

/-- What was spent at times with `p` was spent at times with `q` or at times with `r`. -/
lemma spent_le_add {r : τ → Prop} [DecidablePred r] (pos : ∀ x ∈ spends, 0 ≤ x.2)
    (or : ∀ x ∈ spends, p x.1 → q x.1 ∨ r x.1) : spent spends p ≤ spent spends q + spent spends r := by
  induction spends with
  | nil => simp
  | cons x spends ih =>
    have rest := ih (fun y hy => pos y (.tail _ hy)) fun y hy => or y (.tail _ hy)
    have here : (if p x.1 then x.2 else 0) ≤ (if q x.1 then x.2 else 0) + if r x.1 then x.2 else 0 := by
      have c := pos x (.head _)
      by_cases h : p x.1
      · rcases or x (.head _) h with h' | h'
        · simp only [h, h', if_true]
          exact le_add_of_nonneg_right (by split <;> simp [c])
        · simp only [h, h', if_true]
          exact le_add_of_nonneg_left (by split <;> simp [c])
      · rw [if_neg h]
        exact add_nonneg (by split <;> simp [c]) (by split <;> simp [c])
    simp only [spent_cons]
    rw [add_add_add_comm]
    exact add_le_add here rest

/-- Costs that are not negative add up to none that is. -/
lemma spent_nonneg (pos : ∀ x ∈ spends, 0 ≤ x.2) : 0 ≤ spent spends p :=
  List.sum_nonneg fun c hc => by
    obtain ⟨x, hx, rfl⟩ := List.mem_map.1 hc
    exact pos x (List.mem_filter.1 hx).1

/-- More is spent where more counts. -/
lemma spent_mono (pos : ∀ x ∈ spends, 0 ≤ x.2) (imp : ∀ x ∈ spends, p x.1 → q x.1) :
    spent spends p ≤ spent spends q := by
  have le := spent_le_add (r := fun _ => False) pos fun x hx px => .inl (imp x hx px)
  rwa [spent_of_none (p := fun _ => False) fun _ _ => not_false, add_zero] at le

end Spent

/-- A counter and the time it last started from zero. -/
structure Window (τ κ : Type*) where
  start : τ
  count : κ

namespace Window

section Operations

variable {τ κ : Type*} [AddCommGroup τ] [LinearOrder τ] [Zero κ]

/-- The counter at a look: started again when its window has lapsed. -/
def reset (w : Window τ κ) (len now : τ) : Window τ κ := if len ≤ now - w.start then ⟨now, 0⟩ else w

variable {w : Window τ κ} {len now : τ}

lemma reset_of_le (lapsed : len ≤ now - w.start) : w.reset len now = ⟨now, 0⟩ := if_pos lapsed

lemma reset_of_not_le (live : ¬ len ≤ now - w.start) : w.reset len now = w := if_neg live

/-- A look leaves a window that has not lapsed. -/
lemma live_reset (len0 : 0 < len) : ¬ len ≤ now - (w.reset len now).start := by
  by_cases lapsed : len ≤ now - w.start
  · rw [reset_of_le lapsed, sub_self]
    exact not_le.2 len0
  · rwa [reset_of_not_le lapsed]

/-- A window has started by now. -/
lemma reset_start_le (since : w.start ≤ now) : (w.reset len now).start ≤ now := by
  by_cases lapsed : len ≤ now - w.start
  · rw [reset_of_le lapsed]
  · rwa [reset_of_not_le lapsed]

end Operations

/-- The counter once a cost is counted. -/
def add {τ κ : Type*} [Add κ] (w : Window τ κ) (cost : κ) : Window τ κ :=
  { w with count := w.count + cost }

@[simp] lemma add_start {τ κ : Type*} [Add κ] (w : Window τ κ) (cost : κ) :
    (w.add cost).start = w.start := rfl

@[simp] lemma add_count {τ κ : Type*} [Add κ] (w : Window τ κ) (cost : κ) :
    (w.add cost).count = w.count + cost := rfl

section Idle

variable {τ κ : Type*} [AddCommGroup τ] [LinearOrder τ] [Zero κ]

/-- What looks alone, the last of them not after `now`, make of a window: nothing, or a start again once it had
lapsed. -/
def Idle (len : τ) (w : Window τ κ) (now : τ) (w' : Window τ κ) : Prop :=
  w' = w ∨ w'.count = 0 ∧ len ≤ w'.start - w.start ∧ w'.start ≤ now

variable {len now later : τ} {w w' : Window τ κ}

/-- What was idle until now is idle until later. -/
lemma Idle.mono (h : Idle len w now w') (le : now ≤ later) : Idle len w later w' := by
  rcases h with eq | ⟨zero, lapsed, since⟩
  · exact .inl eq
  · exact .inr ⟨zero, lapsed, since.trans le⟩

variable [IsOrderedAddMonoid τ]

variable (len w) in
/-- A later look finds the count of an earlier one or zero. -/
lemma reset_later (le : now ≤ later) :
    (w.reset len later).count = (w.reset len now).count ∨ (w.reset len later).count = 0 := by
  by_cases lapsed : len ≤ later - w.start
  · rw [reset_of_le lapsed]
    exact .inr rfl
  · rw [reset_of_not_le lapsed, reset_of_not_le fun h => lapsed (h.trans (sub_le_sub_right le _))]
    exact .inl rfl

/-- A later reset of an idle window. -/
lemma Idle.reset (h : Idle len w now w') (len0 : 0 ≤ len) (le : now ≤ later) :
    Idle len w later (w'.reset len later) := by
  by_cases lapsed : len ≤ later - w'.start
  · rw [reset_of_le lapsed]
    rcases h with rfl | ⟨-, lapsed', -⟩
    · exact .inr ⟨rfl, lapsed, le_refl later⟩
    · refine .inr ⟨rfl, lapsed'.trans (sub_le_sub_right ?_ _), le_refl later⟩
      exact sub_nonneg.1 (len0.trans lapsed)
  · rw [reset_of_not_le lapsed]
    exact h.mono le

/-- A look finds in an idle window what it would have found without the looks before it. -/
lemma Idle.reset_count (h : Idle len w now w') (le : now ≤ later) :
    (w'.reset len later).count = (w.reset len later).count := by
  rcases h with rfl | ⟨zero, lapsed, since⟩
  · rfl
  · have gone : len ≤ later - w.start := lapsed.trans (sub_le_sub_right (since.trans le) _)
    rw [reset_of_le gone]
    by_cases again : len ≤ later - w'.start
    · rw [reset_of_le again]
    · rw [reset_of_not_le again, zero]

/-- An idle window has started again by a look taken a length after its start. -/
lemma Idle.started (h : Idle len w now w') (len0 : 0 ≤ len) (le : now ≤ later)
    (gone : len ≤ later - w.start) : len ≤ (w'.reset len later).start - w.start := by
  rcases h.reset len0 le with eq | ⟨-, lapsed, -⟩
  · by_cases again : len ≤ later - w'.start
    · rwa [reset_of_le again]
    · rw [reset_of_not_le again] at eq
      rw [eq] at again
      exact absurd gone again
  · exact lapsed

end Idle

variable {τ κ : Type*} [Field τ] [LinearOrder τ] [IsStrictOrderedRing τ] [CommRing κ] [LinearOrder κ]
  [IsStrictOrderedRing κ]

/-- The window is what a counter with this cap is after these spends. `recent` is the window before it, as far
as a stretch of time that meets the counter's own window can reach back. -/
structure Tracks (len : τ) (cap : κ) (w : Window τ κ) (spends : List (τ × κ)) : Prop where
  pos : ∀ x ∈ spends, 0 ≤ x.2
  before : ∀ x ∈ spends, x.1 < w.start + len
  count : w.count = spent spends fun t => w.start ≤ t
  le : w.count ≤ cap
  recent : (spent spends fun t => w.start - len < t ∧ t < w.start) ≤ cap
  within : ∀ a b, b - a < len → (spent spends fun t => a ≤ t ∧ t ≤ b) ≤ 2 * cap

omit [IsStrictOrderedRing τ] in
/-- A new window tracks nothing. -/
lemma Tracks.new {len : τ} {cap : κ} (cap0 : 0 ≤ cap) (now : τ) :
    Tracks len cap (⟨now, 0⟩ : Window τ κ) [] where
  pos := by simp
  before := by simp
  count := by simp
  le := cap0
  recent := by simpa using cap0
  within := by simpa using fun _ _ _ => cap0

variable {len : τ} {cap : κ} {w : Window τ κ} {spends : List (τ × κ)}

/-- A look keeps the account: all that the next stretch can reach back to is in the window that lapsed. -/
lemma Tracks.reset (h : Tracks len cap w spends) (len0 : 0 ≤ len) (now : τ) :
    Tracks len cap (w.reset len now) spends := by
  by_cases lapsed : len ≤ now - w.start
  · rw [reset_of_le lapsed]
    have gone : ∀ x ∈ spends, x.1 < now := fun x hx => by linarith [h.before x hx]
    refine ⟨h.pos, fun x hx => ?_, ?_, ?_, ?_, h.within⟩
    · exact lt_add_of_lt_of_nonneg (gone x hx) len0
    · exact (spent_of_none fun x hx => not_le.2 (gone x hx)).symm
    · exact (h.count ▸ spent_nonneg h.pos).trans h.le
    · have one : (spent spends fun t => now - len < t ∧ t < now) ≤ w.count := by
        rw [h.count]
        exact spent_mono h.pos fun x _ between => by linarith [between.1]
      exact one.trans h.le
  · rwa [reset_of_not_le lapsed]

/-- A cost the cap leaves room for keeps the account: a stretch that ends in the counter's own window holds
what that window has counted and, of the window before, what `recent` bounds. -/
lemma Tracks.add (h : Tracks len cap w spends) {now : τ} (since : w.start ≤ now)
    (live : ¬ len ≤ now - w.start) {cost : κ} (cost0 : 0 ≤ cost) (room : w.count + cost ≤ cap) :
    Tracks len cap (w.add cost) (spends ++ [(now, cost)]) := by
  have inside : now < w.start + len := by linarith [not_le.1 live]
  refine ⟨?_, ?_, ?_, room, ?_, fun a b short => ?_⟩
  · intro x hx
    rcases List.mem_append.1 hx with hx | hx
    · exact h.pos x hx
    · rw [List.mem_singleton.1 hx]
      exact cost0
  · intro x hx
    rcases List.mem_append.1 hx with hx | hx
    · exact h.before x hx
    · rw [List.mem_singleton.1 hx]
      exact inside
  · rw [spent_snoc, add_start, if_pos since, ← h.count, add_count]
  · rw [spent_snoc, add_start, if_neg fun between => not_lt.2 since between.2, add_zero]
    exact h.recent
  · rw [spent_snoc]
    by_cases meets : a ≤ now ∧ now ≤ b
    · rw [if_pos meets]
      have two : (spent spends fun t => a ≤ t ∧ t ≤ b) ≤
          (spent spends fun t => w.start - len < t ∧ t < w.start) + w.count := by
        rw [h.count]
        refine spent_le_add h.pos fun x _ between => ?_
        by_cases own : w.start ≤ x.1
        · exact .inr own
        · exact .inl ⟨by linarith [between.1, meets.2], not_le.1 own⟩
      linarith [h.recent]
    · rw [if_neg meets, add_zero]
      exact h.within a b short

end Window

end Custos
