import Mathlib.Data.List.Infix
import Mathlib.Data.List.Basic

/-!
# Runs of a deterministic system

A system takes a step for each input; a run is the fold of its steps. An invariant of the steps is an
invariant of the runs (`run_invariant`), also where the steps keep it only under a condition on the
state and the input (`run_invariant_of_steps`), and a preorder every step climbs is climbed by every
run (`run_related`). What one step of a run brings about and all steps keep holds at its end, wherever in the
run that step is (`Somewhere.run_invariant`).
-/

namespace Custos

variable {σ ι : Type*} (step : σ → ι → σ)

/-- The state after a list of inputs. -/
def run (s : σ) (is : List ι) : σ := is.foldl step s

@[simp] lemma run_nil (s : σ) : run step s [] = s := rfl

@[simp] lemma run_cons (s : σ) (i : ι) (is : List ι) :
    run step s (i :: is) = run step (step s i) is := rfl

lemma run_append (s : σ) (is js : List ι) :
    run step s (is ++ js) = run step (run step s is) js := List.foldl_append ..

/-- A run with one more input. -/
lemma run_snoc (s : σ) (is : List ι) (i : ι) :
    run step s (is ++ [i]) = step (run step s is) i := by
  rw [run_append]; rfl

/-- What the start has and every step keeps holds after every run. -/
theorem run_invariant {I : σ → Prop} {s : σ} (init : I s)
    (keep : ∀ s i, I s → I (step s i)) (is : List ι) : I (run step s is) := by
  induction is generalizing s with
  | nil => exact init
  | cons i is ih => exact ih (keep s i init)

/-- Every step of the run meets `P` in the state it is taken in. -/
def Steps (P : σ → ι → Prop) : σ → List ι → Prop
  | _, [] => True
  | s, i :: is => P s i ∧ Steps P (step s i) is

/-- Every step of two runs. -/
lemma steps_append {P : σ → ι → Prop} {s : σ} {is js : List ι} :
    Steps step P s (is ++ js) ↔ Steps step P s is ∧ Steps step P (run step s is) js := by
  induction is generalizing s with
  | nil => simp [Steps]
  | cons i is ih => simp [Steps, ih, and_assoc]

/-- Every step of a run with one more. -/
lemma steps_snoc {P : σ → ι → Prop} {s : σ} {is : List ι} {i : ι} :
    Steps step P s (is ++ [i]) ↔ Steps step P s is ∧ P (run step s is) i := by
  simp [steps_append, Steps]

variable {step} in
/-- A condition on the inputs alone is met by every step of a run over such inputs. -/
lemma steps_of_forall {Q : ι → Prop} {s : σ} {is : List ι} (all : ∀ i ∈ is, Q i) :
    Steps step (fun _ i => Q i) s is := by
  induction is generalizing s with
  | nil => trivial
  | cons i is ih => exact ⟨all i (.head _), ih fun j hj => all j (.tail _ hj)⟩

variable {step} in
/-- Steps that meet two conditions meet both. -/
lemma Steps.and {P Q : σ → ι → Prop} {s : σ} {is : List ι} (p : Steps step P s is)
    (q : Steps step Q s is) : Steps step (fun s i => P s i ∧ Q s i) s is := by
  induction is generalizing s with
  | nil => trivial
  | cons i is ih => exact ⟨⟨p.1, q.1⟩, ih p.2 q.2⟩

variable {step} in
/-- What an invariant gives of every step is met by every step of a run. -/
lemma steps_of_invariant {I : σ → Prop} {P : σ → ι → Prop} {s : σ} (init : I s)
    (keep : ∀ s i, I s → I (step s i)) (each : ∀ s i, I s → P s i) (is : List ι) :
    Steps step P s is := by
  induction is generalizing s with
  | nil => trivial
  | cons i is ih => exact ⟨each s i init, ih (keep s i init)⟩

variable {step} in
/-- Over steps that meet `A`, two conditions that agree wherever an invariant holds, which steps that meet the
second keep, are met by the same runs. -/
lemma steps_congr_of_steps {I : σ → Prop} {A P Q : σ → ι → Prop} {s : σ} {is : List ι} (init : I s)
    (ok : Steps step A s is) (same : ∀ s i, I s → A s i → (P s i ↔ Q s i))
    (keep : ∀ s i, I s → A s i → Q s i → I (step s i)) : Steps step P s is ↔ Steps step Q s is := by
  induction is generalizing s with
  | nil => exact Iff.rfl
  | cons i is ih =>
    constructor
    · rintro ⟨one, rest⟩
      have one := (same s i init ok.1).1 one
      exact ⟨one, (ih (keep s i init ok.1 one) ok.2).1 rest⟩
    · rintro ⟨one, rest⟩
      exact ⟨(same s i init ok.1).2 one, (ih (keep s i init ok.1 one) ok.2).2 rest⟩

variable {step} in
/-- Conditions that say the same wherever the invariant holds hold over the same runs. -/
lemma steps_congr {I : σ → Prop} {P Q : σ → ι → Prop} {s : σ} (init : I s)
    (same : ∀ s i, I s → (P s i ↔ Q s i)) (keep : ∀ s i, I s → Q s i → I (step s i)) (is : List ι) :
    Steps step P s is ↔ Steps step Q s is :=
  have ok : Steps step (fun _ _ => True) s is :=
    steps_of_invariant (I := fun _ => True) trivial (fun _ _ _ => trivial) (fun _ _ _ => trivial) is
  steps_congr_of_steps init ok (fun s i inv _ => same s i inv) fun s i inv _ => keep s i inv

/-- A run with a step that does not meet `P` has a first one. -/
lemma exists_first_of_not_steps {P : σ → ι → Prop} {s : σ} {is : List ι}
    (no : ¬ Steps step P s is) :
    ∃ pre i post, is = pre ++ i :: post ∧ Steps step P s pre ∧ ¬ P (run step s pre) i := by
  induction is generalizing s with
  | nil => exact absurd trivial no
  | cons i is ih =>
    by_cases h : P s i
    · obtain ⟨pre, j, post, rfl, ok, bad⟩ := ih fun ok => no ⟨h, ok⟩
      exact ⟨i :: pre, j, post, rfl, ⟨h, ok⟩, bad⟩
    · exact ⟨[], i, is, rfl, trivial, h⟩

/-- What does not hold at the start of a run and holds at its end has held since some step. -/
theorem exists_since {P : σ → Prop} {s : σ} {is : List ι} (start : ¬ P s) (now : P (run step s is)) :
    ∃ pre i post, is = pre ++ i :: post ∧ ¬ P (run step s pre) ∧
      ∀ mid, mid <+: post → P (run step s (pre ++ i :: mid)) := by
  induction is using List.reverseRecOn with
  | nil => exact absurd now start
  | append_singleton is j ih =>
    by_cases before : P (run step s is)
    · obtain ⟨pre, i, post, rfl, no, since⟩ := ih before
      refine ⟨pre, i, post ++ [j], by simp, no, fun mid le => ?_⟩
      rcases List.prefix_concat_iff.1 le with rfl | le
      · simpa using now
      · exact since mid le
    · refine ⟨is, j, [], rfl, before, fun mid le => ?_⟩
      rw [List.prefix_nil.1 le]
      exact now

/-- What the start has, and every step that meets `P` keeps, holds after every run of such steps. -/
theorem run_invariant_of_steps {P : σ → ι → Prop} {I : σ → Prop} {s : σ} (init : I s)
    (keep : ∀ s i, I s → P s i → I (step s i)) {is : List ι} (ok : Steps step P s is) :
    I (run step s is) := by
  induction is generalizing s with
  | nil => exact init
  | cons i is ih => exact ih (keep s i init ok.1) ok.2

variable {step} in
/-- What every step that meets `P` has where an invariant holds, which such steps keep, every step of a run of
such steps has. -/
lemma steps_of_steps {P Q : σ → ι → Prop} {I : σ → Prop} {s : σ} {is : List ι} (init : I s)
    (ok : Steps step P s is) (each : ∀ s i, I s → P s i → Q s i)
    (keep : ∀ s i, I s → P s i → I (step s i)) : Steps step Q s is := by
  induction is generalizing s with
  | nil => trivial
  | cons i is ih => exact ⟨each s i init ok.1, ih (keep s i init ok.1) ok.2⟩

/-- Some step of the run meets `P` in the state it is taken in. -/
def Somewhere (P : σ → ι → Prop) : σ → List ι → Prop
  | _, [] => False
  | s, i :: is => P s i ∨ Somewhere P (step s i) is

variable {step} in
/-- What follows from a condition that is met somewhere in a run follows from each of its steps. -/
lemma steps_of_somewhere {κ : Type*} {P : κ → σ → ι → Prop} {R : κ → Prop} {s : σ} {is : List ι}
    (all : ∀ k, Somewhere step (P k) s is → R k) :
    Steps step (fun s i => ∀ k, P k s i → R k) s is := by
  induction is generalizing s with
  | nil => trivial
  | cons i is ih => exact ⟨fun k here => all k (.inl here), ih fun k there => all k (.inr there)⟩

variable {step} in
/-- What a step that meets `P` brings about where `J` holds, and every step keeps, holds after a run with such a
step. -/
theorem Somewhere.run_invariant {A P : σ → ι → Prop} {I J : σ → Prop} {s : σ} {is : List ι}
    (somewhere : Somewhere step P s is) (ok : Steps step A s is) (init : J s)
    (reach : ∀ s i, J s → A s i → J (step s i)) (bring : ∀ s i, J s → A s i → P s i → I (step s i))
    (keep : ∀ s i, I s → A s i → I (step s i)) : I (run step s is) := by
  induction is generalizing s with
  | nil => exact somewhere.elim
  | cons i is ih =>
    rcases somewhere with here | there
    · exact run_invariant_of_steps step (bring s i init ok.1 here) keep ok.2
    · exact ih there ok.2 (reach s i init ok.1)

/-- What the steps of a run put out, in their order. -/
def outputs {α : Type*} (out : σ → ι → Option α) : σ → List ι → List α
  | _, [] => []
  | s, i :: is => (out s i).toList ++ outputs out (step s i) is

variable {step} in
/-- What all that is put out by a step has, all that is put out by a run has. -/
lemma forall_mem_outputs {α : Type*} {Q : α → Prop} {out : σ → ι → Option α} (each : ∀ s i, ∀ x ∈ out s i, Q x)
    (s : σ) (is : List ι) : ∀ x ∈ outputs step out s is, Q x := by
  induction is generalizing s with
  | nil => exact fun x mem => absurd mem List.not_mem_nil
  | cons i is ih =>
    intro x mem
    rcases List.mem_append.1 mem with here | there
    · exact each s i x (Option.mem_toList.1 here)
    · exact ih (step s i) x there

variable {step} in
/-- Where each step puts out less, so does the run. -/
lemma outputs_mono {α : Type*} {out out' : σ → ι → Option α}
    (each : ∀ s i, (out s i).toList.Sublist (out' s i).toList) (s : σ) (is : List ι) :
    (outputs step out s is).Sublist (outputs step out' s is) := by
  induction is generalizing s with
  | nil => exact .slnil
  | cons i is ih => exact (each s i).append (ih (step s i))

variable {step} in
/-- A log that every step that meets `P` extends, by what it puts out among others, is extended by every run of such
steps, and what the run has put out is in what the log has gained, in the same order. -/
theorem outputs_sublist_of_steps {α β : Type*} {I : σ → Prop} {P : σ → ι → Prop} {out : σ → ι → Option α}
    (log : σ → List β) {read : β → α} (keep : ∀ s i, I s → P s i → I (step s i))
    (gain : ∀ s i, I s → P s i → ∃ new, log (step s i) = log s ++ new ∧ (out s i).toList.Sublist (new.map read))
    {s : σ} (init : I s) {is : List ι} (ok : Steps step P s is) :
    ∃ new, log (run step s is) = log s ++ new ∧ (outputs step out s is).Sublist (new.map read) := by
  induction is generalizing s with
  | nil => exact ⟨[], by simp, .slnil⟩
  | cons i is ih =>
    obtain ⟨first, one, put⟩ := gain s i init ok.1
    obtain ⟨rest, grown, puts⟩ := ih (keep s i init ok.1) ok.2
    refine ⟨first ++ rest, ?_, ?_⟩
    · rw [run_cons, grown, one, List.append_assoc]
    · rw [List.map_append]
      exact put.append puts

variable {step} in
/-- What a run puts out is in the log, where each step logs what it puts out. -/
theorem outputs_sublist {α β : Type*} {I : σ → Prop} {out : σ → ι → Option α} (log : σ → List β)
    {read : β → α} (keep : ∀ s i, I s → I (step s i))
    (gain : ∀ s i, I s → ∃ new, log (step s i) = log s ++ new ∧ (out s i).toList.Sublist (new.map read))
    {s : σ} (init : I s) (is : List ι) :
    ∃ new, log (run step s is) = log s ++ new ∧ (outputs step out s is).Sublist (new.map read) :=
  have ok : Steps step (fun _ _ => True) s is := steps_of_forall fun _ _ => trivial
  outputs_sublist_of_steps log (fun s i inv _ => keep s i inv) (fun s i inv _ => gain s i inv) init ok

variable {step} in
/-- Where each step adds to a log, of what is read there, at most what it puts out, so does a run; and it adds just that
exactly where each of its steps does. -/
theorem outputs_accounted {α β : Type*} {out : σ → ι → Option α} {P : σ → ι → Prop} (log : σ → List β)
    {read : β → Option α}
    (gain : ∀ s i, ∃ new, log (step s i) = log s ++ new ∧ (new.filterMap read).Sublist (out s i).toList ∧
      (new.filterMap read = (out s i).toList ↔ P s i)) (s : σ) (is : List ι) :
    ∃ new, log (run step s is) = log s ++ new ∧ (new.filterMap read).Sublist (outputs step out s is) ∧
      (new.filterMap read = outputs step out s is ↔ Steps step P s is) := by
  induction is generalizing s with
  | nil => exact ⟨[], by simp, .slnil, by simp [outputs, Steps]⟩
  | cons i is ih =>
    obtain ⟨first, one, put, exact₁⟩ := gain s i
    obtain ⟨rest, grown, puts, exact₂⟩ := ih (step s i)
    refine ⟨first ++ rest, by rw [run_cons, grown, one, List.append_assoc], ?_, ?_⟩
    · rw [List.filterMap_append]
      exact put.append puts
    · rw [List.filterMap_append, outputs, Steps, ← exact₁, ← exact₂]
      constructor
      · intro same
        have lengths := congrArg List.length same
        rw [List.length_append, List.length_append] at lengths
        have short := put.length_le
        have short' := puts.length_le
        exact ⟨put.eq_of_length (by omega), puts.eq_of_length (by omega)⟩
      · rintro ⟨here, there⟩
        rw [here, there]

/-- All that the steps of a run bring about, in its order. -/
def trace {α : Type*} (out : σ → ι → List α) : σ → List ι → List α
  | _, [] => []
  | s, i :: is => out s i ++ trace out (step s i) is

variable {step} in
/-- What each step folds what it brings about into, a run folds its trace into. -/
theorem run_foldl_trace {α β : Type*} {out : σ → ι → List α} (view : σ → β) {note : β → α → β}
    (each : ∀ s i, view (step s i) = (out s i).foldl note (view s)) (s : σ) (is : List ι) :
    view (run step s is) = (trace step out s is).foldl note (view s) := by
  induction is generalizing s with
  | nil => rfl
  | cons i is ih => rw [run_cons, ih, each, trace, List.foldl_append]

/-- A preorder that every step climbs is climbed by every run. -/
theorem run_related {R : σ → σ → Prop} (refl : ∀ s, R s s)
    (trans : ∀ {a b c}, R a b → R b c → R a c) (climb : ∀ s i, R s (step s i)) (s : σ)
    (is : List ι) : R s (run step s is) := by
  induction is generalizing s with
  | nil => exact refl s
  | cons i is ih => exact trans (climb s i) (ih _)

end Custos
