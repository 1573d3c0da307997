import Mathlib.Algebra.BigOperators.Group.List.Basic
import Mathlib.Data.Nat.ModEq

/-!
# Checksums with two weights by turns

The sum of a list whose members are weighed by two functions by turns, as check digits are computed. Counted
from the right end, the turns are told by the parity of the length (`sum_mapIdx_parity`), and a checksum
whose two weights tell any two digits apart changes with any one digit (`altSum_middle_modEq_iff`).
-/

namespace Custos

variable {α : Type*}

/-- The sum of the list, the first member weighed by `f`, the second by `g`, and so on. -/
def altSum (f g : α → ℕ) : List α → ℕ
  | [] => 0
  | a :: as => f a + altSum g f as

@[simp] lemma altSum_nil (f g : α → ℕ) : altSum f g [] = 0 := rfl

@[simp] lemma altSum_cons (f g : α → ℕ) (a : α) (as : List α) :
    altSum f g (a :: as) = f a + altSum g f as := rfl

/-- The sum goes on with the weights in turn. -/
lemma altSum_append (f g : α → ℕ) (as bs : List α) :
    altSum f g (as ++ bs) =
      altSum f g as + if as.length % 2 = 0 then altSum f g bs else altSum g f bs := by
  induction as generalizing f g with
  | nil => simp
  | cons a as ih =>
    rw [List.cons_append, altSum_cons, altSum_cons, ih, Nat.add_assoc, List.length_cons]
    congr 2
    by_cases even : as.length % 2 = 0
    · rw [if_pos even, if_neg (by omega)]
    · rw [if_neg even, if_pos (by omega)]

/-- From the left end, the members with the parity of the length are those whose turn from the right end is
the second. -/
lemma sum_mapIdx_parity (f g : α → ℕ) (as : List α) :
    (as.mapIdx fun i a => if i % 2 = as.length % 2 then g a else f a).sum = altSum f g as.reverse := by
  induction as with
  | nil => rfl
  | cons a as ih =>
    have tail : (as.mapIdx fun i a => if (i + 1) % 2 = (as.length + 1) % 2 then g a else f a) =
        as.mapIdx fun i a => if i % 2 = as.length % 2 then g a else f a := by
      congr 1
      funext i b
      exact if_congr (by omega) rfl rfl
    rw [List.mapIdx_cons, List.sum_cons, List.length_cons, tail, ih, List.reverse_cons, altSum_append,
      List.length_reverse, altSum_cons, altSum_cons, altSum_nil, altSum_nil, Nat.add_comm]
    congr 1
    by_cases even : as.length % 2 = 0
    · rw [if_pos even, if_neg (by omega)]
      rfl
    · rw [if_neg even, if_pos (by omega)]
      rfl

/-- Checksums of lists that differ in one place agree as the weights of that place do. -/
lemma altSum_middle_modEq_iff {f g : α → ℕ} {m : ℕ} (as bs : List α) (a b : α) :
    altSum f g (as ++ a :: bs) ≡ altSum f g (as ++ b :: bs) [MOD m] ↔
      if as.length % 2 = 0 then f a ≡ f b [MOD m] else g a ≡ g b [MOD m] := by
  simp only [altSum_append, altSum_cons]
  rw [Nat.ModEq.add_iff_left rfl]
  by_cases even : as.length % 2 = 0
  · rw [if_pos even, if_pos even, if_pos even]
    exact Nat.ModEq.add_iff_right rfl
  · rw [if_neg even, if_neg even, if_neg even]
    exact Nat.ModEq.add_iff_right rfl

/-- A digit weighed twice: the sum of the digits of its double. -/
def doubled (d : ℕ) : ℕ := 2 * d / 10 + 2 * d % 10

/-- The Luhn sum of digits, the last digit first: every second one counts double. -/
def luhnSum : List ℕ → ℕ := altSum id doubled

/-- Doubling tells the digits apart modulo ten. -/
lemma doubled_modEq_iff {d e : ℕ} (hd : d < 10) (he : e < 10) :
    doubled d ≡ doubled e [MOD 10] ↔ d = e := by
  have all : ∀ d < 10, ∀ e < 10, doubled d ≡ doubled e [MOD 10] ↔ d = e := by decide
  exact all d hd e he

/-- A valid Luhn sum is lost with any one digit. -/
theorem luhnSum_detects {as bs : List ℕ} {d e : ℕ} (hd : d < 10) (he : e < 10) (ne : d ≠ e)
    (valid : luhnSum (as ++ d :: bs) % 10 = 0) : luhnSum (as ++ e :: bs) % 10 ≠ 0 := by
  intro other
  have same : luhnSum (as ++ d :: bs) ≡ luhnSum (as ++ e :: bs) [MOD 10] := valid.trans other.symm
  rw [luhnSum, altSum_middle_modEq_iff] at same
  refine ne ?_
  split at same
  · exact Nat.ModEq.eq_of_lt_of_lt same hd he
  · exact (doubled_modEq_iff hd he).1 same

end Custos
