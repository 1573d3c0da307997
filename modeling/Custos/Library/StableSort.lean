import Mathlib.Data.List.Sort
import Mathlib.Data.List.Perm.Basic

/-!
# Stable sorting by a key

A stable sort by a key keeps the members with one key in the order they came in (`filter_sortBy`). Two orders
of one list are therefore sorted alike exactly as far as they agree on the members with each key
(`map_sortBy_eq_iff`), and all its orders exactly where nothing tells members with one key apart
(`map_sortBy_perm_iff`).
-/

namespace Custos

variable {α β κ : Type*} [LinearOrder κ]

/-- The list in the order of a key. -/
def sortBy (key : α → κ) (xs : List α) : List α := xs.insertionSort fun a b => key a ≤ key b

variable {key : α → κ} {xs ys : List α}

lemma sortBy_perm (key : α → κ) (xs : List α) : (sortBy key xs).Perm xs := List.perm_insertionSort _ _

lemma sortBy_sorted (key : α → κ) (xs : List α) :
    (sortBy key xs).Pairwise fun a b => key a ≤ key b := by
  have : Std.Total fun a b : α => key a ≤ key b := ⟨fun a b => le_total (key a) (key b)⟩
  have : IsTrans α fun a b => key a ≤ key b := ⟨fun _ _ _ => le_trans⟩
  exact List.pairwise_insertionSort _ xs

/-- Members with one key stay in their order. -/
lemma filter_sortBy (key : α → κ) (xs : List α) (k : κ) :
    (sortBy key xs).filter (key · = k) = xs.filter (key · = k) := by
  have same : ∀ a ∈ xs.filter (key · = k), key a = k := fun a mem => by
    simpa using (List.mem_filter.1 mem).2
  have sorted : (xs.filter (key · = k)).Pairwise fun a b => key a ≤ key b :=
    List.pairwise_of_forall_mem_list fun a ha b hb => (same a ha).trans_le (same b hb).ge
  have kept := (List.sublist_insertionSort sorted List.filter_sublist).filter (key · = k)
  rw [List.filter_filter] at kept
  simp only [Bool.and_self] at kept
  exact (kept.eq_of_length ((sortBy_perm key xs).filter _).length_eq.symm).symm

/-- Sorted lists of pairs agree when they agree on the pairs with each key. -/
lemma eq_of_blocks_eq {ps qs : List (κ × β)} (hp : ps.Pairwise fun a b => a.1 ≤ b.1)
    (hq : qs.Pairwise fun a b => a.1 ≤ b.1)
    (blocks : ∀ k, ps.filter (·.1 = k) = qs.filter (·.1 = k)) : ps = qs := by
  induction ps generalizing qs with
  | nil =>
    cases qs with
    | nil => rfl
    | cons q qs => simpa using blocks q.1
  | cons p ps ih =>
    cases qs with
    | nil => simpa using blocks p.1
    | cons q qs =>
      rw [List.pairwise_cons] at hp hq
      -- each head has a key of the other list, and each list starts with its least key
      have mem : p ∈ q :: qs := by
        have : p ∈ (p :: ps).filter (·.1 = p.1) := by simp
        rw [blocks] at this
        exact (List.mem_filter.1 this).1
      have mem' : q ∈ p :: ps := by
        have : q ∈ (q :: qs).filter (·.1 = q.1) := by simp
        rw [← blocks] at this
        exact (List.mem_filter.1 this).1
      have le : q.1 ≤ p.1 := by
        rcases List.mem_cons.1 mem with rfl | mem
        · exact le_refl _
        · exact hq.1 p mem
      have ge : p.1 ≤ q.1 := by
        rcases List.mem_cons.1 mem' with rfl | mem'
        · exact le_refl _
        · exact hp.1 q mem'
      have same : q.1 = p.1 := le_antisymm le ge
      have heads := blocks p.1
      rw [List.filter_cons_of_pos (by simp), List.filter_cons_of_pos (by simp [same])] at heads
      obtain ⟨rfl, -⟩ := List.cons.inj heads
      congr 1
      refine ih hp.2 hq.2 fun k => ?_
      have tails := blocks k
      by_cases h : p.1 = k
      · rw [List.filter_cons_of_pos (by simp [h]), List.filter_cons_of_pos (by simp [h])] at tails
        exact (List.cons.inj tails).2
      · rwa [List.filter_cons_of_neg (by simp [h]), List.filter_cons_of_neg (by simp [h])] at tails

/-- The items of one key, with the key. -/
lemma filter_map_pair (f : α → β) (xs : List α) (k : κ) :
    (xs.map fun a => (key a, f a)).filter (·.1 = k) = ((xs.filter (key · = k)).map f).map (k, ·) := by
  rw [List.filter_map, List.map_map]
  refine List.map_congr_left fun a mem => ?_
  have same : key a = k := by simpa using (List.mem_filter.1 mem).2
  rw [same]
  rfl

/-- Two orders of a list are sorted alike, as far as `f` sees, exactly when they agree on each key. -/
theorem map_sortBy_eq_iff (perm : xs.Perm ys) (f : α → β) :
    (sortBy key xs).map f = (sortBy key ys).map f ↔
      ∀ k, (xs.filter (key · = k)).map f = (ys.filter (key · = k)).map f := by
  have perm' : (sortBy key xs).Perm (sortBy key ys) :=
    (sortBy_perm key xs).trans (perm.trans (sortBy_perm key ys).symm)
  have keys : (sortBy key xs).map key = (sortBy key ys).map key := by
    refine List.Perm.eq_of_pairwise (fun _ _ _ _ => le_antisymm) ?_ ?_ (perm'.map key)
    · exact List.pairwise_map.2 (sortBy_sorted key xs)
    · exact List.pairwise_map.2 (sortBy_sorted key ys)
  constructor
  · intro same k
    have pairs : (sortBy key xs).map (fun a => (key a, f a)) = (sortBy key ys).map fun a => (key a, f a) := by
      have zip := List.zip_map' (f := key) (g := f) (l := sortBy key xs)
      rw [keys, same, List.zip_map'] at zip
      exact zip.symm
    have blocks := congrArg (List.filter (·.1 = k)) pairs
    rw [filter_map_pair, filter_map_pair, filter_sortBy, filter_sortBy] at blocks
    exact List.map_injective_iff.2 (Prod.mk_right_injective k) blocks
  · intro blocks
    have pairs : (sortBy key xs).map (fun a => (key a, f a)) = (sortBy key ys).map fun a => (key a, f a) := by
      refine eq_of_blocks_eq (List.pairwise_map.2 (sortBy_sorted key xs))
        (List.pairwise_map.2 (sortBy_sorted key ys)) fun k => ?_
      rw [filter_map_pair, filter_map_pair, filter_sortBy, filter_sortBy, blocks k]
    have := congrArg (List.map Prod.snd) pairs
    rwa [List.map_map, List.map_map] at this

omit [LinearOrder κ] in
/-- An item can be put in front. -/
lemma perm_front {a : α} (mem : a ∈ xs) : ∃ rest, xs.Perm (a :: rest) := by
  obtain ⟨before, after, rfl⟩ := List.append_of_mem mem
  exact ⟨before ++ after, List.perm_middle⟩

/-- All orders of a list are sorted alike exactly when `f` tells no two members with one key apart. -/
theorem map_sortBy_perm_iff (f : α → β) :
    (∀ ys, xs.Perm ys → (sortBy key xs).map f = (sortBy key ys).map f) ↔
      ∀ a ∈ xs, ∀ b ∈ xs, key a = key b → f a = f b := by
  constructor
  · intro all a ha b hb same
    -- the list with either of the two in front
    obtain ⟨as, ia⟩ := perm_front ha
    obtain ⟨bs, ib⟩ := perm_front hb
    have heads := (map_sortBy_eq_iff (ia.symm.trans ib) f).1
      ((all _ ia).symm.trans (all _ ib)) (key a)
    rw [List.filter_cons_of_pos (by simp), List.filter_cons_of_pos (by simp [same])] at heads
    exact (List.cons.inj heads).1
  · intro one ys perm
    refine (map_sortBy_eq_iff perm f).2 fun k => ?_
    have perm' := (perm.filter (key · = k)).map f
    refine List.Perm.eq_of_pairwise (fun x y hx hy _ _ => ?_)
      (List.pairwise_of_forall fun _ _ => trivial) (List.pairwise_of_forall fun _ _ => trivial) perm'
    obtain ⟨a, ha, rfl⟩ := List.mem_map.1 hx
    obtain ⟨b, hb, rfl⟩ := List.mem_map.1 hy
    obtain ⟨ha, ka⟩ := List.mem_filter.1 ha
    obtain ⟨hb, kb⟩ := List.mem_filter.1 hb
    refine one a ha b (perm.mem_iff.2 hb) ?_
    rw [of_decide_eq_true ka, of_decide_eq_true kb]

end Custos
