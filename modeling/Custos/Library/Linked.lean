import Mathlib.Data.List.Infix
import Mathlib.Data.List.Forall2
import Mathlib.Data.List.Basic

/-!
# Hash-linked lists

A list is *linked* when every element stores the digest of its predecessor and its own digest, and the
stored digest is the one recomputed from the element and its predecessor's. The digest function may
refuse an element (`none`); a list with a refused element is not linked.

`Linked.agree` is what linking is for: two linked lists of one length that end in the same digest agree
element by element, as far as the digest determines an element; where no digest is the root they are of
one length (`Linked.agree_of_head`). `linked_append` and `Linked.snoc` are the rules a program that
appends uses.
-/

namespace Custos

/-- How an element of type `α` is linked by digests of type `β`. -/
structure LinkSpec (α β : Type*) where
  /-- the stored digest of the predecessor -/
  prev : α → β
  /-- the stored digest of the element -/
  own : α → β
  /-- the digest of the element, recomputed over a predecessor's digest -/
  hash : α → β → Option β

namespace LinkSpec

variable {α β : Type*} (L : LinkSpec α β)

/-- The list is linked, its first element to `p`. -/
def Linked : β → List α → Prop
  | _, [] => True
  | p, x :: xs => L.prev x = p ∧ L.hash x p = some (L.own x) ∧ Linked (L.own x) xs

/-- The digest the next element has to store: the last element's own, `p` on the empty list. -/
def head (p : β) (xs : List α) : β := (xs.getLast?.map L.own).getD p

@[simp] lemma head_nil (p : β) : L.head p [] = p := rfl

@[simp] lemma head_snoc (p : β) (xs : List α) (x : α) : L.head p (xs ++ [x]) = L.own x := by
  simp [head]

@[simp] lemma linked_nil (p : β) : L.Linked p [] := trivial

/-- A list is linked where its first is, and the rest behind it. -/
lemma linked_cons {p : β} {x : α} {xs : List α} :
    L.Linked p (x :: xs) ↔ L.prev x = p ∧ L.hash x p = some (L.own x) ∧ L.Linked (L.own x) xs :=
  Iff.rfl

lemma head_cons (p : β) (x : α) (xs : List α) : L.head p (x :: xs) = L.head (L.own x) xs := by
  cases xs <;> simp [head, List.getLast?_cons]

/-- A concatenation is linked exactly when its parts are, the second to the head of the first. -/
lemma linked_append {p : β} {xs ys : List α} :
    L.Linked p (xs ++ ys) ↔ L.Linked p xs ∧ L.Linked (L.head p xs) ys := by
  induction xs generalizing p with
  | nil => simp [Linked]
  | cons x xs ih => simp only [List.cons_append, Linked, ih, head_cons, and_assoc]

/-- The head of a non-empty initial part is the own digest of its last element. -/
lemma head_take {p d : β} {xs : List α} {n : Nat} (pos : 0 < n) (le : n ≤ xs.length) :
    L.head p (xs.take n) = (xs.map L.own).getD (n - 1) d := by
  have lt : n - 1 < xs.length := by omega
  have split : xs.take n = xs.take (n - 1) ++ [xs[n - 1]] := by
    rw [← List.take_succ_eq_append_getElem lt]
    congr 1
    omega
  rw [split, head_snoc]
  simp [List.getD, lt]

variable {L}

/-- Appending an element that stores the head and its own recomputed digest keeps the list linked. -/
lemma Linked.snoc {p : β} {xs : List α} {x : α} (lk : L.Linked p xs)
    (hp : L.prev x = L.head p xs) (hx : L.hash x (L.head p xs) = some (L.own x)) :
    L.Linked p (xs ++ [x]) :=
  L.linked_append.2 ⟨lk, hp, hx, trivial⟩

/-- A prefix of a linked list is linked. -/
lemma Linked.of_prefix {p : β} {xs ys : List α} (lk : L.Linked p ys) (pf : xs <+: ys) :
    L.Linked p xs := by
  obtain ⟨t, rfl⟩ := pf
  exact (L.linked_append.1 lk).1

/-- The element after a prefix stores the head of that prefix. -/
lemma Linked.prev_of_split {p : β} {xs ys : List α} {x : α} (lk : L.Linked p (xs ++ x :: ys)) :
    L.prev x = L.head p xs :=
  (L.linked_append.1 lk).2.1

/-- A list of images is linked where the list is, by digests that correspond. -/
lemma linked_map {γ : Type*} {L' : LinkSpec γ β} (f : γ → α) (prev : ∀ x, L.prev (f x) = L'.prev x)
    (own : ∀ x, L.own (f x) = L'.own x) (hash : ∀ x p, L.hash (f x) p = L'.hash x p) {p : β} {xs : List γ} :
    L.Linked p (xs.map f) ↔ L'.Linked p xs := by
  induction xs generalizing p with
  | nil => exact Iff.rfl
  | cons x xs ih => rw [List.map_cons, linked_cons, linked_cons, prev, own, hash, ih]

/-- Every element of a linked list stores its own digest. -/
lemma Linked.own_of_mem {p : β} {xs : List α} (lk : L.Linked p xs) {x : α} (mem : x ∈ xs) :
    ∃ q, L.hash x q = some (L.own x) := by
  obtain ⟨ys, zs, rfl⟩ := List.append_of_mem mem
  exact ⟨_, (L.linked_append.1 lk).2.2.1⟩

/-- Where the digest determines the predecessor's digest and the element up to `R`, two linked lists of
one length with one head agree element by element. -/
theorem Linked.agree {R : α → α → Prop}
    (inj : ∀ {x y p q h}, L.hash x p = some h → L.hash y q = some h → p = q ∧ R x y)
    {p q : β} {xs ys : List α} (lkx : L.Linked p xs) (lky : L.Linked q ys)
    (len : xs.length = ys.length) (hd : xs ≠ [] → L.head p xs = L.head q ys) :
    List.Forall₂ (fun x y => R x y ∧ L.prev x = L.prev y ∧ L.own x = L.own y) xs ys := by
  induction xs using List.reverseRecOn generalizing ys with
  | nil =>
    have : ys = [] := List.length_eq_zero_iff.1 len.symm
    subst this
    exact .nil
  | append_singleton xs x ih =>
    rcases List.eq_nil_or_concat ys with rfl | ⟨ys, y, rfl⟩
    · simp at len
    · obtain ⟨lkx, px, hx, _⟩ := L.linked_append.1 lkx
      obtain ⟨lky, py, hy, _⟩ := L.linked_append.1 (by simpa using lky)
      have own : L.own x = L.own y := by simpa using hd (by simp)
      obtain ⟨heads, rel⟩ := inj hx (own ▸ hy)
      have len' : xs.length = ys.length := by simpa using len
      rw [List.concat_eq_append]
      refine List.rel_append (ih lkx lky len' fun _ => heads) (.cons ⟨rel, ?_, own⟩ .nil)
      rw [px, py, heads]

/-- Where moreover no digest is the root, two linked lists with one head are of one length. -/
lemma Linked.length_eq {R : α → α → Prop}
    (inj : ∀ {x y p q h}, L.hash x p = some h → L.hash y q = some h → p = q ∧ R x y)
    {root : β} (fresh : ∀ x p, L.hash x p ≠ some root) {xs ys : List α} (lkx : L.Linked root xs)
    (lky : L.Linked root ys) (hd : L.head root xs = L.head root ys) : xs.length = ys.length := by
  induction xs using List.reverseRecOn generalizing ys with
  | nil =>
    rcases List.eq_nil_or_concat ys with rfl | ⟨ys, y, rfl⟩
    · rfl
    · rw [List.concat_eq_append] at lky hd
      rw [head_nil, head_snoc] at hd
      exact absurd (L.linked_append.1 lky).2.2.1 (hd ▸ fresh y _)
  | append_singleton xs x ih =>
    obtain ⟨lkx, -, hx, -⟩ := L.linked_append.1 lkx
    rw [head_snoc] at hd
    rcases List.eq_nil_or_concat ys with rfl | ⟨ys, y, rfl⟩
    · exact absurd hx (hd ▸ fresh x _)
    · rw [List.concat_eq_append] at lky hd ⊢
      obtain ⟨lky, -, hy, -⟩ := L.linked_append.1 lky
      rw [head_snoc] at hd
      rw [List.length_append, List.length_append, ih lkx lky (inj hx (hd ▸ hy)).1]
      rfl

/-- So the head alone determines a linked list, as far as the digest determines an element. -/
theorem Linked.agree_of_head {R : α → α → Prop}
    (inj : ∀ {x y p q h}, L.hash x p = some h → L.hash y q = some h → p = q ∧ R x y)
    {root : β} (fresh : ∀ x p, L.hash x p ≠ some root) {xs ys : List α} (lkx : L.Linked root xs)
    (lky : L.Linked root ys) (hd : L.head root xs = L.head root ys) :
    List.Forall₂ (fun x y => R x y ∧ L.prev x = L.prev y ∧ L.own x = L.own y) xs ys :=
  lkx.agree inj lky (lkx.length_eq inj fresh lky hd) fun _ => hd

end LinkSpec

end Custos
