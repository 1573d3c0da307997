import Mathlib.Data.List.Sort
import Mathlib.Data.List.Perm.Lattice
import Mathlib.Data.Rat.Defs
import Mathlib.Order.RelClasses
import Mathlib.Data.String.Basic

/-!
# JSON values

The values a JSON encoder is handed, with objects as the key-value lists a program builds them as.
`Json.sortKeys` is the effect of an encoder's `sort_keys` option: every object, at every depth, is put
in the order of its keys. Two objects with distinct keys sort to the same value only if they agree key
by key (`lookup_eq_of_sortKeys_eq`), so an encoder that is injective on the values it is given stays
injective, up to the order of the keys, once the keys are sorted first.
-/

namespace Custos

/-- A JSON value. A finite float is the rational number it denotes. -/
inductive Json where
  | null
  | bool (b : Bool)
  | int (n : Int)
  | float (q : ℚ)
  | str (s : String)
  | arr (xs : List Json)
  | obj (kvs : List (String × Json))

namespace Json

mutual

/-- The value with the keys of every object in it in order. -/
def sortKeys : Json → Json
  | .arr xs => .arr (sortKeysList xs)
  | .obj kvs => .obj ((sortKeysFields kvs).insertionSort (fun a b => a.1 ≤ b.1))
  | j => j

/-- `sortKeys` on every element of an array. -/
def sortKeysList : List Json → List Json
  | [] => []
  | x :: xs => x.sortKeys :: sortKeysList xs

/-- `sortKeys` on every value of an object. -/
def sortKeysFields : List (String × Json) → List (String × Json)
  | [] => []
  | (k, v) :: kvs => (k, v.sortKeys) :: sortKeysFields kvs

end

/-- An optional string as the encoder writes it. -/
def ofOption : Option String → Json
  | some s => .str s
  | none => .null

/-- A string or none is told apart from others. -/
lemma ofOption_injective : Function.Injective ofOption := by
  intro a b e
  cases a <;> cases b <;> simp_all [ofOption]

/-- A value with no object in it is not changed by sorting. -/
def IsScalar : Json → Prop
  | .arr _ => False
  | .obj _ => False
  | _ => True

/-- A scalar is not changed by sorting. -/
lemma IsScalar.sortKeys_eq {j : Json} (sc : j.IsScalar) : j.sortKeys = j := by
  cases j with
  | arr xs => exact sc.elim
  | obj kvs => exact sc.elim
  | _ => rfl

lemma isScalar_ofOption (o : Option String) : (ofOption o).IsScalar := by
  cases o <;> trivial

/-- Nor is an array of strings. -/
@[simp] lemma sortKeys_map_str (xs : List String) : (arr (xs.map str)).sortKeys = arr (xs.map str) := by
  have fixes : sortKeysList (xs.map str) = xs.map str := by
    induction xs with
    | nil => rfl
    | cons x xs ih =>
      rw [List.map_cons, sortKeysList, ih]
      rfl
  exact congrArg arr fixes

/-- The keys of an object are not touched by sorting inside its values. -/
lemma map_fst_sortKeysFields (kvs : List (String × Json)) :
    (sortKeysFields kvs).map Prod.fst = kvs.map Prod.fst := by
  induction kvs with
  | nil => rfl
  | cons kv kvs ih =>
    obtain ⟨k, v⟩ := kv
    simp [sortKeysFields, ih]

/-- Sorting inside the values commutes with looking a key up. -/
lemma lookup_sortKeysFields (kvs : List (String × Json)) (k : String) :
    (sortKeysFields kvs).lookup k = (kvs.lookup k).map sortKeys := by
  induction kvs with
  | nil => rfl
  | cons kv kvs ih =>
    obtain ⟨k', v⟩ := kv
    simp only [sortKeysFields, List.lookup_cons]
    cases k == k' <;> simp [ih]

/-- With distinct keys, a pair is in the list exactly when its key looks up to its value. -/
lemma mem_iff_lookup {β : Type} {kvs : List (String × β)} (nd : (kvs.map Prod.fst).Nodup)
    {k : String} {v : β} : (k, v) ∈ kvs ↔ kvs.lookup k = some v := by
  induction kvs with
  | nil => simp
  | cons kv kvs ih =>
    obtain ⟨k', v'⟩ := kv
    simp only [List.map_cons, List.nodup_cons] at nd
    obtain ⟨hk', nd'⟩ := nd
    by_cases e : k = k'
    · subst e
      have hnot : ∀ w, (k, w) ∉ kvs := fun w hw => hk' (List.mem_map_of_mem hw)
      simp [hnot, eq_comm]
    · have hb : (k == k') = false := by simpa using e
      simp [List.lookup_cons, hb, e, ih nd']

/-- Looking up in a list with distinct keys does not depend on its order. -/
lemma lookup_eq_of_perm {β : Type} {l l' : List (String × β)} (p : l.Perm l')
    (nd : (l.map Prod.fst).Nodup) (k : String) : l.lookup k = l'.lookup k := by
  have nd' : (l'.map Prod.fst).Nodup := (p.map Prod.fst).nodup_iff.1 nd
  apply Option.ext
  intro v
  rw [← mem_iff_lookup nd, ← mem_iff_lookup nd']
  exact p.mem_iff

/-- Two objects with distinct keys that sort to the same value agree on every key, up to the order of
the keys inside the values. -/
lemma lookup_eq_of_sortKeys_eq {kvs kvs' : List (String × Json)}
    (nd : (kvs.map Prod.fst).Nodup) (e : (obj kvs).sortKeys = (obj kvs').sortKeys) (k : String) :
    (kvs.lookup k).map sortKeys = (kvs'.lookup k).map sortKeys := by
  simp only [sortKeys, Json.obj.injEq] at e
  have p : (sortKeysFields kvs).Perm (sortKeysFields kvs') := by
    refine (List.perm_insertionSort (fun a b => a.1 ≤ b.1) _).symm.trans ?_
    rw [e]
    exact List.perm_insertionSort _ _
  rw [← lookup_sortKeysFields, ← lookup_sortKeysFields]
  exact lookup_eq_of_perm p (by rw [map_fst_sortKeysFields]; exact nd) k

/-- Objects of scalar values that sort to the same value agree on every key. -/
lemma lookup_eq_of_scalar {kvs kvs' : List (String × Json)}
    (nd : (kvs.map Prod.fst).Nodup)
    (sc : ∀ kv ∈ kvs, kv.2.IsScalar) (sc' : ∀ kv ∈ kvs', kv.2.IsScalar)
    (nd' : (kvs'.map Prod.fst).Nodup)
    (e : (obj kvs).sortKeys = (obj kvs').sortKeys) (k : String) :
    kvs.lookup k = kvs'.lookup k := by
  have fixes : ∀ {l : List (String × Json)}, (l.map Prod.fst).Nodup → (∀ kv ∈ l, kv.2.IsScalar) →
      (l.lookup k).map sortKeys = l.lookup k := by
    intro l ndl scl
    cases h : l.lookup k with
    | none => rfl
    | some v =>
      have hv := scl _ ((mem_iff_lookup ndl).2 h)
      simp [hv.sortKeys_eq]
  have h := lookup_eq_of_sortKeys_eq nd e k
  rwa [fixes nd sc, fixes nd' sc'] at h

end Json

end Custos
