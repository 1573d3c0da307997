import Custos.Library.JsonText
import Custos.Platform
import Mathlib.Data.List.Nodup

/-!
# A collision-free platform

A platform that meets `CollisionFree`, so that results which assume it can be applied. Its digest is
given by a table of known SHA-256 digests and, outside the table, by the text itself under a mark no
digest bears; its encoder is the one of `Library/JsonText.lean`.
-/

namespace Custos

/-- Texts with their SHA-256 digests. The braces of a text are written `\x7b` and `\x7d`. -/
structure DigestTable where
  entries : List (String × String)
  distinct : (entries.map Prod.snd).Nodup
  /-- no digest bears the mark -/
  plain : ∀ d ∈ entries.map Prod.snd, d.toList.head? ≠ some '#'

/-- No digest is known. -/
def DigestTable.empty : DigestTable := ⟨[], List.nodup_nil, nofun⟩

/-- The digest of a text: the table's, or the text under the mark. -/
def DigestTable.digest (t : DigestTable) (s : String) : String :=
  (t.entries.lookup s).getD (.ofList ('#' :: s.toList))

/-- What is looked up is in the list. -/
lemma mem_of_lookup_eq_some {kvs : List (String × String)} {k v : String}
    (h : kvs.lookup k = some v) : (k, v) ∈ kvs := by
  obtain ⟨l, l', rfl, -⟩ := List.lookup_eq_some_iff.1 h
  simp

/-- Distinct values have one key each. -/
lemma key_eq_of_nodup_values {kvs : List (String × String)} (nd : (kvs.map Prod.snd).Nodup)
    {k k' v : String} (h : (k, v) ∈ kvs) (h' : (k', v) ∈ kvs) : k = k' := by
  have e := List.inj_on_of_nodup_map nd h h' rfl
  exact (Prod.mk.inj e).1

/-- No two texts have one digest. -/
lemma DigestTable.digest_injective (t : DigestTable) : Function.Injective t.digest := by
  have marked : ∀ s v, (s, v) ∈ t.entries → ∀ s' : String, v ≠ .ofList ('#' :: s'.toList) := by
    intro s v mem s' e
    refine t.plain v (List.mem_map_of_mem mem) ?_
    rw [e, String.toList_ofList]
    rfl
  intro s s' e
  unfold DigestTable.digest at e
  cases h : t.entries.lookup s with
  | some v =>
    have mem := mem_of_lookup_eq_some h
    cases h' : t.entries.lookup s' with
    | some v' =>
      have mem' := mem_of_lookup_eq_some h'
      simp only [h, h', Option.getD_some] at e
      exact key_eq_of_nodup_values t.distinct mem (e ▸ mem')
    | none =>
      simp only [h, h', Option.getD_some, Option.getD_none] at e
      exact absurd e (marked s v mem s')
  | none =>
    cases h' : t.entries.lookup s' with
    | some v' =>
      simp only [h, h', Option.getD_some, Option.getD_none] at e
      exact absurd e.symm (marked s' v' (mem_of_lookup_eq_some h') s)
    | none =>
      simp only [h, h', Option.getD_none, String.ofList_inj, List.cons.injEq, true_and] at e
      exact String.toList_inj.1 e

/-- A text that is no digest of the table and does not bear the mark is no digest. -/
lemma DigestTable.digest_ne (t : DigestTable) {d : String} (unlisted : d ∉ t.entries.map Prod.snd)
    (unmarked : d.toList.head? ≠ some '#') (s : String) : t.digest s ≠ d := by
  unfold digest
  cases known : t.entries.lookup s with
  | none =>
    rintro rfl
    rw [Option.getD_none, String.toList_ofList] at unmarked
    exact unmarked rfl
  | some v =>
    rintro rfl
    exact unlisted (List.mem_map_of_mem (mem_of_lookup_eq_some known))

/-- The platform over a table of digests. -/
@[reducible] def Platform.reference (t : DigestTable) : Platform where
  sha256 := t.digest
  dumps j := .ofList (j.text .spaced)
  dumpsCompact j := .ofList (j.text .compact)

/-- The platform is free of collisions. -/
theorem collisionFree_reference (t : DigestTable) : @CollisionFree (Platform.reference t) :=
  @CollisionFree.mk (Platform.reference t) t.digest_injective fun _ _ e =>
    Json.text_injective (rfl : Separators.spaced.Comma) (String.ofList_inj.1 e)

theorem dumpsCompact_injective_reference (t : DigestTable) :
    Function.Injective (Platform.reference t).dumpsCompact :=
  fun _ _ e => Json.text_injective (rfl : Separators.compact.Comma) (String.ofList_inj.1 e)

end Custos
