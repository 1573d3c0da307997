import Custos.Library.Path
import Custos.Library.Text
import Custos.Service.Retention

/-!
# The paths of the content stores

`store_path_for` names a tenant's file after the tenant where that is a file name, and after its digest where
it is not. The verbatim names leave the hashed prefix free, so that the two forms cannot meet.
-/

namespace Custos

open Custos.Path

/-- The tenant names its file itself. -/
def NamedVerbatim (tenantId : String) : Prop :=
  safeTenant tenantId ∧ ¬ HASHED_PREFIX.toList <+: tenantId.toList

instance (tenantId : String) : Decidable (NamedVerbatim tenantId) := inferInstanceAs (Decidable (_ ∧ _))

/-- A name that is safe has no slash in it. -/
lemma not_mem_of_safeTenant {tenantId : String} (safe : safeTenant tenantId) : '/' ∉ tenantId.toList := by
  intro mem
  unfold safeTenant at safe
  -- the newline the pattern's end lets through is no slash
  have mem' : '/' ∈ if tenantId.toList.getLast? = some '\n' then tenantId.toList.dropLast
      else tenantId.toList := by
    split
    · rename_i last
      obtain ⟨cs, eq⟩ := List.getLast?_eq_some_iff.1 last
      rw [eq, List.mem_append, List.mem_singleton] at mem
      rw [eq, List.dropLast_concat]
      exact mem.resolve_right (by decide)
    · exact mem
  dsimp only at safe
  generalize (if tenantId.toList.getLast? = some '\n' then tenantId.toList.dropLast
    else tenantId.toList) = cs at safe mem'
  cases cs with
  | nil => cases safe
  | cons c rest =>
    simp only [Bool.and_eq_true, List.all_eq_true] at safe
    rcases List.mem_cons.1 mem' with rfl | later
    · exact absurd safe.1.1 (by decide)
    · exact absurd (safe.2 '/' later) (by decide)

/-- A digest is written in hexadecimal digits. -/
def Hexadecimal (text : String) : Prop := ∀ c ∈ text.toList, c ∈ "0123456789abcdef".toList
  deriving Decidable

section

variable [Platform]

/-- What stands between `content-` and `.sqlite`. -/
def storeStem (tenantId : String) : List Char :=
  if NamedVerbatim tenantId then tenantId.toList
  else HASHED_PREFIX.toList ++ (slice (sha256 tenantId) (HASHED_NAME_BYTES * 2)).toList

/-- The name of a tenant's file. -/
def storeName (tenantId : String) : List Char :=
  "content-".toList ++ (storeStem tenantId ++ ".sqlite".toList)

/-- The path is the directory's with the store's name. -/
lemma storePathFor_toList (directory tenantId : String) :
    (storePathFor directory tenantId).toList = join directory.toList (storeName tenantId) := by
  unfold storePathFor storeName storeStem
  rw [String.toList_ofList]
  congr 1
  by_cases verbatim : safeTenant tenantId ∧ ¬ HASHED_PREFIX.toList <+: tenantId.toList
  · have stem : NamedVerbatim tenantId := verbatim
    rw [if_pos verbatim, if_pos stem]
    simp only [String.toList_append, List.append_assoc]
  · have stem : ¬ NamedVerbatim tenantId := verbatim
    rw [if_neg verbatim, if_neg stem]
    simp only [String.toList_append, List.append_assoc]

/-- The store's name is that of a file. -/
lemma name_storeName {tenantId : String} (hex : Hexadecimal (sha256 tenantId)) : Name (storeName tenantId) := by
  have noSlash : '/' ∉ storeStem tenantId := by
    unfold storeStem
    split
    · rename_i verbatim
      exact not_mem_of_safeTenant verbatim.1
    · rw [List.mem_append, not_or]
      refine ⟨by decide, fun mem => ?_⟩
      unfold slice at mem
      rw [String.toList_ofList] at mem
      exact absurd (hex _ (List.mem_of_mem_take mem)) (by decide)
  have starts : ∃ cs, storeName tenantId = 'c' :: cs := ⟨_, rfl⟩
  obtain ⟨cs, e⟩ := starts
  refine ⟨?_, by simp [e], by simp [e], by simp [e]⟩
  unfold storeName
  rw [List.mem_append, List.mem_append, not_or, not_or]
  exact ⟨by decide, noSlash, by decide⟩

/-- Names of two tenants meet only where their digests do. -/
lemma storeStem_inj {a b : String} (same : storeStem a = storeStem b) :
    a = b ∨ slice (sha256 a) (HASHED_NAME_BYTES * 2) = slice (sha256 b) (HASHED_NAME_BYTES * 2) := by
  unfold storeStem at same
  by_cases ha : NamedVerbatim a
  · by_cases hb : NamedVerbatim b
    · rw [if_pos ha, if_pos hb] at same
      exact .inl (String.toList_inj.1 same)
    · rw [if_pos ha, if_neg hb] at same
      exact absurd ⟨_, same.symm⟩ ha.2
  · by_cases hb : NamedVerbatim b
    · rw [if_neg ha, if_pos hb] at same
      exact absurd ⟨_, same⟩ hb.2
    · rw [if_neg ha, if_neg hb] at same
      exact .inr (String.toList_inj.1 (List.append_cancel_left same))

/-- Two tenants have two paths, each of a file directly in the directory, as far as their truncated digests
tell them apart. -/
theorem storePathFor_apart (directory a b : String) (ne : a ≠ b)
    (hex : ∀ text, Hexadecimal (sha256 text))
    (digests : slice (sha256 a) (HASHED_NAME_BYTES * 2) ≠ slice (sha256 b) (HASHED_NAME_BYTES * 2)) :
    storePathFor directory a ≠ storePathFor directory b ∧
      ∀ tenantId, ∃ name, Name name ∧
        (storePathFor directory tenantId).toList = join directory.toList name ∧
        (directory ≠ "" → resolve (storePathFor directory tenantId).toList =
          resolve directory.toList ++ [name]) := by
  have named (tenantId : String) : Name (storeName tenantId) := name_storeName (hex tenantId)
  refine ⟨fun same => ?_, fun tenantId => ⟨storeName tenantId, named tenantId, ?_, fun some_ => ?_⟩⟩
  · have same := congrArg String.toList same
    rw [storePathFor_toList, storePathFor_toList] at same
    have stems := List.append_cancel_left
      (join_right_injective (named a).relative (named b).relative same)
    rcases storeStem_inj (List.append_cancel_right stems) with eq | eq
    · exact ne eq
    · exact digests eq
  · exact storePathFor_toList directory tenantId
  · rw [storePathFor_toList]
    exact resolve_join_name (named tenantId) (fun nil => some_ (String.toList_inj.1 nil))

end

section Sample

/-- The digests of two tenants whose ids are no file names. -/
local instance pathDigests : Platform where
  sha256 text :=
    if text = "acme corp" then "ea6f9c07a2f95c788a1645cf557f58aa63c5fa3ad7d749b9db4fce435deef64e"
    else "3f1d50ca1c828a718349a63c91f2b2792bfb62e1be836ec67f8b454b8501f2a7"
  dumps _ := ""
  dumpsCompact _ := ""

/-- Two names that are no files' are told apart. -/
theorem storePathFor_apart_sample :
    storePathFor "/var/custos" "acme corp" ≠ storePathFor "/var/custos" "../other" ∧
      ∃ name, resolve (storePathFor "/var/custos" "../other").toList =
        ["var".toList, "custos".toList] ++ [name] := by
  have hex : ∀ text, Hexadecimal (sha256 text) := by
    intro text
    simp only [sha256]
    split
    · exact forall_mem_of_all (by decide +kernel)
    · exact forall_mem_of_all (by decide +kernel)
  obtain ⟨ne, inside⟩ := storePathFor_apart "/var/custos" "acme corp" "../other" (by decide) hex
    (by decide +kernel)
  obtain ⟨name, -, -, resolved⟩ := inside "../other"
  exact ⟨ne, name, resolved (by decide)⟩

end Sample

end Custos
