import Custos.Reference
import Custos.Service.DeploymentBinding

/-!
# The digest of the tool descriptors

`tool_descriptor_digest` sorts the descriptors by name. A stable sort by the name leaves descriptors of one
name in the order in which they were listed, so the digest is one of the descriptors as a multiset only where
a name stands for one descriptor (`toolDescriptorDigest_perm_iff`).
-/

namespace Custos

section

variable [Platform] [BindingLib]

/-- A tool as the digest covers it: its descriptor, whatever the order of its keys. -/
def normalised (tool : Json) : Json := (Json.obj (descriptor tool)).sortKeys

omit [Platform] [BindingLib] in
/-- The items of an array are sorted one by one. -/
lemma sortKeysList_eq_map (xs : List Json) : Json.sortKeysList xs = xs.map Json.sortKeys := by
  induction xs with
  | nil => rfl
  | cons x xs ih => rw [Json.sortKeysList, ih, List.map_cons]

omit [Platform] in
/-- The value under the digest: the normalised descriptors in the order of their names. -/
lemma sortKeys_descriptors (tools : List Json) :
    (Json.arr ((sortBy descriptorName (tools.map descriptor)).map .obj)).sortKeys =
      .arr ((sortBy (fun tool => descriptorName (descriptor tool)) tools).map normalised) := by
  have order : sortBy descriptorName (tools.map descriptor) =
      (sortBy (fun tool => descriptorName (descriptor tool)) tools).map descriptor :=
    (List.map_insertionSort _ _ descriptor tools fun _ _ _ _ => Iff.rfl).symm
  rw [Json.sortKeys, sortKeysList_eq_map, order, List.map_map, List.map_map]
  rfl

/-- Digests agree when what they cover does. -/
lemma toolDescriptorDigest_eq_iff (hash : Function.Injective (sha256 : String → String))
    (text : Function.Injective (dumpsRaw : Json → String)) {tools tools' : List Json} :
    toolDescriptorDigest tools = toolDescriptorDigest tools' ↔
      (sortBy (fun tool => descriptorName (descriptor tool)) tools).map normalised =
        (sortBy (fun tool => descriptorName (descriptor tool)) tools').map normalised := by
  unfold toolDescriptorDigest jsonDigest
  rw [sortKeys_descriptors, sortKeys_descriptors]
  constructor
  · intro same
    have same := String.toList_inj.2 same
    rw [String.toList_append, String.toList_append] at same
    exact Json.arr.inj (text (hash (String.toList_inj.1 (List.append_cancel_left same))))
  · intro same
    rw [same]

/-- The digest of a list of tools is that of every order of it exactly when no two of its tools share a name and
are different; different multisets of tools have different digests. -/
theorem toolDescriptorDigest_perm_iff (hash : Function.Injective (sha256 : String → String))
    (text : Function.Injective (dumpsRaw : Json → String)) (tools : List Json) :
    ((∀ tools', tools.Perm tools' → toolDescriptorDigest tools = toolDescriptorDigest tools') ↔
      ∀ a ∈ tools, ∀ b ∈ tools,
        descriptorName (descriptor a) = descriptorName (descriptor b) → normalised a = normalised b) ∧
    ∀ tools', (tools.map normalised : Multiset Json) ≠ tools'.map normalised →
      toolDescriptorDigest tools ≠ toolDescriptorDigest tools' := by
  constructor
  · rw [← map_sortBy_perm_iff]
    exact forall₂_congr fun tools' _ => toolDescriptorDigest_eq_iff hash text
  · intro tools' ne same
    refine ne (Multiset.coe_eq_coe.2 ?_)
    have sorted := (toolDescriptorDigest_eq_iff hash text).1 same
    have perm := (sortBy_perm (fun tool => descriptorName (descriptor tool)) tools).map normalised
    rw [sorted] at perm
    exact perm.symm.trans ((sortBy_perm _ tools').map normalised)

end

section Sample

local instance descriptorDigests : Platform := .reference .empty

/-- The encoder of the reference platform, and a `repr` no name here asks for. -/
local instance descriptorLib : BindingLib where
  lower s := s.toLower
  repr _ := ""
  dumpsRaw j := .ofList (j.text .compact)

def reader : Json := .obj [("name", .str "update"), ("description", .str "reads one record")]

def writer : Json := .obj [("name", .str "update"), ("description", .str "writes all records")]

def lister : Json := .obj [("name", .str "list"), ("input_schema", .obj [])]

/-- Tools with names of their own are digested in any order. -/
theorem toolDescriptorDigest_perm_iff_sample :
    toolDescriptorDigest [reader, lister] = toolDescriptorDigest [lister, reader] := by
  refine (toolDescriptorDigest_perm_iff (DigestTable.digest_injective _)
    (fun _ _ e => Json.text_injective (rfl : Separators.compact.Comma) (String.ofList_inj.1 e))
    [reader, lister]).1.2 ?_ _ (List.Perm.swap ..)
  intro a ha b hb same
  have names : descriptorName (descriptor reader) ≠ descriptorName (descriptor lister) := by decide
  simp only [List.mem_cons, List.not_mem_nil, or_false] at ha hb
  rcases ha with rfl | rfl
  · rcases hb with rfl | rfl
    · rfl
    · exact absurd same names
  · rcases hb with rfl | rfl
    · exact absurd same.symm names
    · rfl

/-- Two tools of one name in the other order have another digest. -/
theorem same_name_reordered :
    [reader, writer].Perm [writer, reader] ∧
      toolDescriptorDigest [reader, writer] ≠ toolDescriptorDigest [writer, reader] := by
  refine ⟨List.Perm.swap .., fun same => ?_⟩
  have sorted := (toolDescriptorDigest_eq_iff (DigestTable.digest_injective _)
    (fun _ _ e => Json.text_injective (rfl : Separators.compact.Comma) (String.ofList_inj.1 e))).1 same
  have block := (map_sortBy_eq_iff (List.Perm.swap ..) normalised).1 sorted "update"
  have first : Json.obj [("description", .str "reads one record"), ("name", .str "update")] =
      .obj [("description", .str "writes all records"), ("name", .str "update")] := (List.cons.inj block).1
  simp at first

end Sample

end Custos
