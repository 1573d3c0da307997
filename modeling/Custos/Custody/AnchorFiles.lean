import Custos.Custody.Anchor
import Custos.Library.JsonText
import Custos.Library.Path
import Mathlib.Data.List.Nodup
import Mathlib.Data.List.Sort

/-!
# The files of a git sink

`GitAnchorSink` of `custos/custody.py`: `append` writes a record to a file of its tenant's directory,
named by its epoch, and `load_anchors` reads back every file under `anchors/`. The working tree is a map
from resolved paths to contents, a content being the dict its JSON text was written from. Directories
are walked in the order of the map; nothing below depends on it.

The file name tells neither the kind of a record nor, once the path is resolved, its tenant, and a later
record of one path takes the earlier one's place (`mem_filesOf_iff`). What is read back is what was
written exactly when the paths are distinct and inside (`loadAnchors_perm_iff`).
-/

namespace Custos

open Custos.Path

/-- A working tree: the contents of its files by resolved path. -/
abbrev Files := List (Components × AnchorDict)

/-- `open(path, "w")` and the dump into it. -/
def writeFile (path : Components) (d : AnchorDict) (files : Files) : Files :=
  (path, d) :: files.filter fun f => f.1 ≠ path

namespace GitAnchorSink

/-- `os.path.join(self._repo, "anchors")`. -/
def anchorsDir (repo : String) : Components := resolve (join repo.toList "anchors".toList)

/-- `f"epoch-{epoch}.json"`. -/
def fileName (epoch : Int) : List Char := ("epoch-" ++ toString epoch ++ ".json").toList

/-- The path `append` writes to. -/
def anchorPath (repo : String) (d : AnchorDict) : Components :=
  resolve (join repo.toList
    (join (join "anchors".toList d.tenantId.toList) (fileName d.epoch)))

/-- `append`, where it returns. -/
def append (repo : String) (files : Files) (d : AnchorDict) : Files :=
  writeFile (anchorPath repo d) d files

/-- The working tree after the appends that returned. -/
def filesOf (repo : String) (log : List AnchorDict) : Files := log.foldl (append repo) []

/-- The walk of `load_anchors` reaches the file. -/
def Walked (repo : String) (path : Components) : Prop :=
  anchorsDir repo <+: path.dropLast ∧ ∃ name, path.getLast? = some name ∧ ".json".toList <:+ name

instance (repo : String) (path : Components) : Decidable (Walked repo path) :=
  inferInstanceAs (Decidable (_ ∧ ∃ name ∈ path.getLast?, _))

/-- `load_anchors`. -/
def loadAnchors (repo : String) (files : Files) : List AnchorDict :=
  ((files.filter fun f => Walked repo f.1).map Prod.snd).insertionSort (·.epoch ≤ ·.epoch)

/-! ## Paths -/

/-- The directory of a tenant's files. -/
def tenantDir (repo tenantId : String) : Components :=
  resolve (join repo.toList (join "anchors".toList tenantId.toList))

/-- The text of an epoch is its numeral. -/
lemma toList_toString_int (n : Int) : (toString n).toList = Json.intText n := by
  cases n with
  | ofNat n => exact Nat.toList_repr
  | negSucc n =>
    show ("-" ++ Nat.repr (n + 1)).toList = _
    rw [String.toList_append, Nat.toList_repr]
    rfl

/-- The name of an epoch's file, by its characters. -/
lemma fileName_eq (epoch : Int) :
    fileName epoch = "epoch-".toList ++ Json.intText epoch ++ ".json".toList := by
  rw [fileName, String.toList_append, String.toList_append, toList_toString_int]

/-- An epoch's file is named after it alone. -/
lemma fileName_injective : Function.Injective fileName := by
  intro m n e
  rw [fileName_eq, fileName_eq] at e
  exact Json.intText_injective (List.append_cancel_left (List.append_cancel_right e))

/-- The name is that of a file. -/
lemma name_fileName (epoch : Int) : Name (fileName epoch) := by
  have starts : ∃ cs, fileName epoch = 'e' :: cs := ⟨_, by rw [fileName_eq]; rfl⟩
  obtain ⟨cs, e⟩ := starts
  refine ⟨?_, by simp [e], by simp [e], by simp [e]⟩
  rw [fileName_eq]
  simp only [List.mem_append, not_or]
  refine ⟨⟨by decide, fun h => ?_⟩, by decide⟩
  have num := Json.isNumeral_of_mem_intText h
  unfold Json.isNumeral at num
  exact absurd num (by decide)

/-- An anchor's file is in its tenant's directory. -/
lemma anchorPath_eq (repo : String) (d : AnchorDict) :
    anchorPath repo d = tenantDir repo d.tenantId ++ [fileName d.epoch] := by
  have name := name_fileName d.epoch
  have anchors : join "anchors".toList d.tenantId.toList ≠ [] := join_ne_nil (by decide)
  rw [anchorPath, join_assoc anchors name.relative, resolve_join_name name (join_ne_nil_right anchors),
    tenantDir]

/-- The file of a record is walked exactly when its tenant's directory lies in `anchors/`. -/
lemma walked_anchorPath {repo : String} {d : AnchorDict} :
    Walked repo (anchorPath repo d) ↔ anchorsDir repo <+: tenantDir repo d.tenantId := by
  have suffix : ".json".toList <:+ fileName d.epoch := by
    rw [fileName_eq]
    exact List.suffix_append _ _
  rw [Walked, anchorPath_eq, List.dropLast_concat]
  exact ⟨fun h => h.1, fun h => ⟨h, fileName d.epoch, List.getLast?_concat, suffix⟩⟩

/-- Two anchors are in one file where directory and epoch are the same. -/
lemma anchorPath_inj {repo : String} {d d' : AnchorDict} :
    anchorPath repo d = anchorPath repo d' ↔
      tenantDir repo d.tenantId = tenantDir repo d'.tenantId ∧ d.epoch = d'.epoch := by
  rw [anchorPath_eq, anchorPath_eq]
  constructor
  · intro e
    obtain ⟨dirs, names⟩ := List.append_inj' e rfl
    exact ⟨dirs, fileName_injective (List.cons.inj names).1⟩
  · rintro ⟨dirs, epochs⟩
    rw [dirs, epochs]

/-! ## What is read back -/

/-- A further anchor is written last. -/
lemma filesOf_snoc (repo : String) (log : List AnchorDict) (d : AnchorDict) :
    filesOf repo (log ++ [d]) = writeFile (anchorPath repo d) d (filesOf repo log) := by
  simp [filesOf, append, List.foldl_append]

/-- The tree has a file for each path written to, and one only. -/
lemma filesOf_paths (repo : String) (log : List AnchorDict) :
    ((filesOf repo log).map Prod.fst).Nodup ∧
      ∀ path, path ∈ (filesOf repo log).map Prod.fst ↔ path ∈ log.map (anchorPath repo) := by
  induction log using List.reverseRecOn with
  | nil => simp [filesOf]
  | append_singleton log d ih =>
    obtain ⟨nd, mem⟩ := ih
    rw [filesOf_snoc, writeFile]
    refine ⟨?_, fun path => ?_⟩
    · rw [List.map_cons, List.nodup_cons]
      refine ⟨?_, nd.sublist (List.filter_sublist.map _)⟩
      simp
    · rw [List.map_append, List.mem_append, ← mem path]
      by_cases e : path = anchorPath repo d
      · simp [e]
      · simp only [List.map_cons, List.mem_cons, e, false_or, List.map_nil, List.not_mem_nil, or_false]
        constructor
        · intro h
          obtain ⟨f, hf, rfl⟩ := List.mem_map.1 h
          exact List.mem_map_of_mem (List.mem_of_mem_filter hf)
        · intro h
          obtain ⟨f, hf, rfl⟩ := List.mem_map.1 h
          exact List.mem_map_of_mem (List.mem_filter.2 ⟨hf, by simpa using e⟩)

/-- A file holds the record that was written to it. -/
lemma mem_filesOf {repo : String} {log : List AnchorDict} {f : Components × AnchorDict}
    (h : f ∈ filesOf repo log) : f.2 ∈ log ∧ f.1 = anchorPath repo f.2 := by
  induction log using List.reverseRecOn with
  | nil => simp [filesOf] at h
  | append_singleton log d ih =>
    rw [filesOf_snoc, writeFile, List.mem_cons] at h
    rcases h with rfl | h
    · exact ⟨by simp, rfl⟩
    · obtain ⟨mem, path⟩ := ih (List.mem_of_mem_filter h)
      exact ⟨by simp [mem], path⟩

/-- With distinct paths every record keeps its file. -/
lemma filesOf_perm {repo : String} {log : List AnchorDict} (nd : (log.map (anchorPath repo)).Nodup) :
    (filesOf repo log).Perm (log.map fun d => (anchorPath repo d, d)) := by
  induction log using List.reverseRecOn with
  | nil => exact .refl _
  | append_singleton log d ih =>
    rw [List.map_append, List.map_singleton, List.nodup_append] at nd
    obtain ⟨nd, -, new⟩ := nd
    have keep : (filesOf repo log).filter (fun f => f.1 ≠ anchorPath repo d) = filesOf repo log := by
      refine List.filter_eq_self.2 fun f hf => ?_
      have written := ((filesOf_paths repo log).2 f.1).1 (List.mem_map_of_mem hf)
      simpa using new f.1 written (anchorPath repo d) (by simp)
    rw [filesOf_snoc, writeFile, keep, List.map_append, List.map_singleton]
    exact ((ih nd).cons _).trans (List.perm_append_singleton _ _).symm

/-- No more files than records, and as many only where the paths are distinct. -/
lemma nodup_of_length_le {repo : String} {log : List AnchorDict}
    (le : log.length ≤ (filesOf repo log).length) : (log.map (anchorPath repo)).Nodup := by
  obtain ⟨nd, mem⟩ := filesOf_paths repo log
  have sub : (filesOf repo log).map Prod.fst ⊆ log.map (anchorPath repo) := fun path h => (mem path).1 h
  have perm : ((filesOf repo log).map Prod.fst).Perm (log.map (anchorPath repo)) :=
    (List.subperm_of_subset nd sub).perm_of_length_le (by simpa using le)
  exact perm.nodup_iff.1 nd

/-- What is read back is what was written exactly when the paths are distinct and inside. -/
theorem loadAnchors_perm_iff {repo : String} {log : List AnchorDict} :
    (loadAnchors repo (filesOf repo log)).Perm log ↔
      (log.map (anchorPath repo)).Nodup ∧ ∀ d ∈ log, anchorsDir repo <+: tenantDir repo d.tenantId := by
  have sorted := List.perm_insertionSort (fun a b : AnchorDict => a.epoch ≤ b.epoch)
    (((filesOf repo log).filter fun f => Walked repo f.1).map Prod.snd)
  constructor
  · intro perm
    have perm' := sorted.symm.trans perm
    have count : log.length = ((filesOf repo log).filter fun f => Walked repo f.1).length := by
      rw [← perm'.length_eq, List.length_map]
    refine ⟨nodup_of_length_le (count ▸ List.length_filter_le _ _), fun d hd => ?_⟩
    obtain ⟨f, hf, rfl⟩ := List.mem_map.1 (perm'.mem_iff.2 hd)
    obtain ⟨hf, walked⟩ := List.mem_filter.1 hf
    rw [(mem_filesOf hf).2] at walked
    exact walked_anchorPath.1 (by simpa using walked)
  · rintro ⟨nd, inside⟩
    refine sorted.trans ?_
    have all : (filesOf repo log).filter (fun f => Walked repo f.1) = filesOf repo log := by
      refine List.filter_eq_self.2 fun f hf => ?_
      obtain ⟨mem, path⟩ := mem_filesOf hf
      rw [path]
      simpa using walked_anchorPath.2 (inside _ mem)
    rw [all]
    have := (filesOf_perm nd).map Prod.snd
    simpa [Function.comp_def] using this

/-- A file holds the last record that was written to it. -/
lemma mem_filesOf_iff {repo : String} {log : List AnchorDict} {f : Components × AnchorDict} :
    f ∈ filesOf repo log ↔ f.1 = anchorPath repo f.2 ∧
      ∃ pre post, log = pre ++ f.2 :: post ∧ ∀ d ∈ post, anchorPath repo d ≠ f.1 := by
  induction log using List.reverseRecOn with
  | nil => simp [filesOf]
  | append_singleton log d ih =>
    rw [filesOf_snoc, writeFile, List.mem_cons, List.mem_filter, ih]
    constructor
    · rintro (rfl | ⟨⟨path, pre, post, rfl, last⟩, other⟩)
      · exact ⟨rfl, log, [], rfl, by simp⟩
      · refine ⟨path, pre, post ++ [d], by simp, fun x hx => ?_⟩
        rcases List.mem_append.1 hx with hx | hx
        · exact last x hx
        · rw [List.mem_singleton.1 hx]
          exact Ne.symm (of_decide_eq_true other)
    · rintro ⟨path, pre, post, e, last⟩
      rcases List.eq_nil_or_concat post with rfl | ⟨post, x, rfl⟩
      · obtain ⟨-, same⟩ := List.append_inj' e rfl
        left
        rw [Prod.ext_iff, (List.cons.inj same).1]
        exact ⟨path, rfl⟩
      · have e : log ++ [d] = (pre ++ f.2 :: post) ++ [x] := by simpa using e
        obtain ⟨rfl, same⟩ := List.append_inj' e rfl
        rw [(List.cons.inj same).1]
        exact .inr ⟨⟨path, pre, post, rfl, fun y hy => last y (by simp [hy])⟩,
          decide_eq_true (Ne.symm (last x (by simp)))⟩

/-- What is loaded is in a file that is walked to. -/
lemma mem_loadAnchors {repo : String} {files : Files} {d : AnchorDict} :
    d ∈ loadAnchors repo files ↔ ∃ f ∈ files, Walked repo f.1 ∧ f.2 = d := by
  unfold loadAnchors
  rw [List.mem_insertionSort, List.mem_map]
  simp only [List.mem_filter, decide_eq_true_eq, and_assoc]

/-- A record is read back exactly when it was the last of its path and its tenant's directory is
inside. -/
lemma mem_loadAnchors_filesOf {repo : String} {log : List AnchorDict} {d : AnchorDict} :
    d ∈ loadAnchors repo (filesOf repo log) ↔ anchorsDir repo <+: tenantDir repo d.tenantId ∧
      ∃ pre post, log = pre ++ d :: post ∧ ∀ x ∈ post, anchorPath repo x ≠ anchorPath repo d := by
  rw [mem_loadAnchors]
  constructor
  · rintro ⟨f, hf, walked, rfl⟩
    obtain ⟨path, last⟩ := mem_filesOf_iff.1 hf
    rw [path] at walked last
    exact ⟨walked_anchorPath.1 walked, last⟩
  · rintro ⟨inside, last⟩
    exact ⟨(anchorPath repo d, d), mem_filesOf_iff.2 ⟨rfl, last⟩, walked_anchorPath.2 inside, rfl⟩

/-- Of each path one record is read back. -/
lemma loadAnchors_inj {repo : String} {log : List AnchorDict} {d d' : AnchorDict}
    (h : d ∈ loadAnchors repo (filesOf repo log)) (h' : d' ∈ loadAnchors repo (filesOf repo log))
    (path : anchorPath repo d = anchorPath repo d') : d = d' := by
  obtain ⟨f, hf, -, rfl⟩ := mem_loadAnchors.1 h
  obtain ⟨f', hf', -, rfl⟩ := mem_loadAnchors.1 h'
  have same : f.1 = f'.1 := by rw [(mem_filesOf hf).2, (mem_filesOf hf').2, path]
  rw [List.inj_on_of_nodup_map (filesOf_paths repo log).1 hf hf' same]

/-! ## The anchors of one tenant -/

/-- The files of the log are those of these anchors, all of one tenant. -/
structure Filed (repo tenantId : String) (log : List AnchorDict) (as : List AnchorRecord) : Prop where
  own : ∀ a ∈ as, a.tenantId = tenantId
  files : (filesOf repo log).Perm (as.map fun a => (anchorPath repo a.toDict, a.toDict))

lemma Filed.nil (repo tenantId : String) : Filed repo tenantId [] [] := ⟨by simp, .refl _⟩

/-- The order of the files does not matter. -/
lemma Filed.perm {repo tenantId : String} {log : List AnchorDict} {as as' : List AnchorRecord}
    (filed : Filed repo tenantId log as) (perm : as.Perm as') : Filed repo tenantId log as' :=
  ⟨fun a ha => filed.own a (perm.mem_iff.2 ha), filed.files.trans (perm.map _)⟩

/-- An anchor that has its file was accepted. -/
lemma Filed.mem {repo tenantId : String} {log : List AnchorDict} {as : List AnchorRecord}
    (filed : Filed repo tenantId log as) {a : AnchorRecord} (ha : a ∈ as) : a.toDict ∈ log :=
  (mem_filesOf (filed.files.mem_iff.2 (List.mem_map.2 ⟨a, ha, rfl⟩))).1

/-- One more anchor takes the place of the one of its epoch. -/
lemma Filed.snoc {repo tenantId : String} {log : List AnchorDict} {as : List AnchorRecord}
    (filed : Filed repo tenantId log as) {a : AnchorRecord} (own : a.tenantId = tenantId) :
    Filed repo tenantId (log ++ [a.toDict]) (as.filter (·.epoch ≠ a.epoch) ++ [a]) := by
  refine ⟨fun x hx => ?_, ?_⟩
  · rcases List.mem_append.1 hx with hx | hx
    · exact filed.own x (List.mem_of_mem_filter hx)
    · rw [List.mem_singleton.1 hx, own]
  · -- within one tenant the paths differ where the epochs do
    have others : (as.map fun a => (anchorPath repo a.toDict, a.toDict)).filter
        (fun f => f.1 ≠ anchorPath repo a.toDict) =
        (as.filter (·.epoch ≠ a.epoch)).map fun a => (anchorPath repo a.toDict, a.toDict) := by
      rw [List.filter_map]
      refine congrArg _ (List.filter_congr fun x hx => ?_)
      have dir : tenantDir repo x.toDict.tenantId = tenantDir repo a.toDict.tenantId := by
        rw [show x.toDict.tenantId = tenantId from filed.own x hx,
          show a.toDict.tenantId = tenantId from own]
      have path : anchorPath repo x.toDict = anchorPath repo a.toDict ↔ x.epoch = a.epoch := by
        rw [anchorPath_inj]
        exact ⟨fun h => h.2, fun h => ⟨dir, h⟩⟩
      simp only [Function.comp_apply, ne_eq, path]
    rw [filesOf_snoc, writeFile, List.map_append, ← others]
    exact ((filed.files.filter _).cons _).trans (List.perm_append_singleton _ _).symm

/-- What the directory gives back of the anchors: all of them in order, or nothing where the tenant's
directory lies outside. -/
lemma Filed.loadAnchors {repo tenantId : String} {log : List AnchorDict} {as : List AnchorRecord}
    (filed : Filed repo tenantId log as) (strict : as.Pairwise fun a b => a.epoch < b.epoch) :
    loadAnchors repo (filesOf repo log) =
      if anchorsDir repo <+: tenantDir repo tenantId then as.map (·.toDict) else [] := by
  have walked : ∀ f ∈ filesOf repo log,
      Walked repo f.1 ↔ anchorsDir repo <+: tenantDir repo tenantId := by
    intro f hf
    obtain ⟨a, ha, rfl⟩ := List.mem_map.1 (filed.files.mem_iff.1 hf)
    rw [walked_anchorPath, show a.toDict.tenantId = tenantId from filed.own a ha]
  unfold GitAnchorSink.loadAnchors
  split
  · rename_i inside
    rw [List.filter_eq_self.2 fun f hf => by simpa using (walked f hf).2 inside]
    have total : Std.Total fun a b : AnchorDict => a.epoch ≤ b.epoch := ⟨fun _ _ => le_total _ _⟩
    have trans : IsTrans AnchorDict fun a b => a.epoch ≤ b.epoch := ⟨fun _ _ _ => le_trans⟩
    have strict : (as.map (·.toDict)).Pairwise fun a b => a.epoch < b.epoch := List.pairwise_map.2 strict
    have perm : (((filesOf repo log).map Prod.snd).insertionSort (·.epoch ≤ ·.epoch)).Perm
        (as.map (·.toDict)) := by
      refine (List.perm_insertionSort _ _).trans ((filed.files.map Prod.snd).trans ?_)
      rw [List.map_map]
      rfl
    refine List.Perm.eq_of_pairwise (fun a b ha hb le ge => ?_) (List.pairwise_insertionSort _ _)
      (strict.imp le_of_lt) perm
    have nd : ((as.map (·.toDict)).map fun d => d.epoch).Nodup := by
      rw [List.Nodup, List.pairwise_map]
      exact strict.imp ne_of_lt
    exact List.inj_on_of_nodup_map nd (perm.mem_iff.1 ha) hb (le_antisymm le ge)
  · rename_i outside
    rw [List.filter_eq_nil_iff.2 fun f hf => by simpa using mt (walked f hf).1 outside]
    rfl

end GitAnchorSink

end Custos
