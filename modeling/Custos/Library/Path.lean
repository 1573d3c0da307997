import Mathlib.Data.List.Basic

/-!
# POSIX paths

Joining paths and resolving an absolute path to the components that name a file, without links. A path
is the list of its characters. Joining a component that is a plain name adds exactly that name to the
directory (`resolve_join_name`), so files of one directory are told apart by their names and files of
different directories by the directory.
-/

namespace Custos

namespace Path

/-- The components of an absolute path, from the root down. -/
abbrev Components := List (List Char)

/-- The next component: an empty one and `.` stay where they are, `..` goes up. -/
def push (acc : Components) (word : List Char) : Components :=
  if word = [] ∨ word = ['.'] then acc
  else if word = ['.', '.'] then acc.dropLast
  else acc ++ [word]

/-- The components of a path read on from `acc`, with `word` of the current component read. -/
def resolveFrom : Components → List Char → List Char → Components
  | acc, word, [] => push acc word
  | acc, word, c :: cs =>
    if c = '/' then resolveFrom (push acc word) [] cs else resolveFrom acc (word ++ [c]) cs

/-- The components of an absolute path. -/
def resolve (p : List Char) : Components := resolveFrom [] [] p

/-- `os.path.join(a, b)`. -/
def join (a b : List Char) : List Char :=
  if b.head? = some '/' then b
  else if a = [] ∨ a.getLast? = some '/' then a ++ b
  else a ++ '/' :: b

/-- `os.path.basename(p)`. -/
def basename (p : List Char) : List Char := (p.reverse.takeWhile (· ≠ '/')).reverse

/-- A component that names a file or directory. -/
structure Name (w : List Char) : Prop where
  noSlash : '/' ∉ w
  nonempty : w ≠ []
  noDot : w ≠ ['.']
  noDots : w ≠ ['.', '.']

lemma Name.relative {w : List Char} (name : Name w) : w.head? ≠ some '/' := fun h =>
  name.noSlash (List.mem_of_mem_head? h)

/-- A path is read on behind a slash. -/
lemma resolveFrom_slash (acc : Components) (word p q : List Char) :
    resolveFrom acc word (p ++ '/' :: q) = resolveFrom (resolveFrom acc word p) [] q := by
  induction p generalizing acc word with
  | nil => simp [resolveFrom]
  | cons c p ih =>
    rw [List.cons_append, resolveFrom, resolveFrom]
    split
    · exact ih _ _
    · exact ih _ _

/-- A path without a slash is one component. -/
lemma resolveFrom_name (acc : Components) (word : List Char) {f : List Char} (no : '/' ∉ f) :
    resolveFrom acc word f = push acc (word ++ f) := by
  induction f generalizing word with
  | nil => rw [List.append_nil]; rfl
  | cons c f ih =>
    rw [List.mem_cons, not_or] at no
    rw [resolveFrom, if_neg (Ne.symm no.1), ih _ no.2, List.append_assoc]
    rfl

lemma push_name (acc : Components) {w : List Char} (name : Name w) : push acc w = acc ++ [w] := by
  rw [push, if_neg (not_or.2 ⟨name.nonempty, name.noDot⟩), if_neg name.noDots]

/-- A trailing slash names the same directory. -/
lemma resolve_slash (p : List Char) : resolve (p ++ ['/']) = resolve p := by
  rw [resolve, resolve, resolveFrom_slash]
  simp [resolveFrom, push]

/-- Joining a name adds it to the directory. -/
theorem resolve_join_name {p w : List Char} (name : Name w) (ne : p ≠ []) :
    resolve (join p w) = resolve p ++ [w] := by
  have step : ∀ q, resolve (q ++ '/' :: w) = resolve q ++ [w] := by
    intro q
    rw [resolve, resolveFrom_slash, resolveFrom_name _ _ name.noSlash, List.nil_append,
      push_name _ name]
    rfl
  rw [join, if_neg name.relative]
  split
  · rename_i h
    rcases h with h | h
    · exact absurd h ne
    · obtain ⟨q, rfl⟩ := List.getLast?_eq_some_iff.1 h
      rw [List.append_assoc, List.singleton_append, step, resolve_slash]
  · exact step p

/-- Relative paths are told apart after the directory they are joined to. -/
lemma join_right_injective {p v w : List Char} (hv : v.head? ≠ some '/') (hw : w.head? ≠ some '/')
    (same : join p v = join p w) : v = w := by
  rw [join, join, if_neg hv, if_neg hw] at same
  split at same
  · exact List.append_cancel_left same
  · exact (List.cons.inj (List.append_cancel_left same)).2

/-- A join that begins with something names something. -/
lemma join_ne_nil {a b : List Char} (ne : a ≠ []) : join a b ≠ [] := by
  unfold join
  split
  · rename_i h
    intro e
    simp [e] at h
  · split <;> simp [ne]

/-- A path that is joined to a name is not empty. -/
lemma join_ne_nil_right {a b : List Char} (ne : b ≠ []) : join a b ≠ [] := by
  unfold join
  split
  · exact ne
  · split <;> simp [ne]

/-- A relative path can be joined on at either end. -/
lemma join_assoc {a b c : List Char} (ne : b ≠ []) (relative : c.head? ≠ some '/') :
    join a (join b c) = join (join a b) c := by
  obtain ⟨d, b', rfl⟩ := List.exists_cons_of_ne_nil ne
  have last : ∀ q : List Char, (q ++ d :: b').getLast? = (d :: b').getLast? := fun q => by
    simp [List.getLast?_append, List.getLast?_cons]
  by_cases absolute : d = '/'
  · subst absolute
    have inner : (join ('/' :: b') c).head? = some '/' := by
      unfold join
      split
      · assumption
      · split <;> rfl
    rw [join, if_pos inner]
    congr 1
  · have headb : (d :: b').head? ≠ some '/' := by simpa using absolute
    have inner : (join (d :: b') c).head? ≠ some '/' := by
      unfold join
      rw [if_neg relative]
      split <;> simpa using absolute
    have outer : ∀ q : List Char, (q ++ d :: b' = [] ∨ (q ++ d :: b').getLast? = some '/') ↔
        (d :: b' = [] ∨ (d :: b').getLast? = some '/') := fun q => by
      rw [last]; simp
    have slash : ∀ q : List Char, q ++ '/' :: d :: b' = (q ++ ['/']) ++ d :: b' := fun q => by simp
    rw [join, if_neg inner]
    by_cases ha : a = [] ∨ a.getLast? = some '/'
    · rw [if_pos ha, show join a (d :: b') = a ++ d :: b' by rw [join, if_neg headb, if_pos ha]]
      rw [join, join, if_neg relative, if_neg relative]
      simp only [outer a]
      split <;> simp
    · rw [if_neg ha, show join a (d :: b') = a ++ '/' :: d :: b' by rw [join, if_neg headb, if_neg ha]]
      rw [join, join, if_neg relative, if_neg relative, slash a]
      simp only [outer (a ++ ['/'])]
      split <;> simp

end Path

end Custos
