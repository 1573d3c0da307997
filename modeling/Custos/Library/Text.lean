import Mathlib.Data.List.Infix
import Mathlib.Data.List.Basic

/-!
# Cutting texts

A text is the list of its characters. It is cut at the first occurrence of a separator, at the last
occurrence of a character, or into the words between blanks. The rules say where a text that was put together
is cut again.
-/

namespace Custos

variable {α : Type*}

section Cut

variable [DecidableEq α]

/-- What stands before and behind the first occurrence of a separator that is not empty. -/
def cutFirst (sep : List α) : List α → Option (List α × List α)
  | [] => none
  | c :: cs =>
    if sep <+: c :: cs then some ([], (c :: cs).drop sep.length)
    else (cutFirst sep cs).map fun cut => (c :: cut.1, cut.2)

/-- What stands before and behind the last occurrence of a character. -/
def cutLast (d : α) : List α → Option (List α × List α)
  | [] => none
  | c :: cs =>
    match cutLast d cs with
    | some cut => some (c :: cut.1, cut.2)
    | none => if c = d then some ([], cs) else none

/-- A text is cut where it was joined, if the separator's first character does not stand before. -/
lemma cutFirst_join {d : α} {sep a b : List α} (first : d ∉ a) :
    cutFirst (d :: sep) (a ++ d :: sep ++ b) = some (a, b) := by
  induction a with
  | nil => simp [cutFirst]
  | cons c a ih =>
    obtain ⟨ne, first⟩ := not_or.1 (List.mem_cons.not.1 first)
    have no : ¬ d :: sep <+: c :: (a ++ d :: sep ++ b) := fun h =>
      ne (List.cons_prefix_cons.1 h).1
    rw [List.cons_append, List.cons_append, cutFirst, if_neg no, ih first]
    rfl

/-- What follows does not move a cut at the end. -/
lemma cutFirst_append {sep a : List α} (b : List α) (ends : cutFirst sep (a ++ sep) = some (a, [])) :
    cutFirst sep (a ++ sep ++ b) = some (a, b) := by
  induction a with
  | nil =>
    cases sep with
    | nil => cases ends
    | cons d sep => simp [cutFirst]
  | cons c a ih =>
    rw [List.cons_append, cutFirst] at ends
    have no : ¬ sep <+: c :: (a ++ sep) := by
      intro h
      rw [if_pos h] at ends
      cases ends
    rw [if_neg no] at ends
    obtain ⟨⟨a', b'⟩, cut, eq⟩ := Option.map_eq_some_iff.1 ends
    obtain ⟨same, rfl⟩ := Prod.mk.inj eq
    obtain rfl : a' = a := (List.cons.inj same).2
    have longer : c :: (a' ++ sep) <+: c :: (a' ++ sep ++ b) := ⟨b, by simp⟩
    have no' : ¬ sep <+: c :: (a' ++ sep ++ b) := fun h =>
      no (List.prefix_of_prefix_length_le h longer (by simp only [List.length_cons, List.length_append]; omega))
    rw [List.cons_append, List.cons_append, cutFirst, if_neg no', ih cut]
    rfl

/-- A text without the separator's first character is not cut. -/
lemma cutFirst_eq_none {d : α} {sep cs : List α} (no : d ∉ cs) : cutFirst (d :: sep) cs = none := by
  induction cs with
  | nil => rfl
  | cons c cs ih =>
    obtain ⟨ne, no⟩ := not_or.1 (List.mem_cons.not.1 no)
    rw [cutFirst, if_neg fun h => ne (List.cons_prefix_cons.1 h).1, ih no]
    rfl

/-- The parts and the separator are the text. -/
lemma cutFirst_some {sep cs a b : List α} (cut : cutFirst sep cs = some (a, b)) :
    cs = a ++ sep ++ b := by
  induction cs generalizing a b with
  | nil => cases cut
  | cons c cs ih =>
    rw [cutFirst] at cut
    split at cut
    · rename_i h
      cases cut
      obtain ⟨rest, eq⟩ := h
      rw [← eq]
      simp
    · obtain ⟨⟨a', b'⟩, cut', eq⟩ := Option.map_eq_some_iff.1 cut
      cases eq
      rw [ih cut']
      rfl

/-- A text is cut last where it was joined, if the character does not stand behind. -/
lemma cutLast_join {d : α} {a b : List α} (last : d ∉ b) : cutLast d (a ++ d :: b) = some (a, b) := by
  have none : cutLast d b = none := by
    induction b with
    | nil => rfl
    | cons c b ih =>
      obtain ⟨ne, last⟩ := not_or.1 (List.mem_cons.not.1 last)
      rw [cutLast, ih last]
      exact if_neg (Ne.symm ne)
  induction a with
  | nil => simp [cutLast, none]
  | cons c a ih => rw [List.cons_append, cutLast, ih]

/-- A text without the delimiter is not cut. -/
lemma cutLast_eq_none {d : α} {cs : List α} : cutLast d cs = none ↔ d ∉ cs := by
  induction cs with
  | nil => simp [cutLast]
  | cons c cs ih =>
    rw [cutLast]
    cases cut : cutLast d cs with
    | some cut' =>
      have mem : d ∈ cs := by_contra fun no => by simp [ih.2 no] at cut
      simp [mem]
    | none =>
      have no := ih.1 cut
      by_cases here : c = d <;> simp [here, no, Ne.symm]

/-- The text is cut at the last delimiter. -/
lemma cutLast_some {d : α} {cs a b : List α} (cut : cutLast d cs = some (a, b)) :
    cs = a ++ d :: b ∧ d ∉ b := by
  induction cs generalizing a b with
  | nil => cases cut
  | cons c cs ih =>
    rw [cutLast] at cut
    cases cut' : cutLast d cs with
    | some pair =>
      obtain ⟨a', b'⟩ := pair
      rw [cut'] at cut
      cases cut
      obtain ⟨eq, no⟩ := ih cut'
      exact ⟨by rw [eq]; rfl, no⟩
    | none =>
      rw [cut'] at cut
      dsimp only at cut
      split at cut
      · rename_i here
        cases cut
        exact ⟨by rw [here]; rfl, cutLast_eq_none.1 cut'⟩
      · cases cut

/-- What follows without the character does not move its last occurrence. -/
lemma cutLast_append {d : α} (cs : List α) {tail : List α} (no : d ∉ tail) :
    cutLast d (cs ++ tail) = (cutLast d cs).map fun cut => (cut.1, cut.2 ++ tail) := by
  cases cut : cutLast d cs with
  | none =>
    rw [Option.map_none, cutLast_eq_none, List.mem_append, not_or]
    exact ⟨cutLast_eq_none.1 cut, no⟩
  | some pair =>
    obtain ⟨a, b⟩ := pair
    obtain ⟨rfl, no'⟩ := cutLast_some cut
    rw [List.append_assoc, List.cons_append]
    exact cutLast_join (by simp [no, no'])

end Cut

section Words

variable (blank : α → Bool)

/-- The words of a text, read on with `word` of the current word read. -/
def wordsFrom : List α → List α → List (List α)
  | word, [] => if word.isEmpty then [] else [word]
  | word, c :: cs =>
    if blank c then (if word.isEmpty then wordsFrom [] cs else word :: wordsFrom [] cs)
    else wordsFrom (word ++ [c]) cs

/-- The words between the blanks of a text. -/
def words (cs : List α) : List (List α) := wordsFrom blank [] cs

@[simp] lemma words_nil : words blank [] = [] := rfl

variable {blank}

/-- A blank ends the word that is read. -/
lemma wordsFrom_blank {c : α} (space : blank c) (word a b : List α) :
    wordsFrom blank word (a ++ c :: b) = wordsFrom blank word a ++ words blank b := by
  induction a generalizing word with
  | nil =>
    rw [List.nil_append, wordsFrom.eq_2, if_pos space, wordsFrom.eq_1]
    split <;> rfl
  | cons c' a ih =>
    rw [List.cons_append, wordsFrom, wordsFrom]
    split
    · split
      · exact ih []
      · rw [ih [], List.cons_append]
    · exact ih _

/-- A blank parts the words on its sides. -/
lemma words_blank {c : α} (space : blank c) (a b : List α) :
    words blank (a ++ c :: b) = words blank a ++ words blank b := wordsFrom_blank space [] a b

lemma words_cons_blank {c : α} (space : blank c) (b : List α) : words blank (c :: b) = words blank b :=
  words_blank space [] b

lemma words_blanks_append {g : List α} (spaces : ∀ c ∈ g, blank c) (b : List α) :
    words blank (g ++ b) = words blank b := by
  induction g with
  | nil => rfl
  | cons c g ih =>
    rw [List.cons_append, words_cons_blank (spaces c (.head _)), ih fun c hc => spaces c (.tail _ hc)]

/-- What has no blank in it is one word. -/
lemma wordsFrom_of_no_blank {w : List α} (no : ∀ c ∈ w, ¬ blank c) (word : List α) :
    wordsFrom blank word w = if (word ++ w).isEmpty then [] else [word ++ w] := by
  induction w generalizing word with
  | nil => rw [List.append_nil]; rfl
  | cons c w ih =>
    rw [wordsFrom, if_neg (no c (.head _)), ih fun c hc => no c (.tail _ hc)]
    simp

/-- A text without blanks is one word. -/
lemma words_of_no_blank {w : List α} (ne : w ≠ []) (no : ∀ c ∈ w, ¬ blank c) : words blank w = [w] := by
  have := wordsFrom_of_no_blank no []
  rwa [List.nil_append, if_neg (by simpa using ne)] at this

/-- There is no word where there are only blanks. -/
lemma wordsFrom_eq_nil {word cs : List α} :
    wordsFrom blank word cs = [] ↔ word = [] ∧ ∀ c ∈ cs, blank c := by
  induction cs generalizing word with
  | nil => simp [wordsFrom]
  | cons c cs ih =>
    rw [wordsFrom]
    by_cases space : blank c
    · cases word with
      | nil => simp [space, ih]
      | cons d word => simp [space]
    · simp [space, ih]

lemma words_ne_nil {cs : List α} {c : α} (mem : c ∈ cs) (no : ¬ blank c) : words blank cs ≠ [] := fun h =>
  no ((wordsFrom_eq_nil.1 h).2 c mem)

/-- A text with a blank inside is more than one word. -/
lemma one_lt_length_words {a b : List α} {c d e : α} (mem : d ∈ a) (no : ¬ blank d) (space : blank c)
    (mem' : e ∈ b) (no' : ¬ blank e) : 1 < (words blank (a ++ c :: b)).length := by
  rw [words_blank space, List.length_append]
  have := List.length_pos_of_ne_nil (words_ne_nil mem no)
  have := List.length_pos_of_ne_nil (words_ne_nil mem' no')
  omega

/-- A text that begins and ends in no blank is one word, or more than one. -/
lemma words_trimmed {w : List α} (ne : w ≠ []) (first : ∀ c ∈ w.head?, ¬ blank c)
    (last : ∀ c ∈ w.getLast?, ¬ blank c) : words blank w = [w] ∨ 1 < (words blank w).length := by
  by_cases no : ∀ c ∈ w, ¬ blank c
  · exact .inl (words_of_no_blank ne no)
  · push Not at no
    obtain ⟨c, mem, space⟩ := no
    obtain ⟨a, b, rfl⟩ := List.append_of_mem mem
    refine .inr ?_
    cases a with
    | nil => exact absurd space (first c rfl)
    | cons d a =>
      rw [List.getLast?_append_of_ne_nil _ (List.cons_ne_nil c b)] at last
      cases b with
      | nil => exact absurd space (last c rfl)
      | cons e b =>
        rw [List.getLast?_cons_cons, List.getLast?_eq_some_getLast (List.cons_ne_nil e b)] at last
        exact one_lt_length_words (.head _) (first d rfl) space (List.getLast_mem (List.cons_ne_nil e b))
          (last _ rfl)

/-- Texts that are one word each, or more, have as many words as they are, or more. -/
lemma flatMap_words {ts : List (List α)} (each : ∀ t ∈ ts, words blank t = [t] ∨ 1 < (words blank t).length) :
    ts.flatMap (words blank) = ts ∨ ts.length < (ts.flatMap (words blank)).length := by
  induction ts with
  | nil => exact .inl rfl
  | cons t ts ih =>
    have here := each t (.head _)
    have rest := ih fun t ht => each t (.tail _ ht)
    rw [List.flatMap_cons, List.length_append, List.length_cons]
    rcases here with one | more
    · rcases rest with all | rest
      · exact .inl (by rw [one, all]; rfl)
      · exact .inr (by rw [one, List.length_singleton]; omega)
    · rcases rest with all | rest
      · exact .inr (by rw [all]; omega)
      · exact .inr (by omega)

variable (blank) in
/-- The text is these pieces with blanks between them, and maybe before and behind. -/
inductive Spaced : List (List α) → List α → Prop
  | blanks {g : List α} : (∀ c ∈ g, blank c) → Spaced [] g
  | piece {g w rest : List α} {ws : List (List α)} : (∀ c ∈ g, blank c) →
      (rest = [] ∨ ∃ c cs, rest = c :: cs ∧ blank c) → Spaced ws rest → Spaced (w :: ws) (g ++ w ++ rest)

/-- The words of a text are those of its pieces. -/
lemma Spaced.words_eq {ws : List (List α)} {cs : List α} (spaced : Spaced blank ws cs) :
    words blank cs = ws.flatMap (words blank) := by
  induction spaced with
  | @blanks g spaces =>
    have := words_blanks_append spaces []
    rwa [List.append_nil] at this
  | @piece g w rest ws spaces parted spaced ih =>
    rw [List.append_assoc, words_blanks_append spaces, List.flatMap_cons, ← ih]
    rcases parted with rfl | ⟨c, cs, rfl, space⟩
    · simp
    · rw [words_blank space, words_cons_blank space]

/-- A word is no blank and holds none. -/
lemma of_mem_wordsFrom {word cs w : List α} (no : ∀ c ∈ word, ¬ blank c) (mem : w ∈ wordsFrom blank word cs) :
    w ≠ [] ∧ ∀ c ∈ w, ¬ blank c := by
  induction cs generalizing word with
  | nil =>
    rw [wordsFrom] at mem
    split at mem
    · cases mem
    · rename_i ne
      rw [List.mem_singleton.1 mem]
      exact ⟨fun h => ne (by simp [h]), no⟩
  | cons c cs ih =>
    rw [wordsFrom] at mem
    split at mem
    · split at mem
      · exact ih (List.forall_mem_nil _) mem
      · rename_i ne
        rcases List.mem_cons.1 mem with rfl | mem
        · exact ⟨fun h => ne (by simp [h]), no⟩
        · exact ih (List.forall_mem_nil _) mem
    · rename_i other
      refine ih (fun d hd => ?_) mem
      rcases List.mem_append.1 hd with hd | hd
      · exact no d hd
      · rw [List.mem_singleton.1 hd]
        exact other

lemma not_blank_of_mem_words {cs w : List α} (mem : w ∈ words blank cs) : ∀ c ∈ w, ¬ blank c :=
  (of_mem_wordsFrom (List.forall_mem_nil _) mem).2

end Words

/-- Of the elements of a list with a property one is the last. -/
lemma exists_last {P : α → Prop} {xs : List α} (some_ : ∃ x ∈ xs, P x) :
    ∃ before y behind, xs = before ++ y :: behind ∧ P y ∧ ∀ z ∈ behind, ¬ P z := by
  induction xs with
  | nil =>
    obtain ⟨x, mem, _⟩ := some_
    cases mem
  | cons a xs ih =>
    by_cases later : ∃ x ∈ xs, P x
    · obtain ⟨before, y, behind, rfl, hy, no⟩ := ih later
      exact ⟨a :: before, y, behind, rfl, hy, no⟩
    · obtain ⟨x, mem, hx⟩ := some_
      rcases List.mem_cons.1 mem with rfl | mem
      · exact ⟨[], x, xs, rfl, hx, fun z hz hP => later ⟨z, hz, hP⟩⟩
      · exact absurd ⟨x, mem, hx⟩ later

/-- What a test finds of every element holds of every element. -/
lemma forall_mem_of_all {P : α → Prop} [DecidablePred P] {xs : List α} (all : (xs.all fun x => P x) = true) :
    ∀ x ∈ xs, P x := by
  simpa using all

section Join

/-- A word among others, with the separators on either side. -/
lemma intercalate_append {d : α} (before : List (List α)) (w : List α) (behind : List (List α)) :
    [d].intercalate (before ++ w :: behind) =
      before.flatMap (· ++ [d]) ++ (w ++ behind.flatMap (d :: ·)) := by
  induction before with
  | nil =>
    induction behind generalizing w with
    | nil => simp [List.intercalate]
    | cons w' behind ih =>
      have rest := ih w'
      simp only [List.nil_append, List.flatMap_nil] at rest
      simp only [List.intercalate, List.nil_append, List.intersperse_cons_cons, List.flatten_cons,
        List.flatMap_nil, List.flatMap_cons] at rest ⊢
      rw [rest]
      rfl
  | cons v before ih =>
    rw [List.flatMap_cons, List.append_assoc, ← ih]
    cases before with
    | nil => simp [List.intercalate]
    | cons v' before => simp [List.intercalate]

/-- What is neither in the words nor the separator is not in the text. -/
lemma not_mem_intercalate {c d : α} {ws : List (List α)} (ne : c ≠ d) (no : ∀ w ∈ ws, c ∉ w) :
    c ∉ [d].intercalate ws := by
  induction ws with
  | nil => simp [List.intercalate]
  | cons w ws ih =>
    have rest := ih fun w hw => no w (.tail _ hw)
    have here := no w (.head _)
    cases ws with
    | nil => simpa [List.intercalate] using here
    | cons w' ws =>
      simp only [List.intercalate, List.intersperse_cons_cons, List.flatten_cons, List.mem_append,
        List.mem_singleton, not_or] at rest ⊢
      exact ⟨here, ne, rest⟩

/-- Pieces that are not empty and do not hold the separator can be read off what they are joined to. -/
lemma intercalate_inj [DecidableEq α] {d : α} {ws ws' : List (List α)} (no : ∀ w ∈ ws, w ≠ [] ∧ d ∉ w)
    (no' : ∀ w ∈ ws', w ≠ [] ∧ d ∉ w) (eq : [d].intercalate ws = [d].intercalate ws') : ws = ws' := by
  have joined : ∀ w : List α, ∀ ws, w ≠ [] → [d].intercalate (w :: ws) ≠ [] := by
    intro w ws ne
    have := intercalate_append (d := d) [] w ws
    simp_all
  cases ws with
  | nil =>
    cases ws' with
    | nil => rfl
    | cons w' ws' => exact absurd eq.symm (joined w' ws' (no' w' (.head _)).1)
  | cons w ws =>
    cases ws' with
    | nil => exact absurd eq (joined w ws (no w (.head _)).1)
    | cons w' ws' =>
      rw [← List.splitOn_intercalate d (fun v hv => (no v hv).2) (List.cons_ne_nil w ws), eq,
        List.splitOn_intercalate d (fun v hv => (no' v hv).2) (List.cons_ne_nil w' ws')]

end Join

end Custos
