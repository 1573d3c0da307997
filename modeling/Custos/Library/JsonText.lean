import Custos.Library.Json
import Mathlib.Data.Nat.Digits.Defs
import Mathlib.Tactic.Linarith

/-!
# JSON text

A JSON encoder, over the two separators it writes, and the fact a reader of its output relies on: the
text determines the value (`text_injective`). Strings are quoted with the quote and the backslash
escaped, a float is written as its numerator with `.0` when it is whole and as a fraction otherwise. On
values whose strings are printable ASCII and whose floats are whole and below 10^16 this is the text of
the usual encoders.

The text of a value is no prefix code on its own (`1` begins `12`), but what follows a value inside a
text is the end, a comma or a closing bracket. `text_append` is injectivity in that form, and the
induction goes through because every text is followed by such a stop.
-/

namespace Custos

/-- What an encoder writes between the items of an array or object, and between a key and its value. -/
structure Separators where
  item : List Char
  key : List Char

namespace Separators

/-- `", "` and `": "`. -/
def spaced : Separators := ⟨[',', ' '], [':', ' ']⟩

/-- `","` and `":"`. -/
def compact : Separators := ⟨[','], [':']⟩

/-- The item separator begins with a comma. -/
def Comma (s : Separators) : Prop := s.item.head? = some ','

end Separators

namespace Json

/-- The quote, the backslash. -/
def quoteChar : Char := .ofNat 0x22
def escapeChar : Char := .ofNat 0x5c

/-- A string between quotes. -/
def quoted (cs : List Char) : List Char :=
  quoteChar :: cs.flatMap (fun c => if c = quoteChar ∨ c = escapeChar then [escapeChar, c] else [c]) ++
    [quoteChar]

/-- The decimal digits of a number. -/
def natText (n : Nat) : List Char := Nat.toDigits 10 n

def intText : Int → List Char
  | .ofNat n => natText n
  | .negSucc n => '-' :: natText (n + 1)

def floatText (q : ℚ) : List Char :=
  intText q.num ++ if q.den = 1 then ['.', '0'] else '/' :: natText q.den

mutual

/-- The text of a value. -/
def text (sep : Separators) : Json → List Char
  | .null => ['n', 'u', 'l', 'l']
  | .bool true => ['t', 'r', 'u', 'e']
  | .bool false => ['f', 'a', 'l', 's', 'e']
  | .int n => intText n
  | .float q => floatText q
  | .str s => quoted s.toList
  | .arr [] => ['[', ']']
  | .arr (x :: xs) => '[' :: (text sep x ++ textItems sep xs)
  | .obj [] => ['\x7b', '\x7d']
  | .obj ((k, v) :: kvs) => '\x7b' :: (quoted k.toList ++ sep.key ++ text sep v ++ textFields sep kvs)

/-- The items of an array after the first, up to the closing bracket. -/
def textItems (sep : Separators) : List Json → List Char
  | [] => [']']
  | x :: xs => sep.item ++ text sep x ++ textItems sep xs

/-- The fields of an object after the first, up to the closing bracket. -/
def textFields (sep : Separators) : List (String × Json) → List Char
  | [] => ['\x7d']
  | (k, v) :: kvs => sep.item ++ quoted k.toList ++ sep.key ++ text sep v ++ textFields sep kvs

end

/-! ## Where a text ends -/

/-- Splitting a list where a property of its elements first fails is unique. -/
lemma append_inj_of_head {α : Type*} {p : α → Prop} {a a' r r' : List α}
    (ha : ∀ c ∈ a, p c) (ha' : ∀ c ∈ a', p c)
    (hr : ∀ c ∈ r.head?, ¬ p c) (hr' : ∀ c ∈ r'.head?, ¬ p c)
    (e : a ++ r = a' ++ r') : a = a' ∧ r = r' := by
  induction a generalizing a' with
  | nil =>
    cases a' with
    | nil => exact ⟨rfl, e⟩
    | cons c a' =>
      rw [List.nil_append] at e
      exact absurd (ha' c (by simp)) (hr c (by simp [e]))
  | cons c a ih =>
    cases a' with
    | nil =>
      rw [List.nil_append] at e
      exact absurd (ha c (by simp)) (hr' c (by simp [← e]))
    | cons c' a' =>
      obtain ⟨rfl, tails⟩ := List.cons.inj e
      obtain ⟨rfl, rfl⟩ := ih (fun d hd => ha d (.tail _ hd)) (fun d hd => ha' d (.tail _ hd)) tails
      exact ⟨rfl, rfl⟩

/-- What may follow a value in a text: a comma or a closing bracket. -/
def isStop (c : Char) : Prop := c = ',' ∨ c = ']' ∨ c = '\x7d'

/-- Nothing follows, or a stop does. -/
def Stops (r : List Char) : Prop := ∀ c ∈ r.head?, isStop c

lemma stops_nil : Stops [] := by simp [Stops]

/-- What is behind an item stops a number. -/
lemma stops_textItems {sep : Separators} (comma : sep.Comma) (xs : List Json) (r : List Char) :
    Stops (textItems sep xs ++ r) := by
  unfold Separators.Comma at comma
  cases xs with
  | nil => simp [Stops, textItems, isStop]
  | cons x xs =>
    intro c hc
    simp [textItems, List.head?_append, comma] at hc
    exact .inl hc.symm

lemma stops_textFields {sep : Separators} (comma : sep.Comma) (kvs : List (String × Json))
    (r : List Char) : Stops (textFields sep kvs ++ r) := by
  unfold Separators.Comma at comma
  cases kvs with
  | nil => simp [Stops, textFields, isStop]
  | cons kv kvs =>
    obtain ⟨k, v⟩ := kv
    intro c hc
    simp [textFields, List.head?_append, comma] at hc
    exact .inl hc.symm

/-! ## Strings and numbers -/

/-- A quoted string ends where its text says. -/
lemma quoted_append {s s' r r' : List Char} (e : quoted s ++ r = quoted s' ++ r') :
    s = s' ∧ r = r' := by
  have ne : escapeChar ≠ quoteChar := by decide
  simp only [quoted, List.cons_append, List.append_assoc, List.cons.injEq, true_and,
    List.nil_append] at e
  induction s generalizing s' with
  | nil =>
    cases s' with
    | nil => simpa using e
    | cons c s' =>
      exfalso
      simp only [List.flatMap_nil, List.nil_append, List.flatMap_cons] at e
      split at e
      · exact ne (List.cons.inj e).1.symm
      · rename_i h
        exact h (.inl (List.cons.inj e).1.symm)
  | cons c s ih =>
    cases s' with
    | nil =>
      exfalso
      simp only [List.flatMap_nil, List.nil_append, List.flatMap_cons] at e
      split at e
      · exact ne (List.cons.inj e).1
      · rename_i h
        exact h (.inl (List.cons.inj e).1)
    | cons c' s' =>
      simp only [List.flatMap_cons, List.append_assoc] at e
      -- an escaped character begins with the escape, and no other character is written as it
      by_cases h : c = quoteChar ∨ c = escapeChar <;>
        by_cases h' : c' = quoteChar ∨ c' = escapeChar
      · rw [if_pos h, if_pos h'] at e
        simp only [List.cons_append, List.nil_append, List.cons.injEq, true_and] at e
        obtain ⟨rfl, e⟩ := e
        obtain ⟨rfl, rfl⟩ := ih e
        exact ⟨rfl, rfl⟩
      · rw [if_pos h, if_neg h'] at e
        exact absurd (.inr (List.cons.inj e).1.symm) h'
      · rw [if_neg h, if_pos h'] at e
        exact absurd (.inr (List.cons.inj e).1) h
      · rw [if_neg h, if_neg h'] at e
        simp only [List.cons_append, List.nil_append, List.cons.injEq] at e
        obtain ⟨rfl, e⟩ := e
        obtain ⟨rfl, rfl⟩ := ih e
        exact ⟨rfl, rfl⟩

/-- A numeral determines its number. -/
lemma natText_injective : Function.Injective natText := by
  intro m n e
  have h := congrArg (fun cs => Nat.ofDigitChars 10 cs 0) e
  simpa [natText, Nat.ofDigitChars_ten_toDigits] using h

lemma isDigit_of_mem_natText {n : Nat} {c : Char} (h : c ∈ natText n) : c.isDigit :=
  Nat.isDigit_of_mem_toDigits (by decide) (by decide) h

/-- An integer's text determines it. -/
lemma intText_injective : Function.Injective intText := by
  have dash : ∀ n : Nat, '-' ∉ natText n := fun n h =>
    absurd (isDigit_of_mem_natText h) (by decide)
  intro m n e
  cases m with
  | ofNat m =>
    cases n with
    | ofNat n => exact congrArg Int.ofNat (natText_injective e)
    | negSucc n =>
      refine absurd ?_ (dash m)
      show '-' ∈ natText m
      rw [show natText m = '-' :: natText (n + 1) from e]
      simp
  | negSucc m =>
    cases n with
    | ofNat n =>
      refine absurd ?_ (dash n)
      rw [show natText n = '-' :: natText (m + 1) from e.symm]
      simp
    | negSucc n =>
      have h := natText_injective (List.cons.inj e).2
      exact congrArg Int.negSucc (Nat.succ.inj h)

/-- The characters an integer is written with. -/
def isNumeral (c : Char) : Prop := c.isDigit ∨ c = '-'

/-- An integer's text is made of numeral characters. -/
lemma isNumeral_of_mem_intText {n : Int} {c : Char} (h : c ∈ intText n) : isNumeral c := by
  cases n with
  | ofNat n => exact .inl (isDigit_of_mem_natText h)
  | negSucc n =>
    rcases List.mem_cons.1 h with h | h
    · exact .inr h
    · exact .inl (isDigit_of_mem_natText h)

/-- A float's text never continues as an integer's would. -/
lemma head_floatTail (q : ℚ) :
    ∀ c ∈ (if q.den = 1 then ['.', '0'] else '/' :: natText q.den).head?, ¬ isNumeral c := by
  have dot : ¬ isNumeral '.' := by unfold isNumeral; decide
  have slash : ¬ isNumeral '/' := by unfold isNumeral; decide
  split <;> simp [dot, slash]

/-- A float's text determines it. -/
lemma floatText_injective : Function.Injective floatText := by
  intro p q e
  obtain ⟨nums, tails⟩ := append_inj_of_head (p := isNumeral) (fun _ => isNumeral_of_mem_intText)
    (fun _ => isNumeral_of_mem_intText) (head_floatTail p) (head_floatTail q) e
  refine Rat.ext (intText_injective nums) ?_
  by_cases hp : p.den = 1 <;> by_cases hq : q.den = 1 <;> simp only [hp, hq, if_true, if_false] at tails
  · rw [hp, hq]
  · exact absurd (List.cons.inj tails).1 (by decide)
  · exact absurd (List.cons.inj tails).1 (by decide)
  · exact natText_injective (List.cons.inj tails).2

/-- No integer's text is a float's. -/
lemma intText_ne_floatText (n : Int) (q : ℚ) : intText n ≠ floatText q := by
  intro e
  have e' : intText n ++ [] = floatText q := by rw [List.append_nil, e]
  obtain ⟨-, tails⟩ := append_inj_of_head (p := isNumeral) (fun _ => isNumeral_of_mem_intText)
    (fun _ => isNumeral_of_mem_intText) (by simp) (head_floatTail q) e'
  split at tails <;> cases tails

/-- An integer's text begins with a numeral character. -/
lemma exists_intText_cons (n : Int) : ∃ c cs, intText n = c :: cs ∧ isNumeral c := by
  have ne : intText n ≠ [] := by
    cases n with
    | ofNat n => exact Nat.toDigits_ne_nil
    | negSucc n => exact List.cons_ne_nil _ _
  obtain ⟨c, cs, e⟩ := List.exists_cons_of_ne_nil ne
  exact ⟨c, cs, e, isNumeral_of_mem_intText (by rw [e]; simp)⟩

lemma exists_floatText_cons (q : ℚ) : ∃ c cs, floatText q = c :: cs ∧ isNumeral c := by
  obtain ⟨c, cs, e, num⟩ := exists_intText_cons q.num
  exact ⟨c, _, by rw [floatText, e, List.cons_append], num⟩

/-! ## The text determines the value -/

/-- What the first character of a text tells of the value. -/
inductive Lead where
  | null | true | false | number | str | arr | obj
  deriving DecidableEq

def leadOf (c : Char) : Lead :=
  if c = 'n' then .null else if c = 't' then .true else if c = 'f' then .false
  else if c = quoteChar then .str else if c = '[' then .arr else if c = '\x7b' then .obj else .number

def lead : Json → Lead
  | .null => .null
  | .bool b => if b then .true else .false
  | .int _ => .number
  | .float _ => .number
  | .str _ => .str
  | .arr _ => .arr
  | .obj _ => .obj

/-- A numeral character leads a number. -/
lemma leadOf_numeral {c : Char} (num : isNumeral c) : leadOf c = .number ∧ ¬ isStop c := by
  have differs : ∀ d : Char, ¬ isNumeral d → c ≠ d := fun d hd e => hd (e ▸ num)
  have n : c ≠ 'n' := differs _ (by unfold isNumeral; decide)
  have t : c ≠ 't' := differs _ (by unfold isNumeral; decide)
  have f : c ≠ 'f' := differs _ (by unfold isNumeral; decide)
  have q : c ≠ quoteChar := differs _ (by unfold isNumeral; decide)
  have a : c ≠ '[' := differs _ (by unfold isNumeral; decide)
  have o : c ≠ '\x7b' := differs _ (by unfold isNumeral; decide)
  have comma : c ≠ ',' := differs _ (by unfold isNumeral; decide)
  have closeArr : c ≠ ']' := differs _ (by unfold isNumeral; decide)
  have closeObj : c ≠ '\x7d' := differs _ (by unfold isNumeral; decide)
  simp [leadOf, isStop, n, t, f, q, a, o, comma, closeArr, closeObj]

/-- A text begins with the character its value asks for, and that is no stop. -/
lemma exists_text_cons (sep : Separators) (j : Json) :
    ∃ c cs, text sep j = c :: cs ∧ leadOf c = j.lead ∧ ¬ isStop c := by
  have numeral : ∀ {t : List Char}, (∃ c cs, t = c :: cs ∧ isNumeral c) →
      ∃ c cs, t = c :: cs ∧ leadOf c = .number ∧ ¬ isStop c := by
    rintro t ⟨c, cs, e, num⟩
    exact ⟨c, cs, e, leadOf_numeral num⟩
  unfold isStop
  cases j with
  | null => exact ⟨_, _, rfl, by decide⟩
  | bool b => cases b <;> exact ⟨_, _, rfl, by decide⟩
  | int n => exact numeral (exists_intText_cons n)
  | float q => exact numeral (exists_floatText_cons q)
  | str s => exact ⟨_, _, rfl, by show leadOf _ = Lead.str ∧ _; decide⟩
  | arr xs =>
    cases xs <;> exact ⟨_, _, by rw [text], by show leadOf _ = Lead.arr ∧ _; decide⟩
  | obj kvs =>
    rcases kvs with _ | ⟨⟨k, v⟩, kvs⟩ <;>
      exact ⟨_, _, by rw [text], by show leadOf _ = Lead.obj ∧ _; decide⟩

/-- Texts that begin one text have one kind of value. -/
lemma lead_eq {sep : Separators} {j j' : Json} {r r' : List Char}
    (e : text sep j ++ r = text sep j' ++ r') : j.lead = j'.lead := by
  obtain ⟨c, cs, h, hc, -⟩ := exists_text_cons sep j
  obtain ⟨c', cs', h', hc', -⟩ := exists_text_cons sep j'
  rw [h, h', List.cons_append, List.cons_append] at e
  rw [← hc, ← hc', (List.cons.inj e).1]

/-- A number's text has no stop in it. -/
lemma not_isStop_of_mem_number {c : Char} :
    (∀ n, c ∈ intText n → ¬ isStop c) ∧ (∀ q, c ∈ floatText q → ¬ isStop c) := by
  have int : ∀ n, c ∈ intText n → ¬ isStop c := fun n h =>
    (leadOf_numeral (isNumeral_of_mem_intText h)).2
  refine ⟨int, fun q h => ?_⟩
  rcases List.mem_append.1 h with h | h
  · exact int _ h
  · split at h
    · simp only [List.mem_cons, List.not_mem_nil, or_false] at h
      rcases h with rfl | rfl <;> · unfold isStop; decide
    · rcases List.mem_cons.1 h with rfl | h
      · unfold isStop; decide
      · exact (leadOf_numeral (.inl (isDigit_of_mem_natText h))).2

/-- Where two numbers are stopped, each is told from what is behind it. -/
lemma number_append {t t' r r' : List Char} (ht : ∀ c ∈ t, ¬ isStop c) (ht' : ∀ c ∈ t', ¬ isStop c)
    (hr : Stops r) (hr' : Stops r') (e : t ++ r = t' ++ r') : t = t' ∧ r = r' :=
  append_inj_of_head ht ht' (fun c hc => not_not.2 (hr c hc)) (fun c hc => not_not.2 (hr' c hc)) e

/-- An item or a bracket: the two continue an array in different ways. -/
lemma append_ne_of_comma {item t r r' : List Char} {b : Char} (comma : item.head? = some ',')
    (hb : b ≠ ',') : b :: r ≠ item ++ t ++ r' := by
  intro e
  cases item with
  | nil => simp at comma
  | cons c item =>
    simp only [List.head?_cons, Option.some.injEq] at comma
    exact hb ((List.cons.inj e).1.trans comma)

mutual

/-- Texts that are followed by a stop are equal only for equal values. -/
theorem text_append {sep : Separators} (comma : sep.Comma) (j j' : Json) {r r' : List Char}
    (hr : Stops r) (hr' : Stops r') (e : text sep j ++ r = text sep j' ++ r') : j = j' ∧ r = r' := by
  -- the first character tells the constructors apart, but for the two kinds of numbers
  have same := lead_eq e
  match j, j' with
  | .null, .null => exact ⟨rfl, by simpa [text] using e⟩
  | .bool true, .bool true => exact ⟨rfl, by simpa [text] using e⟩
  | .bool false, .bool false => exact ⟨rfl, by simpa [text] using e⟩
  | .int m, .int n =>
    obtain ⟨ts, rs⟩ := number_append (fun _ => not_isStop_of_mem_number.1 m)
      (fun _ => not_isStop_of_mem_number.1 n) hr hr' (by simpa only [text] using e)
    exact ⟨by rw [intText_injective ts], rs⟩
  | .float p, .float q =>
    obtain ⟨ts, rs⟩ := number_append (fun _ => not_isStop_of_mem_number.2 p)
      (fun _ => not_isStop_of_mem_number.2 q) hr hr' (by simpa only [text] using e)
    exact ⟨by rw [floatText_injective ts], rs⟩
  | .int m, .float q =>
    obtain ⟨ts, -⟩ := number_append (fun _ => not_isStop_of_mem_number.1 m)
      (fun _ => not_isStop_of_mem_number.2 q) hr hr' (by simpa only [text] using e)
    exact absurd ts (intText_ne_floatText m q)
  | .float p, .int n =>
    obtain ⟨ts, -⟩ := number_append (fun _ => not_isStop_of_mem_number.2 p)
      (fun _ => not_isStop_of_mem_number.1 n) hr hr' (by simpa only [text] using e)
    exact absurd ts.symm (intText_ne_floatText n p)
  | .str s, .str s' =>
    obtain ⟨ss, rs⟩ := quoted_append (by simpa only [text] using e)
    exact ⟨by rw [String.toList_inj.1 ss], rs⟩
  | .arr [], .arr [] => exact ⟨rfl, by simpa [text] using e⟩
  | .arr [], .arr (x :: xs) =>
    obtain ⟨c, cs, h, -, stop⟩ := exists_text_cons sep x
    simp only [text, h, List.cons_append, List.cons.injEq, true_and] at e
    exact absurd (.inr (.inl e.1.symm)) stop
  | .arr (x :: xs), .arr [] =>
    obtain ⟨c, cs, h, -, stop⟩ := exists_text_cons sep x
    simp only [text, h, List.cons_append, List.cons.injEq, true_and] at e
    exact absurd (.inr (.inl e.1)) stop
  | .arr (x :: xs), .arr (x' :: xs') =>
    simp only [text, List.cons_append, List.append_assoc, List.cons.injEq, true_and] at e
    obtain ⟨rfl, e'⟩ := text_append comma x x' (stops_textItems comma xs r)
      (stops_textItems comma xs' r') e
    obtain ⟨rfl, rs⟩ := textItems_append comma xs xs' e'
    exact ⟨rfl, rs⟩
  | .obj [], .obj [] => exact ⟨rfl, by simpa [text] using e⟩
  | .obj [], .obj ((k, v) :: kvs) =>
    simp only [text, quoted, List.cons_append, List.cons.injEq, true_and] at e
    exact absurd e.1 (by decide)
  | .obj ((k, v) :: kvs), .obj [] =>
    simp only [text, quoted, List.cons_append, List.cons.injEq, true_and] at e
    exact absurd e.1 (by decide)
  | .obj ((k, v) :: kvs), .obj ((k', v') :: kvs') =>
    simp only [text, List.cons_append, List.append_assoc, List.cons.injEq, true_and] at e
    obtain ⟨ks, e'⟩ := quoted_append e
    obtain ⟨rfl, e''⟩ := text_append comma v v' (stops_textFields comma kvs r)
      (stops_textFields comma kvs' r') (List.append_cancel_left e')
    obtain ⟨rfl, rs⟩ := textFields_append comma kvs kvs' e''
    exact ⟨by rw [String.toList_inj.1 ks], rs⟩

/-- Items are told from what is behind them. -/
theorem textItems_append {sep : Separators} (comma : sep.Comma) (xs xs' : List Json)
    {r r' : List Char} (e : textItems sep xs ++ r = textItems sep xs' ++ r') :
    xs = xs' ∧ r = r' := by
  match xs, xs' with
  | [], [] => exact ⟨rfl, by simpa [textItems] using e⟩
  | [], x :: xs =>
    simp only [textItems, List.append_assoc, List.cons_append, List.nil_append] at e
    exact absurd (by rw [e, List.append_assoc]) (append_ne_of_comma comma (by decide))
  | x :: xs, [] =>
    simp only [textItems, List.append_assoc, List.cons_append, List.nil_append] at e
    exact absurd (by rw [← e, List.append_assoc]) (append_ne_of_comma comma (by decide))
  | x :: xs, x' :: xs' =>
    simp only [textItems, List.append_assoc] at e
    obtain ⟨rfl, e'⟩ := text_append comma x x' (stops_textItems comma xs r)
      (stops_textItems comma xs' r') (List.append_cancel_left e)
    obtain ⟨rfl, rs⟩ := textItems_append comma xs xs' e'
    exact ⟨rfl, rs⟩

theorem textFields_append {sep : Separators} (comma : sep.Comma) (kvs kvs' : List (String × Json))
    {r r' : List Char} (e : textFields sep kvs ++ r = textFields sep kvs' ++ r') :
    kvs = kvs' ∧ r = r' := by
  match kvs, kvs' with
  | [], [] => exact ⟨rfl, by simpa [textFields] using e⟩
  | [], (k, v) :: kvs =>
    simp only [textFields, List.append_assoc, List.cons_append, List.nil_append] at e
    exact absurd (by rw [e, List.append_assoc]) (append_ne_of_comma comma (by decide))
  | (k, v) :: kvs, [] =>
    simp only [textFields, List.append_assoc, List.cons_append, List.nil_append] at e
    exact absurd (by rw [← e, List.append_assoc]) (append_ne_of_comma comma (by decide))
  | (k, v) :: kvs, (k', v') :: kvs' =>
    simp only [textFields, List.append_assoc] at e
    obtain ⟨ks, e'⟩ := quoted_append (List.append_cancel_left e)
    obtain ⟨rfl, e''⟩ := text_append comma v v' (stops_textFields comma kvs r)
      (stops_textFields comma kvs' r') (List.append_cancel_left e')
    obtain ⟨rfl, rs⟩ := textFields_append comma kvs kvs' e''
    exact ⟨by rw [String.toList_inj.1 ks], rs⟩

end

/-- The text of a value determines the value. -/
theorem text_injective {sep : Separators} (comma : sep.Comma) : Function.Injective (text sep) := by
  intro j j' e
  exact (text_append comma j j' stops_nil stops_nil (by rw [e])).1

end Json

end Custos
