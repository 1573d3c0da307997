import Mathlib.Algebra.BigOperators.Group.List.Basic
import Mathlib.Data.Char
import Mathlib.Tactic.IntervalCases

/-!
# The civil calendar

Seconds since the start of 1970 as a civil date and time of day, the text of it in ISO 8601, and the seconds read back
of the text. Years and months are blocks of days laid end to end, and a day is found in them by one function (`locate`).

`read_text` is the round trip, up to the end of the year 9999.
-/

namespace Custos.Civil

/-! ## Blocks end to end -/

/-- The block an offset falls in, and where in the block. -/
def locate : List ℕ → ℕ → ℕ × ℕ
  | [], n => (0, n)
  | l :: ls, n => if n < l then (0, n) else ((locate ls (n - l)).1 + 1, (locate ls (n - l)).2)

/-- An offset within the blocks falls in one of them, and is what stands before it. -/
lemma locate_spec {ls : List ℕ} {n : ℕ} (within : n < ls.sum) :
    ∃ l, ls[(locate ls n).1]? = some l ∧ (locate ls n).2 < l ∧ (ls.take (locate ls n).1).sum + (locate ls n).2 = n := by
  induction ls generalizing n with
  | nil => simp at within
  | cons l ls ih =>
    unfold locate
    by_cases first : n < l
    · rw [if_pos first]
      exact ⟨l, rfl, first, by simp⟩
    · rw [if_neg first]
      rw [List.sum_cons] at within
      obtain ⟨l', at_, inside, before⟩ := ih (n := n - l) (by omega)
      refine ⟨l', by simpa using at_, inside, ?_⟩
      rw [List.take_succ_cons, List.sum_cons]
      omega

/-! ## The calendar -/

def isLeap (year : ℕ) : Bool := year % 4 = 0 ∧ (year % 100 ≠ 0 ∨ year % 400 = 0)

def monthLengths (year : ℕ) : List ℕ :=
  [31, if isLeap year then 29 else 28, 31, 30, 31, 30, 31, 31, 30, 31, 30, 31]

def yearLength (year : ℕ) : ℕ := if isLeap year then 366 else 365

def EPOCH : ℕ := 1970

/-- So many years from the epoch on. -/
def years (n : ℕ) : List ℕ := (List.range' EPOCH n).map yearLength

/-- The years of a calendar have their lengths. -/
lemma years_getElem? {n i l : ℕ} (at_ : (years n)[i]? = some l) : i < n ∧ l = yearLength (EPOCH + i) := by
  unfold years at at_
  rw [List.getElem?_map, Option.map_eq_some_iff] at at_
  obtain ⟨year, found, rfl⟩ := at_
  obtain ⟨few, rfl⟩ := List.getElem?_eq_some_iff.1 found
  rw [List.length_range'] at few
  exact ⟨few, by rw [List.getElem_range', one_mul]⟩

/-- The years of four digits from the epoch on. -/
@[irreducible] def YEARS : List ℕ := years 8030

lemma YEARS_getElem? {i l : ℕ} (at_ : YEARS[i]? = some l) : i < 8030 ∧ l = yearLength (EPOCH + i) := by
  unfold YEARS at at_
  exact years_getElem? at_

/-- The months of a year add up to it. -/
lemma sum_monthLengths (year : ℕ) : (monthLengths year).sum = yearLength year := by
  unfold monthLengths yearLength
  cases isLeap year <;> rfl

/-- A month has 31 days at most. -/
lemma monthLengths_le {year i l : ℕ} (at_ : (monthLengths year)[i]? = some l) : i < 12 ∧ l ≤ 31 := by
  obtain ⟨short, rfl⟩ := List.getElem?_eq_some_iff.1 at_
  have bound : ∀ l ∈ monthLengths year, l ≤ 31 := by
    unfold monthLengths
    cases isLeap year <;> simp
  exact ⟨short, bound _ (List.getElem_mem short)⟩

/-- A civil date and a time of day. -/
structure DateTime where
  year : ℕ
  month : ℕ
  day : ℕ
  hour : ℕ
  minute : ℕ
  second : ℕ
  deriving DecidableEq

/-- The date and time so many seconds after the epoch. -/
def ofSeconds (t : ℕ) : DateTime :=
  let (i, dayOfYear) := locate YEARS (t / 86400)
  let (j, dayOfMonth) := locate (monthLengths (EPOCH + i)) dayOfYear
  { year := EPOCH + i, month := j + 1, day := dayOfMonth + 1
    hour := t % 86400 / 3600, minute := t % 3600 / 60, second := t % 60 }

/-- The seconds from the epoch to the date and time. -/
def DateTime.seconds (d : DateTime) : ℕ :=
  ((YEARS.take (d.year - EPOCH)).sum + ((monthLengths d.year).take (d.month - 1)).sum + (d.day - 1)) * 86400 +
    d.hour * 3600 + d.minute * 60 + d.second

/-- The fields are in their ranges. -/
structure DateTime.Valid (d : DateTime) : Prop where
  year : EPOCH ≤ d.year ∧ d.year < 10000
  month : 1 ≤ d.month ∧ d.month ≤ 12
  day : 1 ≤ d.day ∧ d.day ≤ ((monthLengths d.year)[d.month - 1]?).getD 0
  hour : d.hour < 24
  minute : d.minute < 60
  second : d.second < 60

instance (d : DateTime) : Decidable d.Valid :=
  decidable_of_iff ((EPOCH ≤ d.year ∧ d.year < 10000) ∧ (1 ≤ d.month ∧ d.month ≤ 12) ∧
      (1 ≤ d.day ∧ d.day ≤ ((monthLengths d.year)[d.month - 1]?).getD 0) ∧ d.hour < 24 ∧ d.minute < 60 ∧ d.second < 60)
    ⟨fun ⟨y, m, dd, h, mi, s⟩ => ⟨y, m, dd, h, mi, s⟩, fun ⟨y, m, dd, h, mi, s⟩ => ⟨y, m, dd, h, mi, s⟩⟩

/-- The seconds before the year 10000. -/
def END : ℕ := YEARS.sum * 86400

/-- A second before the year 10000 is a valid date, and the date's second. -/
theorem ofSeconds_spec {t : ℕ} (before : t < END) : (ofSeconds t).Valid ∧ (ofSeconds t).seconds = t := by
  have within : t / 86400 < YEARS.sum := by
    unfold END at before
    omega
  obtain ⟨l, found, inside, sum⟩ := locate_spec within
  obtain ⟨few, rfl⟩ := YEARS_getElem? found
  rw [← sum_monthLengths] at inside
  obtain ⟨m, found', inside', sum'⟩ := locate_spec inside
  obtain ⟨months, days⟩ := monthLengths_le found'
  unfold ofSeconds
  dsimp only
  generalize locate YEARS (t / 86400) = y at *
  generalize locate (monthLengths (EPOCH + y.1)) y.2 = d at *
  refine ⟨⟨⟨?_, ?_⟩, ⟨?_, ?_⟩, ⟨?_, ?_⟩, ?_, ?_, ?_⟩, ?_⟩
  · exact Nat.le_add_right _ _
  · dsimp only [EPOCH]
    omega
  · exact Nat.le_add_left _ _
  · dsimp only
    omega
  · exact Nat.le_add_left _ _
  · dsimp only
    rw [Nat.add_sub_cancel, found', Option.getD_some]
    omega
  · dsimp only
    omega
  · dsimp only
    omega
  · dsimp only
    omega
  · unfold DateTime.seconds
    dsimp only
    rw [Nat.add_sub_cancel_left, Nat.add_sub_cancel, Nat.add_sub_cancel]
    omega

/-! ## Its text -/

def DIGITS : List Char := "0123456789".toList

/-- So many decimal digits of a number. -/
def digits : ℕ → ℕ → List Char
  | 0, _ => []
  | k + 1, n => digits k (n / 10) ++ [DIGITS.getD (n % 10) '0']

/-- The number that decimal digits spell. -/
def readDigits (cs : List Char) : Option ℕ :=
  cs.foldlM (fun n c => (DIGITS.idxOf? c).map fun d => n * 10 + d) 0

lemma idxOf?_digit {d : ℕ} (lt : d < 10) : DIGITS.idxOf? (DIGITS.getD d '0') = some d := by
  interval_cases d <;> decide

/-- A number that fits is read back from its digits. -/
lemma readDigits_digits {k n : ℕ} (fits : n < 10 ^ k) : readDigits (digits k n) = some n := by
  induction k generalizing n with
  | zero =>
    obtain rfl : n = 0 := by simpa using fits
    rfl
  | succ k ih =>
    have front : n / 10 < 10 ^ k := by
      rw [pow_succ] at fits
      omega
    unfold readDigits digits
    rw [List.foldlM_append, ← readDigits, ih front]
    simp only [Option.bind_eq_bind, Option.bind_some, List.foldlM_cons, List.foldlM_nil,
      idxOf?_digit (Nat.mod_lt n (by decide)), Option.map_some]
    exact congrArg some (by omega)

/-- `YYYY-MM-DDTHH:MM:SSZ`. -/
def DateTime.text (d : DateTime) : List Char :=
  digits 4 d.year ++ '-' :: digits 2 d.month ++ '-' :: digits 2 d.day ++ 'T' ::
    digits 2 d.hour ++ ':' :: digits 2 d.minute ++ ':' :: digits 2 d.second ++ ['Z']

/-- The date and time a text of that form spells, where it is one. -/
def parse (cs : List Char) : Option DateTime := do
  let [y₁, y₂, y₃, y₄, '-', m₁, m₂, '-', d₁, d₂, 'T', h₁, h₂, ':', n₁, n₂, ':', s₁, s₂, 'Z'] := cs | none
  let d : DateTime := {
    year := ← readDigits [y₁, y₂, y₃, y₄]
    month := ← readDigits [m₁, m₂]
    day := ← readDigits [d₁, d₂]
    hour := ← readDigits [h₁, h₂]
    minute := ← readDigits [n₁, n₂]
    second := ← readDigits [s₁, s₂] }
  if d.Valid then some d else none

lemma exists_digits_two (n : ℕ) : ∃ a b, digits 2 n = [a, b] := ⟨_, _, rfl⟩

lemma exists_digits_four (n : ℕ) : ∃ a b c d, digits 4 n = [a, b, c, d] := ⟨_, _, _, _, rfl⟩

/-- A valid date is read back from its text. -/
theorem parse_text {d : DateTime} (valid : d.Valid) : parse d.text = some d := by
  have year := readDigits_digits (k := 4) (n := d.year) valid.year.2
  have month := readDigits_digits (k := 2) (n := d.month) (by have := valid.month; omega)
  have short : d.day < 10 ^ 2 := by
    have bound := valid.day.2
    cases found : (monthLengths d.year)[d.month - 1]? with
    | none =>
      rw [found, Option.getD_none] at bound
      omega
    | some l =>
      rw [found, Option.getD_some] at bound
      have := (monthLengths_le found).2
      omega
  have day := readDigits_digits (k := 2) short
  have hour := readDigits_digits (k := 2) (n := d.hour) (by have := valid.hour; omega)
  have minute := readDigits_digits (k := 2) (n := d.minute) (by have := valid.minute; omega)
  have second := readDigits_digits (k := 2) (n := d.second) (by have := valid.second; omega)
  obtain ⟨y₁, y₂, y₃, y₄, yEq⟩ := exists_digits_four d.year
  obtain ⟨m₁, m₂, mEq⟩ := exists_digits_two d.month
  obtain ⟨d₁, d₂, dEq⟩ := exists_digits_two d.day
  obtain ⟨h₁, h₂, hEq⟩ := exists_digits_two d.hour
  obtain ⟨n₁, n₂, nEq⟩ := exists_digits_two d.minute
  obtain ⟨s₁, s₂, sEq⟩ := exists_digits_two d.second
  unfold DateTime.text
  rw [yEq] at year ⊢
  rw [mEq] at month ⊢
  rw [dEq] at day ⊢
  rw [hEq] at hour ⊢
  rw [nEq] at minute ⊢
  rw [sEq] at second ⊢
  change (do
    let d : DateTime := {
      year := ← readDigits [y₁, y₂, y₃, y₄]
      month := ← readDigits [m₁, m₂]
      day := ← readDigits [d₁, d₂]
      hour := ← readDigits [h₁, h₂]
      minute := ← readDigits [n₁, n₂]
      second := ← readDigits [s₁, s₂] }
    if d.Valid then some d else none) = some d
  rw [year, month, day, hour, minute, second]
  simp only [Option.bind_eq_bind, Option.bind_some]
  exact if_pos valid

/-- The text of a second. -/
def text (t : ℕ) : String := .ofList (ofSeconds t).text

/-- The second a text spells. -/
def read (s : String) : Option ℕ := (parse s.toList).map DateTime.seconds

/-- Until the year 10000 a second is read back from its text. -/
theorem read_text {t : ℕ} (before : t < END) : read (text t) = some t := by
  obtain ⟨valid, same⟩ := ofSeconds_spec before
  unfold read text
  rw [String.toList_ofList, parse_text valid, Option.map_some, same]

example : text 1767225600 = "2026-01-01T00:00:00Z" := by decide +kernel

end Custos.Civil
