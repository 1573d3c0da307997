import Custos.Library.Checksum
import Custos.Policy.Engine

/-!
# Card numbers

`_luhn_valid` goes through the digits from the left and tells those that count double by the parity of their
number. That is the Luhn check, which counts from the right (`luhnValid_iff`), on a number of 13 to 19 digits,
so no single wrong digit passes.
-/

namespace Custos

def digitValue (c : Char) : Nat := c.toNat - '0'.toNat

/-- The digits of a text of digits, the last one first. -/
def digitsFromRight (s : String) : List Nat := (s.toList.map digitValue).reverse

/-- A digit's value is below ten. -/
lemma digitValue_lt {c : Char} (digit : c.isDigit = true) : digitValue c < 10 := by
  have bound := (Char.isDigit_iff_toNat.1 digit).2
  change c.toNat ≤ 57 at bound
  show c.toNat - 48 < 10
  omega

lemma digitValue_inj {c d : Char} (hc : c.isDigit = true) (hd : d.isDigit = true)
    (same : digitValue c = digitValue d) : c = d := by
  have cBound := (Char.isDigit_iff_toNat.1 hc).1
  have dBound := (Char.isDigit_iff_toNat.1 hd).1
  unfold digitValue at same
  apply Char.toNat_inj.1
  omega

/-- Of digits, the doubling of the source is the sum of the double's digits. -/
lemma checksum_eq_luhnSum {ds : List Nat} (digits : ∀ d ∈ ds, d < 10) :
    (ds.mapIdx fun i d =>
      if i % 2 = ds.length % 2 then (if 9 < d * 2 then d * 2 - 9 else d * 2) else d).sum =
      luhnSum ds.reverse := by
  have doubles : ∀ d < 10, (if 9 < d * 2 then d * 2 - 9 else d * 2) = doubled d := by decide
  have same : (ds.mapIdx fun i d =>
      if i % 2 = ds.length % 2 then (if 9 < d * 2 then d * 2 - 9 else d * 2) else d) =
      ds.mapIdx fun i d => if i % 2 = ds.length % 2 then doubled d else id d := by
    apply List.mapIdx_eq_mapIdx_iff.2
    intro i hi
    rw [doubles _ (digits _ (List.getElem_mem hi))]
    rfl
  rw [same]
  exact sum_mapIdx_parity id doubled ds

/-- On a text of digits `_luhn_valid` is the Luhn check of 13 to 19 digits. -/
lemma luhnValid_iff {s : String} (digits : ∀ c ∈ s.toList, c.isDigit = true) :
    luhnValid s = true ↔
      (13 ≤ s.toList.length ∧ s.toList.length ≤ 19) ∧ luhnSum (digitsFromRight s) % 10 = 0 := by
  have bounds : ∀ d ∈ s.toList.map digitValue, d < 10 :=
    List.forall_mem_map.2 fun c mem => digitValue_lt (digits c mem)
  have sum := checksum_eq_luhnSum bounds
  have kept : (s.toList.filter (·.isDigit)).map (fun c => c.toNat - '0'.toNat) = s.toList.map digitValue := by
    rw [List.filter_eq_self.2 digits]
    rfl
  unfold luhnValid digitsFromRight
  dsimp only
  rw [kept, sum, List.length_map]
  by_cases number : s.toList.length < 13 ∨ 19 < s.toList.length
  · rw [if_pos number]
    refine iff_of_false Bool.false_ne_true fun valid => ?_
    omega
  · rw [if_neg number, decide_eq_true_iff, and_iff_right (by omega)]

/-- `_luhn_valid` is the Luhn check: of 13 to 19 digits, on the sum from the right; and a valid number is
valid with no other digit in any one place. -/
theorem luhnValid_is_luhn (s : String) (digits : ∀ c ∈ s.toList, c.isDigit = true) :
    (luhnValid s = true ↔
      (13 ≤ s.toList.length ∧ s.toList.length ≤ 19) ∧ luhnSum (digitsFromRight s) % 10 = 0) ∧
    (luhnValid s = true → ∀ before c after, s.toList = before ++ c :: after →
      ∀ d : Char, d.isDigit = true → d ≠ c → luhnValid (.ofList (before ++ d :: after)) = false) := by
  refine ⟨luhnValid_iff digits, fun valid before c after eq d digit ne => ?_⟩
  have mem : c ∈ s.toList := by simp [eq]
  have digits' : ∀ x ∈ (String.ofList (before ++ d :: after)).toList, x.isDigit = true := by
    intro x hx
    rw [String.toList_ofList, List.mem_append, List.mem_cons] at hx
    rcases hx with hx | rfl | hx
    · exact digits x (by simp [eq, hx])
    · exact digit
    · exact digits x (by simp [eq, hx])
  have sum := ((luhnValid_iff digits).1 valid).2
  unfold digitsFromRight at sum
  rw [eq, List.map_append, List.map_cons, List.reverse_append, List.reverse_cons, List.append_assoc,
    List.singleton_append] at sum
  have differs : digitValue c ≠ digitValue d := fun same => ne (digitValue_inj (digits c mem) digit same).symm
  have invalid := luhnSum_detects (digitValue_lt (digits c mem)) (digitValue_lt digit) differs sum
  rw [← Bool.not_eq_true, luhnValid_iff digits']
  rintro ⟨-, other⟩
  apply invalid
  unfold digitsFromRight at other
  rwa [String.toList_ofList, List.map_append, List.map_cons, List.reverse_append, List.reverse_cons,
    List.append_assoc, List.singleton_append] at other

section Sample

def testCard : String := "4111111111111111"

/-- A valid number, and one with its last digit changed. -/
theorem luhnValid_is_luhn_sample :
    luhnValid testCard = true ∧ luhnValid "4111111111111112" = false := by
  have digits : ∀ c ∈ testCard.toList, c.isDigit = true := List.all_eq_true.1 (by decide +kernel)
  have valid : luhnValid testCard = true := (luhnValid_is_luhn testCard digits).1.2 (by decide +kernel)
  refine ⟨valid, ?_⟩
  exact (luhnValid_is_luhn testCard digits).2 valid "411111111111111".toList '1' [] (by decide +kernel) '2'
    rfl (by decide)

end Sample

end Custos
