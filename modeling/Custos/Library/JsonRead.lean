import Custos.Library.Json

/-!
# Reading a JSON value

A JSON value as a dynamically typed program meets it: what a field of an object holds, whether a value
counts as true, what a loop over it yields. A value that cannot be read as asked is no value (`none`).
-/

namespace Custos

namespace Json

/-- The field of an object's entries, or null. -/
def field (kvs : List (String × Json)) (key : String) : Json := (kvs.lookup key).getD .null

/-- The literal true, and nothing that only counts as true. -/
def IsTrue : Json → Prop
  | .bool b => b = true
  | _ => False

instance : DecidablePred IsTrue
  | .bool b => inferInstanceAs (Decidable (b = true))
  | .null | .int _ | .float _ | .str _ | .arr _ | .obj _ => inferInstanceAs (Decidable False)

/-- The string, and no other value. -/
def IsStr (s : String) : Json → Prop
  | .str t => t = s
  | _ => False

instance (s : String) : DecidablePred (IsStr s)
  | .str t => inferInstanceAs (Decidable (t = s))
  | .null | .bool _ | .int _ | .float _ | .arr _ | .obj _ => inferInstanceAs (Decidable False)

/-- What counts as true: all but null, false, zero and what is empty. -/
def truthy : Json → Bool
  | .null => false
  | .bool b => b
  | .int n => n ≠ 0
  | .float q => q ≠ 0
  | .str s => s ≠ ""
  | .arr xs => !xs.isEmpty
  | .obj kvs => !kvs.isEmpty

/-- `a or b`. -/
def or (a b : Json) : Json := if a.truthy then a else b

/-- What iterating over a value yields: an array's items, a string's characters, an object's keys. -/
def items : Json → Option (List Json)
  | .arr xs => some xs
  | .str s => some (s.toList.map fun c => .str c.toString)
  | .obj kvs => some (kvs.map fun kv => .str kv.1)
  | _ => none

def isString : Json → Bool
  | .str _ => true
  | _ => false

/-- The strings of a list of nothing else. -/
def strings : List Json → Option (List String)
  | [] => some []
  | .str s :: xs => (strings xs).map (s :: ·)
  | _ :: _ => none

/-- The name a program has for the kind of value. -/
def typeName : Json → String
  | .null => "NoneType"
  | .bool _ => "bool"
  | .int _ => "int"
  | .float _ => "float"
  | .str _ => "str"
  | .arr _ => "list"
  | .obj _ => "dict"

lemma isTrue_iff {j : Json} : j.IsTrue ↔ j = .bool true := by
  cases j <;> simp [IsTrue]

lemma isStr_iff {s : String} {j : Json} : j.IsStr s ↔ j = .str s := by
  cases j <;> simp [IsStr]

/-- The literal is truthy. -/
lemma IsTrue.truthy {j : Json} (h : j.IsTrue) : j.truthy = true := by
  rw [isTrue_iff.1 h]
  rfl

/-- The items are strings where each is. -/
lemma strings_isSome_iff {xs : List Json} : (strings xs).isSome ↔ ∀ x ∈ xs, ∃ s, x = .str s := by
  induction xs with
  | nil => simp [strings]
  | cons x xs ih =>
    cases x with
    | str s => simp [strings, ih]
    | _ => simp [strings]

end Json

end Custos
