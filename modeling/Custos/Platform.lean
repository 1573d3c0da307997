import Custos.Library.Json
import Mathlib.Data.List.Infix

/-!
# The platform

What the source takes from the Python standard library. `Platform` holds the digest and the JSON encoder
as they are: nothing here depends on how they compute, and the one thing a result may assume of them is
`CollisionFree`. The string operations (`str.strip`, `str.lower`, `in`, slicing) are written out.

`Exn` is the exceptions the modelled functions raise, each with the text the source gives it.
-/

namespace Custos

/-- The digest and the encoder every hash of the source goes through. -/
class Platform where
  /-- `hashlib.sha256(text.encode("utf-8")).hexdigest()` -/
  sha256 : String → String
  /-- `json.dumps(value)`: an object's keys in the order they were inserted -/
  dumps : Json → String
  /-- `json.dumps(value, separators=(",", ":"))` -/
  dumpsCompact : Json → String

export Platform (sha256 dumps dumpsCompact)

/-- SHA-256 has no collisions and the JSON text determines the value. -/
structure CollisionFree [Platform] : Prop where
  sha256 : Function.Injective (sha256 : String → String)
  dumps : Function.Injective (dumps : Json → String)

/-- `json.dumps(value, sort_keys=True)`. -/
def dumpsSorted [Platform] (j : Json) : String := dumps j.sortKeys

/-- `json.dumps(value, sort_keys=True, separators=(",", ":"))`. -/
def dumpsCanonical [Platform] (j : Json) : String := dumpsCompact j.sortKeys

/-! ## Strings -/

/-- The characters `str.strip` removes. -/
def isSpace (c : Char) : Bool :=
  c.toNat ∈ [0x9, 0xa, 0xb, 0xc, 0xd, 0x1c, 0x1d, 0x1e, 0x1f, 0x20, 0x85, 0xa0, 0x1680, 0x2028, 0x2029,
    0x202f, 0x205f, 0x3000] || (0x2000 ≤ c.toNat && c.toNat ≤ 0x200a)

/-- `s.strip()`. -/
def strip (s : String) : String :=
  .ofList ((s.toList.dropWhile isSpace).reverse.dropWhile isSpace).reverse

/-- `needle in hay`. -/
def isIn (needle hay : String) : Bool := needle.toList <:+: hay.toList

/-- `s[:n]`. -/
def slice (s : String) (n : Nat) : String := .ofList (s.toList.take n)

/-- `repr(s)`, for a string of printable characters: in single quotes unless it holds one and no
double quote (U+0027, U+0022), with the quote and the backslash (U+005C) escaped. -/
def pyRepr (s : String) : String :=
  let q : Char := if .ofNat 0x27 ∈ s.toList ∧ .ofNat 0x22 ∉ s.toList then .ofNat 0x22 else .ofNat 0x27
  .ofList (q :: s.toList.flatMap (fun c => if c = q ∨ c = .ofNat 0x5c then [.ofNat 0x5c, c] else [c])
    ++ [q])

/-- The string a value holds when it is one Python takes as true: present and not empty. -/
def present (o : Option String) : Option String := o.filter (· ≠ "")

/-- `o or d`. -/
def orElse (o : Option String) (d : String) : String := (present o).getD d

/-- `o` is true in a condition. -/
def truthy (o : Option String) : Bool := (present o).isSome

@[simp] lemma present_none : present none = none := rfl

@[simp] lemma present_empty : present (some "") = none := rfl

lemma present_some {s : String} (ne : s ≠ "") : present (some s) = some s := by
  simp [present, Option.filter, ne]

lemma present_eq_some {o : Option String} {s : String} :
    present o = some s ↔ o = some s ∧ s ≠ "" := by
  cases o with
  | none => simp
  | some t =>
    simp only [present, Option.filter, decide_not, Bool.not_eq_eq_eq_not, Bool.not_true,
      decide_eq_false_iff_not, Option.ite_none_right_eq_some, Option.some.injEq]
    constructor
    · rintro ⟨ne, rfl⟩
      exact ⟨rfl, ne⟩
    · rintro ⟨rfl, ne⟩
      exact ⟨ne, rfl⟩

/-! ## Exceptions -/

/-- An exception of a storage engine: its class, its SQLSTATE when it has one, and its text. -/
structure StoreExc where
  typeName : String
  sqlstate : Option String := none
  text : String
  deriving DecidableEq

/-- The exceptions of the modelled functions, by class. -/
inductive Exn where
  | ValueError (msg : String)
  | UnknownBindingVersion (msg : String)
  | ChainForkError (msg : String)
  | AuditStoreFull (msg : String)
  | RuntimeError (msg : String)
  | ContentPurged (msg : String)
  | PurgeRefused (msg : String)
  | RetentionConfigRefused (msg : String)
  | Store (exc : StoreExc)
  | Other (typeName text : String)
  deriving DecidableEq

/-- Where a step returned, what follows goes on with what it returned. -/
lemma ok_bind {α β : Type} (a : α) (f : α → Except Exn β) : (Except.ok a >>= f) = f a := rfl

/-- The environment variables of the process. -/
abbrev Environ := String → Option String

end Custos
