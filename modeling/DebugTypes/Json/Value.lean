/-!
# JSON values

The values of JSON as far as catalogs need them.  Only natural numbers are read as numbers; every
other number is kept as it was written.  A string is text unless an escape in it names one half of a
surrogate pair alone: such a string is allowed where nobody looks at it, and is kept as written too.

## Main definitions

* `Json.Literal`, `Json.Scalar`, `Json.Value` — strings, values without parts, and values.
-/

namespace DebugTypes.Json

/-- A string: text, or the inside of a string literal that names no text. -/
inductive Literal where
  | text (s : String)
  | unpaired (source : String)
  deriving DecidableEq, Repr

/-- A value without parts. -/
inductive Scalar where
  | null
  | bool (b : Bool)
  | natural (n : Nat)
  | number (literal : String)
  | string (s : Literal)
  deriving DecidableEq, Repr

/-- A value.  The fields of an object keep their order, and names may be repeated. -/
inductive Value where
  | scalar (s : Scalar)
  | array (items : List Value)
  | object (fields : List (Literal × Value))
  deriving Repr, Inhabited

namespace Value

/-- The value of a text. -/
def text (s : String) : Value := scalar (.string (.text s))

/-- The value of a natural number. -/
def natural (n : Nat) : Value := scalar (.natural n)

/-- The object with the given fields. -/
def record (fields : List (String × Value)) : Value :=
  object (fields.map fun f => (.text f.1, f.2))

end Value

end DebugTypes.Json
