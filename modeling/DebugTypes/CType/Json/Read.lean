import DebugTypes.CType.Json.Words
import DebugTypes.Json.Access

/-!
# Reading types from JSON

Reading is more liberal than writing: bodies and words have a second form, see
`Json.Value.parts?` and `Json.Value.word?`.  It is bounded by the number of arrays and objects that
are entered one inside the other; what is ignored does not count.

## Main definitions

* `CType.ofJson? levels` — the type that a value stands for, entering at most `levels` levels.
-/

namespace DebugTypes.CType

open Json (Value)

/-- The qualifiers in an array of their words. -/
def qualifiersOfJson? : Nat → Value → Option Qualifiers
  | 0, _ => none
  | n + 1, v => do
    let items ← v.items?
    let qs ← items.mapM' fun item => (item.word? n).bind Qualifier.ofWord?
    some (Qualifiers.ofList qs)

/-- The name and the literal of an enum constant, in an array of the two. -/
def constantOfJson? : Nat → Value → Option (String × String)
  | 0, _ => none
  | _ + 1, v =>
    match v.items? with
    | some [name, literal] => do some (← name.text?, ← literal.text?)
    | _ => none

/-- The constants of an enum in an array. -/
def constantsOfJson? : Nat → Value → Option (List (String × String))
  | 0, _ => none
  | n + 1, v => v.items?.bind fun items => items.mapM' (constantOfJson? n)

/-- The constants in the body of an enum. -/
def enumBody? : Nat → Value → Option (List (String × String))
  | 0, _ => none
  | n + 1, v =>
    match v.parts? ["values"] with
    | some [values] => constantsOfJson? n values
    | _ => none

mutual

/-- The type that a value stands for, entering at most the given number of levels. -/
def ofJson? : Nat → Value → Option CType
  | 0, _ => none
  | n + 1, v => do
    let (word, body) ← v.only?
    match ← Kind.ofWord? word with
    | .primitive => do some (primitive (← (body.word? n).bind Primitive.ofWord?))
    | .pointer => do some (pointer (← ofJson? n body))
    | .array => arrayBody? n body
    | .struct => do some (struct (← membersBody? "fields" "field_type" n body))
    | .union => do some (union (← membersBody? "members" "member_type" n body))
    | .enum => do some (enum (← enumBody? n body))
    | .function => functionBody? n body
    | .bitField => bitFieldBody? n body
    | .qualified => qualifiedBody? n body
    | .named => do some (named (← body.text?))

/-- The array type with the given body. -/
def arrayBody? : Nat → Value → Option CType
  | 0, _ => none
  | n + 1, v =>
    match v.parts? ["element", "length"] with
    | some [element, length] => do
      some (array (← ofJson? n element) (UInt64.ofNat (← length.below? UInt64.size)))
    | _ => none

/-- The members in a body whose one part has the given name. -/
def membersBody? (part field : String) : Nat → Value → Option (List (String × CType))
  | 0, _ => none
  | n + 1, v =>
    match v.parts? [part] with
    | some [members] => membersOfJson? field n members
    | _ => none

/-- The members in an array. -/
def membersOfJson? (field : String) : Nat → Value → Option (List (String × CType))
  | 0, _ => none
  | n + 1, v => do (← v.items?).mapM' (memberOfJson? field n)

/-- A member, whose type stands in a field of the given name. -/
def memberOfJson? (field : String) : Nat → Value → Option (String × CType)
  | 0, _ => none
  | n + 1, v =>
    match v.parts? ["name", field] with
    | some [name, t] => do some (← name.text?, ← ofJson? n t)
    | _ => none

/-- The function type with the given body. -/
def functionBody? : Nat → Value → Option CType
  | 0, _ => none
  | n + 1, v =>
    match v.parts? ["return_type", "convention", "parameters"] with
    | some [result, convention, parameters] => do
      some (function (← ofJson? n result) (← (convention.word? n).bind Convention.ofWord?)
        (← parametersOfJson? n parameters))
    | _ => none

/-- The parameters in an array. -/
def parametersOfJson? : Nat → Value → Option (List CType)
  | 0, _ => none
  | n + 1, v => do (← v.items?).mapM' (ofJson? n)

/-- The bit-field type with the given body. -/
def bitFieldBody? : Nat → Value → Option CType
  | 0, _ => none
  | n + 1, v =>
    match v.parts? ["base", "width"] with
    | some [base, width] => do
      some (bitField (← ofJson? n base) (UInt32.ofNat (← width.below? UInt32.size)))
    | _ => none

/-- The qualified type with the given body. -/
def qualifiedBody? : Nat → Value → Option CType
  | 0, _ => none
  | n + 1, v =>
    match v.parts? ["inner", "attrs"] with
    | some [inner, attrs] => do
      some (qualified (← ofJson? n inner) (← qualifiersOfJson? n attrs))
    | _ => none

end

end DebugTypes.CType
