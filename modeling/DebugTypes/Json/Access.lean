import DebugTypes.Json.Value

/-!
# Looking into JSON values

What a reader of values asks for is often a text, a number in range, the items of an array, or the
named parts of a body.  A body may be an object, where unknown fields are ignored and known ones may
not be repeated, or an array of exactly its parts in order.

## Main definitions

* `Value.text?`, `Value.below?`, `Value.items?` — values of one form.
* `Value.fields?` — the fields of an object, whose names have to be texts.
* `Value.parts?` — the parts of a body.
* `Value.only?` — the one field of an object.
* `Value.word?` — a word, given as a text or as the name of one field with a null value.
-/

namespace DebugTypes.Json

/-- The text of a string literal. -/
def Literal.text? : Literal → Option String
  | text s => some s
  | unpaired _ => none

namespace Value

/-- The text that a value is. -/
def text? : Value → Option String
  | scalar (.string s) => s.text?
  | _ => none

/-- The natural number below a bound that a value is. -/
def below? (bound : Nat) : Value → Option Nat
  | scalar (.natural n) => if n < bound then some n else none
  | _ => none

/-- The items of an array. -/
def items? : Value → Option (List Value)
  | array items => some items
  | _ => none

/-- The fields of an object, if all names are texts. -/
def fields? : Value → Option (List (String × Value))
  | object fields => fields.mapM' fun f => f.1.text?.map fun name => (name, f.2)
  | _ => none

/-- The value of the one field with a name. -/
def unique? (fields : List (String × Value)) (name : String) : Option Value :=
  match fields.filter fun f => f.1 == name with
  | [f] => some f.2
  | _ => none

/-- The parts of a body with the given names, in their order. -/
def parts? (names : List String) (v : Value) : Option (List Value) :=
  match v with
  | array items => if items.length = names.length then some items else none
  | v => v.fields?.bind fun fields => names.mapM' (unique? fields)

/-- The one field of an object. -/
def only? (v : Value) : Option (String × Value) :=
  match v.fields? with
  | some [f] => some f
  | _ => none

/-- The word that a value is.  An object is entered for it, which at most `levels` allow. -/
def word? (levels : Nat) (v : Value) : Option String :=
  match v.text?, levels, v.only? with
  | some s, _, _ => some s
  | none, _ + 1, some (name, .scalar .null) => some name
  | _, _, _ => none

end Value

end DebugTypes.Json
