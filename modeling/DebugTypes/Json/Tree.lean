import DebugTypes.Json.Token

/-!
# From tokens to JSON values

Tokens nest to a value.  The arrays and objects that are open at a token are kept in a list, so
that reading goes once through the tokens however deep they nest.

## Main definitions

* `Open` — an array or object whose end has not come yet.
* `value?`, `field?`, `finish?` — what may come next: a value, a field of an object, or what follows
  a value.
* `parse?` — the value that a text holds.
-/

namespace DebugTypes.Json

/-- An array or object whose end has not come yet, with its finished parts, the last one first.  In
an object the name of the field being read comes with it. -/
inductive Open where
  | array (before : List Value)
  | object (before : List (Literal × Value)) (name : Literal)

mutual

/-- The value that tokens nest to, where a value comes next. -/
def value? (opened : List Open) : List Token → Option Value
  | .scalar s :: ts => finish? opened (.scalar s) ts
  | .openArray :: .closeArray :: ts => finish? opened (.array []) ts
  | .openArray :: ts => value? (.array [] :: opened) ts
  | .openObject :: .closeObject :: ts => finish? opened (.object []) ts
  | .openObject :: ts => field? opened [] ts
  | _ => none

/-- The value that tokens nest to, where a field of an object comes next. -/
def field? (opened : List Open) (before : List (Literal × Value)) : List Token → Option Value
  | .scalar (.string name) :: .colon :: ts => value? (.object before name :: opened) ts
  | _ => none

/-- The value that tokens nest to, where the value `v` has just been read. -/
def finish? : List Open → Value → List Token → Option Value
  | [], v, [] => some v
  | .array before :: opened, v, .comma :: ts => value? (.array (v :: before) :: opened) ts
  | .array before :: opened, v, .closeArray :: ts =>
    finish? opened (.array (v :: before).reverse) ts
  | .object before name :: opened, v, .comma :: ts => field? opened ((name, v) :: before) ts
  | .object before name :: opened, v, .closeObject :: ts =>
    finish? opened (.object ((name, v) :: before).reverse) ts
  | _, _, _ => none

end

/-- The value that a text holds. -/
def parse? (text : String) : Option Value := (tokens? text.toList).bind (value? [])

end DebugTypes.Json
