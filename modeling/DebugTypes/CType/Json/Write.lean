import DebugTypes.CType.Json.Words
import DebugTypes.Json.Value

/-!
# Writing types as JSON

A type is written as an object with one field, named for the type's kind, whose value holds the
parts.

## Main definitions

* `CType.toJson` — the value that a type is written as.
-/

namespace DebugTypes.CType

open Json (Value)

/-- The value of an enum constant: the pair of its name and its literal. -/
def constantJson (c : String × String) : Value := .array [.text c.1, .text c.2]

/-- The value of a type of a kind with the given parts. -/
def kindJson (k : Kind) (body : Value) : Value := .record [(k.word, body)]

mutual

/-- The value that a type is written as. -/
def toJson : CType → Value
  | primitive p => kindJson .primitive (.text p.word)
  | pointer t => kindJson .pointer (toJson t)
  | array t n =>
    kindJson .array (.record [("element", toJson t), ("length", .natural n.toNat)])
  | struct ms => kindJson .struct (.record [("fields", .array (membersJson "field_type" ms))])
  | union ms => kindJson .union (.record [("members", .array (membersJson "member_type" ms))])
  | enum cs => kindJson .enum (.record [("values", .array (cs.map constantJson))])
  | function t c ps =>
    kindJson .function (.record [("return_type", toJson t), ("convention", .text c.word),
      ("parameters", .array (parametersJson ps))])
  | bitField t n => kindJson .bitField (.record [("base", toJson t), ("width", .natural n.toNat)])
  | qualified t q =>
    kindJson .qualified (.record [("inner", toJson t),
      ("attrs", .array (q.toList.map fun a => .text a.word))])
  | named n => kindJson .named (.text n)

/-- The values of members, whose types stand in a field of the given name. -/
def membersJson (field : String) : List (String × CType) → List Value
  | [] => []
  | (name, t) :: ms => .record [("name", .text name), (field, toJson t)] :: membersJson field ms

/-- The values of parameters. -/
def parametersJson : List CType → List Value
  | [] => []
  | t :: ts => toJson t :: parametersJson ts

end

end DebugTypes.CType
