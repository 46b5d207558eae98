import DebugTypes.Decoding.Recipe

/-!
# The nodes of a type that have a record of their own

A function node has a record in the section of functions, for its parameters.  A struct, union or
enum inside another type has one in the section of unnamed types.

## Main definitions

* `CType.nodes place t` — how many nodes of `t` stand for a record of the section.
* `CType.memberNodes place ms` — the same for the types of members.
* `CType.nestedNodes place types` — the same for what stands inside named types.
-/

namespace DebugTypes.CType

mutual

/-- The number of nodes of a type that have a record in the section. -/
def nodes (place : Section) : CType → Nat
  | primitive _ => 0
  | pointer t => nodes place t
  | array t _ => nodes place t
  | struct ms => memberNodes place ms + if place = .unnamed then 1 else 0
  | union ms => memberNodes place ms + if place = .unnamed then 1 else 0
  | enum _ => if place = .unnamed then 1 else 0
  | function t _ ps =>
    nodes place t + (parameterNodes place ps + if place = .functions then 1 else 0)
  | bitField t _ => nodes place t
  | qualified t _ => nodes place t
  | named _ => 0

/-- The number of such nodes in the types of members. -/
def memberNodes (place : Section) : List (String × CType) → Nat
  | [] => 0
  | (_, t) :: ms => nodes place t + memberNodes place ms

/-- The number of such nodes in the types of parameters. -/
def parameterNodes (place : Section) : List CType → Nat
  | [] => 0
  | t :: ts => nodes place t + parameterNodes place ts

end

/-- The members of a struct or union. -/
def members : CType → List (String × CType)
  | struct ms => ms
  | union ms => ms
  | _ => []

/-- The number of such nodes inside a list of named types. -/
def nestedNodes (place : Section) : List (String × CType) → Nat
  | [] => 0
  | (_, t) :: types => memberNodes place t.members + nestedNodes place types

end DebugTypes.CType
