import DebugTypes.Catalog.Basic
import DebugTypes.CType.Declaration

/-!
# Definitions of named types

The definition of a struct or union is a block with one line for each member.  A member that is
itself an anonymous struct or union is written out as a block inside, four spaces further in; every
other member is its declaration.  An enum lists its constants, and any other type is a `typedef`.

## Main definitions

* `Catalog.definition` — the text that defines a stored type.
-/

namespace DebugTypes

/-- The blanks in front of a line `depth` blocks deep. -/
def indentation (depth : Nat) : String := String.ofList (List.replicate (4 * depth) ' ')

/-- A block of lines after a heading, closed at the depth of its first line. -/
def block (heading : String) (depth : Nat) (lines : String) : String :=
  heading ++ " \x7b\n" ++ lines ++ indentation depth ++ "\x7d"

namespace CType

mutual

/-- The line or lines of a member without the blanks in front, in a block `depth` deep. -/
def memberLine (depth : Nat) (name : String) : CType → String
  | struct ms => block "struct" depth (memberLines (depth + 1) ms) ++ " " ++ name ++ ";\n"
  | union ms => block "union" depth (memberLines (depth + 1) ms) ++ " " ++ name ++ ";\n"
  | t => t.declare name ++ ";\n"

/-- The lines of members that stand `depth` blocks deep. -/
def memberLines (depth : Nat) : List (String × CType) → String
  | [] => ""
  | (name, t) :: ms => indentation depth ++ memberLine depth name t ++ memberLines depth ms

end

/-- The lines of enum constants. -/
def constantLines : List (String × String) → String
  | [] => ""
  | (name, literal) :: cs =>
    indentation 1 ++ name ++ " = " ++ literal ++ ",\n" ++ constantLines cs

/-- The text that defines a type under a name. -/
def definition (t : CType) (name : String) : String :=
  match t with
  | struct ms => block ("struct " ++ name) 0 (memberLines 1 ms) ++ ";"
  | union ms => block ("union " ++ name) 0 (memberLines 1 ms) ++ ";"
  | enum cs => block ("enum " ++ name) 0 (constantLines cs) ++ ";"
  | t => "typedef " ++ t.declare name ++ ";"

end CType

/-- The text that defines a stored type; for a name without an entry, a comment that says so. -/
def Catalog.definition (c : Catalog) (name : String) : String :=
  match c.get? name with
  | some t => t.definition name
  | none => "// Unknown type: " ++ name

end DebugTypes
