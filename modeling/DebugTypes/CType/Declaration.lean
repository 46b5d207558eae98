import DebugTypes.CType.Basic

/-!
# C declarations

A declaration puts the name it declares in the middle: `int (*f)(void)` declares `f`.  It is built
from the inside out.  A *declarator* starts as the name and takes on the syntax of each wrapper on
the way to the innermost type, whose specifier goes in front.

Anonymous structs, unions and enums are abbreviated here; `Catalog.definition` writes the members
of the outer ones out.

## Main definitions

* `CType.declare t d` — the declaration that gives the declarator `d` the type `t`; with an empty
  declarator it is the type's own text.
-/

namespace DebugTypes

/-- A specifier in front of a declarator, with a space only between two texts that are not
empty. -/
def specify (specifier declarator : String) : String :=
  if declarator.isEmpty then specifier
  else if specifier.isEmpty then declarator
  else specifier ++ " " ++ declarator

/-- A declarator in parentheses. -/
def parenthesise (declarator : String) : String := "(" ++ declarator ++ ")"

/-- The spellings of a set of qualifiers, separated by spaces. -/
def Qualifiers.spelling (s : Qualifiers) : String :=
  " ".intercalate (s.toList.map Qualifier.spelling)

/-- The declarator of a function with its convention's keyword in front. -/
def Convention.mark (c : Convention) (declarator : String) : String :=
  specify (c.keyword?.getD "") declarator

/-- The parenthesised list of parameters; an empty list is written `void`. -/
def parameterList (parameters : List String) : String :=
  parenthesise (if parameters.isEmpty then "void" else ", ".intercalate parameters)

namespace CType

/-- A type whose declarator binds tighter than a pointer's star, so that the star needs
parentheses: an array, or an array with qualifiers, which belong to its elements. -/
def bindsTighter : CType → Bool
  | array _ _ => true
  | qualified (array _ _) _ => true
  | _ => false

mutual

/-- The declaration that gives a declarator the type. -/
def declare : CType → String → String
  | primitive p, d => specify p.spelling d
  | named n, d => specify n d
  | struct _, d => specify "struct \x7b ... \x7d" d
  | union _, d => specify "union \x7b ... \x7d" d
  | enum _, d => specify "enum \x7b ... \x7d" d
  | pointer (function result c ps), d =>
    -- the keyword of a convention stands inside the parentheses: `(__stdcall *f)(void)`
    declare result (parenthesise (c.mark ("*" ++ d)) ++ parameterList (declareAll ps))
  | pointer t, d => declare t (if t.bindsTighter then parenthesise ("*" ++ d) else "*" ++ d)
  | array t n, d => declare t (d ++ "[" ++ toString n.toNat ++ "]")
  | function result c ps, d => declare result (c.mark d ++ parameterList (declareAll ps))
  | bitField t n, d => declare t d ++ " : " ++ toString n.toNat
  | qualified t q, d =>
    -- qualifiers of a pointer belong to the declarator: `int *const p`
    if t.isPointer then declare t (specify q.spelling d) else specify q.spelling (declare t d)

/-- The declarations of types without a name. -/
def declareAll : List CType → List String
  | [] => []
  | t :: ts => declare t "" :: declareAll ts

end

theorem declareAll_eq_map (ts : List CType) : declareAll ts = ts.map fun t => declare t "" := by
  induction ts with
  | nil => rfl
  | cons t ts ih => rw [declareAll, ih, List.map_cons]

end CType

end DebugTypes
