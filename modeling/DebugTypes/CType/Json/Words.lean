import DebugTypes.CType.Basic

/-!
# Words for types in JSON

The closed sets of a type are written as words: its kind, scalar types, qualifiers and calling
conventions.  Every word reads back.

## Main definitions

* `CType.Kind.word`, `Primitive.word`, `Qualifier.word`, `Convention.word` — the words.
* `ofWord?` of each — what a word stands for.
-/

namespace DebugTypes

/-- The word for a scalar type. -/
def Primitive.word : Primitive → String
  | void => "void"
  | wideChar => "w_char"
  | char => "char"
  | unsignedChar => "u_char"
  | short => "short"
  | unsignedShort => "u_short"
  | int => "int"
  | unsignedInt => "u_int"
  | long => "long"
  | unsignedLong => "u_long"
  | longLong => "long_long"
  | unsignedLongLong => "u_long_long"
  | float => "float"
  | double => "double"

/-- The scalar type of a word. -/
def Primitive.ofWord? (word : String) : Option Primitive := all.find? fun p => p.word == word

@[simp] theorem Primitive.ofWord?_word (p : Primitive) : ofWord? p.word = some p := by
  cases p <;> rfl

/-- The word for a qualifier. -/
def Qualifier.word : Qualifier → String
  | const => "const"
  | volatile => "volatile"
  | unaligned => "unaligned"

/-- The qualifier of a word. -/
def Qualifier.ofWord? (word : String) : Option Qualifier := all.find? fun q => q.word == word

@[simp] theorem Qualifier.ofWord?_word (q : Qualifier) : ofWord? q.word = some q := by
  cases q <;> rfl

/-- The word for a calling convention. -/
def Convention.word : Convention → String
  | default => "default"
  | stdcall => "stdcall"

/-- The calling convention of a word. -/
def Convention.ofWord? (word : String) : Option Convention :=
  [default, stdcall].find? fun c => c.word == word

@[simp] theorem Convention.ofWord?_word (c : Convention) : ofWord? c.word = some c := by
  cases c <;> rfl

namespace CType

/-- The field name for a kind of type. -/
def Kind.word : Kind → String
  | primitive => "primitive"
  | pointer => "pointer"
  | array => "array"
  | struct => "struct"
  | union => "union"
  | enum => "enum"
  | function => "function"
  | bitField => "bit_field"
  | qualified => "attributed"
  | named => "named"

/-- The kind of type of a field name. -/
def Kind.ofWord? (word : String) : Option Kind := all.find? fun k => k.word == word

@[simp] theorem Kind.ofWord?_word (k : Kind) : ofWord? k.word = some k := by
  cases k <;> rfl

end CType

end DebugTypes
