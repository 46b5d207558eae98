/-!
# C types

The type language of the library.  Structs and unions keep their members in declaration order,
pointers, arrays and functions wrap one inner type, and a reference to another named type stays a
name: a catalog looks it up later.

## Main definitions

* `Primitive` — the scalar types.
* `Qualifier`, `Qualifiers` — the qualifiers and the sets of them.
* `Convention` — calling conventions of functions.
* `CType` — the types.
* `CType.kind` — the outermost constructor of a type.
-/

namespace DebugTypes

/-- The scalar types of C. -/
inductive Primitive where
  | void
  | wideChar
  | char
  | unsignedChar
  | short
  | unsignedShort
  | int
  | unsignedInt
  | long
  | unsignedLong
  | longLong
  | unsignedLongLong
  | float
  | double
  deriving DecidableEq, Repr, Inhabited

namespace Primitive

/-- Every scalar type, each once. -/
def all : List Primitive :=
  [void, wideChar, char, unsignedChar, short, unsignedShort, int, unsignedInt, long, unsignedLong,
    longLong, unsignedLongLong, float, double]

theorem mem_all (p : Primitive) : p ∈ all := by cases p <;> decide

/-- The C spelling of a scalar type. -/
def spelling : Primitive → String
  | void => "void"
  | wideChar => "wchar_t"
  | char => "char"
  | unsignedChar => "unsigned char"
  | short => "short"
  | unsignedShort => "unsigned short"
  | int => "int"
  | unsignedInt => "unsigned int"
  | long => "long"
  | unsignedLong => "unsigned long"
  | longLong => "long long"
  | unsignedLongLong => "unsigned long long"
  | float => "float"
  | double => "double"

end Primitive

/-- A type qualifier. -/
inductive Qualifier where
  | const
  | volatile
  | unaligned
  deriving DecidableEq, Repr, Inhabited

namespace Qualifier

/-- Every qualifier, in the order in which sets of them are written. -/
def all : List Qualifier := [const, volatile, unaligned]

theorem mem_all (q : Qualifier) : q ∈ all := by cases q <;> decide

/-- The C spelling of a qualifier. -/
def spelling : Qualifier → String
  | const => "const"
  | volatile => "volatile"
  | unaligned => "__unaligned"

end Qualifier

/-- A set of qualifiers, held as one membership flag for each. -/
structure Qualifiers where
  const : Bool := false
  volatile : Bool := false
  unaligned : Bool := false
  deriving DecidableEq, Repr, Inhabited

namespace Qualifiers

/-- The set without members. -/
def empty : Qualifiers := {}

/-- Membership in a set of qualifiers. -/
def has (s : Qualifiers) : Qualifier → Bool
  | .const => s.const
  | .volatile => s.volatile
  | .unaligned => s.unaligned

/-- The set with one more member; a second insertion changes nothing. -/
def insert (s : Qualifiers) : Qualifier → Qualifiers
  | .const => { s with const := true }
  | .volatile => { s with volatile := true }
  | .unaligned => { s with unaligned := true }

/-- The set of the qualifiers in a list. -/
def ofList (qs : List Qualifier) : Qualifiers := qs.foldl insert empty

/-- The members in the order of `Qualifier.all`, each once. -/
def toList (s : Qualifiers) : List Qualifier := Qualifier.all.filter s.has

@[ext] theorem ext_has {s t : Qualifiers} (h : ∀ q, s.has q = t.has q) : s = t := by
  cases s; cases t
  have hc := h .const
  have hv := h .volatile
  have hu := h .unaligned
  simp_all [has]

@[simp] theorem has_empty (q : Qualifier) : empty.has q = false := by cases q <;> rfl

@[simp] theorem has_insert (s : Qualifiers) (p q : Qualifier) :
    (s.insert p).has q = (decide (q = p) || s.has q) := by
  cases p <;> cases q <;> simp [insert, has]

theorem has_foldl_insert (qs : List Qualifier) (s : Qualifiers) (q : Qualifier) :
    (qs.foldl insert s).has q = (qs.contains q || s.has q) := by
  induction qs generalizing s with
  | nil => simp
  | cons p qs ih =>
    rw [List.foldl_cons, ih]
    by_cases h : q = p <;> simp [h]

@[simp] theorem has_ofList (qs : List Qualifier) (q : Qualifier) :
    (ofList qs).has q = qs.contains q := by simp [ofList, has_foldl_insert]

@[simp] theorem mem_toList {s : Qualifiers} {q : Qualifier} :
    q ∈ s.toList ↔ s.has q = true := by simp [toList, Qualifier.mem_all]

/-- A set is recovered from the list of its members. -/
@[simp] theorem ofList_toList (s : Qualifiers) : ofList s.toList = s := by
  ext q
  simp [List.contains_eq_mem]

end Qualifiers

/-- The calling convention of a function. -/
inductive Convention where
  | default
  | stdcall
  deriving DecidableEq, Repr, Inhabited

namespace Convention

/-- The keyword in front of a declarator; the default convention has none. -/
def keyword? : Convention → Option String
  | default => none
  | stdcall => some "__stdcall"

end Convention

/-- A C type.  Members of a struct or union are pairs of a name and a type, constants of an enum
pairs of a name and the literal text of the value. -/
inductive CType where
  | primitive (scalar : Primitive)
  | pointer (target : CType)
  | array (element : CType) (length : UInt64)
  | struct (members : List (String × CType))
  | union (members : List (String × CType))
  | enum (constants : List (String × String))
  | function (result : CType) (convention : Convention) (parameters : List CType)
  | bitField (base : CType) (width : UInt32)
  | qualified (base : CType) (qualifiers : Qualifiers)
  | named (name : String)
  deriving Repr, Inhabited

namespace CType

/-- The outermost constructor of a type. -/
inductive Kind where
  | primitive
  | pointer
  | array
  | struct
  | union
  | enum
  | function
  | bitField
  | qualified
  | named
  deriving DecidableEq, Repr

namespace Kind

/-- Every kind, each once. -/
def all : List Kind :=
  [primitive, pointer, array, struct, union, enum, function, bitField, qualified, named]

theorem mem_all (k : Kind) : k ∈ all := by cases k <;> decide

/-- The word for a kind in listings and messages. -/
def label : Kind → String
  | primitive => "primitive"
  | pointer => "pointer"
  | array => "array"
  | struct => "struct"
  | union => "union"
  | enum => "enum"
  | function => "function"
  | bitField => "bit-field"
  | qualified => "attributed"
  | named => "named"

end Kind

/-- The kind of a type. -/
def kind : CType → Kind
  | primitive _ => .primitive
  | pointer _ => .pointer
  | array _ _ => .array
  | struct _ => .struct
  | union _ => .union
  | enum _ => .enum
  | function _ _ _ => .function
  | bitField _ _ => .bitField
  | qualified _ _ => .qualified
  | named _ => .named

/-- A pointer type. -/
def isPointer (t : CType) : Bool := t.kind == .pointer

/-- A struct type. -/
def isStruct (t : CType) : Bool := t.kind == .struct

/-- A struct, union or enum type. -/
def isComposite (t : CType) : Bool := t.kind == .struct || t.kind == .union || t.kind == .enum

/-- A reference to a named type. -/
def isNamed (t : CType) : Bool := t.kind == .named

/-- The type of the first member with the given name. -/
def member? (members : List (String × CType)) (name : String) : Option CType :=
  (members.find? fun m => m.1 == name).map Prod.snd

/-! ## Equality

Types are compared constructor by constructor; member lists in order. -/

mutual

/-- Equality of types. -/
def equal : CType → CType → Bool
  | primitive p, primitive q => p == q
  | pointer t, pointer u => equal t u
  | array t n, array u m => equal t u && n == m
  | struct ms, struct ns => equalMembers ms ns
  | union ms, union ns => equalMembers ms ns
  | enum cs, enum ds => cs == ds
  | function t c ps, function u d qs => equal t u && c == d && equalList ps qs
  | bitField t n, bitField u m => equal t u && n == m
  | qualified t q, qualified u r => equal t u && q == r
  | named a, named b => a == b
  | _, _ => false

/-- Equality of member lists. -/
def equalMembers : List (String × CType) → List (String × CType) → Bool
  | [], [] => true
  | (a, t) :: ms, (b, u) :: ns => a == b && equal t u && equalMembers ms ns
  | _, _ => false

/-- Equality of parameter lists. -/
def equalList : List CType → List CType → Bool
  | [], [] => true
  | t :: ts, u :: us => equal t u && equalList ts us
  | _, _ => false

end

mutual

theorem equal_iff : ∀ (t u : CType), equal t u = true ↔ t = u
  | primitive _, u => by cases u <;> simp [equal]
  | pointer t, u => by cases u <;> simp [equal, equal_iff t]
  | array t _, u => by cases u <;> simp [equal, equal_iff t]
  | struct ms, u => by cases u <;> simp [equal, equalMembers_iff ms]
  | union ms, u => by cases u <;> simp [equal, equalMembers_iff ms]
  | enum _, u => by cases u <;> simp [equal]
  | function t _ ps, u => by
    cases u <;> simp [equal, equal_iff t, equalList_iff ps, and_assoc]
  | bitField t _, u => by cases u <;> simp [equal, equal_iff t]
  | qualified t _, u => by cases u <;> simp [equal, equal_iff t]
  | named _, u => by cases u <;> simp [equal]

theorem equalMembers_iff : ∀ (ms ns : List (String × CType)), equalMembers ms ns = true ↔ ms = ns
  | [], ns => by cases ns <;> simp [equalMembers]
  | (a, t) :: ms, [] => by simp [equalMembers]
  | (a, t) :: ms, (b, u) :: ns => by
    simp [equalMembers, equal_iff t, equalMembers_iff ms]

theorem equalList_iff : ∀ (ts us : List CType), equalList ts us = true ↔ ts = us
  | [], us => by cases us <;> simp [equalList]
  | t :: ts, [] => by simp [equalList]
  | t :: ts, u :: us => by simp [equalList, equal_iff t, equalList_iff ts]

end

instance : DecidableEq CType := fun _ _ => decidable_of_iff _ (equal_iff _ _)

end CType

end DebugTypes
