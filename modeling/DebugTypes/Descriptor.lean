import DebugTypes.CType.Basic
import DebugTypes.Element

/-!
# Descriptors

A record describes its type by up to three attributes: a *base*, a list of qualifiers, and a *wrap
chain* whose operators wrap the type so far from left to right.  This module holds the vocabulary
of the three and the reading of a base and of qualifiers, which need no other record.

## Main definitions

* `Primitive.ofToken`, `Qualifier.ofToken` — the closed vocabularies.
* `Base`, `Base.ofText` — what a base descriptor says.
* `readQualifiers` — the set of a qualifier list.
* `WrapOperator` — the operators of wrap chains; every token is one.
* `wrapLimit` — the greatest number of tokens in a wrap chain.
-/

namespace DebugTypes

/-- The token for a scalar type. -/
def Primitive.token : Primitive → String
  | void => "VOID"
  | wideChar => "WCHAR"
  | char => "CHAR"
  | unsignedChar => "UCHAR"
  | short => "SHORT"
  | unsignedShort => "USHORT"
  | int => "INT"
  | unsignedInt => "UINT"
  | long => "LONG"
  | unsignedLong => "ULONG"
  | longLong => "LONGLONG"
  | unsignedLongLong => "ULONGLONG"
  | float => "FLOAT"
  | double => "DOUBLE"

/-- The scalar type that a token stands for. -/
def Primitive.ofToken (token : String) : Except ReadError Primitive :=
  match all.find? fun p => p.token == token with
  | some p => .ok p
  | none => .error (.unknownToken .primitiveTypes token)

@[simp] theorem Primitive.ofToken_token (p : Primitive) : ofToken p.token = .ok p := by
  cases p <;> rfl

/-- The token for a qualifier. -/
def Qualifier.token : Qualifier → String
  | const => "CONST"
  | volatile => "VOLATILE"
  | unaligned => "UNALIGNED"

/-- The qualifier that a token stands for. -/
def Qualifier.ofToken (token : String) : Except ReadError Qualifier :=
  match all.find? fun q => q.token == token with
  | some q => .ok q
  | none => .error (.unknownToken .qualifiers token)

@[simp] theorem Qualifier.ofToken_token (q : Qualifier) : ofToken q.token = .ok q := by
  cases q <;> rfl

/-- The set of a list of qualifier tokens; order and repetitions do not matter. -/
def readQualifiers (text : String) : Except ReadError Qualifiers :=
  ((Text.wordsOf text).mapM' Qualifier.ofToken).map Qualifiers.ofList

/-- What a base descriptor says. -/
inductive Base where
  | primitive (scalar : Primitive)
  | named (name : String)
  | unnamed (id : UInt32)
  deriving DecidableEq, Repr

/-- The base that a descriptor says: a dot before a scalar's token, a dollar sign before a name, or
any other character before the id of an unnamed record. -/
def Base.ofText (text : String) : Except ReadError Base :=
  match text.toList with
  | [] => .error (.malformedDescriptor text .emptyBase)
  | '.' :: token => (Primitive.ofToken (String.ofList token)).map primitive
  | '$' :: [] => .error (.malformedDescriptor text .emptyName)
  | '$' :: name => .ok (named (String.ofList name))
  | _ :: id => (readInteger UInt32 "base" (String.ofList id)).map unnamed

/-- An operator of a wrap chain. -/
inductive WrapOperator where
  | pointer
  | array
  | function (convention : Convention)
  deriving DecidableEq, Repr

namespace WrapOperator

/-- The operator that a token stands for: any token but three is a function of the default
convention. -/
def ofToken (token : String) : WrapOperator :=
  if token == "a" then array
  else if token == "p" then pointer
  else if token == "F" then function .stdcall
  else function .default

/-- The number of operands that follow an operator. -/
def operands : WrapOperator → Nat
  | pointer => 0
  | array => 1
  | function _ => 1

end WrapOperator

/-- The greatest number of tokens in a wrap chain, which bounds how deep one chain nests. -/
def wrapLimit : Nat := 1024

end DebugTypes
