import DebugTypes.Decoding.Recipe
import DebugTypes.Descriptor

/-!
# What a record says

Each kind of record has a recipe.  A struct or union lists members, an enum lists constants, and a
member or parameter has a base, then qualifiers, then a wrap chain.  The order of requests follows
the order in which a reader meets the ids: a base before the chain around it, the operators of a
chain from left to right, and members one after the other.

## Main definitions

* `Record.type` — the type that a member or parameter describes.
* `Record.member` — the type of a member, which may be a bit-field.
* `Record.group` — the struct, union or enum that a record describes.
* `Record.parameters` — the parameter types of a function record.
* `Record.content` — what a record that was asked for stands for.
-/

namespace DebugTypes.Record

/-- The type that a base descriptor stands for. -/
def base (text : String) : Recipe CType := do
  match ← Recipe.ofExcept (Base.ofText text) with
  | .primitive p => pure (.primitive p)
  | .named n => pure (.named n)
  | .unnamed id => Recipe.askUnnamed id

/-- The type `t` inside the operators that `tokens` spell; `text` is the whole chain, for errors. -/
def wrapTokens (text : String) : List String → CType → Recipe CType
  | [], t => pure t
  | token :: rest, t =>
    match WrapOperator.ofToken token, rest with
    | .pointer, rest => wrapTokens text rest (.pointer t)
    | _, [] => .fail (.malformedDescriptor text .missingOperand)
    | .array, operand :: rest => do
      let length ← Recipe.ofExcept (readInteger UInt64 "wrap" operand)
      wrapTokens text rest (.array t length)
    | .function convention, operand :: rest => do
      let id ← Recipe.ofExcept (readInteger UInt32 "wrap" operand)
      let parameters ← Recipe.askParameters id
      wrapTokens text rest (.function t convention parameters)

/-- The type `t` inside a wrap chain. -/
def wrap (text : String) (t : CType) : Recipe CType :=
  let tokens := Text.wordsOf text
  if wrapLimit < tokens.length then .fail (.malformedDescriptor text .tooLong)
  else wrapTokens text tokens t

/-- The type `t` with the qualifiers of a record; without a qualifier list it stays as it is. -/
def qualify (record : Element) (t : CType) : Recipe CType :=
  match record.attribute? "attr" with
  | none => pure t
  | some text => do pure (.qualified t (← Recipe.ofExcept (readQualifiers text)))

/-- The type that a member or parameter describes; `wrapped` says whether a wrap chain counts. -/
def type (record : Element) (wrapped : Bool) : Recipe CType := do
  let t ← base (← Recipe.ofExcept (record.required "base"))
  let t ← qualify record t
  match if wrapped then record.attribute? "wrap" else none with
  | none => pure t
  | some text => wrap text t

/-- The type of a struct or union member.  A bit-field has a width and no wrap chain. -/
def member (record : Element) : Recipe CType :=
  if record.tag == "bit-field" then do
    let t ← type record false
    let width ← Recipe.ofExcept (record.integer UInt32 "len")
    pure (.bitField t width)
  else type record true

/-- A member with its name, which is read first. -/
def namedMember (record : Element) : Recipe (String × CType) := do
  let name ← Recipe.ofExcept (record.required "name")
  let t ← member record
  pure (name, t)

/-- A constant of an enum: its name and the literal of its value. -/
def constant (record : Element) : Except ReadError (String × String) := do
  let name ← record.required "name"
  let literal ← record.required "val"
  pure (name, literal)

/-- The struct, union or enum that a record describes. -/
def group (record : Element) : Recipe CType :=
  match record.tag with
  | "enum" => do pure (.enum (← Recipe.ofExcept (record.children.mapM' constant)))
  | "struct" => do pure (.struct (← record.children.mapM' namedMember))
  | "union" => do pure (.union (← record.children.mapM' namedMember))
  | tag => .fail (.unknownToken .recordKinds tag)

/-- The parameter types of a function record. -/
def parameters (record : Element) : Recipe (List CType) :=
  record.children.mapM' fun parameter => type parameter true

/-- What a record of a section stands for. -/
def content : (place : Section) → Element → Recipe place.Answer
  | .functions => parameters
  | .unnamed => group

/-- A named type: its name, which is read first, and its struct, union or enum. -/
def namedGroup (record : Element) : Recipe (String × CType) := do
  let name ← Recipe.ofExcept (record.required "name")
  let t ← group record
  pure (name, t)

end DebugTypes.Record
