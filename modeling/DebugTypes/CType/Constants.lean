import DebugTypes.Text.Integer
import DebugTypes.CType.Basic

/-!
# Values of enum constants

An enum keeps each constant's value as the literal text of the document.  A literal is decimal, or
hexadecimal after `0x` or `0X`, with at most one minus sign in front.  Its magnitude has to fit 64
unsigned bits; without a sign these bits are read as a signed number, and with one the value has to
be at least the least signed number.

## Main definitions

* `literalValue? s` — the value of a literal.
* `constantLiteral?`, `constantValue?`, `constantName?` — the look-ups in a list of constants.
-/

namespace DebugTypes

open Text

/-- The value of `value` followed by the hexadecimal digits of `cs`. -/
def hexDigitsFrom (value : Nat) : List Char → Option Nat
  | [] => some value
  | c :: cs => (hexDigit? c).bind fun d => hexDigitsFrom (16 * value + d) cs

/-- The value of a text that is one or more hexadecimal digits. -/
def hexDigits? : List Char → Option Nat
  | [] => none
  | cs => hexDigitsFrom 0 cs

/-- The magnitude of a literal without its minus sign.  A plus sign is allowed only between `0x`
and the digits. -/
def magnitude? : List Char → Option Nat
  | '0' :: 'x' :: '+' :: cs => hexDigits? cs
  | '0' :: 'X' :: '+' :: cs => hexDigits? cs
  | '0' :: 'x' :: cs => hexDigits? cs
  | '0' :: 'X' :: cs => hexDigits? cs
  | cs => digits? cs

/-- The value of a literal without surrounding blanks. -/
def signedLiteral? : List Char → Option Int64
  | '-' :: cs => do
    let m ← magnitude? cs
    if m ≤ 0x8000000000000000 then some (Int64.ofInt (-(m : Int))) else none
  | cs => do
    let m ← magnitude? cs
    if m < UInt64.size then some (Int64.ofInt m) else none

/-- The value of the literal of an enum constant. -/
def literalValue? (literal : String) : Option Int64 := signedLiteral? (trim literal.toList)

namespace CType

/-- The literal of the first constant with the given name. -/
def constantLiteral? (constants : List (String × String)) (name : String) : Option String :=
  (constants.find? fun c => c.1 == name).map Prod.snd

/-- The value of the first constant with the given name, if its literal has one. -/
def constantValue? (constants : List (String × String)) (name : String) : Option Int64 :=
  (constantLiteral? constants name).bind literalValue?

/-- The name of the first constant with the given value. -/
def constantName? (constants : List (String × String)) (value : Int64) : Option String :=
  (constants.find? fun c => literalValue? c.2 == some value).map Prod.fst

end CType

end DebugTypes
