import DebugTypes.Json.Value

/-!
# Writing JSON

A value is written with one item or field to a line, two spaces further in for each array or object
around it.  Inside strings only quotes, backslashes and control characters are escaped.

## Main definitions

* `pretty v` — the text of a value.
-/

namespace DebugTypes.Json

/-- The hexadecimal digit for a number below sixteen. -/
def hexDigit (n : Nat) : Char :=
  if n < 10 then Char.ofNat ('0'.toNat + n) else Char.ofNat ('a'.toNat + (n - 10))

/-- How a character is written inside a string literal. -/
def escaped (c : Char) : List Char :=
  if c = '"' then ['\\', '"']
  else if c = '\\' then ['\\', '\\']
  else if c = '\x08' then ['\\', 'b']
  else if c = '\x0c' then ['\\', 'f']
  else if c = '\n' then ['\\', 'n']
  else if c = '\r' then ['\\', 'r']
  else if c = '\t' then ['\\', 't']
  else if c.toNat < 0x20 then
    ['\\', 'u', '0', '0', hexDigit (c.toNat / 16), hexDigit (c.toNat % 16)]
  else [c]

/-- A string literal. -/
def Literal.pretty : Literal → String
  | text s => String.ofList ('"' :: s.toList.flatMap escaped ++ ['"'])
  | unpaired source => "\"" ++ source ++ "\""

/-- A value without parts. -/
def Scalar.pretty : Scalar → String
  | null => "null"
  | bool true => "true"
  | bool false => "false"
  | natural n => toString n
  | number literal => literal
  | string s => s.pretty

/-- A line break, and the blanks in front of a line inside `depth` arrays and objects. -/
def lineBreak (depth : Nat) : String := String.ofList ('\n' :: List.replicate (2 * depth) ' ')

mutual

/-- The text of a value inside `depth` arrays and objects. -/
def prettyAt (depth : Nat) : Value → String
  | .scalar s => s.pretty
  | .array [] => "[]"
  | .array (v :: vs) =>
    "[" ++ lineBreak (depth + 1) ++ prettyAt (depth + 1) v ++ prettyItems (depth + 1) vs ++
      lineBreak depth ++ "]"
  | .object [] => "\x7b\x7d"
  | .object ((name, v) :: fields) =>
    "\x7b" ++ lineBreak (depth + 1) ++ name.pretty ++ ": " ++ prettyAt (depth + 1) v ++
      prettyFields (depth + 1) fields ++ lineBreak depth ++ "\x7d"

/-- The texts of items after the first, each after a comma. -/
def prettyItems (depth : Nat) : List Value → String
  | [] => ""
  | v :: vs => "," ++ lineBreak depth ++ prettyAt depth v ++ prettyItems depth vs

/-- The texts of fields after the first, each after a comma. -/
def prettyFields (depth : Nat) : List (Literal × Value) → String
  | [] => ""
  | (name, v) :: fields =>
    "," ++ lineBreak depth ++ name.pretty ++ ": " ++ prettyAt depth v ++
      prettyFields depth fields

end

/-- The text of a value. -/
def pretty (v : Value) : String := prettyAt 0 v

end DebugTypes.Json
