import DebugTypes.Text.Blank

/-!
# Integers of fixed width in decimal text

A field that holds an integer is trimmed of blanks, may carry a `+` (and, where the type has
negative values, a `-`), and is then one or more ASCII digits.  Leading zeros do not matter, and a
value outside the type's range is refused: it never wraps to a valid one.

## Main definitions

* `digit?`, `hexDigit?` — the values of digits.
* `digits? cs` — the value of a text that is one or more ASCII digits.
* `FixedWidth α` — an integer type with its range.
* `integer? α s` — the value that the text `s` names in `α`.
-/

namespace DebugTypes.Text

/-- The value of an ASCII decimal digit. -/
def digit? (c : Char) : Option Nat :=
  if c.isDigit then some (c.toNat - '0'.toNat) else none

/-- The value of an ASCII hexadecimal digit of either case. -/
def hexDigit? (c : Char) : Option Nat :=
  if c.isDigit then some (c.toNat - '0'.toNat)
  else if 'a' ≤ c ∧ c ≤ 'f' then some (c.toNat - 'a'.toNat + 10)
  else if 'A' ≤ c ∧ c ≤ 'F' then some (c.toNat - 'A'.toNat + 10)
  else none

/-- The value of `value` followed by the digits of `cs`; nothing if `cs` holds anything else. -/
def digitsFrom (value : Nat) : List Char → Option Nat
  | [] => some value
  | c :: cs => (digit? c).bind fun d => digitsFrom (10 * value + d) cs

/-- The value of a text that is one or more ASCII digits, however many. -/
def digits? : List Char → Option Nat
  | [] => none
  | cs => digitsFrom 0 cs

/-- An integer type of fixed width: its least and greatest values, and its number for each
integer between them. -/
class FixedWidth (α : Type) where
  least : Int
  greatest : Int
  ofInt : Int → α

instance : FixedWidth UInt8 := ⟨0, 0xFF, fun n => UInt8.ofNat n.toNat⟩
instance : FixedWidth UInt32 := ⟨0, 0xFFFFFFFF, fun n => UInt32.ofNat n.toNat⟩
instance : FixedWidth UInt64 := ⟨0, 0xFFFFFFFFFFFFFFFF, fun n => UInt64.ofNat n.toNat⟩
instance : FixedWidth Int64 := ⟨-0x8000000000000000, 0x7FFFFFFFFFFFFFFF, Int64.ofInt⟩

/-- The member of `α` with the value `n`, if `n` is in range. -/
def FixedWidth.ofInt? (α : Type) [FixedWidth α] (n : Int) : Option α :=
  if least α ≤ n ∧ n ≤ greatest α then some (ofInt n) else none

/-- The integer that a text without surrounding blanks names; `signed` says whether it may start
with `-`. -/
def signedDigits? (signed : Bool) : List Char → Option Int
  | '+' :: cs => (digits? cs).map Int.ofNat
  | '-' :: cs => if signed then (digits? cs).map fun n => -(n : Int) else none
  | cs => (digits? cs).map Int.ofNat

/-- The integer of type `α` that a field names. -/
def integer? (α : Type) [FixedWidth α] (s : String) : Option α :=
  (signedDigits? (FixedWidth.least α < 0) (trim s.toList)).bind (FixedWidth.ofInt? α)

end DebugTypes.Text
