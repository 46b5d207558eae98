import DebugTypes.Text.Hidden

/-!
# Quoted text

Error messages show text from a document in double quotes, so that blanks and invisible characters
can be told apart.  Inside the quotes a backslash starts an escape: the quote and the backslash
themselves, the short forms `\t`, `\r`, `\n` and `\0`, and the code point in hexadecimal for every
other hidden character.

## Main definitions

* `quoted s` — the text `s` in quotes.
-/

namespace DebugTypes.Text

/-- The lowercase hexadecimal digits of a number, without leading zeros. -/
def hexDigits (n : Nat) : List Char := Nat.toDigits 16 n

/-- How one character is written between the quotes. -/
def escaped (c : Char) : List Char :=
  if c = '"' ∨ c = '\\' then ['\\', c]
  else if c = '\t' then ['\\', 't']
  else if c = '\r' then ['\\', 'r']
  else if c = '\n' then ['\\', 'n']
  else if c = '\x00' then ['\\', '0']
  else if isHidden c then ['\\', 'u', '{'] ++ hexDigits c.toNat ++ ['}']
  else [c]

/-- A text in double quotes, with an escape for every character that does not show as itself. -/
def quoted (s : String) : String :=
  String.ofList ('"' :: s.toList.flatMap escaped ++ ['"'])

end DebugTypes.Text
