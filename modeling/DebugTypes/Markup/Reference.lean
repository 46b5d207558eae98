import DebugTypes.Markup.Scan
import DebugTypes.Text.Integer

/-!
# References in text

In text and in attribute values an ampersand starts a reference: to a character by its number, to
one of five characters by a fixed name, or to an entity that the document declares.

## Main definitions

* `Piece` — a character or a reference.
* `pieces?` — the pieces of a text.
-/

namespace DebugTypes.Markup

open Text

/-- A part of a text: a character as it stands, a character that is referred to, or an entity. -/
inductive Piece where
  | plain (c : Char)
  | referred (c : Char)
  | entity (name : String)
  deriving DecidableEq, Repr

/-- The number that digits spell in a base. -/
def numeral (base : Nat) (digits : List Char) : Nat :=
  digits.foldl (fun n c => base * n + (hexDigit? c).getD 0) 0

/-- The character with a number.  A number of 32 bits that is no code point gives the replacement
character; a greater one, or a character that may not occur, gives nothing. -/
def numbered? (n : Nat) : Option Char :=
  if n < UInt32.size then
    let c := if n.isValidChar then Char.ofNat n else '\uFFFD'
    if isAllowed c then some c else none
  else none

/-- The character of a numeric reference in a base, and what follows its digits. -/
def numbered (base : Nat) (isDigit : Char → Bool) (cs : List Char) : Option (Piece × List Char) :=
  match cs.takeWhile isDigit with
  | [] => none
  | ds => (numbered? (numeral base ds)).map fun c => (.referred c, cs.dropWhile isDigit)

/-- The piece that a name between an ampersand and a semicolon stands for. -/
def named (name : String) : Piece :=
  if name = "quot" then .referred '"'
  else if name = "amp" then .referred '&'
  else if name = "apos" then .referred '\''
  else if name = "lt" then .referred '<'
  else if name = "gt" then .referred '>'
  else .entity name

/-- The inside of a reference, before its semicolon. -/
def referenceBody? : List Char → Option (Piece × List Char)
  | '#' :: 'x' :: cs => numbered 16 (fun c => (hexDigit? c).isSome) cs
  | '#' :: cs => numbered 10 Char.isDigit cs
  | cs => (name? cs).map fun p => (named (String.ofList p.1), p.2)

/-- A reference without its ampersand. -/
def reference? (cs : List Char) : Option (Piece × List Char) := do
  let (piece, rest) ← referenceBody? cs
  let rest ← after? [';'] rest
  some (piece, rest)

theorem length_numbered {base : Nat} {isDigit : Char → Bool} {cs rest : List Char} {piece : Piece}
    (h : numbered base isDigit cs = some (piece, rest)) : rest.length ≤ cs.length := by
  unfold numbered at h
  split at h
  · simp at h
  · simp only [Option.map_eq_some_iff, Prod.mk.injEq] at h
    obtain ⟨_, _, -, rfl⟩ := h
    exact length_dropWhile_le _ _

theorem length_referenceBody? {cs rest : List Char} {piece : Piece}
    (h : referenceBody? cs = some (piece, rest)) : rest.length ≤ cs.length := by
  unfold referenceBody? at h
  split at h
  · have := length_numbered h; simp only [List.length_cons]; omega
  · have := length_numbered h; simp only [List.length_cons]; omega
  · simp only [Option.map_eq_some_iff, Prod.mk.injEq] at h
    obtain ⟨⟨n, r⟩, hn, -, rfl⟩ := h
    exact Nat.le_of_lt (length_name? hn)

theorem length_reference? {cs rest : List Char} {piece : Piece}
    (h : reference? cs = some (piece, rest)) : rest.length ≤ cs.length := by
  simp only [reference?, Option.bind_eq_bind, Option.bind_eq_some_iff, Option.some.injEq,
    Prod.mk.injEq, Prod.exists] at h
  obtain ⟨p, r, hb, r', ha, -, rfl⟩ := h
  have := length_referenceBody? hb
  have := length_after? ha
  omega

/-- The pieces of a text, if every reference in it is well formed. -/
def pieces? : List Char → Option (List Piece)
  | [] => some []
  | c :: cs =>
    if c = '&' then
      match h : reference? cs with
      | none => none
      | some (piece, rest) =>
        have : rest.length ≤ cs.length := length_reference? h
        (pieces? rest).map (piece :: ·)
    else (pieces? cs).map (.plain c :: ·)
termination_by cs => cs.length

end DebugTypes.Markup
