import DebugTypes.Json.Value
import DebugTypes.Text.Integer

/-!
# Tokens of JSON

## Main definitions

* `Token` — brackets, braces, separators and scalars.
* `tokens?` — the tokens of a text, with the blanks between them dropped.
-/

namespace DebugTypes.Json

/-- A token. -/
inductive Token where
  | openArray
  | closeArray
  | openObject
  | closeObject
  | colon
  | comma
  | scalar (s : Scalar)
  deriving DecidableEq, Repr

/-- The characters that may stand between tokens. -/
def isBlank (c : Char) : Bool := c == ' ' || c == '\t' || c == '\n' || c == '\r'

/-- The number that four hexadecimal digits spell. -/
def hexQuad? (a b c d : Char) : Option Nat := do
  let a ← Text.hexDigit? a
  let b ← Text.hexDigit? b
  let c ← Text.hexDigit? c
  let d ← Text.hexDigit? d
  some (((a * 16 + b) * 16 + c) * 16 + d)

/-- The first half of a surrogate pair. -/
def isHighSurrogate (n : Nat) : Bool := 0xD800 ≤ n && n < 0xDC00

/-- The second half of a surrogate pair. -/
def isLowSurrogate (n : Nat) : Bool := 0xDC00 ≤ n && n < 0xE000

/-- The character that the two halves of a surrogate pair stand for. -/
def pairedCharacter (high low : Nat) : Char :=
  Char.ofNat (0x10000 + (high - 0xD800) * 0x400 + (low - 0xDC00))

/-- The character of an escape with one letter. -/
def shortEscape? (c : Char) : Option Char :=
  if c = '"' then some '"'
  else if c = '\\' then some '\\'
  else if c = '/' then some '/'
  else if c = 'b' then some '\x08'
  else if c = 'f' then some '\x0c'
  else if c = 'n' then some '\n'
  else if c = 'r' then some '\r'
  else if c = 't' then some '\t'
  else none

/-- A part of a string literal: a character, or one half of a surrogate pair. -/
inductive StringPart where
  | char (c : Char)
  | half (n : Nat)
  deriving DecidableEq, Repr

/-- The part that a numeric escape names. -/
def numericPart (n : Nat) : StringPart :=
  if isHighSurrogate n || isLowSurrogate n then .half n else .char (Char.ofNat n)

/-- The parts of a string literal whose opening quote has been read, and what follows its closing
quote. -/
def stringParts? : List Char → Option (List StringPart × List Char)
  | [] => none
  | '"' :: cs => some ([], cs)
  | '\\' :: 'u' :: a :: b :: c :: d :: cs => do
    let n ← hexQuad? a b c d
    let (parts, rest) ← stringParts? cs
    some (numericPart n :: parts, rest)
  | '\\' :: c :: cs => do
    let c ← shortEscape? c
    let (parts, rest) ← stringParts? cs
    some (.char c :: parts, rest)
  | c :: cs =>
    if c.toNat < 0x20 || c == '\\' then none
    else (stringParts? cs).map fun p => (.char c :: p.1, p.2)

/-- The characters that parts stand for, if every half has its other half next to it. -/
def characters? : List StringPart → Option (List Char)
  | [] => some []
  | .char c :: parts => (characters? parts).map (c :: ·)
  | .half high :: .half low :: parts =>
    if isHighSurrogate high && isLowSurrogate low then
      (characters? parts).map (pairedCharacter high low :: ·)
    else none
  | .half _ :: _ => none

/-- The text of `cs` in front of `rest`, which is the end of it. -/
def before (cs rest : List Char) : String :=
  String.ofList (cs.take (cs.length - rest.length))

/-- A string literal whose opening quote has been read. -/
def string? (cs : List Char) : Option (Scalar × List Char) :=
  (stringParts? cs).map fun (parts, rest) =>
    match characters? parts with
    | some text => (.string (.text (String.ofList text)), rest)
    | none => (.string (.unpaired (before cs ('"' :: rest))), rest)

/-- The rest after one or more digits. -/
def digits? : List Char → Option (List Char)
  | [] => none
  | c :: cs => if c.isDigit then some (cs.dropWhile Char.isDigit) else none

/-- The rest after the digits before a point: a zero is not followed by more digits. -/
def wholePart? : List Char → Option (List Char)
  | '0' :: cs => some cs
  | cs => digits? cs

/-- The rest after a point and the digits that have to follow it, if there is a point. -/
def fraction? : List Char → Option (List Char)
  | '.' :: cs => digits? cs
  | cs => some cs

/-- The rest after an exponent, if there is one. -/
def exponent? : List Char → Option (List Char)
  | c :: cs =>
    if c = 'e' ∨ c = 'E' then
      match cs with
      | '+' :: cs => digits? cs
      | '-' :: cs => digits? cs
      | cs => digits? cs
    else some (c :: cs)
  | [] => some []

/-- A text without the minus sign at its front. -/
def dropSign : List Char → List Char
  | '-' :: cs => cs
  | cs => cs

/-- A number at the front of a text.  It is natural if it has no sign, fraction or exponent. -/
def number? (cs : List Char) : Option (Scalar × List Char) := do
  let whole ← wholePart? (dropSign cs)
  let rest ← (fraction? whole).bind exponent?
  let literal := before cs rest
  match literal.toList.all Char.isDigit, Text.digits? literal.toList with
  | true, some n => some (.natural n, rest)
  | _, _ => some (.number literal, rest)

/-- A word that names a value, at the front of a text. -/
def word? (cs : List Char) : Option (Scalar × List Char) :=
  match cs with
  | 'n' :: 'u' :: 'l' :: 'l' :: rest => some (.null, rest)
  | 't' :: 'r' :: 'u' :: 'e' :: rest => some (.bool true, rest)
  | 'f' :: 'a' :: 'l' :: 's' :: 'e' :: rest => some (.bool false, rest)
  | _ => none

/-- The token at the front of a text that does not start with a blank. -/
def token? : List Char → Option (Token × List Char)
  | [] => none
  | '[' :: cs => some (.openArray, cs)
  | ']' :: cs => some (.closeArray, cs)
  | '{' :: cs => some (.openObject, cs)
  | '}' :: cs => some (.closeObject, cs)
  | ':' :: cs => some (.colon, cs)
  | ',' :: cs => some (.comma, cs)
  | '"' :: cs => (string? cs).map fun p => (.scalar p.1, p.2)
  | c :: cs =>
    if c.isDigit || c == '-' then (number? (c :: cs)).map fun p => (.scalar p.1, p.2)
    else (word? (c :: cs)).map fun p => (.scalar p.1, p.2)

/-! ## How much is left -/

theorem length_stringParts? {cs rest : List Char} {parts : List StringPart}
    (h : stringParts? cs = some (parts, rest)) : rest.length < cs.length := by
  fun_induction stringParts? cs generalizing parts with
  | case1 => simp at h
  | case2 cs =>
    simp only [Option.some.injEq, Prod.mk.injEq] at h
    obtain ⟨-, rfl⟩ := h
    simp
  | case3 a b c d cs ih =>
    simp only [Option.bind_eq_bind, Option.bind_eq_some_iff, Prod.exists, Option.some.injEq,
      Prod.mk.injEq] at h
    obtain ⟨n, -, ps, r, hr, -, rfl⟩ := h
    have := ih hr
    simp only [List.length_cons]; omega
  | case4 c cs _ ih =>
    simp only [Option.bind_eq_bind, Option.bind_eq_some_iff, Prod.exists, Option.some.injEq,
      Prod.mk.injEq] at h
    obtain ⟨n, -, ps, r, hr, -, rfl⟩ := h
    have := ih hr
    simp only [List.length_cons]; omega
  | case5 => simp at h
  | case6 c cs _ _ _ _ ih =>
    simp only [Option.map_eq_some_iff, Prod.mk.injEq] at h
    obtain ⟨p, hp, -, rfl⟩ := h
    have := @ih p.1 hp
    simp only [List.length_cons]; omega

theorem length_digits? {cs rest : List Char} (h : digits? cs = some rest) :
    rest.length < cs.length := by
  unfold digits? at h
  split at h
  · simp at h
  · split at h
    · simp only [Option.some.injEq] at h
      subst h
      exact Nat.lt_succ_of_le (List.dropWhile_sublist _).length_le
    · simp at h

theorem length_wholePart? {cs rest : List Char} (h : wholePart? cs = some rest) :
    rest.length < cs.length := by
  unfold wholePart? at h
  split at h
  · simp only [Option.some.injEq] at h; subst h; simp
  · exact length_digits? h

theorem length_fraction? {cs rest : List Char} (h : fraction? cs = some rest) :
    rest.length ≤ cs.length := by
  unfold fraction? at h
  split at h
  · have := length_digits? h; simp only [List.length_cons]; omega
  · simp only [Option.some.injEq] at h; subst h; exact Nat.le_refl _

theorem length_exponent? {cs rest : List Char} (h : exponent? cs = some rest) :
    rest.length ≤ cs.length := by
  unfold exponent? at h
  split at h
  · split at h
    · split at h
      all_goals have := length_digits? h; simp only [List.length_cons] at *; omega
    · simp only [Option.some.injEq] at h; subst h; exact Nat.le_refl _
  · simp only [Option.some.injEq] at h; subst h; exact Nat.le_refl _

theorem length_dropSign_le (cs : List Char) : (dropSign cs).length ≤ cs.length := by
  unfold dropSign
  split <;> simp

theorem length_number? {cs rest : List Char} {s : Scalar} (h : number? cs = some (s, rest)) :
    rest.length < cs.length := by
  simp only [number?, Option.bind_eq_bind, Option.bind_eq_some_iff] at h
  obtain ⟨w, hw, r, ⟨f, hf, he⟩, h⟩ := h
  have hr : r = rest := by
    split at h <;> simp only [Option.some.injEq, Prod.mk.injEq] at h <;> exact h.2
  subst hr
  have := length_wholePart? hw
  have := length_fraction? hf
  have := length_exponent? he
  have := length_dropSign_le cs
  omega

theorem length_word? {cs rest : List Char} {s : Scalar} (h : word? cs = some (s, rest)) :
    rest.length < cs.length := by
  unfold word? at h
  split at h
  · simp only [Option.some.injEq, Prod.mk.injEq] at h
    obtain ⟨-, rfl⟩ := h; simp only [List.length_cons]; omega
  · simp only [Option.some.injEq, Prod.mk.injEq] at h
    obtain ⟨-, rfl⟩ := h; simp only [List.length_cons]; omega
  · simp only [Option.some.injEq, Prod.mk.injEq] at h
    obtain ⟨-, rfl⟩ := h; simp only [List.length_cons]; omega
  · simp at h

theorem length_string? {cs rest : List Char} {s : Scalar} (h : string? cs = some (s, rest)) :
    rest.length < cs.length := by
  simp only [string?, Option.map_eq_some_iff, Prod.exists] at h
  obtain ⟨ps, r, hr, h⟩ := h
  have := length_stringParts? hr
  split at h <;> simp only [Prod.mk.injEq] at h <;> obtain ⟨-, rfl⟩ := h <;> exact this

theorem length_token? {cs rest : List Char} {t : Token} (h : token? cs = some (t, rest)) :
    rest.length < cs.length := by
  unfold token? at h
  split at h
  · simp at h
  case h_8 =>
    simp only [Option.map_eq_some_iff, Prod.mk.injEq] at h
    obtain ⟨p, hp, -, rfl⟩ := h
    have := @length_string? _ p.2 p.1 hp
    simp only [List.length_cons]; omega
  case h_9 =>
    split at h
    all_goals
      simp only [Option.map_eq_some_iff, Prod.mk.injEq] at h
      obtain ⟨p, hp, -, rfl⟩ := h
    · exact length_number? (s := p.1) hp
    · exact length_word? (s := p.1) hp
  all_goals
    simp only [Option.some.injEq, Prod.mk.injEq] at h
    obtain ⟨-, rfl⟩ := h
    simp

/-- The tokens of a text. -/
def tokens? (cs : List Char) : Option (List Token) :=
  match cs with
  | [] => some []
  | c :: rest =>
    if isBlank c then tokens? rest
    else
      match h : token? (c :: rest) with
      | none => none
      | some (t, rest') =>
        have : rest'.length ≤ rest.length := Nat.le_of_lt_succ (length_token? h)
        (tokens? rest').map (t :: ·)
termination_by cs.length

end DebugTypes.Json
