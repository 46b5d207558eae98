import DebugTypes.Markup.Character

/-!
# Scanning text

The pieces of markup are read off the front of a text.  A scan answers what it read together with
the rest of the text, or nothing if the text does not start as it should.

## Main definitions

* `after? word cs` — what follows `word` at the front of `cs`.
* `until? stop cs` — what comes before the first occurrence of `stop`, and what follows it.
* `skipSpaces`, `spaces?` — the rest after any number of space characters, and after one or more.
* `name?` — a name.
* `Qualified`, `qualified?` — a name with an optional scope in front of a colon.
* `quotedValue?` — a text in quotes of either sort.

The lemmas bound the length of the rest; the loops over markup end by them.
-/

namespace DebugTypes.Markup

/-- What follows a word at the front of a text. -/
def after? : List Char → List Char → Option (List Char)
  | [], cs => some cs
  | _ :: _, [] => none
  | w :: word, c :: cs => if w = c then after? word cs else none

/-- What comes before the first occurrence of `stop`, and what follows it. -/
def until? (stop : List Char) : List Char → Option (List Char × List Char)
  | [] => (after? stop []).map fun rest => ([], rest)
  | c :: cs =>
    match after? stop (c :: cs) with
    | some rest => some ([], rest)
    | none => (until? stop cs).map fun p => (c :: p.1, p.2)

/-- Whether a word occurs in a text. -/
def contains (word cs : List Char) : Bool := (until? word cs).isSome

/-- The text after the spaces at its front. -/
def skipSpaces (cs : List Char) : List Char := cs.dropWhile isSpace

/-- The text after the spaces at its front, of which there has to be one. -/
def spaces? : List Char → Option (List Char)
  | [] => none
  | c :: cs => if isSpace c then some (skipSpaces cs) else none

/-- A name at the front of a text. -/
def name? : List Char → Option (List Char × List Char)
  | [] => none
  | c :: cs =>
    if isNameStart c then some (c :: cs.takeWhile isNamePart, cs.dropWhile isNamePart) else none

/-- A name with a scope, which is empty if there is no colon or nothing in front of it. -/
structure Qualified where
  scope : String
  name : String
  deriving DecidableEq, Repr, Inhabited

/-- Whether a text can be one of the two parts of a qualified name. -/
def isNameText : List Char → Bool
  | [] => false
  | c :: _ => isNameStart c

/-- The qualified name that a text spells.  At most one colon is allowed, and a name after it. -/
def Qualified.ofText? (cs : List Char) : Option Qualified :=
  match until? [':'] cs with
  | none => if isNameText cs then some ⟨"", String.ofList cs⟩ else none
  | some (scope, name) =>
    if (scope.isEmpty || isNameText scope) && isNameText name && !name.contains ':' then
      some ⟨String.ofList scope, String.ofList name⟩
    else none

/-- A qualified name at the front of a text. -/
def qualified? (cs : List Char) : Option (Qualified × List Char) :=
  (Qualified.ofText? (cs.takeWhile isNamePart)).map fun q => (q, cs.dropWhile isNamePart)

/-- A text in single or double quotes, without them. -/
def quotedValue? : List Char → Option (List Char × List Char)
  | [] => none
  | c :: cs => if c = '"' ∨ c = '\'' then until? [c] cs else none

/-! ## How much is left -/

theorem length_dropWhile_le {α : Type} (p : α → Bool) (cs : List α) :
    (cs.dropWhile p).length ≤ cs.length :=
  (List.dropWhile_sublist p).length_le

theorem length_after? {word cs rest : List Char} (h : after? word cs = some rest) :
    rest.length + word.length = cs.length := by
  induction word generalizing cs with
  | nil => simp [after?] at h; simp [h]
  | cons w word ih =>
    cases cs with
    | nil => simp [after?] at h
    | cons c cs =>
      rw [after?] at h
      split at h
      · have := ih h; simp only [List.length_cons]; omega
      · simp at h

theorem length_until? {stop cs before rest : List Char} (h : until? stop cs = some (before, rest)) :
    rest.length + stop.length ≤ cs.length := by
  induction cs generalizing before with
  | nil =>
    simp only [until?, Option.map_eq_some_iff, Prod.mk.injEq] at h
    obtain ⟨r, hr, -, rfl⟩ := h
    exact Nat.le_of_eq (length_after? hr)
  | cons c cs ih =>
    rw [until?] at h
    split at h
    · rename_i r hr
      simp only [Option.some.injEq, Prod.mk.injEq] at h
      obtain ⟨-, rfl⟩ := h
      exact Nat.le_of_eq (length_after? hr)
    · simp only [Option.map_eq_some_iff, Prod.mk.injEq] at h
      obtain ⟨p, hp, -, rfl⟩ := h
      have := @ih p.1 hp
      simp only [List.length_cons]; omega

theorem length_skipSpaces_le (cs : List Char) : (skipSpaces cs).length ≤ cs.length :=
  length_dropWhile_le _ _

theorem length_spaces? {cs rest : List Char} (h : spaces? cs = some rest) :
    rest.length < cs.length := by
  cases cs with
  | nil => simp [spaces?] at h
  | cons c cs =>
    rw [spaces?] at h
    split at h
    · simp only [Option.some.injEq] at h
      subst h
      exact Nat.lt_succ_of_le (length_skipSpaces_le cs)
    · simp at h

theorem length_name? {cs name rest : List Char} (h : name? cs = some (name, rest)) :
    rest.length < cs.length := by
  cases cs with
  | nil => simp [name?] at h
  | cons c cs =>
    rw [name?] at h
    split at h
    · simp only [Option.some.injEq, Prod.mk.injEq] at h
      obtain ⟨-, rfl⟩ := h
      exact Nat.lt_succ_of_le (length_dropWhile_le _ _)
    · simp at h

theorem length_qualified? {cs rest : List Char} {q : Qualified}
    (h : qualified? cs = some (q, rest)) : rest.length ≤ cs.length := by
  simp only [qualified?, Option.map_eq_some_iff, Prod.mk.injEq] at h
  obtain ⟨_, _, -, rfl⟩ := h
  exact length_dropWhile_le _ _

theorem length_quotedValue? {cs value rest : List Char}
    (h : quotedValue? cs = some (value, rest)) : rest.length < cs.length := by
  cases cs with
  | nil => simp [quotedValue?] at h
  | cons c cs =>
    rw [quotedValue?] at h
    split at h
    · have := length_until? h
      simp only [List.length_cons, List.length_nil] at this ⊢
      omega
    · simp at h

end DebugTypes.Markup
