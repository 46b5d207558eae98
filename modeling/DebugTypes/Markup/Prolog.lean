import DebugTypes.Markup.Token

/-!
# What precedes the root element

A document may start with a byte order mark, a declaration of its version, and a document type
with declarations of entities.  Of all this only the entities with a literal text matter later; the
rest is checked and dropped.

## Main definitions

* `Entities` — the declared entities, in order.
* `prolog?` — the entities of a document, and its text from the root element on.
-/

namespace DebugTypes.Markup

/-- The declared entities with their texts, in document order. -/
abbrev Entities := List (String × List Char)

/-- The text of an entity; of two declarations of one name the first counts. -/
def Entities.text? (es : Entities) (name : String) : Option (List Char) :=
  (es.find? fun e => e.1 == name).map Prod.snd

/-- The rest after an attribute of the declaration whose name starts with `word`. -/
def declaredAttribute? (word cs : List Char) : Option (List Char) :=
  if (after? word cs).isSome then (attribute? cs).map Prod.snd else none

/-- The rest after the gap between two attributes of the declaration: there has to be a space
unless the declaration ends here. -/
def gap? (cs : List Char) : Option (List Char) :=
  match spaces? cs with
  | some rest => some rest
  | none => if cs.isEmpty || (after? "?>".toList cs).isSome then some cs else none

/-- The rest after an attribute that may be left out. -/
def optionalAttribute? (word cs : List Char) : Option (List Char) :=
  if (after? word cs).isSome then (declaredAttribute? word cs).bind gap? else some cs

/-- The rest after the declaration of a document, without the characters that open it. -/
def declaration? (cs : List Char) : Option (List Char) := do
  let cs ← gap? cs
  let cs ← (declaredAttribute? "version".toList cs).bind gap?
  let cs ← optionalAttribute? "encoding".toList cs
  let cs ←
    if (after? "standalone".toList cs).isSome then declaredAttribute? "standalone".toList cs
    else some cs
  after? "?>".toList (skipSpaces cs)

/-- The rest after a comment or instruction with the spaces in front of it, if one comes next. -/
def aside? (cs : List Char) : Option (Option (List Char)) :=
  match skipSpaces cs with
  | '<' :: '!' :: '-' :: '-' :: rest => some (comment? rest)
  | '<' :: '?' :: rest => some (instruction? rest)
  | _ => none

theorem length_aside? {cs rest : List Char} (h : aside? cs = some (some rest)) :
    rest.length < cs.length := by
  have hs := length_skipSpaces_le cs
  unfold aside? at h
  split at h
  · rename_i r hr
    simp only [Option.some.injEq] at h
    have := length_comment? h
    simp only [hr, List.length_cons] at hs
    omega
  · rename_i r hr
    simp only [Option.some.injEq] at h
    have := length_instruction? h
    simp only [hr, List.length_cons] at hs
    omega
  · simp at h

/-- The text from the first thing on that is neither a space nor a comment nor an instruction. -/
def skipAsides? (cs : List Char) : Option (List Char) :=
  match h : aside? cs with
  | none => some (skipSpaces cs)
  | some none => none
  | some (some rest) =>
    have : rest.length < cs.length := length_aside? h
    skipAsides? rest
termination_by cs.length

/-- The rest after the place of an external text, if the text starts with the word for one.  A
public place has a second part. -/
def externalPlace? (cs : List Char) : Option (List Char) :=
  match after? "SYSTEM".toList cs with
  | some cs => (spaces? cs).bind fun cs => (quotedValue? cs).map Prod.snd
  | none => do
    let cs ← (after? "PUBLIC".toList cs).bind spaces?
    let (_, cs) ← quotedValue? cs
    let (_, cs) ← (spaces? cs).bind quotedValue?
    some cs

/-- The rest after the place of an external text, which may be left out. -/
def optionalPlace? (cs : List Char) : Option (List Char) :=
  if (after? "SYSTEM".toList cs).isSome || (after? "PUBLIC".toList cs).isSome then
    externalPlace? cs
  else some cs

/-- The rest after the mark of an entity that is no markup. -/
def unparsedMark? (cs : List Char) : Option (List Char) :=
  match after? "NDATA".toList (skipSpaces cs) with
  | some cs => ((spaces? cs).bind name?).map Prod.snd
  | none => some cs

/-- The literal text of an entity, or nothing for an external one, and the rest. -/
def entityText? (isGeneral : Bool) (cs : List Char) : Option (Option (List Char) × List Char) :=
  match quotedValue? cs with
  | some (text, rest) => some (some text, rest)
  | none => do
    let rest ← externalPlace? cs
    let rest ← if isGeneral then unparsedMark? rest else some rest
    some (none, rest)

/-- An entity declaration without the word that opens it. -/
def entity? (cs : List Char) : Option (Entities × List Char) := do
  let cs ← spaces? cs
  let isGeneral := (after? ['%'] cs).isNone
  let cs ← if isGeneral then some cs else (after? ['%'] cs).bind spaces?
  let (name, cs) ← name? cs
  let cs ← spaces? cs
  let (text, cs) ← entityText? isGeneral cs
  let cs ← after? ['>'] (skipSpaces cs)
  some (text.toList.map fun text => (String.ofList name, text), cs)

/-- The declarations of a document type that say nothing about entities. -/
def otherDeclarations : List (List Char) :=
  ["<!ELEMENT".toList, "<!ATTLIST".toList, "<!NOTATION".toList]

/-- The rest after a declaration that says nothing about entities. -/
def otherDeclaration? (cs : List Char) : Option (List Char) :=
  if otherDeclarations.any fun word => (after? word cs).isSome then
    (until? ['>'] cs).map Prod.snd
  else none

/-- One part of the inside of a document type, at its front: the entities that it declares. -/
def typePart? (cs : List Char) : Option (Entities × List Char) :=
  match after? "<!ENTITY".toList cs with
  | some rest => entity? rest
  | none =>
    match aside? cs with
    | some rest => rest.map fun rest => ([], rest)
    | none => (otherDeclaration? cs).map fun rest => ([], rest)

/-- The inside of a document type up to its closing bracket: at most `n` parts are read. -/
def typeParts? : Nat → List Char → Option (Entities × List Char)
  | 0, _ => none
  | n + 1, cs =>
    match skipSpaces cs with
    | ']' :: rest => some ([], rest)
    | cs => do
      let (es, rest) ← typePart? cs
      let (later, rest) ← typeParts? n rest
      some (es ++ later, rest)

/-- A document type without the word that opens it.  Each part of it has at least one character,
which bounds their number. -/
def documentType? (cs : List Char) : Option (Entities × List Char) := do
  let cs ← spaces? cs
  let (_, cs) ← name? cs
  let cs ← optionalPlace? (skipSpaces cs)
  match skipSpaces cs with
  | '>' :: rest => some ([], rest)
  | '[' :: rest => do
    let (es, rest) ← typeParts? rest.length rest
    let rest ← after? ['>'] (skipSpaces rest)
    some (es, rest)
  | _ => none

/-- The text without a byte order mark. -/
def skipMark : List Char → List Char
  | '\uFEFF' :: cs => cs
  | cs => cs

/-- The entities of a document, and its text from the root element on. -/
def prolog? (cs : List Char) : Option (Entities × List Char) := do
  let cs := skipMark cs
  let cs ← if (after? "<?xml ".toList cs).isSome then declaration? (cs.drop 5) else some cs
  let cs ← skipAsides? cs
  match after? "<!DOCTYPE".toList cs with
  | none => some ([], cs)
  | some rest => do
    let (es, rest) ← documentType? rest
    let rest ← skipAsides? rest
    some (es, rest)

end DebugTypes.Markup
