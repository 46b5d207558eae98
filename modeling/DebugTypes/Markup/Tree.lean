import DebugTypes.Element
import DebugTypes.Markup.Prolog
import DebugTypes.Markup.Reference
import DebugTypes.Markup.Scope

/-!
# From markup to elements

The tokens of a document build a tree.  Two things make this more than matching tags.  An entity in
an attribute value stands for its text, and one in content stands for whatever markup its text
holds.  Entities may refer to each other, so that the expansion is bounded: ten levels deep, and 255
references inside one reference.

The text of an entity need not hold whole elements: it may open elements that end after it, and may
end elements that were opened before it.  All texts therefore build the same tree, at the *site*
that the text before has left.  Three rules bound what the text of an entity can do.  It is read up
to the end tag that has no start tag in it, and what follows this end tag is dropped.  This end tag
counts only after some start tag in the same text.  Attributes of a start tag that the end of the
text cuts off go to the next start tag, or are dropped at the next end tag.

## Main definitions

* `Expansion` — a step that counts references and may fail.
* `attributeValue` — the value of an attribute.
* `Site` — the place in a growing tree where the next element goes.
* `grow` — the site after the tokens of a text.
* `parse?` — the root element of a document.
-/

namespace DebugTypes.Markup

/-- A step that may fail and counts the references met since the outermost one. -/
abbrev Expansion (α : Type) := StateT Nat Option α

/-- How deep references to entities may nest. -/
def depthLimit : Nat := 10

/-- How many references one outermost reference may lead to. -/
def referenceLimit : Nat := 255

/-- Count a reference.  An outermost one starts the count again; the limit is on those inside. -/
def countReference (inside : Bool) : Expansion Unit := do
  if !inside then set 0
  else if (← get) < referenceLimit then modify (· + 1)
  else failure

/-- The text of an entity that is referred to. -/
def entityText (es : Entities) (name : String) : Expansion (List Char) :=
  match es.text? name with
  | some text => pure text
  | none => failure

/-! ## Attribute values -/

/-- The value that the pieces of an attribute spell.  A line break or tab as it stands counts as a
space, and a carriage return before a line feed not at all; referred to by number, it is kept,
except inside an entity.  Inside an entity there may be no reference to the character that starts
tags, which may stand there as itself. -/
def normalised (expand : String → Expansion (List Char)) (inside : Bool) :
    List Piece → Expansion (List Char)
  | [] => pure []
  | .plain '\r' :: .plain '\n' :: ps => normalised expand inside (.plain '\n' :: ps)
  | .plain c :: ps => do
    let c := if isSpace c then ' ' else c
    return c :: (← normalised expand inside ps)
  | .referred c :: ps => do
    if inside && c == '<' then failure
    let c := if inside && isSpace c then ' ' else c
    return c :: (← normalised expand inside ps)
  | .entity name :: ps => do
    let text ← expand name
    return text ++ (← normalised expand inside ps)

/-- The value of an attribute, where references may nest `n` deep. -/
def attributeValue (es : Entities) : Nat → Bool → List Char → Expansion (List Char)
  | 0, inside, raw => do
    normalised (fun _ => failure) inside (← StateT.lift (pieces? raw))
  | n + 1, inside, raw => do
    let expand (name : String) : Expansion (List Char) := do
      let text ← entityText es name
      countReference inside
      attributeValue es n true text
    normalised expand inside (← StateT.lift (pieces? raw))

/-! ## Sites -/

/-- An element that has been opened: its name and what its tag says, and the elements before it,
the last one first. -/
structure Opened where
  name : Qualified
  tag : Tag
  before : List Element

/-- The place in a growing tree where the next element goes: the opened elements around it, the
innermost first, and the elements before it in the same parent, the last one first.  Attributes are
loose while the tag that they stood in has been cut off. -/
structure Site where
  opened : List Opened := []
  before : List Element := []
  loose : List NamedValue := []

namespace Site

/-- The scopes bound at a site. -/
def bindings (s : Site) : Bindings :=
  match s.opened with
  | [] => []
  | o :: _ => o.tag.bindings

/-- The site after a start tag with its attributes, which the loose ones precede. -/
def startTag? (s : Site) (name : Qualified) (as : List NamedValue) (ending : TagEnd) :
    Option Site := do
  let as := s.loose ++ as
  if name.scope == "xmlns" || !mayDeclare as then none
  else if ending == .cutOff then some { s with loose := as }
  else
    let tag ← Tag.ofAttributes? s.bindings as
    if !tag.bindings.isBound name.scope then none
    else if ending == .opens then some { opened := ⟨name, tag, s.before⟩ :: s.opened }
    else some { s with before := .mk name.name tag.attributes [] :: s.before, loose := [] }

/-- The site after an end tag, which has to name the innermost opened element.  Loose attributes are
checked before they are dropped. -/
def endTag? (s : Site) (name : Qualified) : Option Site := do
  let _ ← Tag.ofAttributes? s.bindings s.loose
  match s.opened with
  | [] => none
  | o :: opened =>
    if name = o.name then
      some { opened, before := .mk name.name o.tag.attributes s.before.reverse :: o.before }
    else none

/-- The first element of a tree whose elements have all ended. -/
def root? (s : Site) : Option Element :=
  if s.opened.isEmpty then s.before.getLast? else none

end Site

/-! ## Content -/

/-- How the parts of content are read: the value of an attribute, and the site after the content of
an entity. -/
structure Reader where
  value : List Char → Expansion (List Char)
  entity : String → Site → Expansion Site

/-- The attributes of a start tag with their values. -/
def values (r : Reader) (as : List RawAttribute) : Expansion (List NamedValue) :=
  as.mapM' fun a => do return (a.1, String.ofList (← r.value a.2))

/-- The site after a text, whose references may stand for elements. -/
def growText (r : Reader) : List Piece → Site → Expansion Site
  | [], s => pure s
  | .entity name :: ps, s => do growText r ps (← r.entity name s)
  | _ :: ps, s => growText r ps s

/-- The site after tokens; `started` says whether a start tag precedes them in the same text. -/
def grow (r : Reader) : (started : Bool) → List Token → Site → Expansion Site
  | _, [], s => pure s
  | _, .startTag name as ending :: ts, s => do
    let as ← values r as
    grow r true ts (← StateT.lift (s.startTag? name as ending))
  | started, .endTag name :: ts, s => do
    if started then grow r started ts (← StateT.lift (s.endTag? name)) else failure
  | started, .text cs :: ts, s => do
    grow r started ts (← growText r (← StateT.lift (pieces? cs)) s)
  | started, .data :: ts, s => grow r started ts s

/-- The reading of content where references may nest `n` deep. -/
def reader (es : Entities) : Nat → Bool → Reader
  | 0, inside => { value := attributeValue es 0 inside, entity := fun _ _ => failure }
  | n + 1, inside => {
      value := attributeValue es (n + 1) inside
      entity := fun name s => do
        let text ← entityText es name
        countReference inside
        let (tokens, _) ← StateT.lift (content? 1 text)
        grow (reader es n true) false tokens s }

/-! ## Documents -/

/-- The tokens of the root element, as far as its own text goes, and what follows them. -/
def rootTokens? (cs : List Char) : Option (List Token × List Char) := do
  let (tag, rest) ← (after? ['<'] cs).bind startTag?
  let (tokens, rest) ← content? (tag.levelAfter 0) rest
  some (tag :: tokens, rest)

/-- The root element of a document, after which only comments and instructions may follow. -/
def parse? (text : String) : Option Element := do
  let (es, cs) ← prolog? text.toList
  let (tokens, rest) ← rootTokens? cs
  let rest ← skipAsides? rest
  let (site, _) ← (grow (reader es depthLimit false) true tokens {}).run 0
  if rest.isEmpty then site.root? else none

end DebugTypes.Markup
