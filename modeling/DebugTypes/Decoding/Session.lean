import DebugTypes.Cursor
import DebugTypes.Decoding.Record
import DebugTypes.Document.Basic

/-!
# Decoding sessions

A session decodes the records of one document.  It has one cursor for the functions and one for the
unnamed types, both of which only move forward, and a log.  A failed step keeps what the cursors and
the log have become.

Records may refer to each other in circles, yet decoding ends: each look-up that succeeds leaves one
record fewer ahead of the two cursors.  Requests are therefore answered by a tower of handlers, one
level for each record ahead.

## Main definitions

* `Session` — the state of a session.
* `Decoder α` — a step of a session with a result `α`.
* `Session.handler n` — answers to requests while at most `n` records are ahead.
* `Session.decode` — the result of a recipe in a session.
-/

namespace DebugTypes

/-- The state of a session: the cursors and what was logged so far. -/
structure Session where
  functions : Cursor
  unnamed : Cursor
  log : Array Event := #[]

/-- A step of a session, which may fail; the state is kept in either case. -/
abbrev Decoder (α : Type) := ExceptT ReadError (StateM Session) α

/-- The records of a section. -/
def Document.records (d : Document) : Section → List Element
  | .functions => d.functions.children
  | .unnamed => d.unnamed.children

namespace Session

/-- A new session over a document.  A strict one insists on the order of records. -/
def start (d : Document) (strict : Bool) : Session where
  functions := { sectionName := Section.functions.label, records := d.records .functions, strict }
  unnamed := { sectionName := Section.unnamed.label, records := d.records .unnamed, strict }

/-- The cursor of a section. -/
def cursor (s : Session) : Section → Cursor
  | .functions => s.functions
  | .unnamed => s.unnamed

/-- The session with another cursor for a section. -/
def setCursor (s : Session) (place : Section) (c : Cursor) : Session :=
  match place with
  | .functions => { s with functions := c }
  | .unnamed => { s with unnamed := c }

/-- The number of look-ups that had to search a section. -/
def searches (s : Session) : Nat := s.functions.searches + s.unnamed.searches

/-- The number of records ahead of the two cursors. -/
def remaining (s : Session) : Nat := s.functions.remaining + s.unnamed.remaining

/-- The session with more events in its log. -/
def note (s : Session) (events : List Event) : Session := { s with log := s.log ++ events }

/-- Look up a record of a section. -/
def find (place : Section) (id : UInt32) : Decoder Element := fun s =>
  let (answer, cursor, events) := (s.cursor place).find id
  (answer.map Prod.fst, (s.setCursor place cursor).note events)

/-- Answers to requests while at most `n` records are ahead of the cursors.  With none ahead every
look-up fails, so that nothing follows it. -/
def handler : Nat → Handler Decoder
  | 0 => fun place id => do
    let record ← find place id
    throw (.unknownToken .recordKinds record.tag)
  | n + 1 => fun place id => do (Record.content place (← find place id)).run (handler n)

/-- The result of a recipe in a session. -/
def decode {α : Type} (recipe : Recipe α) : Decoder α := fun s =>
  (recipe.run (handler s.remaining)) s

end Session

end DebugTypes
