/-!
# Events worth reporting

Decoding and the commands note what happened as a sequence of events.  Each event has a level, so
that a reader of the log can choose how much to see, and a text.

## Main definitions

* `Level` — how much an event matters.
* `Event` — what happened.
* `Event.line` — the text of an event with its level in front.
-/

namespace DebugTypes

/-- How much an event matters. -/
inductive Level where
  | warning
  | information
  | detail
  deriving DecidableEq, Repr

namespace Level

/-- The word for a level in front of a log line. -/
def label : Level → String
  | warning => "WARN"
  | information => "INFO"
  | detail => "DEBUG"

/-- How often verbosity has to be raised before events of the level are shown. -/
def verbosity : Level → Nat
  | warning => 0
  | information => 1
  | detail => 2

end Level

/-- What happened while a document was read or a command ran. -/
inductive Event where
  /-- A look-up met a record with another id and had to search the whole section. -/
  | outOfOrder (sectionName : String) (id : UInt32) (position : Nat) (found : UInt32)
  /-- A named type was decoded. -/
  | decodedType (kind name : String)
  /-- A stored type gave way to a new one of the same name. -/
  | replaced (name : String)
  /-- A whole document was decoded. -/
  | decoded (types searches : Nat)
  /-- A catalog was loaded from a file. -/
  | loaded (types : Nat) (path : String)
  /-- A catalog was written to a file. -/
  | wrote (types : Nat) (path : String)
  deriving DecidableEq, Repr

namespace Event

/-- The level of an event. -/
def level : Event → Level
  | outOfOrder _ _ _ _ => .warning
  | decodedType _ _ => .detail
  | replaced _ => .detail
  | decoded _ _ => .detail
  | loaded _ _ => .information
  | wrote _ _ => .information

/-- The text of an event. -/
def message : Event → String
  | outOfOrder name id position found =>
    s!"{name} section out of order: need id {id} but record {position} has id {found}"
  | decodedType kind name => s!"read {kind} {name}"
  | replaced name => s!"replacing existing type {name}"
  | decoded types searches => s!"decoded {types} named types ({searches} out-of-order lookups)"
  | loaded types path => s!"loaded {types} named types from {path}"
  | wrote types path => s!"wrote {types} types to {path}"

/-- The text of an event with its level in front. -/
def line (e : Event) : String := e.level.label ++ " " ++ e.message

end Event

end DebugTypes
