import DebugTypes.Element
import DebugTypes.Event

/-!
# Cursors

The records of a section usually stand in the order in which they are referred to.  A *cursor* makes
use of that: each look-up takes the next record, and only if its id is not the wanted one is the
whole section searched.  A strict cursor treats such a record as an error instead.

## Main definitions

* `Cursor` — a position in a section.
* `Cursor.search` — the one record of a section with a given id.
* `Cursor.find` — a look-up, which always moves the cursor one record on.
-/

namespace DebugTypes

/-- The id of a record, if it has a valid one. -/
def Element.id? (e : Element) : Option UInt32 := (e.attribute? "id").bind (Text.integer? UInt32)

/-- A position in the records of a section, with the number of look-ups that had to search. -/
structure Cursor where
  sectionName : String
  records : List Element
  strict : Bool := false
  position : Nat := 0
  searches : Nat := 0

namespace Cursor

/-- The records that carry an id, each with its position. -/
def carriers (c : Cursor) (id : UInt32) : List (Element × Nat) :=
  c.records.zipIdx.filter fun r => r.1.id? == some id

/-- The one record of the whole section with the given id, and its position. -/
def search (c : Cursor) (id : UInt32) : Except ReadError (Element × Nat) :=
  match c.carriers id with
  | [hit] => .ok hit
  | hits => .error (.ambiguousReference c.sectionName id hits.length)

/-- Look a record up by its id.  The answer is the record with its position; the cursor moves on by
one record whatever the answer is. -/
def find (c : Cursor) (id : UInt32) : Except ReadError (Element × Nat) × Cursor × List Event :=
  let moved := { c with position := c.position + 1 }
  match c.records[c.position]? with
  | none => (.error (.outOfRange c.sectionName c.position c.records.length), moved, [])
  | some record =>
    match record.integer UInt32 "id" with
    | .error e => (.error e, moved, [])
    | .ok found =>
      if found = id then (.ok (record, c.position), moved, [])
      else if c.strict then (.error (.outOfOrder c.sectionName id found), moved, [])
      else
        (c.search id, { moved with searches := c.searches + 1 },
          [.outOfOrder c.sectionName id c.position found])

/-- The number of records that the cursor has not passed. -/
def remaining (c : Cursor) : Nat := c.records.length - c.position

@[simp] theorem position_find (c : Cursor) (id : UInt32) :
    (c.find id).2.1.position = c.position + 1 := by
  unfold find; repeat' split
  all_goals rfl

@[simp] theorem records_find (c : Cursor) (id : UInt32) :
    (c.find id).2.1.records = c.records := by
  unfold find; repeat' split
  all_goals rfl

@[simp] theorem sectionName_find (c : Cursor) (id : UInt32) :
    (c.find id).2.1.sectionName = c.sectionName := by
  unfold find; repeat' split
  all_goals rfl

@[simp] theorem strict_find (c : Cursor) (id : UInt32) :
    (c.find id).2.1.strict = c.strict := by
  unfold find; repeat' split
  all_goals rfl

/-- A look-up succeeds only while there is a record ahead. -/
theorem position_lt_of_find {c : Cursor} {id : UInt32} {hit : Element × Nat}
    (h : (c.find id).1 = .ok hit) : c.position < c.records.length := by
  unfold find at h
  split at h
  · simp at h
  · exact (List.getElem?_eq_some_iff.1 ‹_›).1

/-- A successful look-up leaves one record fewer ahead. -/
theorem remaining_find {c : Cursor} {id : UInt32} {hit : Element × Nat}
    (h : (c.find id).1 = .ok hit) : (c.find id).2.1.remaining + 1 = c.remaining := by
  have := position_lt_of_find h
  simp only [remaining, position_find, records_find]
  omega

end Cursor

end DebugTypes
