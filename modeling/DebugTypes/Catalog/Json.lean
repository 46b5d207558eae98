import DebugTypes.Catalog.Basic
import DebugTypes.CType.Json.Read
import DebugTypes.CType.Json.Write
import DebugTypes.Json.Pretty
import DebugTypes.Json.Tree

/-!
# Catalogs as JSON

A catalog is written as an object with the one field `types`, an object with a field for each
entry in order.

## Main definitions

* `Catalog.toJson`, `Catalog.toJsonText` — the value and the text that a catalog is written as.
* `Catalog.ofJsonText?` — the catalog that a text stands for.
-/

namespace DebugTypes.Catalog

open Json (Value)

/-- How many arrays and objects may be entered one inside the other when a catalog is read. -/
def nestingLimit : Nat := 127

/-- The value that a catalog is written as. -/
def toJson (c : Catalog) : Value :=
  .record [("types", .record (c.entries.map fun e => (e.1, e.2.toJson)))]

/-- The text that a catalog is written as. -/
def toJsonText (c : Catalog) : String := Json.pretty c.toJson

/-- The entries of the object of types; of two fields of one name the later type counts, in the
place of the earlier. -/
def typesOfJson? : Nat → Value → Option Catalog
  | 0, _ => none
  | n + 1, v => do
    let entries ← (← v.fields?).mapM' fun f => do some (f.1, ← CType.ofJson? n f.2)
    some (ofList entries)

/-- The catalog that a value stands for, entering at most the given number of levels. -/
def ofJson? : Nat → Value → Option Catalog
  | 0, _ => none
  | n + 1, v => do
    let [types] ← v.parts? ["types"] | none
    typesOfJson? n types

/-- The catalog that a text stands for. -/
def ofJsonText? (text : String) : Option Catalog :=
  (Json.parse? text).bind (ofJson? nestingLimit)

end DebugTypes.Catalog
