import DebugTypes.Element

/-!
# Documents

A document is an element tree whose root has at least three children, the *sections*.  The first
holds the records of functions, the second those of unnamed types and the third those of named
types; children after the third say nothing.

## Main definitions

* `Document` — a root with its three sections.
* `Document.ofRoot` — the check that the sections are there.
-/

namespace DebugTypes

/-- The number of sections that a document must have. -/
def sectionCount : Nat := 3

/-- An element tree with all sections. -/
structure Document where
  root : Element
  complete : sectionCount ≤ root.children.length

namespace Document

/-- The document of a root, if all its sections are there. -/
def ofRoot (root : Element) : Except ReadError Document :=
  if h : sectionCount ≤ root.children.length then .ok ⟨root, h⟩
  else .error (.missingSection root.children.length root.children.length)

/-- The child of the root at a position. -/
def child? (d : Document) (i : Nat) : Option Element := d.root.children[i]?

/-- The section of functions; each record lists a function's parameters. -/
def functions (d : Document) : Element :=
  d.root.children.get ⟨0, Nat.lt_of_lt_of_le (by decide) d.complete⟩

/-- The section of unnamed structs, unions and enums. -/
def unnamed (d : Document) : Element :=
  d.root.children.get ⟨1, Nat.lt_of_lt_of_le (by decide) d.complete⟩

/-- The section of named structs, unions and enums. -/
def named (d : Document) : Element :=
  d.root.children.get ⟨2, Nat.lt_of_lt_of_le (by decide) d.complete⟩

end Document

end DebugTypes
