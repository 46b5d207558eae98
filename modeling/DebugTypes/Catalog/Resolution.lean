import DebugTypes.Catalog.Basic
import DebugTypes.CType.References

/-!
# Resolving references

A type that is only a name stands for the entry of that name, which may be a name again.  Following
such a chain ends at a type of another kind, at a name without an entry, or never; a chain that
ends visits each entry at most once.

## Main definitions

* `Catalog.resolve?` — the type that a type stands for.
* `Catalog.unresolved` — the names that stored types refer to without an entry, in the order of
  their code points.
* `Statistics`, `Catalog.statistics` — how many types of each kind a catalog holds.
-/

namespace DebugTypes

namespace Catalog

/-- The type at the end of a chain of references of fewer than `n` steps. -/
def follow? (c : Catalog) : Nat → CType → Option CType
  | 0, _ => none
  | n + 1, .named name => (c.get? name).bind (c.follow? n)
  | _ + 1, t => some t

/-- The type that a type stands for; a chain of references longer than the catalog never ends. -/
def resolve? (c : Catalog) (t : CType) : Option CType := c.follow? (c.size + 1) t

/-- The type that the entry of a name stands for. -/
def resolveName? (c : Catalog) (name : String) : Option CType := (c.get? name).bind c.resolve?

end Catalog

/-- A sorted list of names with one more; a name that is there already is not repeated. -/
def insertName (name : String) : List String → List String
  | [] => [name]
  | n :: ns =>
    if name < n then name :: n :: ns else if name = n then n :: ns else n :: insertName name ns

/-- The names of a list in the order of their code points, each once. -/
def sortedNames (names : List String) : List String := names.foldr insertName []

@[simp] theorem mem_insertName {name n : String} {ns : List String} :
    n ∈ insertName name ns ↔ n = name ∨ n ∈ ns := by
  induction ns with
  | nil => simp [insertName]
  | cons m ms ih =>
    rw [insertName]
    split
    · simp
    · split
      · rename_i h; subst h; simp
      · simp only [List.mem_cons, ih]; exact or_left_comm

@[simp] theorem mem_sortedNames {n : String} {names : List String} :
    n ∈ sortedNames names ↔ n ∈ names := by
  induction names with
  | nil => simp [sortedNames]
  | cons m ms ih =>
    rw [sortedNames, List.foldr_cons, mem_insertName, ← sortedNames, ih, List.mem_cons]

/-- Inserting a name keeps a list in order and without repetitions. -/
theorem pairwise_insertName (name : String) {ns : List String} (h : ns.Pairwise (· < ·)) :
    (insertName name ns).Pairwise (· < ·) := by
  induction ns with
  | nil => simp [insertName]
  | cons n ns ih =>
    rw [List.pairwise_cons] at h
    rw [insertName]
    split
    · rename_i hn
      refine List.pairwise_cons.2 ⟨fun m hm => ?_, List.pairwise_cons.2 h⟩
      rcases List.mem_cons.1 hm with rfl | hm
      · exact hn
      · exact String.lt_trans hn (h.1 m hm)
    · rename_i hn
      split
      · exact List.pairwise_cons.2 h
      · rename_i hne
        refine List.pairwise_cons.2 ⟨fun m hm => ?_, ih h.2⟩
        rcases mem_insertName.1 hm with rfl | hm
        · exact Std.lt_of_le_of_ne (String.not_lt.1 hn) (Ne.symm hne)
        · exact h.1 m hm

/-- Sorted names are strictly increasing. -/
theorem pairwise_sortedNames (names : List String) : (sortedNames names).Pairwise (· < ·) := by
  induction names with
  | nil => exact List.Pairwise.nil
  | cons n ns ih => exact pairwise_insertName n ih

/-- The names that a list of named types refers to. -/
def referencedNames (entries : List (String × CType)) : List String :=
  entries.flatMap fun e => e.2.references

/-- The names that stored types refer to without an entry, in the order of their code points. -/
def Catalog.unresolved (c : Catalog) : List String :=
  sortedNames ((referencedNames c.entries).filter fun n => !c.has n)

/-- The names without an entry that a type refers to, in tree order and with repetitions. -/
def Catalog.missingFrom (c : Catalog) (t : CType) : List String :=
  t.references.filter fun n => !c.has n

/-- How many types of each kind a catalog holds, and how many names are unresolved. -/
structure Statistics where
  structs : Nat
  unions : Nat
  enums : Nat
  others : Nat
  unresolved : Nat
  deriving DecidableEq, Repr

/-- The number of types. -/
def Statistics.total (s : Statistics) : Nat := s.structs + s.unions + s.enums + s.others

/-- The statistics of a catalog. -/
def Catalog.statistics (c : Catalog) : Statistics :=
  let count (p : CType.Kind → Bool) := c.entries.countP fun e => p e.2.kind
  { structs := count (· == .struct)
    unions := count (· == .union)
    enums := count (· == .enum)
    others := count fun k => k != .struct && k != .union && k != .enum
    unresolved := c.unresolved.length }

end DebugTypes
