import DebugTypes.Catalog.Basic
import Mathlib.Data.Finset.Card

/-!
# Inserting many entries

What a catalog holds after a list of named types was inserted one after the other: its names in the
order in which they first came, each with the type that came last under it.

## Main statements

* `Catalog.names_insertAll` — the names, and their order.
* `Catalog.get?_insertAll` — the type of each name.
* `Catalog.size_ofList` — how many entries there are.
* `Store.addAll_catalog` — a catalog as a store does the same.
-/

namespace DebugTypes

theorem entryType?_append (es later : List (String × CType)) (name : String) :
    entryType? (es ++ later) name = (entryType? es name).or (entryType? later name) := by
  rw [entryType?, List.find?_append, Option.map_or]
  rfl

namespace Catalog

theorem insertAll_cons (c : Catalog) (name : String) (t : CType) (es : List (String × CType)) :
    c.insertAll ((name, t) :: es) = (c.insert name t).insertAll es := rfl

/-- New names go behind the old ones, in the order in which they first come. -/
theorem names_insertAll (c : Catalog) (es : List (String × CType)) :
    (c.insertAll es).names = c.names ++ ((entryNames es).removeAll c.names).eraseDups := by
  induction es generalizing c with
  | nil => exact (List.append_nil _).symm
  | cons e es ih =>
      obtain ⟨name, t⟩ := e
      rw [insertAll_cons, ih, names_insert]
      by_cases h : name ∈ c.names
      · simp [h, List.removeAll]
      · have hnext : (entryNames es).removeAll (c.names ++ [name]) =
            ((entryNames es).removeAll c.names).filter fun other => !other == name := by
          simp [List.removeAll, Bool.and_comm, beq_eq_decide]
        have hcons : (entryNames ((name, t) :: es)).removeAll c.names =
            name :: (entryNames es).removeAll c.names := by
          simp [List.removeAll, h]
        rw [if_neg h, hnext, hcons, List.eraseDups_cons, List.append_assoc, List.singleton_append]

/-- The last type that came under a name counts; a name under which none came keeps its type. -/
theorem get?_insertAll (c : Catalog) (es : List (String × CType)) (name : String) :
    (c.insertAll es).get? name = (entryType? es.reverse name).or (c.get? name) := by
  induction es generalizing c with
  | nil => rfl
  | cons e es ih =>
      obtain ⟨n, t⟩ := e
      rw [insertAll_cons, ih, get?_insert, List.reverse_cons, entryType?_append, Option.or_assoc,
        entryType?_cons]
      split <;> rfl

/-- What a catalog holds after a list of named types was inserted, it held before or was given. -/
theorem mem_entries_insertAll {c : Catalog} {entries : List (String × CType)}
    {entry : String × CType} (h : entry ∈ (c.insertAll entries).entries) :
    entry ∈ c.entries ∨ entry ∈ entries := by
  obtain ⟨name, t⟩ := entry
  have hget := get?_eq_some_iff.2 h
  rw [get?_insertAll, Option.or_eq_some_iff] at hget
  rcases hget with hget | ⟨-, hget⟩
  · right
    rw [entryType?, Option.map_eq_some_iff] at hget
    obtain ⟨⟨n, u⟩, hfind, rfl⟩ := hget
    have hn : n = name := by simpa using List.find?_some hfind
    subst hn
    exact List.mem_reverse.1 (List.mem_of_find?_eq_some hfind)
  · exact .inl (get?_eq_some_iff.1 hget)

/-- The names of a list are the names of its catalog, in the order in which they first come. -/
theorem names_ofList (es : List (String × CType)) :
    (ofList es).names = (entryNames es).eraseDups := by
  have hnames : empty.names = [] := rfl
  have hall : (entryNames es).removeAll [] = entryNames es := by simp [List.removeAll]
  rw [ofList, names_insertAll, hnames, List.nil_append, hall]

/-- A catalog has an entry for each distinct name. -/
theorem size_ofList (es : List (String × CType)) :
    (ofList es).size = (entryNames es).toFinset.card := by
  have hsame : (ofList es).names.toFinset = (entryNames es).toFinset := by
    ext name
    rw [List.mem_toFinset, List.mem_toFinset, names_ofList, List.mem_eraseDups]
  have hcard : (ofList es).names.toFinset.card = (ofList es).names.length :=
    List.toFinset_card_of_nodup (ofList es).distinct
  rw [← hsame, hcard, names, List.length_map]
  rfl

/-- The catalog of a list has exactly the names in it. -/
theorem has_ofList (es : List (String × CType)) (name : String) :
    (ofList es).has name = true ↔ name ∈ entryNames es := by
  rw [has_iff, names_ofList, List.mem_eraseDups]

theorem ofList_concat (es : List (String × CType)) (e : String × CType) :
    ofList (es ++ [e]) = (ofList es).insert e.1 e.2 := by
  simp [ofList, insertAll]

/-- A name that is new makes a catalog longer, and no other name does. -/
theorem size_insert (c : Catalog) (name : String) (t : CType) :
    (c.insert name t).size = if c.has name then c.size else c.size + 1 := by
  have hsize : ∀ c : Catalog, c.size = c.names.length := fun c => (List.length_map Prod.fst).symm
  rw [hsize, hsize, names_insert]
  by_cases h : name ∈ c.names
  · simp [h, has_iff]
  · simp [h, has_iff]

end Catalog

/-- What a catalog receives as a store is inserted. -/
theorem Store.addAll_catalog (c : Catalog) (es : List (String × CType)) :
    (Store.catalog.addAll c es).1 = c.insertAll es := by
  induction es generalizing c with
  | nil => rfl
  | cons e es ih =>
      obtain ⟨name, t⟩ := e
      exact ih (c.insert name t)

end DebugTypes
