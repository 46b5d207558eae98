import DebugTypes.CType.Basic
import DebugTypes.Event

/-!
# Catalogs

A catalog holds named types in the order in which their names were first added.  A name is held
once: adding it again replaces its type in place.

## Main definitions

* `Catalog` — the named types, as a list of entries with distinct names.
* `Catalog.get?`, `Catalog.has` — looking a name up.
* `Catalog.insert` — adding a named type.
* `Catalog.sameTypes` — equality apart from the order of the entries.
* `Store` — a place that decoded types go to: a catalog or a plain list.

`Catalog.get?_insert` and `Catalog.names_insert` say what an insertion does to the types and to the
order of the names, and `Catalog.get?_eq_some_iff` that looking a name up finds its one entry.
-/

namespace DebugTypes

/-- The entry of a name in a list of entries. -/
def entryType? (entries : List (String × CType)) (name : String) : Option CType :=
  (entries.find? fun e => e.1 == name).map Prod.snd

/-- The names of a list of entries. -/
abbrev entryNames (entries : List (String × CType)) : List String := entries.map Prod.fst

/-- The entries with one more: in the place of the entry of the same name if there is one, and at
the end otherwise. -/
def insertEntry : List (String × CType) → String → CType → List (String × CType)
  | [], name, t => [(name, t)]
  | (n, u) :: es, name, t => if n = name then (name, t) :: es else (n, u) :: insertEntry es name t

@[simp] theorem entryType?_nil (name : String) : entryType? [] name = none := rfl

theorem entryType?_cons (n : String) (t : CType) (es : List (String × CType)) (name : String) :
    entryType? ((n, t) :: es) name = if n = name then some t else entryType? es name := by
  by_cases h : n = name <;> simp [entryType?, h]

/-- Looking a name up after an insertion: the inserted name has its new type, and every other name
what it had. -/
theorem entryType?_insertEntry (es : List (String × CType)) (name : String) (t : CType)
    (n : String) :
    entryType? (insertEntry es name t) n = if name = n then some t else entryType? es n := by
  induction es with
  | nil => rw [insertEntry, entryType?_cons]
  | cons e es ih =>
    obtain ⟨m, u⟩ := e
    rw [insertEntry, entryType?_cons]
    by_cases h : m = name
    · rw [if_pos h, entryType?_cons, h]
      split <;> rfl
    · rw [if_neg h, entryType?_cons, ih]
      by_cases hm : m = n
      · rw [if_pos hm, if_pos hm, if_neg fun hn => h (hm.trans hn.symm)]
      · rw [if_neg hm, if_neg hm]

/-- A name has an entry exactly when it is one of the names. -/
theorem isSome_entryType? (es : List (String × CType)) (name : String) :
    (entryType? es name).isSome = true ↔ name ∈ entryNames es := by
  induction es with
  | nil => simp
  | cons e es ih =>
    obtain ⟨n, t⟩ := e
    rw [entryType?_cons, entryNames, List.map_cons, List.mem_cons]
    by_cases h : n = name
    · simp [h]
    · rw [if_neg h, ih]
      exact ⟨Or.inr, fun hn => hn.resolve_left fun hn => h hn.symm⟩

/-- Where names are distinct, looking a name up finds exactly the entries. -/
theorem entryType?_eq_some_iff {es : List (String × CType)} (h : (entryNames es).Nodup)
    {name : String} {t : CType} : entryType? es name = some t ↔ (name, t) ∈ es := by
  induction es with
  | nil => simp
  | cons e es ih =>
    obtain ⟨n, u⟩ := e
    rw [entryNames, List.map_cons, List.nodup_cons] at h
    rw [entryType?_cons, List.mem_cons, Prod.mk.injEq]
    by_cases hn : n = name
    · subst hn
      have hes : (n, t) ∉ es := fun ht => h.1 (List.mem_map.2 ⟨(n, t), ht, rfl⟩)
      simp [hes, eq_comm]
    · rw [if_neg hn, ih h.2]
      exact ⟨Or.inr, fun ht => ht.resolve_left fun ht => hn ht.1.symm⟩

theorem entryNames_insertEntry (es : List (String × CType)) (name : String) (t : CType) :
    entryNames (insertEntry es name t) =
      if name ∈ entryNames es then entryNames es else entryNames es ++ [name] := by
  induction es with
  | nil => simp [insertEntry]
  | cons e es ih =>
    obtain ⟨n, u⟩ := e
    rw [insertEntry]
    by_cases h : n = name
    · simp [h]
    · have h' : ¬ name = n := fun hn => h hn.symm
      simp only [entryNames] at ih
      simp only [h, h', if_false, List.map_cons, List.mem_cons, false_or, ih]
      split <;> simp

/-- Inserting keeps names distinct. -/
theorem nodup_insertEntry {es : List (String × CType)} (h : (entryNames es).Nodup) (name : String)
    (t : CType) : (entryNames (insertEntry es name t)).Nodup := by
  rw [entryNames_insertEntry]
  split
  · exact h
  · rename_i hn
    refine List.nodup_append.2 ⟨h, by simp, ?_⟩
    rintro a ha b hb rfl
    exact hn (List.mem_singleton.1 hb ▸ ha)

/-- Named types in the order in which their names were added. -/
@[ext] structure Catalog where
  entries : List (String × CType)
  distinct : (entryNames entries).Nodup

namespace Catalog

/-- The catalog without entries. -/
def empty : Catalog := ⟨[], List.nodup_nil⟩

instance : Inhabited Catalog := ⟨empty⟩

/-- Catalogs with the same entries in the same order are equal. -/
instance : DecidableEq Catalog := fun a b =>
  decidable_of_iff (a.entries = b.entries) Catalog.ext_iff.symm

/-- The number of entries. -/
def size (c : Catalog) : Nat := c.entries.length

/-- The names in order. -/
def names (c : Catalog) : List String := entryNames c.entries

/-- The type of a name. -/
def get? (c : Catalog) (name : String) : Option CType := entryType? c.entries name

/-- Whether a name has an entry. -/
def has (c : Catalog) (name : String) : Bool := (c.get? name).isSome

/-- The catalog with a named type added; an entry of the same name is replaced in place. -/
def insert (c : Catalog) (name : String) (t : CType) : Catalog :=
  ⟨insertEntry c.entries name t, nodup_insertEntry c.distinct name t⟩

/-- The catalog with a list of named types inserted one after the other. -/
def insertAll (c : Catalog) (entries : List (String × CType)) : Catalog :=
  entries.foldl (fun c e => c.insert e.1 e.2) c

/-- The catalog of a list of entries; of two entries of one name the later type counts, in the
place of the earlier. -/
def ofList (entries : List (String × CType)) : Catalog := empty.insertAll entries

/-- Equality of the types under each name, whatever the order of the entries. -/
def sameTypes (a b : Catalog) : Bool :=
  a.size == b.size && a.entries.all fun e => b.get? e.1 == some e.2

@[simp] theorem entries_empty : empty.entries = [] := rfl
@[simp] theorem size_empty : empty.size = 0 := rfl

@[simp] theorem get?_empty (name : String) : empty.get? name = none := rfl

@[simp] theorem entries_insert (c : Catalog) (name : String) (t : CType) :
    (c.insert name t).entries = insertEntry c.entries name t := rfl

theorem get?_insert (c : Catalog) (name : String) (t : CType) (n : String) :
    (c.insert name t).get? n = if name = n then some t else c.get? n :=
  entryType?_insertEntry c.entries name t n

/-- The type of a name is that of its entry. -/
theorem get?_eq_some_iff {c : Catalog} {name : String} {t : CType} :
    c.get? name = some t ↔ (name, t) ∈ c.entries := entryType?_eq_some_iff c.distinct

theorem has_iff {c : Catalog} {name : String} : c.has name = true ↔ name ∈ c.names :=
  isSome_entryType? c.entries name

theorem names_insert (c : Catalog) (name : String) (t : CType) :
    (c.insert name t).names = if name ∈ c.names then c.names else c.names ++ [name] :=
  entryNames_insertEntry c.entries name t

end Catalog

/-- A place that decoded types go to. -/
structure Store (σ : Type) where
  /-- The contents with one more named type, and what there is to report about it. -/
  add : σ → String → CType → σ × List Event

namespace Store

/-- A plain list, which keeps every type that it is given. -/
def list : Store (Array (String × CType)) where
  add types name t := (types.push (name, t), [])

/-- A catalog, which reports the types that it replaces. -/
def catalog : Store Catalog where
  add c name t := (c.insert name t, if c.has name then [.replaced name] else [])

/-- The contents with a list of named types added one after the other. -/
def addAll {σ : Type} (store : Store σ) : σ → List (String × CType) → σ × List Event
  | contents, [] => (contents, [])
  | contents, (name, t) :: rest =>
    let (contents, events) := store.add contents name t
    let (contents, later) := store.addAll contents rest
    (contents, events ++ later)

end Store

/-- A catalog with the entries of another added in their order. -/
def Catalog.merge (a b : Catalog) : Catalog × List Event := Store.catalog.addAll a b.entries

end DebugTypes
