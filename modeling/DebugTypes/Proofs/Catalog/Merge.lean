import DebugTypes.Proofs.Catalog.Chains
import DebugTypes.Proofs.Catalog.Insertion
import DebugTypes.Proofs.Catalog.Unresolved

/-!
# Merging catalogs

A catalog is determined by its names in their order and by the type of each.  Merging puts the new
names of the second catalog behind those of the first and prefers the types of the second, so that
catalogs under it are a monoid in which every catalog is idempotent.  The merge has every entry of
the second catalog, and those of the first too where the two share no name; what a type stands for
through entries that are kept, it stands for in the merge.

## Main statements

* `Catalog.ext_names_get?` — a catalog is its names and their types.
* `Catalog.names_merge`, `Catalog.get?_merge` — what a merge holds.
* `Catalog.merge_assoc` — of three catalogs, either two may be merged first.
* `Catalog.mem_unresolved_of_mem_merge`, `Catalog.mem_unresolved_merge_iff` — which names a merge
  leaves unresolved.
* `Catalog.merge_laws` — the monoid, and the references of a merge.
-/

namespace DebugTypes

/-- A list without repetitions has none to be erased. -/
theorem eraseDups_of_nodup {names : List String} (h : names.Nodup) : names.eraseDups = names := by
  induction names with
  | nil => exact List.eraseDups_nil
  | cons name names ih =>
      obtain ⟨hname, hnames⟩ := List.nodup_cons.1 h
      have hfilter : names.filter (fun other => !other == name) = names := by
        refine List.filter_eq_self.2 fun other hother => ?_
        rw [Bool.not_eq_true', beq_eq_false_iff_ne]
        exact ne_of_mem_of_not_mem hother hname
      rw [List.eraseDups_cons, hfilter, ih hnames]

/-- Where names are distinct, it makes no difference from which end one looks. -/
theorem entryType?_reverse {es : List (String × CType)} (h : (entryNames es).Nodup)
    (name : String) : entryType? es.reverse name = entryType? es name := by
  have hreverse : (entryNames es.reverse).Nodup := by
    rw [entryNames, List.map_reverse]
    exact List.nodup_reverse.2 h
  ext t
  rw [entryType?_eq_some_iff hreverse, entryType?_eq_some_iff h, List.mem_reverse]

namespace Catalog

variable {a b c d : Catalog} {name : String} {t u : CType}

/-! ## Names and their types -/

/-- The entries are the names, each with its type. -/
theorem map_entries (c : Catalog) :
    c.entries.map (Prod.map id some) = c.names.map fun name => (name, c.get? name) := by
  rw [names, entryNames, List.map_map]
  refine List.map_congr_left fun entry hentry => ?_
  rw [Function.comp_apply, get?_eq_some_iff.2 hentry]
  rfl

/-- A catalog is determined by its names in their order and the type of each. -/
theorem ext_names_get? (hnames : a.names = b.names) (hget : ∀ name, a.get? name = b.get? name) :
    a = b := by
  have hmap : a.entries.map (Prod.map id some) = b.entries.map (Prod.map id some) := by
    rw [map_entries, map_entries, hnames]
    exact List.map_congr_left fun name _ => by rw [hget]
  have hinj : Function.Injective (Prod.map (id : String → String) (some : CType → Option CType)) :=
    Function.injective_id.prodMap (Option.some_injective CType)
  exact Catalog.ext (List.map_injective_iff.2 hinj hmap)

theorem merge_eq_insertAll (a b : Catalog) : (a.merge b).1 = a.insertAll b.entries :=
  Store.addAll_catalog a b.entries

/-- The names of a merge are those of the first catalog, and behind them the new ones of the
second. -/
theorem names_merge (a b : Catalog) :
    (a.merge b).1.names = a.names ++ b.names.filter fun name => !a.has name := by
  have hnew : b.names.removeAll a.names = b.names.filter fun name => !a.has name := by
    refine List.filter_congr fun name _ => ?_
    rw [Bool.eq_iff_iff.2 (a.has_iff.trans List.contains_iff_mem.symm)]
  have hdistinct : (b.names.filter fun name => !a.has name).Nodup := b.distinct.filter _
  rw [merge_eq_insertAll, names_insertAll, ← names, hnew, eraseDups_of_nodup hdistinct]

/-- The types of a merge are those of the second catalog, and of the first for other names. -/
theorem get?_merge (a b : Catalog) (name : String) :
    (a.merge b).1.get? name = (b.get? name).or (a.get? name) := by
  rw [merge_eq_insertAll, get?_insertAll, entryType?_reverse b.distinct]
  rfl

theorem has_merge (a b : Catalog) (name : String) :
    (a.merge b).1.has name = (b.has name || a.has name) := by
  rw [has, get?_merge, Option.isSome_or]
  rfl

/-! ## The monoid of catalogs -/

theorem merge_empty (a : Catalog) : (a.merge empty).1 = a := rfl

theorem empty_merge (a : Catalog) : (empty.merge a).1 = a := by
  refine ext_names_get? ?_ fun name => ?_
  · rw [names_merge]
    exact List.filter_eq_self.2 fun _ _ => rfl
  · rw [get?_merge, get?_empty, Option.or_none]

theorem merge_self (a : Catalog) : (a.merge a).1 = a := by
  refine ext_names_get? ?_ fun name => ?_
  · have hnone : a.names.filter (fun name => !a.has name) = [] := by
      refine List.filter_eq_nil_iff.2 fun name hname => ?_
      rw [has_iff.2 hname]
      exact Bool.false_ne_true
    rw [names_merge, hnone, List.append_nil]
  · rw [get?_merge, Option.or_self]

/-- Of three catalogs, either two may be merged first. -/
theorem merge_assoc (a b c : Catalog) : ((a.merge b).1.merge c).1 = (a.merge (b.merge c).1).1 := by
  refine ext_names_get? ?_ fun name => ?_
  · -- A name of `c` is new to the merge of `a` and `b` if it is new to both.
    have hnew : (fun name => !(a.merge b).1.has name) = fun name => !a.has name && !b.has name := by
      funext name
      rw [has_merge, Bool.not_or, Bool.and_comm]
    rw [names_merge, names_merge, names_merge, names_merge, hnew, List.filter_append,
      List.filter_filter, List.append_assoc]
  · rw [get?_merge, get?_merge, get?_merge, get?_merge, Option.or_assoc]

/-! ## Entries that are kept -/

/-- What a merge holds, one of the two holds. -/
theorem mem_entries_of_mem_merge {entry : String × CType} (h : entry ∈ (a.merge b).1.entries) :
    entry ∈ a.entries ∨ entry ∈ b.entries := by
  rw [merge_eq_insertAll] at h
  exact mem_entries_insertAll h

/-- Every entry of the second catalog is kept. -/
theorem entries_subset_merge_right (a b : Catalog) : b.entries ⊆ (a.merge b).1.entries := by
  rintro ⟨name, t⟩ hentry
  refine get?_eq_some_iff.1 ?_
  rw [get?_merge, get?_eq_some_iff.2 hentry, Option.some_or]

/-- The entries of the first catalog are kept if their names are not in the second. -/
theorem entries_subset_merge_left (h : a.names.Disjoint b.names) :
    a.entries ⊆ (a.merge b).1.entries := by
  rintro ⟨name, t⟩ hentry
  have hname : name ∉ b.names := h (List.mem_map_of_mem hentry)
  have hnone : b.get? name = none := by
    rw [← has_eq_false_iff, Bool.eq_false_iff]
    exact fun hhas => hname (has_iff.1 hhas)
  refine get?_eq_some_iff.1 ?_
  rw [get?_merge, hnone, Option.none_or, get?_eq_some_iff.2 hentry]

/-! ## Unresolved names -/

/-- A name that a merge leaves unresolved, one of the two leaves unresolved and neither stores. -/
theorem mem_unresolved_of_mem_merge (h : name ∈ (a.merge b).1.unresolved) :
    (name ∈ a.unresolved ∨ name ∈ b.unresolved) ∧ a.has name = false ∧ b.has name = false := by
  obtain ⟨⟨entry, hentry, hcontains⟩, hname⟩ := mem_unresolved_iff.1 h
  rw [has_merge, Bool.or_eq_false_iff] at hname
  obtain ⟨hb, ha⟩ := hname
  refine ⟨?_, ha, hb⟩
  rcases mem_entries_of_mem_merge hentry with hentry | hentry
  · exact .inl (mem_unresolved_iff.2 ⟨⟨entry, hentry, hcontains⟩, ha⟩)
  · exact .inr (mem_unresolved_iff.2 ⟨⟨entry, hentry, hcontains⟩, hb⟩)

/-- What the second catalog leaves unresolved, the merge does if the first has no entry for it. -/
theorem mem_unresolved_merge_right (h : name ∈ b.unresolved) (ha : a.has name = false) :
    name ∈ (a.merge b).1.unresolved := by
  refine mem_unresolved_of_subset (entries_subset_merge_right a b) h ?_
  rw [has_merge, ha, (mem_unresolved_iff.1 h).2]
  rfl

/-- Where no name is shared, a merge leaves unresolved what one of the two does and neither
stores. -/
theorem mem_unresolved_merge_iff (hdisjoint : a.names.Disjoint b.names) :
    name ∈ (a.merge b).1.unresolved ↔
      (name ∈ a.unresolved ∨ name ∈ b.unresolved) ∧ a.has name = false ∧ b.has name = false := by
  constructor
  · exact mem_unresolved_of_mem_merge
  · rintro ⟨hname | hname, ha, hb⟩
    · refine mem_unresolved_of_subset (entries_subset_merge_left hdisjoint) hname ?_
      rw [has_merge, ha, hb]
      rfl
    · exact mem_unresolved_merge_right hname ha

/-- **Merging catalogs** is associative with the empty catalog for its unit, and every catalog
merged with itself is the same.  The merge has the names of the first catalog and then the new ones
of the second, with the types of the second for the names that this has.  A name is left unresolved
by a merge only if one of the two leaves it so and neither has it, and what the second leaves
unresolved the merge does unless the first has it.  Where no name is shared, these are exactly the
names that are left unresolved, and what a type stands for in one of the two it stands for in the
merge. -/
theorem merge_laws (a b c : Catalog) :
    (a.merge empty).1 = a ∧ (empty.merge a).1 = a ∧ (a.merge a).1 = a ∧
      ((a.merge b).1.merge c).1 = (a.merge (b.merge c).1).1 ∧
      (a.merge b).1.names = a.names ++ b.names.filter (fun name => !a.has name) ∧
      (∀ name, (a.merge b).1.get? name = if b.has name then b.get? name else a.get? name) ∧
      (∀ name ∈ (a.merge b).1.unresolved,
        (name ∈ a.unresolved ∨ name ∈ b.unresolved) ∧ a.has name = false ∧ b.has name = false) ∧
      (∀ name ∈ b.unresolved, a.has name = false → name ∈ (a.merge b).1.unresolved) ∧
      (a.names.Disjoint b.names →
        (∀ name, name ∈ (a.merge b).1.unresolved ↔
          (name ∈ a.unresolved ∨ name ∈ b.unresolved) ∧
            a.has name = false ∧ b.has name = false) ∧
        ∀ t u, a.resolve? t = some u ∨ b.resolve? t = some u →
          (a.merge b).1.resolve? t = some u) := by
  refine ⟨merge_empty a, empty_merge a, merge_self a, merge_assoc a b c, names_merge a b,
    fun name => ?_, fun name => mem_unresolved_of_mem_merge, fun name => mem_unresolved_merge_right,
    fun hdisjoint => ⟨fun name => mem_unresolved_merge_iff hdisjoint, ?_⟩⟩
  · rw [get?_merge, has]
    cases b.get? name <;> rfl
  · rintro t u (hu | hu)
    · exact resolve?_of_subset (entries_subset_merge_left hdisjoint) hu
    · exact resolve?_of_subset (entries_subset_merge_right a b) hu

/-- A catalog with a reference to a name that it does not store. -/
def referring : Catalog where
  entries := [("P", .named "A"), ("A", .struct [("b", .pointer (.named "B"))])]
  distinct := by decide

/-- A catalog with a type of this name. -/
def referred : Catalog where
  entries := [("B", .enum [("X", "1")])]
  distinct := by decide

/-- Merged, the two leave no name unresolved, and what the references stood for they stand for. -/
theorem merge_laws_referring :
    referring.names.Disjoint referred.names ∧ referring.unresolved = ["B"] ∧
      "B" ∉ (referring.merge referred).1.unresolved ∧
      (referring.merge referred).1.resolve? (.named "P") =
        some (.struct [("b", .pointer (.named "B"))]) := by
  have hdisjoint : referring.names.Disjoint referred.names := List.disjoint_left.2 (by decide)
  obtain ⟨-, -, -, -, -, -, -, -, hlaws⟩ := merge_laws referring referred empty
  obtain ⟨hunresolved, hresolve⟩ := hlaws hdisjoint
  have hhas : referred.has "B" = true := by decide
  refine ⟨hdisjoint, by decide, fun hname => ?_, hresolve _ _ (.inl (by decide))⟩
  rw [hunresolved, hhas] at hname
  exact absurd hname.2.2 (by decide)

end Catalog

end DebugTypes
