import DebugTypes.Proofs.CType.Import
import DebugTypes.Proofs.Catalog.Insertion
import DebugTypes.Proofs.Catalog.Json

/-!
# Catalogs exported again after an import

A catalog may be imported from many texts, but is exported to one.  That one nests no deeper than
what was read to get the catalog, so that the limit that the import has kept to is kept by the
export too.

## Main statements

* `Catalog.nesting_le_of_ofJson?` — how deep the value of a catalog nests that was read.
* `Catalog.reimport_of_imported` — what was imported can be exported and imported again.
-/

namespace DebugTypes.Catalog

open Json (Value mem_of_mapM'_eq_some)

/-- The types of a catalog are written as deep as they were read. -/
theorem nesting_types_le {n : Nat} {v : Value} {c : Catalog} (h : typesOfJson? n v = some c) :
    (Value.record (c.entries.map fun e => (e.1, e.2.toJson))).nesting ≤ n := by
  cases n with
  | zero => cases h
  | succ n =>
      simp only [typesOfJson?, Option.bind_eq_bind, Option.bind_eq_some_iff,
        Option.some.injEq] at h
      obtain ⟨fields, -, entries, hentries, rfl⟩ := h
      rw [Value.nesting_record, List.map_map]
      refine Nat.succ_le_succ (Value.itemsNesting_le fun v hv => ?_)
      obtain ⟨entry, hentry, rfl⟩ := List.mem_map.1 hv
      -- A repeated name drops types, but no entry comes from anywhere but the fields.
      have hread : entry ∈ entries := (mem_entries_insertAll hentry).resolve_left List.not_mem_nil
      obtain ⟨field, -, hfield⟩ := mem_of_mapM'_eq_some hentries entry hread
      obtain ⟨t, ht, hpair⟩ := Option.bind_eq_some_iff.1 hfield
      cases hpair
      exact CType.nesting_le_of_ofJson? n field.2 t ht

/-- A catalog that was read by entering a number of levels is written with no more than that. -/
theorem nesting_le_of_ofJson? {n : Nat} {v : Value} {c : Catalog} (h : ofJson? n v = some c) :
    c.toJson.nesting ≤ n := by
  cases n with
  | zero => cases h
  | succ n =>
      simp only [ofJson?, Option.bind_eq_bind, Option.bind_eq_some_iff] at h
      obtain ⟨parts, -, h⟩ := h
      split at h
      · rw [toJson, CType.nesting_record_one]
        exact Nat.succ_le_succ (nesting_types_le h)
      · cases h

/-- **What was imported can be exported and imported again.**  Whatever text a catalog was read
from, the text that it is exported to keeps to the limit on nesting and is read as the same catalog:
with the same names in the same order and the same types, so that the next export gives the same
text again. -/
theorem reimport_of_imported {text : String} {c : Catalog} (h : ofJsonText? text = some c) :
    Json.bracketDepth c.toJsonText ≤ 127 ∧ ofJsonText? c.toJsonText = some c := by
  obtain ⟨v, -, hv⟩ := Option.bind_eq_some_iff.1 h
  have hnesting : c.toJson.nesting ≤ nestingLimit := nesting_le_of_ofJson? hv
  constructor
  · rwa [bracketDepth_toJsonText]
  · rw [ofJsonText?_toJsonText, if_pos hnesting]

/-- A text with a field that is not known, an escape in a name, a body and a word in their other
forms, qualifiers out of order and repeated, and a name with two types. -/
def liberalText : String :=
  "\x7b\"note\": [[[]]], \"types\": \x7b\"A\": \x7b\"named\": \"B\"\x7d, " ++
  "\"\\u0042\": \x7b\"attributed\": [\x7b\"primitive\": \x7b\"int\": null\x7d\x7d, " ++
  "[\"volatile\", \"const\", \"volatile\"]]\x7d, " ++
  "\"A\": \x7b\"enum\": [[[\"N\", \"0\"]]]\x7d\x7d\x7d"

/-- The catalog that this text holds. -/
def liberal : Catalog where
  entries := [("A", .enum [("N", "0")]),
    ("B", .qualified (.primitive .int) { const := true, volatile := true })]
  distinct := by decide

/-- The catalog of this text is read again from the text that it is exported to. -/
theorem reimport_of_imported_liberal :
    ofJsonText? liberalText = some liberal ∧ ofJsonText? liberal.toJsonText = some liberal := by
  have hentries : (ofJsonText? liberalText).map entries = some liberal.entries := by
    decide +kernel
  obtain ⟨c, himported, hc⟩ := Option.map_eq_some_iff.1 hentries
  obtain rfl : c = liberal := Catalog.ext hc
  obtain ⟨-, hagain⟩ := reimport_of_imported himported
  exact ⟨himported, hagain⟩

end DebugTypes.Catalog
