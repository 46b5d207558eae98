import DebugTypes.Cursor

/-!
# What a look-up can do

A look-up ends in one of five ways: there is no record ahead, the next record has no valid id, it
has the wanted id, it has another one and the order is binding, or it has another one and the whole
section is searched.  Each way has one equation, and `Cursor.find_cases` says that there is no
other.

## Main definition

* `Cursor.warning?` — the warning of a look-up that has to search its section.
-/

namespace DebugTypes

theorem Element.integer_id_eq_ok_iff {record : Element} {id : UInt32} :
    record.integer UInt32 "id" = .ok id ↔ record.id? = some id := by
  rw [Element.integer, Element.required, Element.id?]
  cases record.attribute? "id" with
  | none => simp [bind, Except.bind]
  | some value =>
      simp only [bind, Except.bind, readInteger, Option.bind]
      cases Text.integer? UInt32 value <;> simp

/-- A record without a valid id has none at all, or something else in its place. -/
theorem Element.integer_id_eq_error_iff {record : Element} {e : ReadError} :
    record.integer UInt32 "id" = .error e ↔
      (record.attribute? "id" = none ∧ e = .missingAttribute record.tag "id") ∨
        ∃ value, record.attribute? "id" = some value ∧ Text.integer? UInt32 value = none ∧
          e = .invalidNumber "id" value := by
  rw [Element.integer, Element.required]
  cases record.attribute? "id" with
  | none => simp [bind, Except.bind, @eq_comm _ e]
  | some value =>
      simp only [bind, Except.bind, readInteger]
      cases hvalue : Text.integer? UInt32 value <;> simp [hvalue, @eq_comm _ e]

theorem Element.id?_of_integer_id_eq_error {record : Element} {e : ReadError}
    (h : record.integer UInt32 "id" = .error e) : record.id? = none := by
  rw [Element.id?]
  rcases Element.integer_id_eq_error_iff.1 h with ⟨hnone, -⟩ | ⟨value, hvalue, hnone, -⟩
  · rw [hnone]
    rfl
  · rw [hvalue, Option.bind_some, hnone]

namespace Cursor

variable {c : Cursor}

/-- The cursor one record on. -/
def moved (c : Cursor) : Cursor := { c with position := c.position + 1 }

/-- The cursor one record on, with one more search. -/
def searched (c : Cursor) : Cursor := { c.moved with searches := c.searches + 1 }

theorem find_of_ended (id : UInt32) (h : c.records[c.position]? = none) :
    c.find id =
      (.error (.outOfRange c.sectionName c.position c.records.length), c.moved, []) := by
  simp only [find, h, moved]

theorem find_of_unnumbered (id : UInt32) {record : Element} {e : ReadError}
    (h : c.records[c.position]? = some record) (he : record.integer UInt32 "id" = .error e) :
    c.find id = (.error e, c.moved, []) := by
  simp only [find, h, he, moved]

theorem find_of_matched {id : UInt32} {record : Element} (h : c.records[c.position]? = some record)
    (hi : record.integer UInt32 "id" = .ok id) :
    c.find id = (.ok (record, c.position), c.moved, []) := by
  simp only [find, h, hi, if_true, moved]

theorem find_of_refused {id found : UInt32} {record : Element}
    (h : c.records[c.position]? = some record) (hi : record.integer UInt32 "id" = .ok found)
    (hne : found ≠ id) (hs : c.strict = true) :
    c.find id = (.error (.outOfOrder c.sectionName id found), c.moved, []) := by
  simp only [find, h, hi, hne, hs, if_false, if_true, moved]

theorem find_of_searched {id found : UInt32} {record : Element}
    (h : c.records[c.position]? = some record) (hi : record.integer UInt32 "id" = .ok found)
    (hne : found ≠ id) (hs : c.strict = false) :
    c.find id =
      (c.search id, c.searched, [.outOfOrder c.sectionName id c.position found]) := by
  simp only [find, h, hi, hne, hs, if_false, Bool.false_eq_true, searched, moved]

/-- The five ways of a look-up, told by the record at the cursor and its id. -/
theorem find_cases (c : Cursor) (id : UInt32) :
    c.records[c.position]? = none ∨
      ∃ record, c.records[c.position]? = some record ∧
        ((∃ e, record.integer UInt32 "id" = .error e) ∨
          record.integer UInt32 "id" = .ok id ∨
          ∃ found, record.integer UInt32 "id" = .ok found ∧ found ≠ id) := by
  rcases h : c.records[c.position]? with _ | record
  · exact .inl rfl
  · refine .inr ⟨record, rfl, ?_⟩
    rcases hi : record.integer UInt32 "id" with e | found
    · exact .inl ⟨e, rfl⟩
    · by_cases hf : found = id
      · exact .inr (.inl (by rw [hf]))
      · exact .inr (.inr ⟨found, rfl, hf⟩)

/-- The warning of a look-up that has to search its section: the next record has an id, but another
one, and the order is not binding. -/
def warning? (c : Cursor) (id : UInt32) : Option Event :=
  match c.records[c.position]?.bind Element.id? with
  | none => none
  | some found =>
    if found = id ∨ c.strict = true then none
    else some (.outOfOrder c.sectionName id c.position found)

/-- A look-up reports its warning, and counts a search with it. -/
theorem find_warning (c : Cursor) (id : UInt32) :
    (c.find id).2.2 = (c.warning? id).toList ∧
      (c.find id).2.1.searches = c.searches + (c.warning? id).toList.length := by
  rcases find_cases c id with hr | ⟨record, hr, ⟨e, hid⟩ | hid | ⟨found, hid, hne⟩⟩
  · rw [find_of_ended id hr]
    simp [warning?, hr, moved]
  · rw [find_of_unnumbered id hr hid]
    simp [warning?, hr, Element.id?_of_integer_id_eq_error hid, moved]
  · rw [find_of_matched hr hid]
    simp [warning?, hr, Element.integer_id_eq_ok_iff.1 hid, moved]
  · have hfound := Element.integer_id_eq_ok_iff.1 hid
    cases hs : c.strict with
    | true =>
        rw [find_of_refused hr hid hne hs]
        simp [warning?, hr, hs, hfound, moved]
    | false =>
        rw [find_of_searched hr hid hne hs]
        simp [warning?, hr, hs, hfound, hne, searched, moved]

/-- The carriers of an id, without their positions. -/
theorem carriers_map_fst (c : Cursor) (id : UInt32) :
    (c.carriers id).map Prod.fst = c.records.filter fun record => record.id? == some id := by
  rw [carriers, ← List.zipIdx_map_fst 0 c.records, List.filter_map, List.zipIdx_map_fst]
  rfl

end Cursor

end DebugTypes
