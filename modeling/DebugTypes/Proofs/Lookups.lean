import DebugTypes.Proofs.Cursor
import Mathlib.Data.List.Basic

/-!
# Look-ups one after the other

A cursor serves any number of look-ups, and each moves it one record on, whether it succeeds or not.
So it is the `n`th record of the section that the `n`th look-up begins with, whatever was asked for
before, and the section alone tells what the answer is: that record, why it will not do, or, if it
has another id and the order is not binding, the one record of the whole section that has the id.

## Main definitions

* `Cursor.start` — a new cursor.
* `Cursor.answers`, `Cursor.after` — the answers to a list of look-ups, and the cursor after them.
* `Cursor.Answers` — the answer to the look-up at a position, told by the section alone.
* `Cursor.searchesAt` — whether that look-up has to search the section.

## Main statements

* `Cursor.answers_iff` — the answer to one look-up.
* `Cursor.exists_answer` — the answer to each of many.
* `Cursor.answers_start` — the answers, the position and the searches of all look-ups.
-/

namespace DebugTypes.Cursor

/-- A new cursor over the records of a section. -/
def start (sectionName : String) (records : List Element) (strict : Bool) : Cursor :=
  { sectionName, records, strict }

/-- The cursor after look-ups made one after the other. -/
def after (c : Cursor) (ids : List UInt32) : Cursor := ids.foldl (fun c id => (c.find id).2.1) c

/-- The answers to look-ups made one after the other. -/
def answers (c : Cursor) : List UInt32 → List (Except ReadError (Element × Nat))
  | [] => []
  | id :: ids => (c.find id).1 :: (c.find id).2.1.answers ids

/-- How many records of a section carry an id.  Those without a valid one carry none. -/
def carrierCount (records : List Element) (id : UInt32) : Nat :=
  records.countP fun record => record.id? == some id

/-- The answer to a look-up at a position: what there is to be said about the record that stands
there, or about the whole section if its id is another one and the order is not binding. -/
inductive Answers (sectionName : String) (records : List Element) (strict : Bool) (position : Nat)
    (id : UInt32) : Except ReadError (Element × Nat) → Prop
  | ended (h : records.length ≤ position) :
      Answers sectionName records strict position id
        (.error (.outOfRange sectionName position records.length))
  | missing {record : Element} (h : records[position]? = some record)
      (hid : record.attribute? "id" = none) :
      Answers sectionName records strict position id
        (.error (.missingAttribute record.tag "id"))
  | invalid {record : Element} {value : String} (h : records[position]? = some record)
      (hid : record.attribute? "id" = some value) (hvalue : Text.integer? UInt32 value = none) :
      Answers sectionName records strict position id (.error (.invalidNumber "id" value))
  | matched {record : Element} (h : records[position]? = some record)
      (hid : record.id? = some id) :
      Answers sectionName records strict position id (.ok (record, position))
  | refused {record : Element} {found : UInt32} (h : records[position]? = some record)
      (hid : record.id? = some found) (hne : found ≠ id) (hstrict : strict = true) :
      Answers sectionName records strict position id (.error (.outOfOrder sectionName id found))
  | searched {record hit : Element} {found : UInt32} {place : Nat}
      (h : records[position]? = some record) (hid : record.id? = some found) (hne : found ≠ id)
      (hstrict : strict = false) (hhit : records[place]? = some hit) (hcarries : hit.id? = some id)
      (hcount : carrierCount records id = 1) :
      Answers sectionName records strict position id (.ok (hit, place))
  | ambiguous {record : Element} {found : UInt32} (h : records[position]? = some record)
      (hid : record.id? = some found) (hne : found ≠ id) (hstrict : strict = false)
      (hcount : carrierCount records id ≠ 1) :
      Answers sectionName records strict position id
        (.error (.ambiguousReference sectionName id (carrierCount records id)))

/-- Whether the look-up at a position has to search the section. -/
def searchesAt (records : List Element) (strict : Bool) (position : Nat) (id : UInt32) : Bool :=
  !strict && (records[position]?.bind Element.id?).any (· != id)

variable {c : Cursor} {id : UInt32}

/-! ## Searching -/

theorem mem_carriers {hit : Element} {place : Nat} :
    (hit, place) ∈ c.carriers id ↔ c.records[place]? = some hit ∧ hit.id? = some id := by
  rw [carriers, List.mem_filter, List.mem_zipIdx_iff_getElem?, beq_iff_eq]

theorem length_carriers (c : Cursor) (id : UInt32) :
    (c.carriers id).length = carrierCount c.records id := by
  rw [carrierCount, List.countP_eq_length_filter, ← carriers_map_fst, List.length_map]

/-- A search finds the one record that carries the id. -/
theorem search_of_carries {hit : Element} {place : Nat} (hhit : c.records[place]? = some hit)
    (hcarries : hit.id? = some id) (hcount : carrierCount c.records id = 1) :
    c.search id = .ok (hit, place) := by
  rw [← length_carriers, List.length_eq_one_iff] at hcount
  obtain ⟨other, hone⟩ := hcount
  have hmem := mem_carriers.2 ⟨hhit, hcarries⟩
  rw [hone, List.mem_singleton] at hmem
  rw [search, hone, hmem]

/-- A search that does not find exactly one record tells how many there are. -/
theorem search_of_carrierCount_ne_one (hcount : carrierCount c.records id ≠ 1) :
    c.search id = .error (.ambiguousReference c.sectionName id (carrierCount c.records id)) := by
  rw [← length_carriers] at hcount ⊢
  rw [search]
  split
  next hone =>
    rw [hone] at hcount
    exact absurd rfl hcount
  next => rfl

/-! ## One look-up -/

/-- A look-up has an answer as told. -/
theorem answers_find (c : Cursor) (id : UInt32) :
    Answers c.sectionName c.records c.strict c.position id (c.find id).1 := by
  rcases find_cases c id with hr | ⟨record, hr, ⟨e, he⟩ | hid | ⟨found, hid, hne⟩⟩
  · rw [find_of_ended id hr]
    exact .ended (List.getElem?_eq_none_iff.1 hr)
  · rw [find_of_unnumbered id hr he]
    rcases Element.integer_id_eq_error_iff.1 he with ⟨hnone, rfl⟩ | ⟨value, hvalue, hnone, rfl⟩
    · exact .missing hr hnone
    · exact .invalid hr hvalue hnone
  · rw [find_of_matched hr hid]
    exact .matched hr (Element.integer_id_eq_ok_iff.1 hid)
  · have hfound := Element.integer_id_eq_ok_iff.1 hid
    cases hs : c.strict with
    | true =>
        rw [find_of_refused hr hid hne hs]
        exact .refused hr hfound hne rfl
    | false =>
        rw [find_of_searched hr hid hne hs]
        by_cases hcount : carrierCount c.records id = 1
        · obtain ⟨⟨hit, place⟩, hone⟩ := List.length_eq_one_iff.1
            ((c.length_carriers id).trans hcount)
          obtain ⟨hhit, hcarries⟩ := mem_carriers.1 (hone ▸ List.mem_singleton_self (hit, place))
          rw [search_of_carries hhit hcarries hcount]
          exact .searched hr hfound hne rfl hhit hcarries hcount
        · rw [search_of_carrierCount_ne_one hcount]
          exact .ambiguous hr hfound hne rfl hcount

/-- **A look-up has the answer that the section tells,** and no other. -/
theorem answers_iff {answer : Except ReadError (Element × Nat)} :
    Answers c.sectionName c.records c.strict c.position id answer ↔ answer = (c.find id).1 := by
  constructor
  · intro h
    cases h with
    | ended h => rw [find_of_ended id (List.getElem?_eq_none_iff.2 h)]
    | missing h hid =>
        have he := Element.integer_id_eq_error_iff.2 (.inl ⟨hid, rfl⟩)
        rw [find_of_unnumbered id h he]
    | invalid h hid hvalue =>
        have he := Element.integer_id_eq_error_iff.2 (.inr ⟨_, hid, hvalue, rfl⟩)
        rw [find_of_unnumbered id h he]
    | matched h hid => rw [find_of_matched h (Element.integer_id_eq_ok_iff.2 hid)]
    | refused h hid hne hstrict =>
        rw [find_of_refused h (Element.integer_id_eq_ok_iff.2 hid) hne hstrict]
    | searched h hid hne hstrict hhit hcarries hcount =>
        rw [find_of_searched h (Element.integer_id_eq_ok_iff.2 hid) hne hstrict,
          search_of_carries hhit hcarries hcount]
    | ambiguous h hid hne hstrict hcount =>
        rw [find_of_searched h (Element.integer_id_eq_ok_iff.2 hid) hne hstrict,
          search_of_carrierCount_ne_one hcount]
  · rintro rfl
    exact c.answers_find id

/-- The section tells one answer. -/
theorem Answers.unique {sectionName : String} {records : List Element} {strict : Bool}
    {position : Nat} {answer other : Except ReadError (Element × Nat)}
    (h : Answers sectionName records strict position id answer)
    (h' : Answers sectionName records strict position id other) : answer = other := by
  let c : Cursor := { sectionName, records, strict, position }
  have hanswer : answer = (c.find id).1 := answers_iff.1 h
  have hother : other = (c.find id).1 := answers_iff.1 h'
  rw [hanswer, hother]

/-- What is found is a record of the section and carries the id. -/
theorem Answers.carries {sectionName : String} {records : List Element} {strict : Bool}
    {position place : Nat} {hit : Element}
    (h : Answers sectionName records strict position id (.ok (hit, place))) :
    records[place]? = some hit ∧ hit.id? = some id := by
  cases h with
  | matched h hid => exact ⟨h, hid⟩
  | searched _ _ _ _ hhit hcarries => exact ⟨hhit, hcarries⟩

/-- A look-up that has to search the section is one with a warning. -/
theorem length_warning? (c : Cursor) (id : UInt32) :
    (c.warning? id).toList.length =
      if searchesAt c.records c.strict c.position id then 1 else 0 := by
  rw [warning?, searchesAt]
  cases c.records[c.position]?.bind Element.id? with
  | none => simp
  | some found => by_cases h : found = id <;> cases c.strict <;> simp [h]

/-! ## Many look-ups -/

theorem after_cons (c : Cursor) (id : UInt32) (ids : List UInt32) :
    c.after (id :: ids) = (c.find id).2.1.after ids := rfl

theorem position_after (c : Cursor) (ids : List UInt32) :
    (c.after ids).position = c.position + ids.length := by
  induction ids generalizing c with
  | nil => rfl
  | cons id ids ih =>
      rw [after_cons, ih, position_find, List.length_cons]
      omega

theorem length_answers (c : Cursor) (ids : List UInt32) :
    (c.answers ids).length = ids.length := by
  induction ids generalizing c with
  | nil => rfl
  | cons id ids ih => rw [answers, List.length_cons, List.length_cons, ih]

/-- Each look-up has the answer that the section tells for its place among them. -/
theorem exists_answer (c : Cursor) {ids : List UInt32} {n : Nat} (h : ids[n]? = some id) :
    ∃ answer, (c.answers ids)[n]? = some answer ∧
      Answers c.sectionName c.records c.strict (c.position + n) id answer := by
  induction ids generalizing c n with
  | nil => cases h
  | cons first ids ih =>
      cases n with
      | zero =>
          rw [List.getElem?_cons_zero, Option.some.injEq] at h
          subst h
          exact ⟨_, rfl, c.answers_find first⟩
      | succ n =>
          rw [List.getElem?_cons_succ] at h
          obtain ⟨answer, hanswer, htold⟩ := ih (c.find first).2.1 h
          rw [sectionName_find, records_find, strict_find, position_find, Nat.add_right_comm,
            Nat.add_assoc] at htold
          exact ⟨answer, hanswer, htold⟩

/-- The searches are those of the look-ups that have to make one. -/
theorem searches_after (c : Cursor) (ids : List UInt32) :
    (c.after ids).searches = c.searches + (ids.zipIdx c.position).countP fun l =>
      searchesAt c.records c.strict l.2 l.1 := by
  induction ids generalizing c with
  | nil => rfl
  | cons id ids ih =>
      rw [after_cons, ih, (c.find_warning id).2, length_warning?, records_find, strict_find,
        position_find, List.zipIdx_cons, List.countP_cons, Nat.add_right_comm, Nat.add_assoc]

/-- **Look-ups one after the other.**  From a new cursor, the position is the number of look-ups
that were made.  The `n`th has the one answer that the section tells for the position `n` and the
id, so that it would have been the same after any other look-ups.  A record that is found is one of
the section and carries the id.  As many searches are counted as there were look-ups that had to
make one, which is at most the position. -/
theorem answers_start (sectionName : String) (records : List Element) (strict : Bool)
    (ids : List UInt32) :
    let c := start sectionName records strict
    (c.after ids).position = ids.length ∧ (c.answers ids).length = ids.length ∧
      (∀ n id, ids[n]? = some id → ∃ answer, (c.answers ids)[n]? = some answer ∧
        (∀ told, Answers sectionName records strict n id told ↔ told = answer) ∧
        ∀ others : List UInt32, others[n]? = some id → (c.answers others)[n]? = some answer) ∧
      (∀ (n : Nat) (hit : Element) (place : Nat),
        (c.answers ids)[n]? = some (.ok (hit, place)) →
          records[place]? = some hit ∧ hit.id? = ids[n]?) ∧
      (c.after ids).searches = ids.zipIdx.countP (fun l => searchesAt records strict l.2 l.1) ∧
      (c.after ids).searches ≤ (c.after ids).position := by
  intro c
  have hposition : (c.after ids).position = ids.length :=
    (c.position_after ids).trans (Nat.zero_add _)
  have hsearches : (c.after ids).searches =
      ids.zipIdx.countP fun l => searchesAt records strict l.2 l.1 :=
    (c.searches_after ids).trans (Nat.zero_add _)
  have hanswer : ∀ {ids : List UInt32} {n : Nat} {id : UInt32}, ids[n]? = some id →
      ∃ answer, (c.answers ids)[n]? = some answer ∧
        Answers sectionName records strict n id answer := by
    intro ids n id h
    obtain ⟨answer, hanswer, htold⟩ := c.exists_answer h
    rw [show c.position + n = n from Nat.zero_add n] at htold
    exact ⟨answer, hanswer, htold⟩
  refine ⟨hposition, c.length_answers ids, fun n id h => ?_, fun n hit place h => ?_, hsearches, ?_⟩
  · obtain ⟨answer, hmade, htold⟩ := hanswer h
    refine ⟨answer, hmade, fun told => ⟨fun h' => h'.unique htold, fun h' => h' ▸ htold⟩, ?_⟩
    intro others hothers
    obtain ⟨other, hother, htold'⟩ := hanswer hothers
    rw [hother, htold'.unique htold]
  · have hlt : n < ids.length := by
      rw [← c.length_answers ids]
      exact (List.getElem?_eq_some_iff.1 h).1
    have hid := List.getElem?_eq_getElem hlt
    obtain ⟨answer, hmade, htold⟩ := hanswer hid
    rw [h, Option.some.injEq] at hmade
    subst hmade
    rw [hid]
    exact htold.carries
  · rw [hposition, hsearches]
    exact List.length_zipIdx ▸ List.countP_le_length

end DebugTypes.Cursor
