import DebugTypes.Proofs.Decoding.Calls
import DebugTypes.Proofs.Decoding.Following

/-!
# When the order of records is binding

A strict session refuses a record that stands out of order; a lenient one searches the section for
the wanted record and goes on.  Up to the first such record the two go in lockstep, and there the
strict one stops.  So the lenient session tells what the strict one would have done: the same if it
never searched, and otherwise the failure that its first warning describes.

The relation between the two sessions is `Lockstep`, and `Departed` says what a lenient session
keeps for good once it has left the order.
-/

namespace DebugTypes

/-- A cursor that insists on the order of records. -/
def Cursor.strictly (c : Cursor) : Cursor := { c with strict := true }

namespace Session

/-- The session with cursors that insist on the order of records. -/
def strictly (s : Session) : Session :=
  { s with functions := s.functions.strictly, unnamed := s.unnamed.strictly }

/-- The first warning in the log that a record stood out of order. -/
def firstOutOfOrder? (s : Session) : Option Event := s.log.toList.find? Event.isOutOfOrder

@[simp] theorem cursor_strictly (s : Session) (place : Section) :
    s.strictly.cursor place = (s.cursor place).strictly := by cases place <;> rfl

@[simp] theorem log_strictly (s : Session) : s.strictly.log = s.log := rfl

@[simp] theorem setCursor_strictly (s : Session) (place : Section) (c : Cursor) :
    s.strictly.setCursor place c.strictly = (s.setCursor place c).strictly := by
  cases place <;> rfl

theorem searches_eq (s : Session) :
    s.searches = (s.cursor .functions).searches + (s.cursor .unnamed).searches := rfl

@[simp] theorem log_setCursor (s : Session) (place : Section) (c : Cursor) :
    (s.setCursor place c).log = s.log := by cases place <;> rfl

theorem firstOutOfOrder?_note (s : Session) (events : List Event) :
    (s.note events).firstOutOfOrder? =
      s.firstOutOfOrder?.or (events.find? Event.isOutOfOrder) := by
  simp [firstOutOfOrder?, note, List.find?_append]

theorem firstOutOfOrder?_setCursor (s : Session) (place : Section) (c : Cursor) :
    (s.setCursor place c).firstOutOfOrder? = s.firstOutOfOrder? := by
  simp [firstOutOfOrder?]

/-- A lenient session that has met no record out of order, beside its strict copy. -/
structure Lockstep (s t : Session) : Prop where
  lenient : ∀ place, (s.cursor place).strict = false
  unsearched : ∀ place, (s.cursor place).searches = 0
  quiet : s.firstOutOfOrder? = none
  copy : t = s.strictly

/-- A session that has met a record out of order, where a strict one fails with `e`. -/
def Departed (s : Session) (e : ReadError) : Prop :=
  0 < s.searches ∧ ∃ name id position found,
    s.firstOutOfOrder? = some (.outOfOrder name id position found) ∧
      e = .outOfOrder name id found

theorem lockstep_start (d : Document) : Lockstep (start d false) (start d true) where
  lenient place := by cases place <;> rfl
  unsearched place := by cases place <;> rfl
  quiet := rfl
  copy := rfl

theorem Lockstep.searches_eq_zero {s t : Session} (h : Lockstep s t) : s.searches = 0 := by
  rw [searches_eq, h.unsearched, h.unsearched]

/-- Only a look-up in the section itself changes how often it was searched. -/
theorem searches_cursor_find_le (place other : Section) (id : UInt32) (s : Session) :
    (s.cursor other).searches ≤ ((find place id s).2.cursor other).searches := by
  rcases cursor_find_cases place other id s with h | h
  · rw [h]
    rcases Cursor.find_cases (s.cursor other) id with he | ⟨record, hr, ⟨e, he⟩ | hi | ⟨i, hi, hn⟩⟩
    · rw [Cursor.find_of_ended id he]; exact Nat.le_refl _
    · rw [Cursor.find_of_unnumbered id hr he]; exact Nat.le_refl _
    · rw [Cursor.find_of_matched hr hi]; exact Nat.le_refl _
    · cases hs : (s.cursor other).strict
      · rw [Cursor.find_of_searched hr hi hn hs]; exact Nat.le_succ _
      · rw [Cursor.find_of_refused hr hi hn hs]; exact Nat.le_refl _
  · exact Nat.le_of_eq (by rw [h])

/-- What has departed from the order stays so. -/
theorem Departed.find {s : Session} {e : ReadError} (h : s.Departed e) (place : Section)
    (id : UInt32) : (Session.find place id s).2.Departed e := by
  obtain ⟨hpos, name, i, position, found, hw, he⟩ := h
  refine ⟨?_, name, i, position, found, ?_, he⟩
  · have hf := searches_cursor_find_le place .functions id s
    have hu := searches_cursor_find_le place .unnamed id s
    rw [searches_eq] at hpos ⊢
    omega
  · rw [find_eq, firstOutOfOrder?_note, firstOutOfOrder?_setCursor, hw]
    rfl

theorem Departed.note {s : Session} {e : ReadError} (h : s.Departed e) (events : List Event) :
    (s.note events).Departed e := by
  obtain ⟨hpos, name, i, position, found, hw, he⟩ := h
  refine ⟨hpos, name, i, position, found, ?_, he⟩
  rw [firstOutOfOrder?_note, hw]
  rfl

/-- A look-up that only moves the cursor, on both sides alike, keeps the lockstep. -/
theorem Lockstep.find_of_moved {s t : Session} (h : Lockstep s t) {place : Section} {id : UInt32}
    {answer : Except ReadError (Element × Nat)}
    (hs : (s.cursor place).find id = (answer, (s.cursor place).moved, []))
    (ht : (s.cursor place).strictly.find id =
      (answer, (s.cursor place).strictly.moved, [])) :
    ∃ t₁, find place id t = ((find place id s).1, t₁) ∧ Lockstep (find place id s).2 t₁ := by
  obtain ⟨hl, hu, hq, rfl⟩ := h
  have hfs := Session.find_of_moved hs
  have hft : find place id s.strictly =
      (answer.map Prod.fst, (s.setCursor place (s.cursor place).moved).strictly) := by
    rw [Session.find_of_moved (by rw [cursor_strictly]; exact ht), cursor_strictly,
      ← setCursor_strictly]
    rfl
  refine ⟨_, by rw [hft, hfs], ?_⟩
  rw [hfs]
  refine ⟨?_, ?_, ?_, rfl⟩
  · intro other
    by_cases ho : other = place
    · subst ho; simpa [Cursor.moved] using hl other
    · simpa [ho] using hl other
  · intro other
    by_cases ho : other = place
    · subst ho; simpa [Cursor.moved] using hu other
    · simpa [ho] using hu other
  · rw [firstOutOfOrder?_setCursor, hq]

/-- A look-up that has to search departs from the order, and the strict session refuses it. -/
theorem Lockstep.find_of_searched {s t : Session} (h : Lockstep s t) {place : Section}
    {id found : UInt32} {record : Element}
    (hr : (s.cursor place).records[(s.cursor place).position]? = some record)
    (hi : record.integer UInt32 "id" = .ok found) (hne : found ≠ id) :
    ∃ e t₁, find place id t = (.error e, t₁) ∧ Departed (find place id s).2 e := by
  obtain ⟨hl, hu, hq, rfl⟩ := h
  have hs := Cursor.find_of_searched hr hi hne (hl place)
  have ht := Cursor.find_of_refused (c := (s.cursor place).strictly) hr hi hne rfl
  refine ⟨.outOfOrder (s.cursor place).sectionName id found, (find place id s.strictly).2,
    ?_, ?_, ?_⟩
  · rw [find_eq, cursor_strictly, ht]
    rfl
  · have hc : ((find place id s).2.cursor place).searches = (s.cursor place).searches + 1 := by
      rw [cursor_find_self, hs]
      rfl
    rw [searches_eq]
    cases place <;> omega
  · refine ⟨_, id, (s.cursor place).position, found, ?_, rfl⟩
    rw [find_eq, firstOutOfOrder?_note, firstOutOfOrder?_setCursor, hq, hs]
    rfl

/-- **A strict session follows a lenient one up to the first record out of order.** -/
theorem follows_lockstep : Follows finder finder Lockstep Departed fun _ => False where
  find {place id s s₁ t r} h hf _ := by
    have hf : find place id s = (r, s₁) := hf
    rcases Cursor.find_cases (s.cursor place) id with
      he | ⟨record, hr, ⟨e, he⟩ | hi | ⟨found, hi, hn⟩⟩
    · have hm := h.find_of_moved (Cursor.find_of_ended id he)
        (Cursor.find_of_ended (c := (s.cursor place).strictly) id he)
      rw [hf] at hm
      exact .inl hm
    · have hm := h.find_of_moved (Cursor.find_of_unnumbered id hr he)
        (Cursor.find_of_unnumbered (c := (s.cursor place).strictly) id hr he)
      rw [hf] at hm
      exact .inl hm
    · have hm := h.find_of_moved (Cursor.find_of_matched hr hi)
        (Cursor.find_of_matched (c := (s.cursor place).strictly) hr hi)
      rw [hf] at hm
      exact .inl hm
    · have hm := h.find_of_searched hr hi hn
      rw [hf] at hm
      exact .inr hm
  note {s t} events h hev := by
    obtain ⟨hl, hu, hq, rfl⟩ := h
    change Lockstep (s.note events) (s.note events).strictly
    refine ⟨fun place => by simpa using hl place, fun place => by simpa using hu place, ?_, rfl⟩
    have hnone : events.find? Event.isOutOfOrder = none := by
      rw [List.find?_eq_none]
      intro event hmem
      simp [hev event hmem]
    rw [firstOutOfOrder?_note, hq, hnone]
    rfl
  stray_find place id _ hs := hs.find place id
  stray_note events _ hs := hs.note events

/-- A strict cursor never searches its section. -/
theorem searches_find_of_strict {place : Section} {id : UInt32} {s : Session}
    (h : (s.cursor place).strict = true) :
    ((s.cursor place).find id).2.1.searches = (s.cursor place).searches := by
  rcases Cursor.find_cases (s.cursor place) id with
    he | ⟨record, hr, ⟨e, he⟩ | hi | ⟨found, hi, hn⟩⟩
  · rw [Cursor.find_of_ended id he]; rfl
  · rw [Cursor.find_of_unnumbered id hr he]; rfl
  · rw [Cursor.find_of_matched hr hi]; rfl
  · rw [Cursor.find_of_refused hr hi hn h]; rfl

/-- A session all of whose cursors are strict and have never searched. -/
def Unsearched (s : Session) : Prop :=
  ∀ place, (s.cursor place).strict = true ∧ (s.cursor place).searches = 0

theorem Unsearched.find {s : Session} (h : s.Unsearched) (place : Section) (id : UInt32) :
    (Session.find place id s).2.Unsearched := by
  intro other
  refine ⟨by rw [strict_cursor_find]; exact (h other).1, ?_⟩
  rcases cursor_find_cases place other id s with hc | hc
  · rw [hc, searches_find_of_strict (h other).1]
    exact (h other).2
  · rw [hc]
    exact (h other).2

/-- However a strict session is used, it never searches a section. -/
theorem searches_performAll_of_strict (d : Document) (calls : List Call) :
    ((start d true).performAll d calls).searches = 0 := by
  have h : ((start d true).performAll d calls).Unsearched := by
    refine invariant_performAll (I := Unsearched) (fun place id s hs => hs.find place id) ?_ d
      calls (start d true) fun place => by cases place <;> exact ⟨rfl, rfl⟩
    intro events s hs place
    simpa using hs place
  rw [searches_eq, (h .functions).2, (h .unnamed).2]

/-- A strict reading is the lenient one, or it has failed where that left the order. -/
theorem readInto_lockstep_or_departed (d : Document) :
    let strict := (start d true).readInto Store.list d #[]
    let lenient := (start d false).readInto Store.list d #[]
    (strict.result = lenient.result ∧ strict.contents = lenient.contents ∧
        Lockstep lenient.session strict.session) ∨
      ∃ e, strict.result = .error e ∧ strict.contents.toList <+: lenient.contents.toList ∧
        Departed lenient.session e := by
  intro strict lenient
  obtain ⟨trace, hl⟩ := reads_readRecords Store.list d.named.children #[] (start d false)
  rcases hl.follow follows_lockstep Store.quiet_list (lockstep_start d) (fun _ _ => not_false) with
    ⟨t, ht, hlock⟩ | ⟨trace', e, c, t, entries, ht, hdep, hc⟩
  · have heq : strict = ⟨lenient.result, lenient.contents, t⟩ := ht.readRecords_eq
    refine .inl ⟨by rw [heq], by rw [heq], ?_⟩
    rw [heq]
    exact hlock
  · have heq : strict = ⟨.error e, c, t⟩ := ht.readRecords_eq
    have hcontents : lenient.contents.toList = c.toList ++ entries := by
      rw [← Store.toList_addAll_list, ← hc]
      rfl
    refine .inr ⟨e, by rw [heq], ?_, hdep⟩
    rw [heq, hcontents]
    exact List.prefix_append _ _

end Session

/-- **Strict and lenient decoding agree up to the first record out of order.** -/
theorem readInto_strict_lenient (d : Document) :
    let strict := (Session.start d true).readInto Store.list d #[]
    let lenient := (Session.start d false).readInto Store.list d #[]
    (lenient.session.searches = 0 →
      strict.result = lenient.result ∧ strict.contents = lenient.contents ∧
        (∀ place, (strict.session.cursor place).position =
          (lenient.session.cursor place).position) ∧
        strict.session.log = lenient.session.log) ∧
    (0 < lenient.session.searches →
      ∃ name id position found,
        lenient.session.firstOutOfOrder? = some (.outOfOrder name id position found) ∧
          strict.result = .error (.outOfOrder name id found) ∧
          strict.contents.toList <+: lenient.contents.toList) ∧
    ((∃ count, strict.result = .ok count) ↔
      (∃ count, lenient.result = .ok count) ∧ lenient.session.searches = 0) ∧
    ∀ calls, ((Session.start d true).performAll d calls).searches = 0 := by
  intro strict lenient
  have hcases := Session.readInto_lockstep_or_departed d
  refine ⟨?_, ?_, ?_, Session.searches_performAll_of_strict d⟩
  · intro hzero
    rcases hcases with ⟨hr, hc, hlock⟩ | ⟨e, -, -, hpos, -⟩
    · have hs : strict.session = lenient.session.strictly := hlock.copy
      refine ⟨hr, hc, ?_, by rw [hs, Session.log_strictly]⟩
      intro place
      rw [hs, Session.cursor_strictly]
      rfl
    · exact absurd hzero (Nat.ne_of_gt hpos)
  · intro hpos
    rcases hcases with ⟨-, -, hlock⟩ | ⟨e, hr, hc, -, name, id, position, found, hw, rfl⟩
    · exact absurd hlock.searches_eq_zero (Nat.ne_of_gt hpos)
    · exact ⟨name, id, position, found, hw, hr, hc⟩
  · rcases hcases with ⟨hr, -, hlock⟩ | ⟨e, hr, -, hpos, -⟩
    · have hr : strict.result = lenient.result := hr
      rw [hr]
      exact ⟨fun h => ⟨h, hlock.searches_eq_zero⟩, fun h => h.1⟩
    · have hr : strict.result = .error e := hr
      rw [hr]
      constructor
      · rintro ⟨count, hcount⟩
        cases hcount
      · rintro ⟨-, hzero⟩
        exact absurd hzero (Nat.ne_of_gt hpos)

end DebugTypes
