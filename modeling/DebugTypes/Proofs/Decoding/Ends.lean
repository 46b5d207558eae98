import DebugTypes.Proofs.Cursor
import DebugTypes.Proofs.Decoding.Runs

/-!
# Decoding ends

Every recipe has a run from every session, and `Session.decode` computes it: the height of the tower
of handlers is never felt.  Each look-up that succeeds leaves one record fewer ahead, so that a
tower as high as there are records ahead answers every request.

With this, `Session.decode` obeys the equations of the recursion that it stands for.  Later proofs
use these, or the runs, and never the tower.

## Main statements

* `Session.runs_decode` — the decoding of a recipe is its run.
* `Session.decode_bind` — decoding goes on from the session that the first part leaves.
* `Session.reads_readRecords` — the same for a list of records.
-/

namespace DebugTypes

namespace Session

@[simp] theorem cursor_setCursor_self (s : Session) (place : Section) (c : Cursor) :
    (s.setCursor place c).cursor place = c := by cases place <;> rfl

@[simp] theorem cursor_setCursor_of_ne (s : Session) {place other : Section} (h : other ≠ place)
    (c : Cursor) : (s.setCursor place c).cursor other = s.cursor other := by
  cases place <;> cases other <;> first | rfl | exact absurd rfl h

@[simp] theorem cursor_note (s : Session) (events : List Event) (place : Section) :
    (s.note events).cursor place = s.cursor place := by cases place <;> rfl

@[simp] theorem note_nil (s : Session) : s.note [] = s := by simp [note]

theorem note_note (s : Session) (events later : List Event) :
    (s.note events).note later = s.note (events ++ later) := by
  have hlog : (s.log ++ events) ++ later = s.log ++ (events ++ later) := Array.ext' (by simp)
  rw [note, note, note, hlog]

/-- A session is its two cursors and its log. -/
theorem ext_cursor {s t : Session} (hc : ∀ place, s.cursor place = t.cursor place)
    (hl : s.log = t.log) : s = t := by
  obtain ⟨f, u, log⟩ := s
  obtain ⟨f', u', log'⟩ := t
  have hf : f = f' := hc .functions
  have hu : u = u' := hc .unnamed
  have hl' : log = log' := hl
  rw [hf, hu, hl']

/-- A look-up moves the cursor of its section and adds to the log. -/
theorem find_eq (place : Section) (id : UInt32) (s : Session) :
    find place id s =
      (((s.cursor place).find id).1.map Prod.fst,
        (s.setCursor place ((s.cursor place).find id).2.1).note ((s.cursor place).find id).2.2) :=
  rfl

/-- A look-up that only moves the cursor adds nothing to the log. -/
theorem find_of_moved {s : Session} {place : Section} {id : UInt32}
    {answer : Except ReadError (Element × Nat)}
    (h : (s.cursor place).find id = (answer, (s.cursor place).moved, [])) :
    find place id s = (answer.map Prod.fst, s.setCursor place (s.cursor place).moved) := by
  rw [find_eq, h, note_nil]

@[simp] theorem cursor_find_self (place : Section) (id : UInt32) (s : Session) :
    (find place id s).2.cursor place = ((s.cursor place).find id).2.1 := by simp [find_eq]

theorem cursor_find_of_ne {place other : Section} (h : other ≠ place) (id : UInt32)
    (s : Session) : (find place id s).2.cursor other = s.cursor other := by simp [find_eq, h]

/-- A look-up does nothing to a cursor but what a look-up of that cursor does. -/
theorem cursor_find_cases (place other : Section) (id : UInt32) (s : Session) :
    (find place id s).2.cursor other = ((s.cursor other).find id).2.1 ∨
      (find place id s).2.cursor other = s.cursor other := by
  by_cases h : other = place
  · subst h
    exact .inl (cursor_find_self other id s)
  · exact .inr (cursor_find_of_ne h id s)

section

variable (place other : Section) (id : UInt32) (s : Session)

@[simp] theorem records_cursor_find :
    ((find place id s).2.cursor other).records = (s.cursor other).records := by
  rcases cursor_find_cases place other id s with h | h
  · rw [h, Cursor.records_find]
  · rw [h]

@[simp] theorem sectionName_cursor_find :
    ((find place id s).2.cursor other).sectionName = (s.cursor other).sectionName := by
  rcases cursor_find_cases place other id s with h | h
  · rw [h, Cursor.sectionName_find]
  · rw [h]

@[simp] theorem strict_cursor_find :
    ((find place id s).2.cursor other).strict = (s.cursor other).strict := by
  rcases cursor_find_cases place other id s with h | h
  · rw [h, Cursor.strict_find]
  · rw [h]

/-- A look-up moves the cursor of its section one record on, and no other. -/
theorem position_cursor_find :
    ((find place id s).2.cursor other).position =
      (s.cursor other).position + if other = place then 1 else 0 := by
  by_cases h : other = place
  · subst h
    rw [cursor_find_self, Cursor.position_find, if_pos rfl]
  · rw [cursor_find_of_ne h, if_neg h, Nat.add_zero]

end

theorem remaining_eq (s : Session) :
    s.remaining = (s.cursor .functions).remaining + (s.cursor .unnamed).remaining := rfl

/-- A look-up never puts records back in front of a cursor. -/
theorem remaining_cursor_find_le (place other : Section) (id : UInt32) (s : Session) :
    ((find place id s).2.cursor other).remaining ≤ (s.cursor other).remaining := by
  rw [Cursor.remaining, Cursor.remaining, records_cursor_find, position_cursor_find]
  omega

/-- A look-up that succeeds takes one record from those ahead in its section. -/
theorem remaining_cursor_find {place : Section} {id : UInt32} {s s₁ : Session} {record : Element}
    (h : find place id s = (.ok record, s₁)) :
    (s₁.cursor place).remaining + 1 = (s.cursor place).remaining := by
  rw [find_eq, Prod.mk.injEq] at h
  obtain ⟨hr, rfl⟩ := h
  cases hf : ((s.cursor place).find id).1 with
  | error e => rw [hf] at hr; cases hr
  | ok hit => simpa using Cursor.remaining_find hf

/-- A look-up that succeeds leaves one record fewer ahead. -/
theorem remaining_find {place : Section} {id : UInt32} {s s₁ : Session} {record : Element}
    (h : find place id s = (.ok record, s₁)) : s₁.remaining + 1 ≤ s.remaining := by
  have hp := remaining_cursor_find h
  have hf := remaining_cursor_find_le place .functions id s
  have hu := remaining_cursor_find_le place .unnamed id s
  rw [h] at hf hu
  rw [remaining_eq, remaining_eq]
  cases place <;> simp only at hp hf hu <;> omega

end Session

/-- A run never puts records back in front of a cursor. -/
theorem Runs.remaining_cursor_le {α : Type} {p : Recipe α} {s s₁ : Session}
    {trace : List Lookup} {r : Except ReadError α} (h : Runs Session.finder p s trace r s₁)
    (other : Section) : (s₁.cursor other).remaining ≤ (s.cursor other).remaining := by
  refine h.invariant (I := fun t => (t.cursor other).remaining ≤ (s.cursor other).remaining) ?_
    (Nat.le_refl _)
  intro place id t ht
  exact Nat.le_trans (Session.remaining_cursor_find_le place other id t) ht

theorem Runs.remaining_le {α : Type} {p : Recipe α} {s s₁ : Session} {trace : List Lookup}
    {r : Except ReadError α} (h : Runs Session.finder p s trace r s₁) :
    s₁.remaining ≤ s.remaining :=
  Nat.add_le_add (h.remaining_cursor_le .functions) (h.remaining_cursor_le .unnamed)

namespace Session

variable {α β : Type}

/-- What the request of a recipe does under a handler. -/
theorem run_ask (h : Handler Decoder) (place : Section) (id : UInt32)
    (next : place.Answer → Recipe α) (s : Session) :
    (Recipe.ask place id next).run h s =
      match h place id s with
      | (.error e, s₁) => (.error e, s₁)
      | (.ok a, s₁) => (next a).run h s₁ := by
  change ExceptT.bind (h place id) (fun a => (next a).run h) s = _
  simp only [ExceptT.bind, ExceptT.mk, bind, StateT.bind]
  rcases h place id s with ⟨e | a, s₁⟩ <;> rfl

/-- A level of the tower decodes the record that it finds by the level below. -/
theorem handler_succ (n : Nat) (place : Section) (id : UInt32) (s : Session) :
    handler (n + 1) place id s =
      match find place id s with
      | (.error e, s₁) => (.error e, s₁)
      | (.ok record, s₁) => (Record.content place record).run (handler n) s₁ := by
  change ExceptT.bind (find place id) (fun r => (Record.content place r).run (handler n)) s = _
  simp only [ExceptT.bind, ExceptT.mk, bind, StateT.bind]
  rcases find place id s with ⟨e | a, s₁⟩ <;> rfl

/-- With nothing ahead a look-up fails, and so does the request. -/
theorem handler_zero {place : Section} {id : UInt32} {s s₁ : Session} {e : ReadError}
    (h : find place id s = (.error e, s₁)) : handler 0 place id s = (.error e, s₁) := by
  change ExceptT.bind (find place id) (fun r => throw (.unknownToken .recordKinds r.tag)) s = _
  simp only [ExceptT.bind, ExceptT.mk, bind, StateT.bind, h]
  rfl

/-- The tower computes a run when it is at least as high as there are records ahead. -/
theorem runs_handler (n : Nat) (p : Recipe α) (s : Session) (hn : s.remaining ≤ n) :
    ∃ trace, Runs finder p s trace (p.run (handler n) s).1 (p.run (handler n) s).2 := by
  -- Outer induction on the height, for the records that are found; inner induction on the recipe,
  -- for what follows an answer.
  induction n generalizing α p s with
  | zero =>
      cases p with
      | done a => exact ⟨[], .done a s⟩
      | fail e => exact ⟨[], .fail e s⟩
      | ask place id next =>
          rcases hf : find place id s with ⟨e | record, s₁⟩
          · rw [run_ask, handler_zero hf]
            exact ⟨_, .lost hf⟩
          · have hlt := remaining_find hf
            omega
  | succ n ih =>
      induction p generalizing s with
      | done a => exact ⟨[], .done a s⟩
      | fail e => exact ⟨[], .fail e s⟩
      | ask place id next ihn =>
          rw [run_ask, handler_succ]
          rcases hf : find place id s with ⟨e | record, s₁⟩
          · exact ⟨_, .lost hf⟩
          · have hlt := remaining_find hf
            obtain ⟨trace, hc⟩ := ih (Record.content place record) s₁ (by omega)
            simp only
            rcases hr : (Record.content place record).run (handler n) s₁ with ⟨e | a, s₂⟩
            · rw [hr] at hc
              exact ⟨_, .broken hf hc⟩
            · rw [hr] at hc
              have hle : s₂.remaining ≤ s₁.remaining := hc.remaining_le
              obtain ⟨later, hl⟩ := ihn a s₂ (by omega)
              exact ⟨_, .answered hf hc hl⟩

/-- **Decoding ends.**  The decoding of a recipe is its run, which has no bound on its height. -/
theorem runs_decode (p : Recipe α) (s : Session) :
    ∃ trace, Runs finder p s trace (decode p s).1 (decode p s).2 :=
  runs_handler s.remaining p s (Nat.le_refl _)

end Session

/-- What has a run decodes to its result. -/
theorem Runs.decode_eq {α : Type} {p : Recipe α} {s s₁ : Session} {trace : List Lookup}
    {r : Except ReadError α} (h : Runs Session.finder p s trace r s₁) :
    Session.decode p s = (r, s₁) := by
  obtain ⟨trace', h'⟩ := Session.runs_decode p s
  obtain ⟨-, hr, hs⟩ := h'.deterministic h
  exact Prod.ext hr hs

namespace Session

@[simp] theorem decode_done (a : α) (s : Session) : decode (.done a) s = (.ok a, s) := rfl

@[simp] theorem decode_fail (e : ReadError) (s : Session) :
    decode (.fail e : Recipe α) s = (.error e, s) := rfl

/-- A request looks its record up, decodes it and goes on with what it stands for. -/
theorem decode_ask (place : Section) (id : UInt32) (next : place.Answer → Recipe α)
    (s : Session) :
    decode (.ask place id next) s =
      match find place id s with
      | (.error e, s₁) => (.error e, s₁)
      | (.ok record, s₁) =>
        match decode (Record.content place record) s₁ with
        | (.error e, s₂) => (.error e, s₂)
        | (.ok a, s₂) => decode (next a) s₂ := by
  rcases hf : find place id s with ⟨e | record, s₁⟩
  · exact (Runs.lost hf : Runs finder _ _ _ _ _).decode_eq
  · obtain ⟨trace, hc⟩ := runs_decode (Record.content place record) s₁
    simp only
    rcases hr : decode (Record.content place record) s₁ with ⟨e | a, s₂⟩
    · rw [hr] at hc
      exact (Runs.broken hf hc).decode_eq
    · rw [hr] at hc
      obtain ⟨later, hl⟩ := runs_decode (next a) s₂
      exact (Runs.answered hf hc hl).decode_eq

/-- Decoding goes on from the session that the first part leaves. -/
theorem decode_bind (p : Recipe α) (f : α → Recipe β) (s : Session) :
    decode (p.bind f) s =
      match decode p s with
      | (.error e, s₁) => (.error e, s₁)
      | (.ok a, s₁) => decode (f a) s₁ := by
  obtain ⟨trace, hp⟩ := runs_decode p s
  rcases hr : decode p s with ⟨e | a, s₁⟩
  · rw [hr] at hp
    exact hp.bind_error.decode_eq
  · rw [hr] at hp
    obtain ⟨later, hl⟩ := runs_decode (f a) s₁
    exact (hp.bind hl).decode_eq

/-- Reading records into a store is their run. -/
theorem reads_readRecords {τ : Type} (store : Store τ) (records : List Element) (c : τ)
    (s : Session) :
    ∃ trace, Reads finder store records c s trace (readRecords store records c s).result
      (readRecords store records c s).contents (readRecords store records c s).session := by
  induction records generalizing c s with
  | nil => exact ⟨[], .none c s⟩
  | cons record rest ih =>
      obtain ⟨trace, hd⟩ := runs_decode (Record.namedGroup record) s
      rw [readRecords]
      rcases hr : decode (Record.namedGroup record) s with ⟨e | ⟨name, t⟩, s₁⟩
      · rw [hr] at hd
        exact ⟨trace, .broken hd⟩
      · rw [hr] at hd
        obtain ⟨later, hl⟩ := ih (store.add c name t).1
          (s₁.note (.decodedType t.kind.label name :: (store.add c name t).2))
        exact ⟨_, .stored hd hl⟩

end Session

/-- What a list of records reads to is what its run says. -/
theorem Reads.readRecords_eq {τ : Type} {store : Store τ} {records : List Element} {c c₁ : τ}
    {s s₁ : Session} {trace : List Lookup} {r : Except ReadError Nat}
    (h : Reads Session.finder store records c s trace r c₁ s₁) :
    Session.readRecords store records c s = ⟨r, c₁, s₁⟩ := by
  obtain ⟨trace', h'⟩ := Session.reads_readRecords store records c s
  obtain ⟨-, hr, hc, hs⟩ := h'.deterministic h
  rw [← hr, ← hc, ← hs]

end DebugTypes
