import DebugTypes.Proofs.Decoding.Agreement
import DebugTypes.Proofs.Decoding.Replay

/-!
# What decoding does not read

Two documents whose records agree one by one are decoded in parallel: every look-up meets records at
the same position that stand for the same, so that both readings ask for the same ids, move their
cursors and warn alike, and end in the same way.  What the records do not agree in has no effect.

## Main definitions

* `Session.Parallel s t` — two sessions at the same point of documents whose records agree.

## Main statement

* `Document.reading_of_sameRecords` — documents whose records agree decode alike.
-/

namespace DebugTypes

open List (Forall₂)

variable {place : Section}

/-! ## Look-ups -/

/-- Two answers to a look-up that are the same error, or records that stand for the same. -/
inductive SameAnswer (place : Section) : Except ReadError Element → Except ReadError Element → Prop
    where
  | failed (e : ReadError) : SameAnswer place (.error e) (.error e)
  | found {a b : Element} (h : Record.SameRecord place a b) : SameAnswer place (.ok a) (.ok b)

theorem Record.SameRecord.id?_eq {a b : Element} (h : Record.SameRecord place a b) :
    a.id? = b.id? := by
  rw [Element.id?, Element.id?, h.id.value "id" List.mem_cons_self]

/-- Lists that are related item by item are so at every position. -/
theorem rel_getElem? {α β : Type} {R : α → β → Prop} {as : List α} {bs : List β}
    (h : Forall₂ R as bs) (i : Nat) : Option.Rel R as[i]? bs[i]? := by
  induction h generalizing i with
  | nil => exact .none
  | cons hab _ ih =>
      cases i with
      | zero => exact .some hab
      | succ i => simpa using ih i

theorem forall₂_zipIdx {α β : Type} {R : α → β → Prop} {as : List α} {bs : List β}
    (h : Forall₂ R as bs) (n : Nat) :
    Forall₂ (fun a b => R a.1 b.1) (as.zipIdx n) (bs.zipIdx n) := by
  induction h generalizing n with
  | nil => exact .nil
  | cons hab _ ih => exact .cons hab (ih (n + 1))

namespace Cursor

/-- Two cursors at the same position of sections whose records agree. -/
structure Parallel (place : Section) (c c' : Cursor) : Prop where
  sectionName : c'.sectionName = c.sectionName
  strict : c'.strict = c.strict
  position : c'.position = c.position
  searches : c'.searches = c.searches
  records : Forall₂ (Record.SameRecord place) c.records c'.records

namespace Parallel

variable {c c' : Cursor}

theorem moved (h : c.Parallel place c') : c.moved.Parallel place c'.moved where
  sectionName := h.sectionName
  strict := h.strict
  position := congrArg (· + 1) h.position
  searches := h.searches
  records := h.records

theorem searched (h : c.Parallel place c') : c.searched.Parallel place c'.searched where
  sectionName := h.sectionName
  strict := h.strict
  position := congrArg (· + 1) h.position
  searches := congrArg (· + 1) h.searches
  records := h.records

/-- The records that carry an id are as many, and stand for the same. -/
theorem carriers (h : c.Parallel place c') (id : UInt32) :
    Forall₂ (fun r r' => Record.SameRecord place r.1 r'.1) (c.carriers id) (c'.carriers id) := by
  refine List.rel_filter ?_ (forall₂_zipIdx h.records 0)
  intro r r' hr
  simp only [hr.id?_eq]

theorem search (h : c.Parallel place c') (id : UInt32) :
    SameAnswer place ((c.search id).map Prod.fst) ((c'.search id).map Prod.fst) := by
  rw [Cursor.search, Cursor.search, h.sectionName]
  have hcarriers := h.carriers id
  generalize c.carriers id = hits, c'.carriers id = hits' at hcarriers
  cases hcarriers with
  | nil => exact .failed _
  | cons hr hrest =>
      cases hrest with
      | nil => exact .found hr
      | cons _ hmore =>
          simp only [List.length_cons, hmore.length_eq]
          exact .failed _

/-- Look-ups of the same id in parallel have the same answer and the same warnings, and the cursors
stay parallel. -/
theorem find (h : c.Parallel place c') (id : UInt32) :
    SameAnswer place ((c.find id).1.map Prod.fst) ((c'.find id).1.map Prod.fst) ∧
      (c.find id).2.1.Parallel place (c'.find id).2.1 ∧ (c'.find id).2.2 = (c.find id).2.2 := by
  have hnext := rel_getElem? h.records c.position
  rcases Cursor.find_cases c id with hr | ⟨record, hr, hid⟩
  · have hr' : c'.records[c'.position]? = none := by
      rw [hr, ← h.position] at hnext
      cases hn : c'.records[c'.position]? with
      | none => rfl
      | some record' => rw [hn] at hnext; cases hnext
    rw [find_of_ended id hr, find_of_ended id hr', h.sectionName, h.position,
      ← h.records.length_eq]
    exact ⟨.failed _, h.moved, rfl⟩
  · obtain ⟨record', hr', hsame⟩ : ∃ record', c'.records[c'.position]? = some record' ∧
        Record.SameRecord place record record' := by
      rw [hr, ← h.position] at hnext
      cases hn : c'.records[c'.position]? with
      | none => rw [hn] at hnext; cases hnext
      | some record' =>
          rw [hn] at hnext
          cases hnext with
          | some hsame => exact ⟨record', rfl, hsame⟩
    have hinteger : record'.integer UInt32 "id" = record.integer UInt32 "id" :=
      (hsame.id.integer_eq List.mem_cons_self UInt32).symm
    rcases hid with ⟨e, hid⟩ | hid | ⟨found, hid, hne⟩
    · rw [find_of_unnumbered id hr hid, find_of_unnumbered id hr' (hinteger.trans hid)]
      exact ⟨.failed e, h.moved, rfl⟩
    · rw [find_of_matched hr hid, find_of_matched hr' (hinteger.trans hid)]
      exact ⟨.found hsame, h.moved, rfl⟩
    · cases hs : c.strict with
      | true =>
          rw [find_of_refused hr hid hne hs,
            find_of_refused hr' (hinteger.trans hid) hne (h.strict.trans hs), h.sectionName]
          exact ⟨.failed _, h.moved, rfl⟩
      | false =>
          rw [find_of_searched hr hid hne hs,
            find_of_searched hr' (hinteger.trans hid) hne (h.strict.trans hs), h.sectionName,
            h.position]
          exact ⟨h.search id, h.searched, rfl⟩

end Parallel

end Cursor

/-! ## Sessions -/

namespace Session

/-- Two sessions with the same log at the same point of documents whose records agree. -/
structure Parallel (s t : Session) : Prop where
  cursor : ∀ place, (s.cursor place).Parallel place (t.cursor place)
  log : t.log = s.log

namespace Parallel

variable {s t : Session}

theorem searches_eq (h : s.Parallel t) : t.searches = s.searches :=
  congrArg₂ (· + ·) (h.cursor .functions).searches (h.cursor .unnamed).searches

theorem start {d d' : Document} (h : d.SameRecords d') (strict : Bool) :
    (Session.start d strict).Parallel (Session.start d' strict) where
  cursor place := by cases place <;> exact ⟨rfl, rfl, rfl, rfl, h.records _⟩
  log := rfl

theorem note (h : s.Parallel t) (events : List Event) :
    (s.note events).Parallel (t.note events) where
  cursor place := by
    rw [cursor_note, cursor_note]
    exact h.cursor place
  log := by rw [Session.note, Session.note, h.log]

theorem find (h : s.Parallel t) (place : Section) (id : UInt32) :
    SameAnswer place (Session.find place id s).1 (Session.find place id t).1 ∧
      (Session.find place id s).2.Parallel (Session.find place id t).2 := by
  obtain ⟨hanswer, hcursor, hevents⟩ := (h.cursor place).find id
  rw [find_eq, find_eq, hevents]
  refine ⟨hanswer, .note ⟨fun other => ?_, ?_⟩ _⟩
  · by_cases hp : other = place
    · subst hp
      rw [cursor_setCursor_self, cursor_setCursor_self]
      exact hcursor
    · rw [cursor_setCursor_of_ne _ hp, cursor_setCursor_of_ne _ hp]
      exact h.cursor other
  · cases place <;> exact h.log

end Parallel

end Session

/-- A run has a parallel one with the same result. -/
theorem Runs.parallel {α : Type} {p : Recipe α} {s s₁ t : Session} {trace : List Lookup}
    {r : Except ReadError α} (h : Runs Session.finder p s trace r s₁) (ht : s.Parallel t) :
    ∃ trace' t₁, Runs Session.finder p t trace' r t₁ ∧ s₁.Parallel t₁ := by
  have hfind : ∀ {place id s s₁ t answer}, Session.finder.find place id s = (answer, s₁) →
      s.Parallel t → ∃ answer' t₁, Session.finder.find place id t = (answer', t₁) ∧
        SameAnswer place answer answer' ∧ s₁.Parallel t₁ := by
    intro place id s s₁ t answer found ht
    have hnext := ht.find place id
    rw [show Session.find place id s = (answer, s₁) from found] at hnext
    exact ⟨_, _, rfl, hnext⟩
  induction h generalizing t with
  | done a s => exact ⟨[], t, .done a t, ht⟩
  | fail e s => exact ⟨[], t, .fail e t, ht⟩
  | lost found =>
      obtain ⟨_, t₁, found', ⟨⟩, h₁⟩ := hfind found ht
      exact ⟨_, t₁, .lost found', h₁⟩
  | broken found content ih =>
      obtain ⟨_, t₁, found', ⟨⟩ | ⟨hsame⟩, h₁⟩ := hfind found ht
      obtain ⟨trace', t₂, content', h₂⟩ := ih h₁
      rw [Record.content_eq hsame.content] at content'
      exact ⟨_, t₂, .broken found' content', h₂⟩
  | answered found content rest ihc ihr =>
      obtain ⟨_, t₁, found', ⟨⟩ | ⟨hsame⟩, h₁⟩ := hfind found ht
      obtain ⟨trace', t₂, content', h₂⟩ := ihc h₁
      obtain ⟨later', t₃, rest', h₃⟩ := ihr h₂
      rw [Record.content_eq hsame.content] at content'
      exact ⟨_, t₃, .answered found' content' rest', h₃⟩

namespace Session

theorem Parallel.decode {α : Type} {s t : Session} (h : s.Parallel t) (p : Recipe α) :
    (Session.decode p t).1 = (Session.decode p s).1 ∧
      (Session.decode p s).2.Parallel (Session.decode p t).2 := by
  obtain ⟨trace, hrun⟩ := runs_decode p s
  obtain ⟨trace', t₁, hrun', h₁⟩ := hrun.parallel h
  rw [hrun'.decode_eq]
  exact ⟨rfl, h₁⟩

/-- Named types that agree one by one are read alike. -/
theorem Parallel.readRecords {σ : Type} (store : Store σ) {as bs : List Element}
    (hrecords : Forall₂ Record.SameNamed as bs) (c : σ) {s t : Session} (h : s.Parallel t) :
    (Session.readRecords store bs c t).result = (Session.readRecords store as c s).result ∧
      (Session.readRecords store bs c t).contents = (Session.readRecords store as c s).contents ∧
      (Session.readRecords store as c s).session.Parallel
        (Session.readRecords store bs c t).session := by
  induction hrecords generalizing c s t with
  | nil => exact ⟨rfl, rfl, h⟩
  | @cons a b as bs hab _ ih =>
      obtain ⟨hresult, hnext⟩ := h.decode (Record.namedGroup a)
      rcases hs : Session.decode (Record.namedGroup a) s with ⟨r, s₁⟩
      rcases ht : Session.decode (Record.namedGroup a) t with ⟨r', t₁⟩
      rw [hs, ht] at hresult hnext
      obtain rfl : r' = r := hresult
      rw [Record.namedGroup_eq hab] at ht
      rcases r' with e | ⟨name, u⟩
      · rw [readRecords_of_error hs, readRecords_of_error ht]
        exact ⟨rfl, rfl, hnext⟩
      · obtain ⟨hrest, hcontents, hlast⟩ := ih (store.add c name u).1
          (hnext.note (.decodedType u.kind.label name :: (store.add c name u).2))
        rw [readRecords_of_ok hs, readRecords_of_ok ht]
        exact ⟨congrArg (Except.map (· + 1)) hrest, hcontents, hlast⟩

end Session

theorem Catalog.ofDocument_of_sameRecords {d d' : Document} (h : d.SameRecords d')
    (strict : Bool) : ofDocument d' strict = ofDocument d strict := by
  obtain ⟨hresult, hcontents, hsession⟩ :=
    (Session.Parallel.start h strict).readRecords Store.catalog h.named empty
  simp only [ofDocument, Session.readInto, hresult, hcontents, hsession.log, hsession.searches_eq]

/-- **Decoding reads nothing but what its records agree in.**  If the records of two documents agree
one by one, then both documents are read with the same result into the same contents, whatever store
these go to and whether order is binding or not; the cursors end at the same positions after as many
searches, the logs are the same, and so are the catalogs. -/
theorem Document.reading_of_sameRecords {d d' : Document} (h : d.SameRecords d') (strict : Bool)
    {σ : Type} (store : Store σ) (c : σ) :
    let r := d.reading strict store c
    let r' := d'.reading strict store c
    r'.result = r.result ∧ r'.contents = r.contents ∧ r'.session.log = r.session.log ∧
      (∀ place, (r'.session.cursor place).position = (r.session.cursor place).position ∧
        (r'.session.cursor place).searches = (r.session.cursor place).searches) ∧
      Catalog.ofDocument d' strict = Catalog.ofDocument d strict := by
  intro r r'
  obtain ⟨hresult, hcontents, hsession⟩ :=
    (Session.Parallel.start h strict).readRecords store h.named c
  exact ⟨hresult, hcontents, hsession.log, fun place =>
    ⟨(hsession.cursor place).position, (hsession.cursor place).searches⟩,
    Catalog.ofDocument_of_sameRecords h strict⟩

/-- A document of a struct with a bit-field and a callback, and of an enum. -/
def Document.bare : Document where
  root := .mk "types" [] [
    .mk "funcs" [] [.mk "func" [("id", "0")]
      [.mk "arg" [("base", ".INT"), ("attr", "CONST VOLATILE")] []]],
    .mk "unnamed" [] [.mk "union" [("id", "0")] [.mk "field" [("name", "i"), ("base", ".INT")] []]],
    .mk "named" [] [
      .mk "struct" [("name", "S")]
        [.mk "bit-field" [("name", "b"), ("base", ".INT"), ("len", "3")] [],
          .mk "field" [("name", "f"), ("base", "#0"), ("wrap", "F 0 p")] []],
      .mk "enum" [("name", "E")] [.mk "const" [("name", "A"), ("val", "1")] []]]]
  complete := by decide

/-- The same document with all that is not read: other sections and attributes, a section more,
repeated attributes, children where none are read, a wrap chain on the bit-field that asks for the
function, and the qualifiers in another order. -/
def Document.adorned : Document where
  root := .mk "root" [("version", "2")] [
    .mk "x" [("id", "5")] [.mk "func" [("name", "g"), ("id", "0"), ("id", "1")]
      [.mk "arg" [("base", ".INT"), ("attr", " VOLATILE\tCONST  VOLATILE")] [.mk "arg" [] []]]],
    .mk "y" [] [.mk "union" [("id", "0"), ("name", "U")]
      [.mk "field" [("name", "i"), ("base", ".INT"), ("len", "x")] [.mk "field" [] []]]],
    .mk "z" [] [
      .mk "struct" [("name", "S"), ("id", "7"), ("name", "T")]
        [.mk "bit-field" [("wrap", "F 0 a"), ("name", "b"), ("base", ".INT"), ("len", "3")] [],
          .mk "field" [("name", "f"), ("base", "#0"), ("wrap", "F 0 p"), ("base", "")] []],
      .mk "enum" [("name", "E")] [.mk "const" [("val", "1"), ("name", "A")] [.mk "const" [] []]]],
    .mk "more" [] []]
  complete := by decide

theorem Document.sameRecords_adorned : Document.SameRecords .bare .adorned where
  records place := by
    have hwords : Text.wordsOf "CONST VOLATILE" = ["CONST", "VOLATILE"] ∧
        Text.wordsOf " VOLATILE\tCONST  VOLATILE" = ["VOLATILE", "CONST", "VOLATILE"] := by
      decide +kernel
    have hqualifiers : SameQualifiers (some "CONST VOLATILE")
        (some " VOLATILE\tCONST  VOLATILE") := by
      refine .rewritten (by rw [hwords.1]; decide) fun word => ?_
      rw [hwords.1, hwords.2]
      simp only [List.mem_cons, List.not_mem_nil, or_false]
      tauto
    cases place with
    | functions =>
        refine .cons ⟨⟨rfl, by decide⟩, ?_⟩ .nil
        exact .cons ⟨⟨rfl, by decide⟩, hqualifiers, fun _ => rfl⟩ .nil
    | unnamed =>
        refine .cons ⟨⟨rfl, by decide⟩, rfl, fun h => absurd h (by decide), fun _ => ?_⟩ .nil
        exact .cons ⟨⟨rfl, by decide⟩, ⟨⟨rfl, by decide⟩, .same none, fun _ => rfl⟩, by decide⟩ .nil
  named := by
    refine .cons ⟨⟨rfl, by decide⟩, rfl, fun h => absurd h (by decide), fun _ => ?_⟩
      (.cons ⟨⟨rfl, by decide⟩, rfl, fun _ => .cons ⟨rfl, by decide⟩ .nil,
        fun h => absurd h (by decide)⟩ .nil)
    exact .cons ⟨⟨rfl, by decide⟩, ⟨⟨rfl, by decide⟩, .same none, by decide⟩, by decide⟩
      (.cons ⟨⟨rfl, by decide⟩, ⟨⟨rfl, by decide⟩, .same none, by decide⟩, by decide⟩ .nil)

/-- Both documents are read to the end, although the wrap chain of the bit-field in one of them is
malformed and asks for the only function. -/
theorem Document.reading_of_sameRecords_adorned :
    Document.SameRecords .bare .adorned ∧
      (Document.bare.reading true Store.list #[]).result = .ok 2 ∧
      (Document.adorned.reading true Store.list #[]).result =
        (Document.bare.reading true Store.list #[]).result ∧
      (Document.adorned.reading true Store.list #[]).contents =
        (Document.bare.reading true Store.list #[]).contents ∧
      Catalog.ofDocument .adorned true = Catalog.ofDocument .bare true := by
  obtain ⟨hresult, hcontents, -, -, hcatalog⟩ :=
    reading_of_sameRecords sameRecords_adorned true Store.list #[]
  exact ⟨sameRecords_adorned, by decide +kernel, hresult, hcontents, hcatalog⟩

end DebugTypes
