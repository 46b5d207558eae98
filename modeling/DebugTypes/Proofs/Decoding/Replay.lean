import DebugTypes.Proofs.Catalog.Insertion
import DebugTypes.Proofs.Decoding.Ends
import DebugTypes.Proofs.Decoding.Following

/-!
# What a store receives

Decoding does not depend on where the named types go.  A store adds to the log, and no look-up ever
asks what the log says.  So two stores receive the same entries from the same document, before the
same failure if there is one, and what a catalog holds in the end is told by what a plain list
received.

## Main definitions

* `Document.reading` — what a new session makes of a document.
* `Session.Alike` — two sessions that differ in nothing but their logs.

## Main statements

* `Session.exists_received` — two stores receive the same.
* `Catalog.reading_replay` — reading into a catalog, told by reading into a list.
-/

namespace DebugTypes

variable {σ τ α : Type}

/-- The reading of all named types of a document into a store, by a new session. -/
def Document.reading (d : Document) (strict : Bool) (store : Store σ) (contents : σ) : Reading σ :=
  (Session.start d strict).readInto store d contents

/-- A named type goes under the name attribute of its record. -/
theorem Record.attribute?_of_namedGroup {record : Element} {s s₁ : Session} {name : String}
    {t : CType} (h : Session.decode (Record.namedGroup record) s = (.ok (name, t), s₁)) :
    record.attribute? "name" = some name := by
  rw [namedGroup, Element.required] at h
  cases hname : record.attribute? "name" with
  | none =>
      rw [hname] at h
      cases h
  | some n =>
      rw [hname, Recipe.bind_eq, Recipe.ofExcept_ok, Recipe.done_bind, Recipe.bind_eq,
        Session.decode_bind] at h
      rcases hg : Session.decode (group record) s with ⟨e | u, s₂⟩ <;> rw [hg] at h <;> cases h
      rfl

namespace Session

/-! ## The log says nothing to a look-up -/

/-- Two sessions that differ in nothing but their logs. -/
def Alike (s t : Session) : Prop := ∀ place, t.cursor place = s.cursor place

namespace Alike

variable {s t : Session}

theorem refl (s : Session) : s.Alike s := fun _ => rfl

theorem note (h : s.Alike t) (events later : List Event) :
    (s.note events).Alike (t.note later) := by
  intro place
  rw [cursor_note, cursor_note, h place]

theorem find (h : s.Alike t) (place : Section) (id : UInt32) :
    (Session.find place id t).1 = (Session.find place id s).1 ∧
      (Session.find place id s).2.Alike (Session.find place id t).2 := by
  refine ⟨by rw [find_eq, find_eq, h place], fun other => ?_⟩
  by_cases hp : other = place
  · subst hp
    rw [cursor_find_self, cursor_find_self, h other]
  · rw [cursor_find_of_ne hp, cursor_find_of_ne hp, h other]

end Alike

/-- Of two sessions that are alike, one follows the other to the end. -/
theorem follows_alike : Follows finder finder Alike (fun _ _ => False) fun _ => False where
  find {place id s s₁ t r} h hf _ := by
    have hf : find place id s = (r, s₁) := hf
    obtain ⟨heq, hnext⟩ := h.find place id
    rw [hf] at heq hnext
    exact .inl ⟨(find place id t).2, Prod.ext heq rfl, hnext⟩
  note events h _ := h.note events events
  stray_find _ _ _ hs := hs
  stray_note _ _ hs := hs

/-- What is decoded does not depend on the log. -/
theorem Alike.decode {s t : Session} (h : s.Alike t) (p : Recipe α) :
    (Session.decode p t).1 = (Session.decode p s).1 ∧
      (Session.decode p s).2.Alike (Session.decode p t).2 := by
  obtain ⟨trace, hrun⟩ := runs_decode p s
  rcases hrun.follow follows_alike h (fun _ _ => not_false) with ⟨t₁, ht, hnext⟩ | ⟨_, _, _, _, hs⟩
  · rw [ht.decode_eq]
    exact ⟨rfl, hnext⟩
  · exact hs.elim

/-! ## Reading into a store -/

section

variable {store : Store σ} {record : Element} {s s₁ : Session}

/-- A record that does not decode ends the reading, and the store keeps what it has. -/
theorem readRecords_of_error {e : ReadError}
    (h : Session.decode (Record.namedGroup record) s = (.error e, s₁)) (rest : List Element)
    (c : σ) : readRecords store (record :: rest) c s = ⟨.error e, c, s₁⟩ := by
  rw [readRecords, h]

/-- A record that decodes adds one entry and leaves the rest to be read. -/
theorem readRecords_of_ok {name : String} {t : CType}
    (h : Session.decode (Record.namedGroup record) s = (.ok (name, t), s₁)) (rest : List Element)
    (c : σ) :
    readRecords store (record :: rest) c s =
      let later := readRecords store rest (store.add c name t).1
        (s₁.note (.decodedType t.kind.label name :: (store.add c name t).2))
      { later with result := later.result.map (· + 1) } := by
  rw [readRecords, h]

end

theorem exists_of_map_eq_ok {r : Except ReadError Nat} {n : Nat} (h : r.map (· + 1) = .ok n) :
    ∃ m, r = .ok m ∧ m + 1 = n := by
  cases r with
  | error e => cases h
  | ok m => cases h; exact ⟨m, rfl, rfl⟩

/-- What is read without a failure is as many types as there are records. -/
theorem eq_length_of_readRecords {store : Store σ} {records : List Element} {c : σ} {s : Session}
    {n : Nat} (h : (readRecords store records c s).result = .ok n) : n = records.length := by
  induction records generalizing c s n with
  | nil => cases h; rfl
  | cons record rest ih =>
      rcases hd : Session.decode (Record.namedGroup record) s with ⟨e | ⟨name, t⟩, s₁⟩
      · rw [readRecords_of_error hd] at h
        cases h
      · rw [readRecords_of_ok hd] at h
        obtain ⟨m, hm, rfl⟩ := exists_of_map_eq_ok h
        rw [ih hm, List.length_cons]

/-- **Two stores receive the same.**  From sessions that are alike they are given the same entries,
and the reading ends in the same way.  If it does not fail, there is one entry for each record,
under its name. -/
theorem exists_received (store : Store σ) (store' : Store τ) (records : List Element) (c : σ)
    (c' : τ) {s t : Session} (h : s.Alike t) :
    (readRecords store' records c' t).result = (readRecords store records c s).result ∧
      ∃ entries, (readRecords store records c s).contents = (store.addAll c entries).1 ∧
        (readRecords store' records c' t).contents = (store'.addAll c' entries).1 ∧
        ∀ n, (readRecords store records c s).result = .ok n →
          entries.map (fun entry => some entry.1) = records.map (·.attribute? "name") := by
  induction records generalizing c c' s t with
  | nil => exact ⟨rfl, [], rfl, rfl, fun _ _ => rfl⟩
  | cons record rest ih =>
      obtain ⟨hresult, hnext⟩ := h.decode (Record.namedGroup record)
      rcases hs : Session.decode (Record.namedGroup record) s with ⟨r, s₁⟩
      rcases ht : Session.decode (Record.namedGroup record) t with ⟨r', t₁⟩
      rw [hs, ht] at hresult hnext
      obtain rfl : r' = r := hresult
      rcases r' with e | ⟨name, u⟩
      · rw [readRecords_of_error hs, readRecords_of_error ht]
        exact ⟨rfl, [], rfl, rfl, fun _ hn => by cases hn⟩
      · obtain ⟨hrest, entries, hc, hc', hnames⟩ := ih (store.add c name u).1
          (store'.add c' name u).1 (hnext.note
            (.decodedType u.kind.label name :: (store.add c name u).2)
            (.decodedType u.kind.label name :: (store'.add c' name u).2))
        rw [readRecords_of_ok hs, readRecords_of_ok ht]
        refine ⟨congrArg (Except.map (· + 1)) hrest, (name, u) :: entries, hc, hc', fun n hn => ?_⟩
        obtain ⟨m, hm, -⟩ := exists_of_map_eq_ok hn
        rw [List.map_cons, List.map_cons, hnames m hm, Record.attribute?_of_namedGroup hs]

end Session

/-- A store receives what an empty list receives, which is one entry for each record if the reading
does not fail. -/
theorem Document.reading_eq_addAll (d : Document) (strict : Bool) (store : Store σ) (c : σ) :
    let plain := d.reading strict Store.list #[]
    (d.reading strict store c).result = plain.result ∧
      (d.reading strict store c).contents = (store.addAll c plain.contents.toList).1 ∧
      ∀ n, plain.result = .ok n → n = d.named.children.length ∧
        plain.contents.toList.length = d.named.children.length ∧
        plain.contents.toList.map (fun entry => some entry.1) =
          d.named.children.map (·.attribute? "name") := by
  obtain ⟨hresult, entries, hlist, hstore, hnames⟩ := Session.exists_received Store.list store
    d.named.children #[] c (Session.Alike.refl (Session.start d strict))
  have hentries : (d.reading strict Store.list #[]).contents.toList = entries := by
    rw [reading, Session.readInto, hlist, Store.toList_addAll_list, List.nil_append]
  intro plain
  rw [hentries]
  refine ⟨hresult, hstore, fun n hn => ⟨Session.eq_length_of_readRecords hn, ?_, hnames n hn⟩⟩
  have hlength := congrArg List.length (hnames n hn)
  rwa [List.length_map, List.length_map] at hlength

/-- The catalog of a document is what an empty catalog becomes, unless the reading fails. -/
theorem Catalog.ofDocument_eq_reading (d : Document) (strict : Bool) :
    (ofDocument d strict).1 = (d.reading strict Store.catalog empty).result.map fun _ =>
      (d.reading strict Store.catalog empty).contents := by
  rw [ofDocument, Document.reading]
  split
  next hr => rw [hr]; rfl
  next hr => rw [hr]; rfl

/-- **Reading into a catalog is reading into a list and inserting that.**  It ends in the same way as
into an empty list, and the catalog then holds the entries of the list on top of its own: its names
come first and in their order, the new ones follow in the order in which they first came, and the
last type that came under a name is the one that it has.  The catalog of a document, if it decodes,
has one entry for each distinct name, while every entry was counted. -/
theorem Catalog.reading_replay (d : Document) (strict : Bool) (c : Catalog) :
    let plain := d.reading strict Store.list #[]
    let filled := d.reading strict Store.catalog c
    let entries := plain.contents.toList
    filled.result = plain.result ∧ filled.contents = c.insertAll entries ∧
      filled.contents.names = c.names ++ ((entryNames entries).removeAll c.names).eraseDups ∧
      filled.contents.names.Nodup ∧
      (∀ name, filled.contents.get? name = (entryType? entries.reverse name).or (c.get? name)) ∧
      (ofDocument d strict).1 = plain.result.map (fun _ => ofList entries) ∧
      (ofList entries).size = (entryNames entries).toFinset.card ∧
      ∀ count, plain.result = .ok count → count = entries.length := by
  intro plain filled entries
  obtain ⟨hresult, hcontents, hcount⟩ := d.reading_eq_addAll strict Store.catalog c
  rw [Store.addAll_catalog] at hcontents
  have hcontents : filled.contents = c.insertAll entries := hcontents
  refine ⟨hresult, hcontents, ?_, filled.contents.distinct, ?_, ?_, size_ofList entries, ?_⟩
  · rw [hcontents, names_insertAll]
  · intro name
    rw [hcontents, get?_insertAll]
  · obtain ⟨hresult, hcontents, -⟩ := d.reading_eq_addAll strict Store.catalog empty
    rw [Store.addAll_catalog] at hcontents
    rw [ofDocument_eq_reading, hresult, hcontents]
    rfl
  · intro count hr
    obtain ⟨rfl, hlength, -⟩ := hcount count hr
    exact hlength.symm

end DebugTypes
