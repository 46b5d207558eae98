import DebugTypes.Proofs.Decoding.Directory
import DebugTypes.Proofs.Decoding.Yields
import Mathlib.Data.List.OfFn
import Mathlib.Data.Fintype.Perm

/-!
# The order of records

Where ids are valid and distinct, a lenient session may meet the records of a section in any order:
its cursor moves in the same steps, finds the same records, and runs out at the same look-up.  Only
the warnings about the order differ.

The order of the named types is another matter, since every named type is decoded with the cursors
where the one before left them.  Yet the records that a named type leads to, and so the look-ups
that it takes, do not depend on that.  A section that suffices for the named types in one order
suffices for them in every order.

## Main definitions

* `Session.notices` — the log without the warnings about the order of records.
* `Session.Reordered s t` — two lenient sessions with the same records in different orders.
* `Rearranged σ l l'` — the list `l'` holds the items of `l` in the order `σ`.
* `DecodesBy d` — what a record of a named type decodes to by the directory of a document.

## Main statement

* `readInto_lenient_rearranged` — what lenient decoding makes of a document whose records stand in
  another order.
-/

namespace DebugTypes

/-! ## Two orders of the records of a section -/

namespace Cursor

/-- Two lenient cursors at the same position, over the same records in different orders; the records
have valid and distinct ids. -/
structure Reordered (place : Section) (c c' : Cursor) : Prop where
  perm : c'.records.Perm c.records
  position : c'.position = c.position
  label : c.sectionName = place.label ∧ c'.sectionName = place.label
  lenient : c.strict = false ∧ c'.strict = false
  valid : ∀ record ∈ c.records, record.id?.isSome = true
  distinct : (c.records.map Element.id?).Nodup

/-- All that a look-up reports is that records are out of order. -/
theorem isOutOfOrder_of_mem_find (c : Cursor) (id : UInt32) :
    ∀ event ∈ (c.find id).2.2, event.isOutOfOrder = true := by
  intro event hmem
  unfold find at hmem
  repeat' split at hmem
  all_goals simp_all [Event.isOutOfOrder]

namespace Reordered

variable {place : Section} {c c' : Cursor}

/-- Both cursors find the same record, or fail in the same way. -/
theorem find_eq (h : Reordered place c c') (id : UInt32) :
    (c'.find id).1.map Prod.fst = (c.find id).1.map Prod.fst := by
  have hlength : c'.records.length = c.records.length := h.perm.length_eq
  by_cases hlt : c.position < c.records.length
  · have hlt' : c'.position < c'.records.length := by rw [h.position, hlength]; exact hlt
    have hvalid' : ∀ record ∈ c'.records, record.id?.isSome = true :=
      fun record hmem => h.valid record (h.perm.subset hmem)
    have hdistinct' : (c'.records.map Element.id?).Nodup :=
      (h.perm.map Element.id?).nodup_iff.2 h.distinct
    rw [find_eq_recordOf h.label.2 h.lenient.2 hvalid' hdistinct' hlt',
      find_eq_recordOf h.label.1 h.lenient.1 h.valid h.distinct hlt,
      recordOf_perm h.perm h.distinct]
  · have hend : c.records[c.position]? = none := List.getElem?_eq_none_iff.2 (by omega)
    have hend' : c'.records[c'.position]? = none :=
      List.getElem?_eq_none_iff.2 (by rw [h.position, hlength]; omega)
    rw [find_of_ended id hend, find_of_ended id hend', h.label.1, h.label.2, h.position, hlength]

theorem find (h : Reordered place c c') (id : UInt32) :
    Reordered place (c.find id).2.1 (c'.find id).2.1 where
  perm := by rw [records_find, records_find]; exact h.perm
  position := by rw [position_find, position_find, h.position]
  label := by rw [sectionName_find, sectionName_find]; exact h.label
  lenient := by rw [strict_find, strict_find]; exact h.lenient
  valid := by rw [records_find]; exact h.valid
  distinct := by rw [records_find]; exact h.distinct

end Reordered

end Cursor

namespace Session

/-- The log without the warnings about the order of records. -/
def notices (s : Session) : List Event := s.log.toList.filter fun event => !event.isOutOfOrder

theorem notices_note (s : Session) (events : List Event) :
    (s.note events).notices = s.notices ++ events.filter fun event => !event.isOutOfOrder := by
  simp [notices, note]

/-- A look-up reports nothing but warnings about the order of records. -/
theorem notices_find (place : Section) (id : UInt32) (s : Session) :
    (find place id s).2.notices = s.notices := by
  have hnone : (((s.cursor place).find id).2.2.filter fun event => !event.isOutOfOrder) = [] := by
    rw [List.filter_eq_nil_iff]
    intro event hmem
    simp [Cursor.isOutOfOrder_of_mem_find _ _ event hmem]
  rw [find_eq, notices_note, hnone, List.append_nil]
  cases place <;> rfl

/-- Two lenient sessions with the same records in different orders, which have made the same number
of look-ups and reported the same apart from the order. -/
structure Reordered (s t : Session) : Prop where
  cursors : ∀ place, (s.cursor place).Reordered place (t.cursor place)
  notices : t.notices = s.notices

namespace Reordered

variable {s t : Session}

theorem note (h : Reordered s t) (events : List Event) :
    Reordered (s.note events) (t.note events) where
  cursors place := by rw [cursor_note, cursor_note]; exact h.cursors place
  notices := by rw [notices_note, notices_note, h.notices]

theorem find (h : Reordered s t) (place : Section) (id : UInt32) :
    (Session.find place id t).1 = (Session.find place id s).1 ∧
      Reordered (Session.find place id s).2 (Session.find place id t).2 := by
  refine ⟨(h.cursors place).find_eq id, fun other => ?_, ?_⟩
  · by_cases hp : other = place
    · subst hp
      rw [cursor_find_self, cursor_find_self]
      exact (h.cursors other).find id
    · rw [cursor_find_of_ne hp, cursor_find_of_ne hp]
      exact h.cursors other
  · rw [notices_find, notices_find, h.notices]

end Reordered

end Session

/-- Sessions over documents with the same numbered records in different orders. -/
theorem Session.reordered_start {d d' : Document} (hd : d.Numbered)
    (hp : ∀ place, (d'.records place).Perm (d.records place)) :
    Session.Reordered (start d false) (start d' false) where
  cursors place := by
    have hperm := hp place
    have hvalid := hd.valid place
    have hdistinct := hd.distinct place
    cases place
    · exact ⟨hperm, rfl, ⟨rfl, rfl⟩, ⟨rfl, rfl⟩, hvalid, hdistinct⟩
    · exact ⟨hperm, rfl, ⟨rfl, rfl⟩, ⟨rfl, rfl⟩, hvalid, hdistinct⟩
  notices := rfl

/-- A session follows another one through the same records in a different order, to the end. -/
theorem follows_reordered :
    Follows Session.finder Session.finder Session.Reordered (fun _ _ => False)
      fun _ => False where
  find {place id s s₁ t r} h hf _ := by
    have hf : Session.find place id s = (r, s₁) := hf
    obtain ⟨heq, hnext⟩ := h.find place id
    rw [hf] at heq hnext
    refine .inl ⟨(Session.find place id t).2, ?_, hnext⟩
    have heq : (Session.find place id t).1 = r := heq
    change Session.find place id t = _
    rw [← heq]
    rfl
  note events h _ := h.note events
  stray_find _ _ _ hs := hs
  stray_note _ _ hs := hs

/-! ## Two orders of the named types -/

/-- The list `l'` holds the items of `l` in the order `σ`. -/
structure Rearranged {α : Type} {n : Nat} (σ : Equiv.Perm (Fin n)) (l l' : List α) : Prop where
  length : l.length = n
  length' : l'.length = n
  item : ∀ i : Fin n, l'[i.val]? = l[(σ i).val]?

namespace Rearranged

variable {α β : Type} {n : Nat} {σ : Equiv.Perm (Fin n)} {l l' : List α}

/-- In every order the items of a list can be put. -/
theorem exists_rearranged (σ : Equiv.Perm (Fin n)) {l : List α} (h : l.length = n) :
    ∃ l', l'.Perm l ∧ Rearranged σ l l' := by
  subst h
  refine ⟨List.ofFn fun i => l.get (σ i), ?_, rfl, List.length_ofFn, fun i => ?_⟩
  · have hperm := Equiv.Perm.ofFn_comp_perm σ l.get
    rwa [List.ofFn_get] at hperm
  · simp

theorem map (h : Rearranged σ l l') (f : α → β) : Rearranged σ (l.map f) (l'.map f) where
  length := by rw [List.length_map, h.length]
  length' := by rw [List.length_map, h.length']
  item i := by rw [List.getElem?_map, List.getElem?_map, h.item]

/-- Only one list holds the items of another in a given order. -/
theorem unique {l'' : List α} (h : Rearranged σ l l') (h' : Rearranged σ l l'') : l'' = l' := by
  refine List.ext_getElem? fun i => ?_
  by_cases hi : i < n
  · rw [h.item ⟨i, hi⟩, h'.item ⟨i, hi⟩]
  · have hlength := h.length'
    have hlength' := h'.length'
    rw [List.getElem?_eq_none_iff.2 (by omega), List.getElem?_eq_none_iff.2 (by omega)]

end Rearranged

/-- The record decodes to a named type by the directory of a document, with the given look-ups and
whatever look-ups were made before. -/
def DecodesBy (d : Document) (record : Element) (trace : List Lookup) (entry : String × CType) :
    Prop :=
  ∀ n, ∃ n₁, Runs d.directory (Record.namedGroup record) n trace (.ok entry) n₁

/-- A directory finds the same whatever look-ups were made before. -/
theorem follows_directory_self (d : Document) :
    Follows d.directory d.directory (fun _ _ => True) (fun _ _ => False) fun _ => False where
  find {place id n n₁ m r} _ hf _ := by
    have hr : recordOf place (d.records place) id = r := congrArg Prod.fst hf
    exact .inl ⟨m.count place, by rw [← hr]; rfl, trivial⟩
  note _ _ _ := trivial
  stray_find _ _ _ hs := hs
  stray_note _ _ hs := hs

theorem DecodesBy.of_runs {d : Document} {record : Element} {trace : List Lookup}
    {entry : String × CType} {n n₁ : Tally}
    (h : Runs d.directory (Record.namedGroup record) n trace (.ok entry) n₁) :
    DecodesBy d record trace entry := by
  intro m
  rcases h.follow (follows_directory_self d) (t := m) trivial (fun _ _ => not_false) with
    ⟨m₁, hm, -⟩ | ⟨_, _, _, _, hs⟩
  · exact ⟨m₁, hm⟩
  · exact hs.elim

section

variable {τ : Type} {store : Store τ} {d : Document} {records : List Element} {c c₁ : τ}
  {n n₁ : Tally} {trace : List Lookup}

/-- What a directory reads without a failure, it decodes record by record. -/
theorem Reads.each {r : Except ReadError Nat} {k : Nat}
    (h : Reads d.directory store records c n trace r c₁ n₁) (hr : r = .ok k) :
    ∃ entries, Each (DecodesBy d) records trace entries ∧ c₁ = (store.addAll c entries).1 ∧
      k = records.length := by
  induction h generalizing k with
  | none c n =>
      cases hr
      exact ⟨[], .nil, rfl, rfl⟩
  | broken head => cases hr
  | @stored record rest c _ _ _ name t r _ _ _ head tail ih =>
      cases r with
      | error e => cases hr
      | ok j =>
          obtain ⟨entries, heach, hc, hj⟩ := ih rfl
          cases hr
          exact ⟨(name, t) :: entries, .cons (.of_runs head) heach, hc, by rw [hj]; rfl⟩

/-- What a directory decodes record by record, it reads from any counts on. -/
theorem Each.reads {entries : List (String × CType)}
    (h : Each (DecodesBy d) records trace entries) (store : Store τ) (c : τ) (n : Tally) :
    ∃ n₁, Reads d.directory store records c n trace (.ok records.length)
      (store.addAll c entries).1 n₁ := by
  induction h generalizing c n with
  | nil => exact ⟨n, .none c n⟩
  | @cons record rest trace later entry entries head tail ih =>
      obtain ⟨n₁, hhead⟩ := head n
      obtain ⟨n₂, htail⟩ := ih (store.add c entry.1 entry.2).1 n₁
      exact ⟨n₂, .stored hhead htail⟩

end

/-- What holds item by item holds item by item in every order, with the same look-ups in another
order. -/
theorem Each.rearranged {ι β : Type} {P : ι → List Lookup → β → Prop} {n : Nat}
    {is is' : List ι} {trace : List Lookup} {bs : List β} {σ : Equiv.Perm (Fin n)}
    (h : Each P is trace bs) (hσ : Rearranged σ is is') :
    ∃ trace' bs', trace'.Perm trace ∧ Each P is' trace' bs' ∧ Rearranged σ bs bs' := by
  -- The items, their look-ups and their results in one list, which is then put into the new order.
  obtain ⟨l, hl, rfl, rfl, rfl⟩ : ∃ l : List (ι × List Lookup × β),
      (∀ x ∈ l, P x.1 x.2.1 x.2.2) ∧ l.map (·.1) = is ∧ l.flatMap (·.2.1) = trace ∧
        l.map (·.2.2) = bs := by
    clear hσ
    induction h with
    | nil => exact ⟨[], by simp, rfl, rfl, rfl⟩
    | @cons i is trace later b bs head tail ih =>
        obtain ⟨l, hl, rfl, rfl, rfl⟩ := ih
        exact ⟨(i, trace, b) :: l, List.forall_mem_cons.2 ⟨head, hl⟩, rfl, rfl, rfl⟩
  have heach : ∀ l : List (ι × List Lookup × β), (∀ x ∈ l, P x.1 x.2.1 x.2.2) →
      Each P (l.map (·.1)) (l.flatMap (·.2.1)) (l.map (·.2.2)) := by
    intro l hl
    induction l with
    | nil => exact .nil
    | cons x l ih =>
        obtain ⟨hx, hl⟩ := List.forall_mem_cons.1 hl
        exact .cons hx (ih hl)
  have hlength : l.length = n := by rw [← hσ.length, List.length_map]
  obtain ⟨l', hperm, hl'⟩ := Rearranged.exists_rearranged σ hlength
  obtain rfl := (hl'.map (·.1)).unique hσ
  exact ⟨_, _, hperm.flatMap_right _, heach l' fun x hx => hl x (hperm.subset hx), hl'.map _⟩

/-- The lenient reading of all named types of a document into an empty list. -/
def Document.lenientReading (d : Document) : Reading (Array (String × CType)) :=
  (Session.start d false).readInto Store.list d #[]

/-- **The order of records does not matter where ids are valid and distinct.**  Lenient decoding of
the same records in another order gives the same result and the same list, with the cursors at the
same positions and the same log apart from warnings.  If it succeeds, it succeeds as well for every
order of the named types, and gives the list in that order. -/
theorem readInto_lenient_rearranged (d d' : Document) (hd : d.Numbered)
    (hp : ∀ place, (d'.records place).Perm (d.records place)) :
    (d'.named.children = d.named.children →
      d'.lenientReading.result = d.lenientReading.result ∧
        d'.lenientReading.contents = d.lenientReading.contents ∧
        (∀ place, (d'.lenientReading.session.cursor place).position =
          (d.lenientReading.session.cursor place).position) ∧
        d'.lenientReading.session.notices = d.lenientReading.session.notices) ∧
    ∀ (count : Nat) (σ : Equiv.Perm (Fin d.named.children.length)),
      d.lenientReading.result = .ok count →
      Rearranged σ d.named.children d'.named.children →
      d'.lenientReading.result = .ok count ∧
        Rearranged σ d.lenientReading.contents.toList d'.lenientReading.contents.toList := by
  obtain ⟨trace, h⟩ := Session.reads_readRecords Store.list d.named.children #[]
    (Session.start d false)
  constructor
  · intro hnamed
    rcases h.follow follows_reordered Store.quiet_list (Session.reordered_start hd hp)
      (fun _ _ => not_false) with ⟨t, ht, hR⟩ | ⟨_, _, _, _, _, _, hs, _⟩
    · have heq := ht.readRecords_eq
      rw [Document.lenientReading, Session.readInto, hnamed, heq]
      exact ⟨rfl, rfl, fun place => (hR.cursors place).position, hR.notices⟩
    · exact hs.elim
  · intro count σ hcount hσ
    have hcount : (Session.readRecords Store.list d.named.children #[]
        (Session.start d false)).result = .ok count := hcount
    rw [hcount] at h
    -- From the session to the directory, which is indifferent to the order, and back.
    rcases h.follow (follows_directory hd) Store.quiet_list (tallied_start d) (by simp) with
      ⟨n, hn, htallied⟩ | ⟨_, _, _, _, _, _, hs, _⟩
    · obtain ⟨entries, heach, hcontents, hlength⟩ := hn.each rfl
      obtain ⟨trace', entries', hperm, heach', hentries⟩ := heach.rearranged hσ
      obtain ⟨n', hn'⟩ := heach'.reads Store.list #[] fun _ => 0
      rcases hn'.follow (directory_follows hd hp) Store.quiet_list (tallied_start d')
        (fun _ _ => not_false) with ⟨t, ht, -⟩ | ⟨_, _, _, _, _, _, hstray, _⟩
      · have heq := ht.readRecords_eq
        rw [Document.lenientReading, Document.lenientReading, Session.readInto, Session.readInto,
          heq, hcontents, Store.toList_addAll_list, Store.toList_addAll_list]
        exact ⟨by rw [hlength, hσ.length'], by simpa using hentries⟩
      · -- In the new order each section is asked as often as in the old one.
        obtain ⟨place, hlt⟩ := hstray
        have htally := hn.tally place
        have htally' := hn'.tally place
        have hcountP := hperm.countP_eq (Lookup.among place)
        have hwithin := htallied.within place
        omega
    · exact hs.elim

/-- A document of a callback and three unnamed types, in the order of the two lists. -/
def Document.ofLists (unnamed named : List Element) : Document where
  root := .mk "types" [] [
    .mk "funcs" [] [.mk "func" [("id", "7")] [.mk "arg" [("base", "#1")] []]],
    .mk "unnamed" [] unnamed,
    .mk "named" [] named]
  complete := Nat.le_refl sectionCount

/-- Three unnamed types that stand in no order of their ids. -/
def threeUnnamed : List Element :=
  [.mk "struct" [("id", "1")] [], .mk "enum" [("id", "0")] [], .mk "union" [("id", "2")] []]

/-- Two named types: the first takes the unnamed types `0` and `1`, the second `2`. -/
def twoNamed : List Element :=
  [.mk "struct" [("name", "S")] [.mk "field" [("name", "f"), ("base", "#0"), ("wrap", "F 7 p")] []],
    .mk "struct" [("name", "T")] [.mk "field" [("name", "u"), ("base", "#2")] []]]

/-- With the unnamed types the other way round the same list comes of it, and with the named types
the other way round as well the list is the other way round. -/
theorem readInto_lenient_rearranged_reversed :
    (Document.ofLists threeUnnamed twoNamed).Numbered ∧
      (Document.ofLists threeUnnamed twoNamed).lenientReading.result = .ok 2 ∧
      (Document.ofLists threeUnnamed.reverse twoNamed).lenientReading.contents =
        (Document.ofLists threeUnnamed twoNamed).lenientReading.contents ∧
      Rearranged (Equiv.swap (0 : Fin 2) 1)
        (Document.ofLists threeUnnamed twoNamed).lenientReading.contents.toList
        (Document.ofLists threeUnnamed.reverse
          twoNamed.reverse).lenientReading.contents.toList := by
  have hd : (Document.ofLists threeUnnamed twoNamed).Numbered := by
    refine ⟨fun place => ?_, fun place => ?_⟩
    · cases place <;> decide +kernel
    · cases place <;> decide +kernel
  have hp : ∀ named place, ((Document.ofLists threeUnnamed.reverse named).records place).Perm
      ((Document.ofLists threeUnnamed twoNamed).records place) := by
    intro named place
    cases place with
    | functions => exact .refl _
    | unnamed => exact threeUnnamed.reverse_perm
  have hr : (Document.ofLists threeUnnamed twoNamed).lenientReading.result = .ok 2 := by
    decide +kernel
  have hσ : Rearranged (Equiv.swap (0 : Fin 2) 1) twoNamed twoNamed.reverse :=
    ⟨rfl, rfl, Fin.forall_fin_two.2 ⟨rfl, rfl⟩⟩
  obtain ⟨hsame, -⟩ := readInto_lenient_rearranged (.ofLists threeUnnamed twoNamed)
    (.ofLists threeUnnamed.reverse twoNamed) hd (hp twoNamed)
  obtain ⟨-, hswapped⟩ := readInto_lenient_rearranged (.ofLists threeUnnamed twoNamed)
    (.ofLists threeUnnamed.reverse twoNamed.reverse) hd (hp twoNamed.reverse)
  exact ⟨hd, hr, (hsame rfl).2.1, (hswapped 2 _ hr hσ).2⟩

end DebugTypes
