import DebugTypes.Proofs.Decoding.Ends
import DebugTypes.Proofs.Decoding.Following

/-!
# Looking records up without a cursor

A *directory* resolves each id to the record that carries it, wherever that record stands and
however often it was asked for.  Where ids are valid and distinct within each section, the cursor of
a lenient session is only a faster way to the same record, with a budget: a section of `n` records
serves `n` look-ups.

## Main definitions

* `Document.directory` — the finder without a cursor; its state counts the look-ups.
* `Document.Numbered` — every record has a valid id, which no other record of its section has.
* `Tallied` — a lenient session beside the counts of a directory.

## Main statement

* `readInto_lenient_directory` — lenient decoding is decoding by the directory, within the budget.
-/

namespace DebugTypes

/-- The record that carries an id. -/
def recordOf (place : Section) (records : List Element) (id : UInt32) : Except ReadError Element :=
  match records.find? fun record => record.id? == some id with
  | some record => .ok record
  | none => .error (.ambiguousReference place.label id 0)

namespace Document

/-- The finder that resolves ids without a cursor. -/
def directory (d : Document) : Finder Tally where
  find place id n := (recordOf place (d.records place) id, n.count place)
  note _ n := n

/-- Every record that is referred to by id has a valid one, and no two of a section the same. -/
structure Numbered (d : Document) : Prop where
  valid : ∀ place, ∀ record ∈ d.records place, record.id?.isSome = true
  distinct : ∀ place, ((d.records place).map Element.id?).Nodup

end Document

/-- Where ids are distinct, at most one record carries a given one. -/
theorem length_filter_id?_le {records : List Element} (h : (records.map Element.id?).Nodup)
    (id : UInt32) : (records.filter fun record => record.id? == some id).length ≤ 1 := by
  have hcount := List.nodup_iff_count.1 h (some id)
  rwa [List.count, List.countP_map, List.countP_eq_length_filter] at hcount

/-- The order of records does not matter to who carries an id. -/
theorem recordOf_perm {place : Section} {records records' : List Element}
    (hp : records'.Perm records) (h : (records.map Element.id?).Nodup) (id : UInt32) :
    recordOf place records' id = recordOf place records id := by
  have hfilter := hp.filter fun record => record.id? == some id
  have hle := length_filter_id?_le h id
  have heq : (records'.filter fun record => record.id? == some id) =
      records.filter fun record => record.id? == some id := by
    rcases hf : records.filter fun record => record.id? == some id with _ | ⟨r, _ | ⟨r', rest⟩⟩
    · rw [hf] at hfilter ⊢
      exact hfilter.eq_nil
    · rw [hf] at hfilter ⊢
      exact List.perm_singleton.1 hfilter
    · rw [hf] at hle
      simp at hle
  rw [recordOf, recordOf, ← List.head?_filter, ← List.head?_filter, heq]

namespace Cursor

/-- Where ids are distinct, searching the section finds the record that carries the id. -/
theorem search_eq_recordOf {c : Cursor} {place : Section} (hn : c.sectionName = place.label)
    (h : (c.records.map Element.id?).Nodup) (id : UInt32) :
    (c.search id).map Prod.fst = recordOf place c.records id := by
  have hle := length_filter_id?_le h id
  rw [recordOf, ← List.head?_filter, ← carriers_map_fst]
  rw [← carriers_map_fst, List.length_map] at hle
  rcases hc : c.carriers id with _ | ⟨hit, _ | ⟨hit', rest⟩⟩
  · simp only [search, hc, hn, List.length_nil, List.map_nil, List.head?_nil]
    rfl
  · simp only [search, hc, List.map_cons, List.head?_cons]
    rfl
  · rw [hc] at hle
    simp at hle

/-- While there is a record ahead, a lenient cursor over records with distinct ids finds what the
directory finds. -/
theorem find_eq_recordOf {c : Cursor} {place : Section} (hn : c.sectionName = place.label)
    (hl : c.strict = false) (hv : ∀ record ∈ c.records, record.id?.isSome = true)
    (hd : (c.records.map Element.id?).Nodup) (hlt : c.position < c.records.length)
    (id : UInt32) : (c.find id).1.map Prod.fst = recordOf place c.records id := by
  rcases find_cases c id with he | ⟨record, hr, ⟨e, he⟩ | hi | ⟨found, hi, hne⟩⟩
  · rw [List.getElem?_eq_none_iff] at he
    omega
  · obtain ⟨i, hid⟩ := Option.isSome_iff_exists.1 (hv record (List.mem_of_getElem? hr))
    rw [← Element.integer_id_eq_ok_iff, he] at hid
    cases hid
  · rw [find_of_matched hr hi, ← search_eq_recordOf hn hd]
    -- The record at the cursor is one of the carriers, and there is no other.
    have hmem : (record, c.position) ∈ c.carriers id := by
      rw [carriers, List.mem_filter]
      refine ⟨List.mk_mem_zipIdx_iff_getElem?.2 hr, ?_⟩
      rw [Element.integer_id_eq_ok_iff.1 hi]
      exact beq_self_eq_true _
    have hone : c.carriers id = [(record, c.position)] := by
      have hle := length_filter_id?_le hd id
      rw [← carriers_map_fst, List.length_map] at hle
      rcases hc : c.carriers id with _ | ⟨hit, _ | ⟨hit', rest⟩⟩
      · rw [hc] at hmem
        cases hmem
      · rw [hc] at hmem
        rw [List.mem_singleton.1 hmem]
      · rw [hc] at hle
        simp at hle
    rw [search, hone]
  · rw [find_of_searched hr hi hne hl]
    exact search_eq_recordOf hn hd id

end Cursor

/-- A lenient session over a document, beside the counts of a directory: each cursor has moved once
for every look-up in its section, and never past the end. -/
structure Tallied (d : Document) (s : Session) (n : Tally) : Prop where
  records : ∀ place, (s.cursor place).records = d.records place
  label : ∀ place, (s.cursor place).sectionName = place.label
  lenient : ∀ place, (s.cursor place).strict = false
  position : ∀ place, (s.cursor place).position = n place
  within : ∀ place, n place ≤ (d.records place).length

theorem tallied_start (d : Document) : Tallied d (Session.start d false) fun _ => 0 where
  records place := by cases place <;> rfl
  label place := by cases place <;> rfl
  lenient place := by cases place <;> rfl
  position place := by cases place <;> rfl
  within place := Nat.zero_le _

namespace Tallied

variable {d : Document} {s : Session} {n : Tally}

theorem note (h : Tallied d s n) (events : List Event) : Tallied d (s.note events) n where
  records place := by simpa using h.records place
  label place := by simpa using h.label place
  lenient place := by simpa using h.lenient place
  position place := by simpa using h.position place
  within := h.within

/-- A look-up with a record ahead moves its cursor and counts once. -/
theorem find (h : Tallied d s n) {place : Section} (hlt : n place < (d.records place).length)
    (id : UInt32) : Tallied d (Session.find place id s).2 (n.count place) := by
  refine ⟨fun other => ?_, fun other => ?_, fun other => ?_, fun other => ?_, fun other => ?_⟩
  · rw [Session.records_cursor_find, h.records]
  · rw [Session.sectionName_cursor_find, h.label]
  · rw [Session.strict_cursor_find, h.lenient]
  · rw [Session.position_cursor_find, h.position, Tally.count]
    split <;> rfl
  · have hle := h.within other
    rw [Tally.count]
    split
    · subst other
      exact hlt
    · exact hle

/-- With a record ahead a lenient session finds what the directory finds. -/
theorem find_eq (h : Tallied d s n) (hd : d.Numbered) {place : Section}
    (hlt : n place < (d.records place).length) (id : UInt32) :
    (Session.find place id s).1 = recordOf place (d.records place) id := by
  have hr := h.records place
  rw [Session.find_eq, ← hr]
  refine Cursor.find_eq_recordOf (h.label place) (h.lenient place) ?_ ?_ ?_ id
  · rw [hr]; exact hd.valid place
  · rw [hr]; exact hd.distinct place
  · rw [h.position, hr]; exact hlt

/-- With no record ahead a look-up is out of range. -/
theorem find_ended (h : Tallied d s n) {place : Section}
    (hge : ¬ n place < (d.records place).length) (id : UInt32) :
    ∃ name position length,
      (Session.find place id s).1 = .error (.outOfRange name position length) := by
  have he : (s.cursor place).records[(s.cursor place).position]? = none := by
    rw [List.getElem?_eq_none_iff, h.records, h.position]
    omega
  rw [Session.find_eq, Cursor.find_of_ended id he]
  exact ⟨_, _, _, rfl⟩

end Tallied

/-- An error that says that a section has no more records. -/
def ReadError.IsOutOfRange (e : ReadError) : Prop :=
  ∃ name position length, e = .outOfRange name position length

/-- A directory follows a lenient session as long as that does not run out of records. -/
theorem follows_directory {d : Document} (hd : d.Numbered) :
    Follows Session.finder d.directory (Tallied d) (fun _ _ => False) ReadError.IsOutOfRange where
  find {place id s s₁ n r} h hf hr := by
    have hf : Session.find place id s = (r, s₁) := hf
    by_cases hlt : n place < (d.records place).length
    · have heq := h.find_eq hd hlt id
      have hnext := h.find hlt id
      rw [hf] at heq hnext
      refine .inl ⟨n.count place, ?_, hnext⟩
      change (recordOf place (d.records place) id, n.count place) = _
      rw [← heq]
    · obtain ⟨name, position, length, he⟩ := h.find_ended hlt id
      rw [hf] at he
      exact absurd ⟨name, position, length, rfl⟩ (hr _ he)
  note events h _ := h.note events
  stray_find _ _ _ hs := hs.elim
  stray_note _ _ hs := hs.elim

/-- A lenient session over the same records in any order follows a directory as long as the
directory makes no more look-ups in a section than that has records. -/
theorem directory_follows {d d' : Document} (hd : d.Numbered)
    (hp : ∀ place, (d'.records place).Perm (d.records place)) :
    Follows d.directory Session.finder (fun n s => Tallied d' s n)
      (fun n _ => ∃ place, (d.records place).length < n place) fun _ => False where
  find {place id n n₁ s r} h hf _ := by
    have hf : (recordOf place (d.records place) id, n.count place) = (r, n₁) := hf
    rw [Prod.mk.injEq] at hf
    obtain ⟨rfl, rfl⟩ := hf
    have hd' : d'.Numbered :=
      ⟨fun place record hmem => hd.valid place record ((hp place).subset hmem),
        fun place => ((hp place).map Element.id?).nodup_iff.2 (hd.distinct place)⟩
    by_cases hlt : n place < (d'.records place).length
    · refine .inl ⟨(Session.find place id s).2, ?_, h.find hlt id⟩
      have heq := h.find_eq hd' hlt id
      rw [recordOf_perm (hp place) (hd.distinct place)] at heq
      change Session.find place id s = _
      rw [← heq]
      rfl
    · obtain ⟨name, position, length, he⟩ := h.find_ended hlt id
      refine .inr ⟨.outOfRange name position length, (Session.find place id s).2, ?_, place, ?_⟩
      · change Session.find place id s = _
        rw [← he]
        rfl
      · rw [(hp place).length_eq] at hlt
        simp only [Tally.count, if_true]
        omega
  note events h _ := h.note events
  stray_find {e} place id n hs := by
    obtain ⟨other, hlt⟩ := hs
    refine ⟨other, Nat.lt_of_lt_of_le hlt ?_⟩
    change n other ≤ n.count place other
    rw [Tally.count]
    split <;> omega
  stray_note _ _ hs := hs

/-- A look-up in a section, whatever it gave. -/
def Lookup.among (place : Section) (l : Lookup) : Bool := decide (l.place = place)

theorem Runs.tally {α : Type} {d : Document} {p : Recipe α} {n n₁ : Tally} {trace : List Lookup}
    {r : Except ReadError α} (h : Runs d.directory p n trace r n₁) (place : Section) :
    n₁ place = n place + trace.countP (Lookup.among place) := by
  have hfind : ∀ {place' id r} {n n₁ : Tally}, d.directory.find place' id n = (r, n₁) →
      n₁ place = n place + if (Lookup.mk place' id r).among place then 1 else 0 := by
    intro place' id r n n₁ found
    have hn : n.count place' = n₁ := congrArg Prod.snd found
    rw [← hn, Tally.count, Lookup.among]
    by_cases hp : place' = place
    · simp [hp]
    · simp [hp, Ne.symm hp]
  induction h with
  | done a n => simp
  | fail e n => simp
  | lost found =>
      rw [hfind found, List.countP_cons, List.countP_nil]
      omega
  | broken found content ih =>
      rw [ih, hfind found, List.countP_cons]
      omega
  | answered found content rest ihc ihr =>
      rw [ihr, ihc, hfind found, List.countP_cons, List.countP_append]
      omega

/-- The counts of a directory are the look-ups that were made. -/
theorem Reads.tally {τ : Type} {store : Store τ} {records : List Element} {c c₁ : τ}
    {d : Document} {n n₁ : Tally} {trace : List Lookup} {r : Except ReadError Nat}
    (h : Reads d.directory store records c n trace r c₁ n₁) (place : Section) :
    n₁ place = n place + trace.countP (Lookup.among place) := by
  induction h with
  | none c n => simp
  | broken head => exact head.tally place
  | @stored _ _ _ _ _ _ _ _ _ _ s₁ _ head tail ih =>
      have hhead := head.tally place
      have htail : _ = s₁ place + _ := ih
      rw [htail, hhead, List.countP_append, Nat.add_assoc]

/-- **The cursor is only a faster way to look ids up.**  Where ids are valid and distinct, a lenient
reading that does not run out of records is the reading by the directory, which has no cursor; and
what the directory reads with at most as many look-ups in each section as that has records, the
lenient session reads as well, in whatever order the records of the two sections stand. -/
theorem readInto_lenient_directory (d : Document) (hd : d.Numbered) :
    ((∀ e, ((Session.start d false).readInto Store.list d #[]).result = .error e →
        ¬ e.IsOutOfRange) →
      ∃ trace n, Reads d.directory Store.list d.named.children #[] (fun _ => 0) trace
          ((Session.start d false).readInto Store.list d #[]).result
          ((Session.start d false).readInto Store.list d #[]).contents n ∧
        ∀ place, trace.countP (Lookup.among place) ≤ (d.records place).length) ∧
    ∀ trace result types n,
      Reads d.directory Store.list d.named.children #[] (fun _ => 0) trace result types n →
      (∀ place, trace.countP (Lookup.among place) ≤ (d.records place).length) →
      ∀ d' : Document, (∀ place, (d'.records place).Perm (d.records place)) →
        d'.named.children = d.named.children →
        ((Session.start d' false).readInto Store.list d' #[]).result = result ∧
          ((Session.start d' false).readInto Store.list d' #[]).contents = types := by
  constructor
  · intro hr
    obtain ⟨trace, h⟩ := Session.reads_readRecords Store.list d.named.children #[]
      (Session.start d false)
    rcases h.follow (follows_directory hd) Store.quiet_list (tallied_start d) hr with
      ⟨n, hn, htallied⟩ | ⟨_, _, _, _, _, _, hs, _⟩
    · refine ⟨trace, n, hn, fun place => ?_⟩
      have htally := hn.tally place
      have hwithin := htallied.within place
      omega
    · exact hs.elim
  · intro trace result types n h hbudget d' hp hnamed
    rcases h.follow (directory_follows hd hp) Store.quiet_list (tallied_start d')
      (fun _ _ => not_false) with ⟨s, hs, -⟩ | ⟨_, _, _, _, _, _, hstray, _⟩
    · have heq := hs.readRecords_eq
      rw [Session.readInto, hnamed, heq]
      exact ⟨rfl, rfl⟩
    · obtain ⟨place, hlt⟩ := hstray
      have htally := h.tally place
      have hle := hbudget place
      omega

/-- A document that refers to its unnamed record `0` before `1`, which stand the other way round. -/
def Document.shuffled : Document where
  root := .mk "types" [] [
    .mk "funcs" [] [.mk "func" [("id", "7")] [.mk "arg" [("base", "#1")] []]],
    .mk "unnamed" [] [.mk "struct" [("id", "1")] [], .mk "enum" [("id", "0")] []],
    .mk "named" [] [.mk "struct" [("name", "S")]
      [.mk "field" [("name", "f"), ("base", "#0"), ("wrap", "F 7 p")] []]]]
  complete := by decide

/-- The same document with its unnamed records in the order of the references. -/
def Document.unshuffled : Document where
  root := .mk "types" [] [
    .mk "funcs" [] [.mk "func" [("id", "7")] [.mk "arg" [("base", "#1")] []]],
    .mk "unnamed" [] [.mk "enum" [("id", "0")] [], .mk "struct" [("id", "1")] []],
    .mk "named" [] [.mk "struct" [("name", "S")]
      [.mk "field" [("name", "f"), ("base", "#0"), ("wrap", "F 7 p")] []]]]
  complete := by decide

/-- Both orders of the records read to the one type, as the directory does. -/
theorem readInto_lenient_directory_shuffled :
    Document.shuffled.Numbered ∧
      ∃ trace types n,
        Reads Document.shuffled.directory Store.list Document.shuffled.named.children #[]
          (fun _ => 0) trace (.ok 1) types n ∧
        ((Session.start .shuffled false).readInto Store.list .shuffled #[]).contents = types ∧
        ((Session.start .unshuffled false).readInto Store.list .unshuffled #[]).contents =
          types := by
  have hd : Document.shuffled.Numbered := by
    refine ⟨fun place => ?_, fun place => ?_⟩
    · cases place <;> decide +kernel
    · cases place <;> decide +kernel
  have hr : ((Session.start .shuffled false).readInto Store.list .shuffled #[]).result = .ok 1 :=
    rfl
  obtain ⟨hforth, hback⟩ := readInto_lenient_directory .shuffled hd
  obtain ⟨trace, n, hreads, hbudget⟩ := hforth fun e he => by rw [hr] at he; cases he
  have hp : ∀ place,
      (Document.unshuffled.records place).Perm (Document.shuffled.records place) := by
    intro place
    cases place with
    | functions => exact .refl _
    | unnamed => exact .swap _ _ _
  obtain ⟨-, htypes⟩ := hback trace _ _ n hreads hbudget .unshuffled hp rfl
  rw [hr] at hreads
  exact ⟨hd, trace, _, n, hreads, rfl, htypes⟩

end DebugTypes
