import DebugTypes.Proofs.Decoding.Calls
import DebugTypes.Proofs.Decoding.Directory
import DebugTypes.Proofs.Decoding.Stages
import DebugTypes.Proofs.Decoding.Yields
import DebugTypes.Proofs.Lookups
import Mathlib.Logic.Relation

/-!
# Records that refer to each other in circles

Nothing in a session remembers which records are being decoded.  A record that leads back to itself
still never decodes: whatever a record mentions is looked up and decoded before the record itself
is, so that below a record that did decode there is no infinite descent, and thus no circle.

## Main definitions

* `RecordKey` — a section and an id, by which a record is referred to.
* `Record.keys` — the keys that a record mentions.
* `Document.Refers` — the record of one key mentions another.
* `Document.ReachesCycle` — from a named record one gets to a record that leads back to itself.
* `Document.Grounded` — there is no infinite descent from a key.

## Main statements

* `Record.covers_content` — every key that a record mentions is looked up before it is decoded.
* `Runs.grounded` — what was looked up by a run that succeeded is grounded.
* `Document.reading_of_cycle` — a document with a circle is refused, and what leads to it is not
  stored.
-/

namespace DebugTypes

/-! ## What a record mentions -/

/-- A section and an id, by which a record is referred to. -/
structure RecordKey where
  place : Section
  id : UInt32
  deriving DecidableEq, Repr

/-- The key that was looked up. -/
def Lookup.key (l : Lookup) : RecordKey := ⟨l.place, l.id⟩

namespace Record

/-- The ids of the functions in a wrap chain. -/
def chainIds : List String → List UInt32
  | [] => []
  | token :: rest =>
    match WrapOperator.ofToken token, rest with
    | .pointer, rest => chainIds rest
    | _, [] => []
    | .array, _ :: rest => chainIds rest
    | .function _, operand :: rest => (Text.integer? UInt32 operand).toList ++ chainIds rest

/-- The unnamed type that the base of a record mentions, if it is one. -/
def baseKeys (record : Element) : List RecordKey :=
  match (record.attribute? "base").map Base.ofText with
  | some (.ok (.unnamed id)) => [⟨.unnamed, id⟩]
  | _ => []

/-- The functions that the wrap chain of a record mentions. -/
def chainKeys (record : Element) : List RecordKey :=
  match record.attribute? "wrap" with
  | none => []
  | some text => (chainIds (Text.wordsOf text)).map fun id => ⟨.functions, id⟩

/-- What a member or parameter mentions; `wrapped` says whether its wrap chain counts. -/
def typeKeys (record : Element) (wrapped : Bool) : List RecordKey :=
  baseKeys record ++ if wrapped then chainKeys record else []

/-- What a member mentions.  The wrap chain of a bit-field does not count. -/
def memberKeys (record : Element) : List RecordKey := typeKeys record (record.tag != "bit-field")

/-- What a record of a section mentions.  An enum mentions nothing. -/
def keys : Section → Element → List RecordKey
  | .functions, record => record.children.flatMap fun parameter => typeKeys parameter true
  | .unnamed, record =>
    if record.tag = "struct" ∨ record.tag = "union" then record.children.flatMap memberKeys else []

end Record

/-! ## What is mentioned is looked up -/

theorem Element.required_eq_ok_iff {record : Element} {name value : String} :
    record.required name = .ok value ↔ record.attribute? name = some value := by
  rw [Element.required]
  cases record.attribute? name <;> simp

/-- Nothing is assumed of answers. -/
def AnyAnswer : AnswerProperty := fun _ _ _ => True

/-- Every key of a list was looked up. -/
def Covers (keys : List RecordKey) (trace : List Lookup) : Prop := keys ⊆ trace.map Lookup.key

theorem Covers.append {keys keys' : List RecordKey} {trace later : List Lookup}
    (h : Covers keys trace) (h' : Covers keys' later) :
    Covers (keys ++ keys') (trace ++ later) := by
  rw [Covers, List.map_append]
  exact List.append_subset.2
    ⟨List.subset_append_of_subset_left _ h, List.subset_append_of_subset_right _ h'⟩

theorem covers_nil (trace : List Lookup) : Covers [] trace := List.nil_subset _

/-- Items whose keys were looked up make a list whose keys were. -/
theorem Each.covers {ι β : Type} {f : ι → List RecordKey} {is : List ι} {trace : List Lookup}
    {bs : List β} (h : Each (fun i trace _ => Covers (f i) trace) is trace bs) :
    Covers (is.flatMap f) trace := by
  induction h with
  | nil => exact covers_nil []
  | cons head _ ih =>
      rw [List.flatMap_cons]
      exact head.append ih

/-- A recipe has a result, whatever its answers are. -/
theorem Recipe.yields_any {α : Type} (p : Recipe α) : p.Yields AnyAnswer fun _ _ => True := by
  induction p with
  | done a => trivial
  | fail e => trivial
  | ask place id next ih => exact fun _ _ a _ => ih a

/-- What becomes of the result makes no difference to the look-ups. -/
theorem Recipe.Yields.map {α β : Type} {A : AnswerProperty} {p : Recipe α} {Q : List Lookup → Prop}
    (h : p.Yields A fun trace _ => Q trace) (f : α → β) :
    (p.bind fun a => .done (f a)).Yields A fun trace _ => Q trace := by
  rw [yields_bind]
  refine h.mono fun trace a htrace => ?_
  rw [yields_done, List.append_nil]
  exact htrace

namespace Record

open Recipe

theorem covers_base (text : String) :
    (base text).Yields AnyAnswer fun trace _ =>
      ∀ id, Base.ofText text = .ok (.unnamed id) → Covers [⟨.unnamed, id⟩] trace := by
  rw [base, bind_eq, yields_bind, yields_ofExcept]
  rintro b hb
  rw [hb]
  rcases b with p | n | id
  · rintro id ⟨⟩
  · rintro id ⟨⟩
  · rintro record trace t - _ ⟨⟩
    exact List.cons_subset.2 ⟨List.mem_cons_self, List.nil_subset _⟩

/-- Every function of a wrap chain is looked up. -/
theorem covers_wrapTokens (text : String) (tokens : List String) (t : CType) :
    (wrapTokens text tokens t).Yields AnyAnswer fun trace _ =>
      Covers ((chainIds tokens).map fun id => ⟨.functions, id⟩) trace := by
  fun_induction wrapTokens text tokens t with
  | case1 t => exact covers_nil []
  | case2 t token rest hop ih =>
      rw [chainIds.eq_def]
      simpa only [hop] using ih
  | case3 t token hop => trivial
  | case4 t token operand rest hop ih =>
      rw [chainIds.eq_def, bind_eq, yields_bind, yields_ofExcept]
      intro length _
      simpa only [hop, List.nil_append] using ih length
  | case5 t token convention operand rest hop ih =>
      rw [chainIds.eq_def, bind_eq, yields_bind, yields_ofExcept]
      intro id hid record trace parameters _
      have hid : Text.integer? UInt32 operand = some id := by
        rw [readInteger] at hid
        split at hid
        next hsome => cases hid; exact hsome
        next => cases hid
      simp only [hop, hid]
      refine (ih parameters).mono fun later _ hlater => ?_
      have hhead : Covers [⟨.functions, id⟩] (⟨.functions, id, .ok record⟩ :: trace) :=
        List.cons_subset.2 ⟨List.mem_cons_self, List.nil_subset _⟩
      exact hhead.append hlater

theorem covers_wrap (text : String) (t : CType) :
    (wrap text t).Yields AnyAnswer fun trace _ =>
      Covers ((chainIds (Text.wordsOf text)).map fun id => ⟨.functions, id⟩) trace := by
  simp only [wrap]
  split
  · trivial
  · exact covers_wrapTokens text (Text.wordsOf text) t

/-- What a member or parameter mentions is looked up. -/
theorem covers_type (record : Element) (wrapped : Bool) :
    (type record wrapped).Yields AnyAnswer fun trace _ =>
      Covers (typeKeys record wrapped) trace := by
  rw [type, bind_eq, yields_bind, yields_ofExcept]
  intro text htext
  rw [bind_eq, yields_bind]
  refine (covers_base text).mono fun trace t htrace => ?_
  have hbase : Covers (baseKeys record) trace := by
    rw [baseKeys, Element.required_eq_ok_iff.1 htext, Option.map_some]
    split
    next id hid => exact htrace id (Option.some.inj hid)
    next => exact covers_nil trace
  rw [bind_eq, yields_bind]
  refine (qualify record t).yields_any.mono fun between u _ => ?_
  cases wrapped with
  | false => exact hbase.append (covers_nil _)
  | true =>
      rw [typeKeys, chainKeys]
      simp only [if_true]
      cases hwrap : record.attribute? "wrap" with
      | none => exact hbase.append (covers_nil _)
      | some text =>
          refine (covers_wrap text u).mono fun later _ hlater => ?_
          exact hbase.append ((covers_nil between).append hlater)

theorem covers_member (record : Element) :
    (member record).Yields AnyAnswer fun trace _ => Covers (memberKeys record) trace := by
  rw [member, memberKeys]
  split
  next htag =>
    rw [bind_eq, yields_bind]
    refine (covers_type record false).mono fun trace t htrace => ?_
    rw [bind_eq, yields_bind, yields_ofExcept]
    intro width _
    have hwrapped : (record.tag != "bit-field") = false := by
      rw [bne, htag]
      rfl
    rw [hwrapped]
    simpa using htrace
  next htag =>
    have hwrapped : (record.tag != "bit-field") = true := by
      rw [bne, Bool.eq_false_iff.2 htag]
      rfl
    rw [hwrapped]
    exact covers_type record true

theorem covers_members (records : List Element) :
    (records.mapM' namedMember).Yields AnyAnswer fun trace _ =>
      Covers (records.flatMap memberKeys) trace := by
  have hmember : ∀ record ∈ records, (namedMember record).Yields AnyAnswer fun trace _ =>
      Covers (memberKeys record) trace := by
    intro record _
    rw [namedMember, bind_eq, yields_bind, yields_ofExcept]
    intro name _
    exact (covers_member record).map _
  exact (yields_mapM' hmember).mono fun trace _ h => h.covers

/-- What a struct, union or enum mentions is looked up. -/
theorem covers_group (record : Element) :
    (group record).Yields AnyAnswer fun trace _ => Covers (keys .unnamed record) trace := by
  rw [group, keys]
  split
  next htag =>
    rw [if_neg (by rw [htag]; decide)]
    exact (yields_any _).mono fun trace _ _ => covers_nil trace
  next htag =>
    rw [if_pos (.inl htag)]
    exact (covers_members record.children).map _
  next htag =>
    rw [if_pos (.inr htag)]
    exact (covers_members record.children).map _
  next => trivial

theorem covers_parameters (record : Element) :
    (parameters record).Yields AnyAnswer fun trace _ => Covers (keys .functions record) trace :=
  (yields_mapM' fun parameter _ => covers_type parameter true).mono fun _ _ h => h.covers

theorem covers_content (place : Section) (record : Element) :
    (content place record).Yields AnyAnswer fun trace _ => Covers (keys place record) trace := by
  cases place
  · exact covers_parameters record
  · exact covers_group record

theorem covers_namedGroup (record : Element) :
    (namedGroup record).Yields AnyAnswer fun trace _ => Covers (keys .unnamed record) trace := by
  rw [namedGroup, bind_eq, yields_bind, yields_ofExcept]
  intro name _
  exact (covers_group record).map _

end Record

/-! ## Circles -/

namespace Document

/-- The record of one key mentions another key. -/
def Refers (d : Document) (key other : RecordKey) : Prop :=
  ∃ record ∈ d.records key.place, record.id? = some key.id ∧
    other ∈ Record.keys key.place record

/-- From a named record one gets to a key that leads back to itself. -/
def ReachesCycle (d : Document) (record : Element) : Prop :=
  ∃ first ∈ Record.keys .unnamed record, ∃ key, Relation.ReflTransGen d.Refers first key ∧
    Relation.TransGen d.Refers key key

/-- There is no infinite descent from a key by way of what records mention. -/
def Grounded (d : Document) (key : RecordKey) : Prop :=
  Acc (fun other key => d.Refers key other) key

theorem Grounded.of_refers {d : Document} {key other : RecordKey} (h : d.Grounded key)
    (hrefers : Relation.ReflTransGen d.Refers key other) : d.Grounded other := by
  induction hrefers with
  | refl => exact h
  | tail _ hstep ih => exact ih.inv hstep

/-- What leads back to itself leads on for ever. -/
theorem Grounded.not_cycle {d : Document} {key : RecordKey} (h : d.Grounded key) :
    ¬ Relation.TransGen d.Refers key key := by
  induction h with
  | intro key _ ih =>
      intro hcycle
      obtain ⟨other, hstep, hback⟩ := Relation.TransGen.head'_iff.1 hcycle
      exact ih other hstep (Relation.TransGen.tail' hback hstep)

end Document

/-- A session whose cursors stand in the sections of a document. -/
def Session.Over (d : Document) (s : Session) : Prop :=
  ∀ place, (s.cursor place).records = d.records place

namespace Session.Over

variable {d : Document} {s : Session}

theorem start (d : Document) (strict : Bool) : (Session.start d strict).Over d := by
  intro place
  cases place <;> rfl

theorem note (events : List Event) (s : Session) (h : s.Over d) : (s.note events).Over d := by
  intro place
  rw [cursor_note, h place]

theorem find (place : Section) (id : UInt32) (s : Session) (h : s.Over d) :
    (Session.find place id s).2.Over d := by
  intro other
  rw [records_cursor_find, h other]

/-- What is found is a record of the section that carries the id. -/
theorem carries (h : s.Over d) {place : Section} {id : UInt32} {record : Element} {s₁ : Session}
    (found : Session.find place id s = (.ok record, s₁)) :
    record ∈ d.records place ∧ record.id? = some id := by
  rw [find_eq, Prod.mk.injEq] at found
  have hanswer := (s.cursor place).answers_find id
  rcases hfind : ((s.cursor place).find id).1 with e | ⟨hit, position⟩
  · rw [hfind] at found
    cases found.1
  · rw [hfind] at found hanswer
    obtain rfl : hit = record := Except.ok.inj found.1
    obtain ⟨hat, hid⟩ := hanswer.carries
    rw [h place] at hat
    exact ⟨List.mem_of_getElem? hat, hid⟩

end Session.Over

/-- Where ids are distinct, a key has one record. -/
theorem Document.Numbered.eq_of_id? {d : Document} (h : d.Numbered) {place : Section}
    {a b : Element} (ha : a ∈ d.records place) (hb : b ∈ d.records place) (hid : a.id? = b.id?) :
    a = b := List.inj_on_of_nodup_map (h.distinct place) ha hb hid

/-- **There is no infinite descent below what was decoded.**  The key of every look-up of a
successful run is grounded, since its record was decoded in between, and that took a look-up for
each key that the record mentions. -/
theorem Runs.grounded {α : Type} {d : Document} (hd : d.Numbered) {p : Recipe α} {s s₁ : Session}
    {trace : List Lookup} {a : α} (h : Runs Session.finder p s trace (.ok a) s₁) (hs : s.Over d) :
    ∀ key ∈ trace.map Lookup.key, d.Grounded key := by
  generalize hr : (Except.ok a : Except ReadError α) = r at h
  induction h with
  | done b s => exact fun key hkey => absurd hkey List.not_mem_nil
  | fail e s => cases hr
  | lost found => cases hr
  | broken found content => cases hr
  | @answered _ place id _ record trace later _ _ s s₁ s₂ s₃ found content rest ihc ihr =>
      have hs₁ : s₁.Over d := by
        have hover := hs.find place id
        rwa [show Session.find place id s = (.ok record, s₁) from found] at hover
      have hs₂ : s₂.Over d := content.invariant (fun place id s => Session.Over.find place id s) hs₁
      have hcontent := ihc hs₁ rfl
      intro key hkey
      rw [List.map_cons, List.map_append, List.mem_cons, List.mem_append] at hkey
      rcases hkey with rfl | hkey | hkey
      · -- The key has no other record than the one that was found, which `content` decodes.
        refine .intro _ fun other hrefers => ?_
        obtain ⟨record', hmem', hid', hother⟩ := hrefers
        obtain ⟨hmem, hid⟩ := hs.carries found
        obtain rfl := hd.eq_of_id? hmem' hmem (hid'.trans hid.symm)
        have hcovers : Covers (Record.keys place record') trace :=
          content.yields (fun _ _ => Recipe.yields_any _) (Record.covers_content place record')
        exact hcontent other (hcovers hother)
      · exact hcontent key hkey
      · exact ihr hs₂ hr key hkey

/-- A named record that decodes does not lead to a circle. -/
theorem Runs.not_reachesCycle {d : Document} (hd : d.Numbered) {record : Element} {s s₁ : Session}
    {trace : List Lookup} {entry : String × CType}
    (h : Runs Session.finder (Record.namedGroup record) s trace (.ok entry) s₁) (hs : s.Over d) :
    ¬ d.ReachesCycle record := by
  rintro ⟨first, hfirst, key, hreaches, hcycle⟩
  have hcovers : Covers (Record.keys .unnamed record) trace :=
    h.yields (fun _ _ => Recipe.yields_any _) (Record.covers_namedGroup record)
  have hgrounded := h.grounded hd hs first (hcovers hfirst)
  exact (hgrounded.of_refers hreaches).not_cycle hcycle

namespace Session

theorem Over.readRecords {d : Document} {s : Session} (h : s.Over d) {σ : Type} (store : Store σ)
    (records : List Element) (c : σ) : (Session.readRecords store records c s).session.Over d := by
  obtain ⟨trace, hreads⟩ := reads_readRecords store records c s
  exact hreads.invariant Over.find Over.note h

theorem Over.performAll {d : Document} {s : Session} (h : s.Over d) (calls : List Call) :
    (s.performAll d calls).Over d := invariant_performAll Over.find Over.note d calls s h

/-- Every entry that is stored comes from the record at its place, which leads to no circle. -/
theorem exists_source {d : Document} (hd : d.Numbered) {s : Session} (h : s.Over d) {i : Nat}
    {entry : String × CType}
    (hentry : (s.readInto Store.list d #[]).contents.toList[i]? = some entry) :
    ∃ record s₁ s₂, d.named.children[i]? = some record ∧
      decode (Record.namedGroup record) s₁ = (.ok entry, s₂) ∧ ¬ d.ReachesCycle record := by
  obtain ⟨entries, hstaged, hcontents⟩ :=
    exists_staged Store.list d.named.children #[] #[] (Alike.refl s)
  rw [readInto, hcontents, List.nil_append] at hentry
  obtain ⟨hi, rfl⟩ := List.getElem?_eq_some_iff.1 hentry
  obtain ⟨record, s₂, hrecord, hdecode, -⟩ := hstaged.step i hi
  have hover : (stage Store.list d.named.children #[] s i).session.Over d := h.readRecords _ _ _
  obtain ⟨trace, hruns⟩ := runs_decode (Record.namedGroup record)
    (stage Store.list d.named.children #[] s i).session
  rw [hdecode] at hruns
  exact ⟨record, _, s₂, hrecord, hdecode, hruns.not_reachesCycle hd hover⟩

/-- A store receives what an empty list receives, which is an entry for each record if nothing
fails. -/
theorem readInto_eq_addAll {σ : Type} (store : Store σ) (d : Document) (c : σ) (s : Session) :
    let stored := (s.readInto Store.list d #[]).contents.toList
    (s.readInto store d c).contents = (store.addAll c stored).1 ∧
      ∀ n, (s.readInto store d c).result = .ok n → stored.length = d.named.children.length := by
  obtain ⟨hresult, entries, hstore, hlist, hnames⟩ :=
    exists_received store Store.list d.named.children c #[] (Alike.refl s)
  have hstored : (s.readInto Store.list d #[]).contents.toList = entries := by
    rw [readInto, hlist, Store.toList_addAll_list, List.nil_append]
  rw [hstored]
  refine ⟨hstore, fun n hn => ?_⟩
  have hlength := congrArg List.length (hnames n hn)
  rwa [List.length_map, List.length_map] at hlength

end Session

/-- **Circles are refused.**  Where ids are valid and distinct, a document with a named record from
which one gets to a circle is not read without a failure: by a strict session or a lenient one, that
is new or has been used, into whatever store.  What is stored by then comes from named records that
do not lead to a circle, so that it ends before the first one that does. -/
theorem Document.reading_of_cycle {d : Document} (hd : d.Numbered) {record : Element}
    (hmem : record ∈ d.named.children) (hcycle : d.ReachesCycle record) (strict : Bool)
    (calls : List Call) :
    let s := (Session.start d strict).performAll d calls
    let stored := (s.readInto Store.list d #[]).contents.toList
    (∀ {σ : Type} (store : Store σ) (c : σ),
      (∃ e, (s.readInto store d c).result = .error e) ∧
        (s.readInto store d c).contents = (store.addAll c stored).1) ∧
      (∀ (i : Nat) (entry : String × CType), stored[i]? = some entry → ∃ source s₁ s₂,
        d.named.children[i]? = some source ∧
          Session.decode (Record.namedGroup source) s₁ = (.ok entry, s₂) ∧
          ¬ d.ReachesCycle source) ∧
      ∀ (i : Nat) (source : Element), d.named.children[i]? = some source →
        d.ReachesCycle source → stored.length ≤ i := by
  intro s stored
  have hover : s.Over d := (Session.Over.start d strict).performAll calls
  have hends : ∀ (i : Nat) (source : Element), d.named.children[i]? = some source →
      d.ReachesCycle source → stored.length ≤ i := by
    intro i source hat hreaches
    by_contra hlt
    obtain ⟨other, _, _, hother, -, hnot⟩ :=
      Session.exists_source hd hover (List.getElem?_eq_getElem (Nat.lt_of_not_le hlt))
    obtain rfl := Option.some.inj (hat.symm.trans hother)
    exact hnot hreaches
  refine ⟨fun store c => ?_, fun i entry => Session.exists_source hd hover, hends⟩
  obtain ⟨hcontents, hall⟩ := Session.readInto_eq_addAll store d c s
  refine ⟨?_, hcontents⟩
  cases hresult : (s.readInto store d c).result with
  | error e => exact ⟨e, rfl⟩
  | ok n =>
      obtain ⟨i, hi, rfl⟩ := List.getElem_of_mem hmem
      have hle := hends i _ (List.getElem?_eq_getElem hi) hcycle
      have hlength : stored.length = d.named.children.length := hall n hresult
      omega

/-- A document of two structs.  The second has an unnamed struct with a callback, whose parameter is
that unnamed struct again. -/
def Document.circular : Document where
  root := .mk "types" [] [
    .mk "funcs" [] [.mk "func" [("id", "0")] [.mk "arg" [("base", "#7"), ("wrap", "p")] []]],
    .mk "unnamed" [] [.mk "struct" [("id", "7")]
      [.mk "field" [("name", "f"), ("base", ".VOID"), ("wrap", "F 0 p")] []]],
    .mk "named" [] [
      .mk "struct" [("name", "A")] [.mk "field" [("name", "x"), ("base", ".INT")] []],
      .mk "struct" [("name", "B")] [.mk "field" [("name", "u"), ("base", "#7")] []]]]
  complete := by decide

/-- The second struct of this document. -/
def circularRecord : Element :=
  .mk "struct" [("name", "B")] [.mk "field" [("name", "u"), ("base", "#7")] []]

/-- The unnamed struct leads back to itself, so that one of the two structs is stored. -/
theorem Document.reading_of_cycle_callback :
    Document.circular.Numbered ∧ circularRecord ∈ Document.circular.named.children ∧
      Document.circular.ReachesCycle circularRecord ∧
      (∃ e, ((Session.start .circular false).readInto Store.list .circular #[]).result =
        .error e) ∧
      ((Session.start .circular false).readInto Store.list .circular #[]).contents.toList.length ≤
        1 := by
  have hnumbered : Document.circular.Numbered :=
    ⟨fun place => by cases place <;> decide +kernel, fun place => by cases place <;> decide +kernel⟩
  have hmem : circularRecord ∈ Document.circular.named.children :=
    List.mem_cons_of_mem _ List.mem_cons_self
  have hunnamed : Document.circular.Refers ⟨.unnamed, 7⟩ ⟨.functions, 0⟩ :=
    ⟨_, List.mem_cons_self, by decide +kernel, by decide +kernel⟩
  have hfunction : Document.circular.Refers ⟨.functions, 0⟩ ⟨.unnamed, 7⟩ :=
    ⟨_, List.mem_cons_self, by decide +kernel, by decide +kernel⟩
  have hcycle : Document.circular.ReachesCycle circularRecord :=
    ⟨⟨.unnamed, 7⟩, by decide +kernel, _, .refl, .tail (.single hunnamed) hfunction⟩
  obtain ⟨hstores, -, hends⟩ := reading_of_cycle hnumbered hmem hcycle false []
  exact ⟨hnumbered, hmem, hcycle, (hstores Store.list #[]).1, hends 1 circularRecord rfl hcycle⟩

end DebugTypes
