import DebugTypes.Proofs.Decoding.Directory
import DebugTypes.Proofs.Decoding.Stages

/-!
# The log of a decoding

A look-up that has to search its section leaves one warning, a named type that is decoded one event,
and a type of a catalog that gives way to another one more.  So the log tells what decoding did: it
goes stage by stage, and in each stage the warnings of its look-ups come first, then the named type
that was decoded, and then whether it replaced another.  Only a decoding that does not fail ends
with a summary, whose numbers are those of the log itself.

## Main definitions

* `Session.warnings` — the warnings of look-ups made one after the other.
* `Session.Accounted` — the log has as many warnings as there were searches.
* `Session.Reached` — the sessions that a new session can become.
* `Document.entries` — the named types that decode, up to the first that does not.
* `Document.stage`, `Document.log` — what decoding has led to after so many of them, and its log.

## Main statements

* `Runs.log_eq` — what a run adds to the log.
* `Session.Reached.accounted` — every session has counted its warnings.
* `Document.log_succ` — what one stage adds to the log.
* `Catalog.log_ofDocument` — the log of the decoding of a document.
-/

namespace DebugTypes

namespace Event

/-- A named type that was decoded. -/
def isDecodedType : Event → Bool
  | decodedType _ _ => true
  | _ => false

/-- A stored type that gave way to another. -/
def isReplaced : Event → Bool
  | replaced _ => true
  | _ => false

/-- A document that was decoded to its end. -/
def isDecoded : Event → Bool
  | decoded _ _ => true
  | _ => false

/-- A warning is nothing else. -/
theorem of_isOutOfOrder {event : Event} (h : event.isOutOfOrder = true) :
    event.isDecodedType = false ∧ event.isReplaced = false ∧ event.isDecoded = false := by
  cases event with
  | outOfOrder => exact ⟨rfl, rfl, rfl⟩
  | _ => exact absurd h Bool.false_ne_true

/-- Among warnings there is no named type that was decoded. -/
theorem filter_isDecodedType_of_warnings {events : List Event}
    (h : ∀ event ∈ events, event.isOutOfOrder = true) : events.filter isDecodedType = [] := by
  rw [List.filter_eq_nil_iff]
  intro event hevent
  simp [(of_isOutOfOrder (h event hevent)).1]

end Event

/-! ## Look-ups -/

namespace Cursor

variable {c : Cursor} {id : UInt32}

theorem isOutOfOrder_of_mem_warning? {event : Event} (h : event ∈ (c.warning? id).toList) :
    event.isOutOfOrder = true := by
  rw [Option.mem_toList, warning?] at h
  split at h
  · cases h
  · split at h
    · cases h
    · cases h
      rfl

end Cursor

namespace Session

/-- The session after look-ups made one after the other. -/
def after (s : Session) (lookups : List Lookup) : Session :=
  lookups.foldl (fun s l => (find l.place l.id s).2) s

/-- The warnings of look-ups made one after the other. -/
def warnings (s : Session) : List Lookup → List Event
  | [] => []
  | l :: lookups =>
    ((s.cursor l.place).warning? l.id).toList ++ (find l.place l.id s).2.warnings lookups

theorem isOutOfOrder_of_mem_warnings {s : Session} {lookups : List Lookup} {event : Event}
    (h : event ∈ s.warnings lookups) : event.isOutOfOrder = true := by
  induction lookups generalizing s with
  | nil => cases h
  | cons l lookups ih =>
      rw [warnings, List.mem_append] at h
      rcases h with h | h
      · exact Cursor.isOutOfOrder_of_mem_warning? h
      · exact ih h

/-- A look-up adds its warning to the log. -/
theorem log_find (place : Section) (id : UInt32) (s : Session) :
    (find place id s).2.log.toList = s.log.toList ++ ((s.cursor place).warning? id).toList := by
  rw [find_eq, (Cursor.find_warning _ id).1]
  cases place <;> simp [note, setCursor]

/-- A look-up counts as many searches as it adds warnings. -/
theorem searches_find (place : Section) (id : UInt32) (s : Session) :
    (find place id s).2.searches =
      s.searches + ((s.cursor place).warning? id).toList.length := by
  rw [find_eq]
  have hsearches := ((s.cursor place).find_warning id).2
  cases place with
  | functions =>
      change ((s.cursor .functions).find id).2.1.searches + s.unnamed.searches = _
      rw [hsearches, searches, Nat.add_right_comm]
      rfl
  | unnamed =>
      change s.functions.searches + ((s.cursor .unnamed).find id).2.1.searches = _
      rw [hsearches, searches, Nat.add_assoc]
      rfl

theorem log_after (s : Session) (lookups : List Lookup) :
    (s.after lookups).log.toList = s.log.toList ++ s.warnings lookups := by
  induction lookups generalizing s with
  | nil => exact (List.append_nil _).symm
  | cons l lookups ih =>
      change ((find l.place l.id s).2.after lookups).log.toList = _
      rw [ih, log_find, warnings, List.append_assoc]

theorem searches_after (s : Session) (lookups : List Lookup) :
    (s.after lookups).searches = s.searches + (s.warnings lookups).length := by
  induction lookups generalizing s with
  | nil => rfl
  | cons l lookups ih =>
      change ((find l.place l.id s).2.after lookups).searches = _
      rw [ih, searches_find, warnings, List.length_append, Nat.add_assoc]

theorem after_cons (s : Session) (l : Lookup) (lookups : List Lookup) :
    s.after (l :: lookups) = (find l.place l.id s).2.after lookups := rfl

theorem after_append (s : Session) (lookups later : List Lookup) :
    s.after (lookups ++ later) = (s.after lookups).after later := by
  simp [after]

end Session

/-- A run leads to where its look-ups lead. -/
theorem Runs.eq_after {α : Type} {p : Recipe α} {s s₁ : Session} {trace : List Lookup}
    {r : Except ReadError α} (h : Runs Session.finder p s trace r s₁) : s₁ = s.after trace := by
  have hfind : ∀ {place id s s₁ answer}, Session.finder.find place id s = (answer, s₁) →
      s₁ = (Session.find place id s).2 := fun found => (congrArg Prod.snd found).symm
  induction h with
  | done a s => rfl
  | fail e s => rfl
  | lost found => exact hfind found
  | broken found content ih => rw [ih, hfind found, Session.after_cons]
  | answered found content rest ihc ihr =>
      rw [ihr, ihc, hfind found, Session.after_cons, Session.after_append]

/-- **A run adds the warnings of its look-ups to the log,** and nothing else. -/
theorem Runs.log_eq {α : Type} {p : Recipe α} {s s₁ : Session} {trace : List Lookup}
    {r : Except ReadError α} (h : Runs Session.finder p s trace r s₁) :
    s₁.log.toList = s.log.toList ++ s.warnings trace := by
  rw [h.eq_after, Session.log_after]

/-! ## Searches and warnings -/

namespace Session

/-- The log has as many warnings as there were searches. -/
def Accounted (s : Session) : Prop := s.searches = s.log.toList.countP Event.isOutOfOrder

namespace Accounted

variable {s : Session}

theorem start (d : Document) (strict : Bool) : (Session.start d strict).Accounted := rfl

theorem after (h : s.Accounted) (lookups : List Lookup) : (s.after lookups).Accounted := by
  have hall : (s.warnings lookups).countP Event.isOutOfOrder = (s.warnings lookups).length := by
    rw [List.countP_eq_length]
    intro event hevent
    exact isOutOfOrder_of_mem_warnings hevent
  rw [Accounted, searches_after, log_after, List.countP_append, hall, h]

/-- Events that are no warnings change nothing. -/
theorem note (h : s.Accounted) {events : List Event}
    (hquiet : ∀ event ∈ events, event.isOutOfOrder = false) : (s.note events).Accounted := by
  have hnone : events.countP Event.isOutOfOrder = 0 := by
    rw [List.countP_eq_zero]
    intro event hevent
    simp [hquiet event hevent]
  have hlog : (s.note events).log.toList = s.log.toList ++ events := by simp [Session.note]
  rw [Accounted, hlog, List.countP_append, hnone, Nat.add_zero]
  exact h

theorem decode (h : s.Accounted) {α : Type} (p : Recipe α) :
    (Session.decode p s).2.Accounted := by
  obtain ⟨trace, hrun⟩ := runs_decode p s
  rw [hrun.eq_after]
  exact h.after trace

theorem readRecords (h : s.Accounted) {σ : Type} {store : Store σ} (hquiet : store.Quiet)
    (records : List Element) (c : σ) :
    (Session.readRecords store records c s).session.Accounted := by
  induction records generalizing c s with
  | nil => exact h
  | cons record rest ih =>
      have hnext := h.decode (Record.namedGroup record)
      rcases hd : Session.decode (Record.namedGroup record) s with ⟨e | ⟨name, t⟩, s₁⟩
      · rw [hd] at hnext
        rw [readRecords_of_error hd]
        exact hnext
      · rw [hd] at hnext
        rw [readRecords_of_ok hd]
        apply ih
        apply note hnext
        intro event hevent
        rcases List.mem_cons.1 hevent with rfl | hevent
        · rfl
        · exact hquiet c name t event hevent

end Accounted

/-- The sessions that a new session over a document can become: it decodes recipes and reads the
named types into stores, in any order and however they end. -/
inductive Reached (d : Document) (strict : Bool) : Session → Prop where
  | start : Reached d strict (start d strict)
  | decode {s : Session} (h : Reached d strict s) {α : Type} (p : Recipe α) :
      Reached d strict (decode p s).2
  | readInto {s : Session} (h : Reached d strict s) {σ : Type} (store : Store σ) (c : σ)
      (quiet : store.Quiet) : Reached d strict (s.readInto store d c).session

/-- In every session the log has a warning for each search. -/
theorem Reached.accounted {d : Document} {strict : Bool} {s : Session}
    (h : Reached d strict s) : s.Accounted := by
  induction h with
  | start => exact .start d strict
  | decode _ p ih => exact ih.decode p
  | readInto _ store c quiet ih => exact ih.readRecords quiet d.named.children c

end Session

/-- A catalog reports no warnings. -/
theorem Store.quiet_catalog : Store.catalog.Quiet := by
  intro c name t event h
  simp only [catalog] at h
  split at h
  · rw [List.mem_singleton.1 h]
    rfl
  · cases h

/-! ## The log, stage by stage -/

namespace Event

/-- The event of a named type that was decoded. -/
def ofEntry (entry : String × CType) : Event := decodedType entry.2.kind.label entry.1

/-- The events of a named type that goes to a catalog after others. -/
def stored (earlier : List (String × CType)) (entry : String × CType) : List Event :=
  ofEntry entry :: if entry.1 ∈ entryNames earlier then [replaced entry.1] else []

end Event

namespace Document

variable {d : Document} {strict : Bool}

/-- The named types of a document that decode, up to the first that does not. -/
def entries (d : Document) (strict : Bool) : List (String × CType) :=
  (d.reading strict Store.list #[]).contents.toList

/-- What decoding a document has led to when `k` of its named types have been decoded. -/
def stage (d : Document) (strict : Bool) (k : Nat) : Reading Catalog :=
  Session.stage Store.catalog d.named.children .empty (Session.start d strict) k

/-- The log of a stage. -/
def log (d : Document) (strict : Bool) (k : Nat) : List Event :=
  (d.stage strict k).session.log.toList

/-- From the `k`th stage, the next named type is decoded by look-ups to a result. -/
def DecodesAt (d : Document) (strict : Bool) (k : Nat) (lookups : List Lookup)
    (r : Except ReadError (String × CType)) : Prop :=
  ∃ record s₁, d.named.children[k]? = some record ∧
    Runs Session.finder (Record.namedGroup record) (d.stage strict k).session lookups r s₁

/-- The warnings of look-ups made from the `k`th stage. -/
def warnings (d : Document) (strict : Bool) (k : Nat) (lookups : List Lookup) : List Event :=
  (d.stage strict k).session.warnings lookups

/-- Decoding a document goes in stages. -/
theorem staged (d : Document) (strict : Bool) :
    Session.Staged Store.catalog d.named.children .empty (Session.start d strict)
      (d.entries strict) := by
  obtain ⟨entries, hstaged, hlist⟩ := Session.exists_staged Store.catalog d.named.children .empty
    #[] (Session.Alike.refl (Session.start d strict))
  have hentries : d.entries strict = entries := hlist
  rwa [hentries]

/-- The catalog of a stage holds the entries so far. -/
theorem contents_stage {k : Nat} (hk : k ≤ (d.entries strict).length) :
    (d.stage strict k).contents = Catalog.ofList ((d.entries strict).take k) := by
  induction k with
  | zero => rfl
  | succ k ih =>
      obtain ⟨record, s₁, -, -, hnext⟩ := (d.staged strict).step k hk
      have hcontents := congrArg Reading.contents hnext
      rw [List.take_succ_eq_append_getElem hk, Catalog.ofList_concat, ← ih (Nat.le_of_succ_le hk)]
      exact hcontents

/-- **One stage adds to the log** the warnings of its look-ups, then the named type that was
decoded, and then whether it replaced another. -/
theorem log_succ {k : Nat} (hk : k < (d.entries strict).length) :
    ∃ lookups, d.DecodesAt strict k lookups (.ok (d.entries strict)[k]) ∧
      d.log strict (k + 1) = d.log strict k ++ (d.warnings strict k lookups ++
        Event.stored ((d.entries strict).take k) (d.entries strict)[k]) := by
  obtain ⟨record, s₁, hrecord, hdecode, hnext⟩ := (d.staged strict).step k hk
  obtain ⟨lookups, hrun⟩ :=
    Session.runs_decode (Record.namedGroup record) (d.stage strict k).session
  rw [stage, hdecode] at hrun
  refine ⟨lookups, ⟨record, s₁, hrecord, hrun⟩, ?_⟩
  have hlog : d.log strict (k + 1) = s₁.log.toList ++ Event.ofEntry (d.entries strict)[k] ::
      (Store.catalog.add (d.stage strict k).contents (d.entries strict)[k].1
        (d.entries strict)[k].2).2 := by
    rw [log, stage, hnext]
    simp [Session.note, Event.ofEntry, stage]
  have hhas := Catalog.has_ofList ((d.entries strict).take k) (d.entries strict)[k].1
  rw [hlog, hrun.log_eq, List.append_assoc, contents_stage (Nat.le_of_lt hk), Event.stored]
  simp only [Store.catalog, hhas]
  rfl

/-- What holds of the empty log and is kept by every stage holds of the log of each stage. -/
theorem log_induction {P : Nat → List Event → Prop} (zero : P 0 [])
    (succ : ∀ (k : Nat) (hk : k < (d.entries strict).length) (log warnings : List Event),
      (∀ event ∈ warnings, event.isOutOfOrder = true) → P k log →
      P (k + 1) (log ++ (warnings ++
        Event.stored ((d.entries strict).take k) (d.entries strict)[k])))
    {k : Nat} (hk : k ≤ (d.entries strict).length) : P k (d.log strict k) := by
  induction k with
  | zero => exact zero
  | succ k ih =>
      obtain ⟨lookups, -, hlog⟩ := log_succ hk
      rw [hlog]
      exact succ k hk _ _ (fun event h => Session.isOutOfOrder_of_mem_warnings h)
        (ih (Nat.le_of_succ_le hk))

/-- The log has one event for each named type that was decoded, in their order. -/
theorem filter_log {k : Nat} (hk : k ≤ (d.entries strict).length) :
    (d.log strict k).filter Event.isDecodedType =
      ((d.entries strict).take k).map Event.ofEntry := by
  refine log_induction (P := fun k log => log.filter Event.isDecodedType =
    ((d.entries strict).take k).map Event.ofEntry) rfl ?_ hk
  intro k hk log warnings hwarnings ih
  have hnone : warnings.filter Event.isDecodedType = [] :=
    Event.filter_isDecodedType_of_warnings hwarnings
  have hstored : (Event.stored ((d.entries strict).take k) (d.entries strict)[k]).filter
      Event.isDecodedType = [Event.ofEntry (d.entries strict)[k]] := by
    rw [Event.stored]
    split <;> rfl
  rw [List.filter_append, List.filter_append, hnone, hstored, ih, List.nil_append,
    List.take_succ_eq_append_getElem hk, List.map_append]
  rfl

/-- Each named type either is a new entry of the catalog or has replaced one. -/
theorem countP_isReplaced_log {k : Nat} (hk : k ≤ (d.entries strict).length) :
    (Catalog.ofList ((d.entries strict).take k)).size +
      (d.log strict k).countP Event.isReplaced = k := by
  refine log_induction (P := fun k log => (Catalog.ofList ((d.entries strict).take k)).size +
    log.countP Event.isReplaced = k) rfl ?_ hk
  intro k hk log warnings hwarnings ih
  have hnone : warnings.countP Event.isReplaced = 0 := by
    rw [List.countP_eq_zero]
    intro event hevent
    simp [(Event.of_isOutOfOrder (hwarnings event hevent)).2.1]
  have hhas := Catalog.has_ofList ((d.entries strict).take k) (d.entries strict)[k].1
  rw [List.countP_append, List.countP_append, hnone, List.take_succ_eq_append_getElem hk,
    Catalog.ofList_concat, Catalog.size_insert, Event.stored]
  simp only [hhas]
  split
  · have htwo : [Event.ofEntry (d.entries strict)[k], .replaced (d.entries strict)[k].1].countP
        Event.isReplaced = 1 := rfl
    omega
  · have hone : [Event.ofEntry (d.entries strict)[k]].countP Event.isReplaced = 0 := rfl
    omega

/-- No stage says that the whole document was decoded. -/
theorem isDecoded_of_mem_log {k : Nat} (hk : k ≤ (d.entries strict).length) :
    ∀ event ∈ d.log strict k, event.isDecoded = false := by
  refine log_induction (P := fun _ log => ∀ event ∈ log, event.isDecoded = false)
    (fun event h => absurd h List.not_mem_nil) ?_ hk
  intro k hk log warnings hwarnings ih event hevent
  rw [List.mem_append, List.mem_append, Event.stored, List.mem_cons] at hevent
  rcases hevent with h | h | rfl | h
  · exact ih event h
  · exact (Event.of_isOutOfOrder (hwarnings event h)).2.2
  · rfl
  · split at h
    · rw [List.mem_singleton.1 h]
      rfl
    · cases h

/-- The log of a stage has a warning for each search. -/
theorem accounted_stage (d : Document) (strict : Bool) (k : Nat) :
    (d.stage strict k).session.Accounted :=
  (Session.Accounted.start d strict).readRecords Store.quiet_catalog
    (d.named.children.take k) .empty

end Document

/-! ## The whole log -/

namespace Catalog

variable {d : Document} {strict : Bool}

/-- A document that decodes has gone through all stages, and a summary follows. -/
theorem ofDocument_of_ok {c : Catalog} (h : (ofDocument d strict).1 = .ok c) :
    (d.entries strict).length = d.named.children.length ∧ c = ofList (d.entries strict) ∧
      (ofDocument d strict).2.toList = d.log strict (d.entries strict).length ++
        [.decoded (d.entries strict).length
          (d.stage strict (d.entries strict).length).session.searches] := by
  have hreading : d.reading strict Store.catalog empty =
      (Session.start d strict).readInto Store.catalog d empty := rfl
  rw [ofDocument, ← hreading] at h ⊢
  cases hr : (d.reading strict Store.catalog empty).result with
  | error e =>
      rw [hr] at h
      cases h
  | ok n =>
      obtain ⟨hlength, hlast⟩ := (d.staged strict).done n hr
      have hlast : d.reading strict Store.catalog empty =
          d.stage strict (d.entries strict).length := hlast
      have hn : n = (d.entries strict).length := by
        rw [hlength]
        exact Session.eq_length_of_readRecords hr
      rw [hr] at h
      cases h
      refine ⟨hlength, ?_, ?_⟩
      · rw [hlast, Document.contents_stage le_rfl, List.take_length]
      · simp [hlast, hn, Document.log]

/-- A document that does not decode has gone through all stages, and the next named type fails. -/
theorem ofDocument_of_error {e : ReadError} (h : (ofDocument d strict).1 = .error e) :
    ∃ lookups, d.DecodesAt strict (d.entries strict).length lookups (.error e) ∧
      (ofDocument d strict).2.toList = d.log strict (d.entries strict).length ++
        d.warnings strict (d.entries strict).length lookups := by
  have hreading : d.reading strict Store.catalog empty =
      (Session.start d strict).readInto Store.catalog d empty := rfl
  rw [ofDocument, ← hreading] at h ⊢
  cases hr : (d.reading strict Store.catalog empty).result with
  | ok n =>
      rw [hr] at h
      cases h
  | error e' =>
      obtain ⟨record, s₁, hrecord, hdecode, hlast⟩ := (d.staged strict).failed e' hr
      have hlast : d.reading strict Store.catalog empty =
          ⟨.error e', (d.stage strict (d.entries strict).length).contents, s₁⟩ := hlast
      obtain ⟨lookups, hrun⟩ := Session.runs_decode (Record.namedGroup record)
        (d.stage strict (d.entries strict).length).session
      rw [Document.stage, hdecode] at hrun
      rw [hr] at h
      cases h
      refine ⟨lookups, ⟨record, s₁, hrecord, hrun⟩, ?_⟩
      simp only [hlast]
      exact hrun.log_eq

/-- The whole log has one event for each entry, in their order. -/
theorem filter_ofDocument (d : Document) (strict : Bool) :
    (ofDocument d strict).2.toList.filter Event.isDecodedType =
      (d.entries strict).map Event.ofEntry := by
  have hstage := Document.filter_log (le_refl (d.entries strict).length)
  rw [List.take_length] at hstage
  cases hresult : (ofDocument d strict).1 with
  | error e =>
      obtain ⟨lookups, -, hlog⟩ := ofDocument_of_error hresult
      have hnone : (d.warnings strict (d.entries strict).length lookups).filter
          Event.isDecodedType = [] :=
        Event.filter_isDecodedType_of_warnings fun _ h => Session.isOutOfOrder_of_mem_warnings h
      rw [hlog, List.filter_append, hnone, hstage, List.append_nil]
  | ok c =>
      obtain ⟨-, -, hlog⟩ := ofDocument_of_ok hresult
      rw [hlog, List.filter_append, hstage]
      exact List.append_nil _

/-- The numbers of the summary are those of the log. -/
theorem summary_ofDocument {c : Catalog} (h : (ofDocument d strict).1 = .ok c) :
    let log := (ofDocument d strict).2.toList
    log = d.log strict (d.entries strict).length ++
        [.decoded (log.countP Event.isDecodedType) (log.countP Event.isOutOfOrder)] ∧
      c.size + log.countP Event.isReplaced = log.countP Event.isDecodedType := by
  intro log
  obtain ⟨-, hc, hlog⟩ := ofDocument_of_ok h
  have hlog : log = d.log strict (d.entries strict).length ++
      [.decoded (d.entries strict).length
        (d.stage strict (d.entries strict).length).session.searches] := hlog
  have htypes : log.countP Event.isDecodedType = (d.entries strict).length := by
    rw [List.countP_eq_length_filter]
    calc
      _ = ((d.entries strict).map Event.ofEntry).length :=
        congrArg List.length (filter_ofDocument d strict)
      _ = _ := List.length_map _
  have hwarnings : log.countP Event.isOutOfOrder =
      (d.stage strict (d.entries strict).length).session.searches := by
    rw [hlog, List.countP_append, d.accounted_stage strict (d.entries strict).length]
    rfl
  have hreplaced := Document.countP_isReplaced_log (le_refl (d.entries strict).length)
  rw [List.take_length] at hreplaced
  constructor
  · rw [htypes, hwarnings]
    exact hlog
  · rw [htypes, hlog, List.countP_append, hc]
    exact hreplaced

/-- **The log accounts for the decoding.**  It goes stage by stage.  A stage puts the warnings of
its look-ups first, one for each search, then the named type that was decoded, and then, if there
was an entry of its name, that this was replaced; so there is one event for each entry, in their
order.  A decoding that does not fail ends with the numbers of the log itself, which has more named
types than the catalog by those that were replaced.  A decoding that fails has the warnings of its
last look-ups at the end, and no summary.  And whatever a session was used for, it has counted its
warnings. -/
theorem log_ofDocument (d : Document) (strict : Bool) :
    let entries := d.entries strict
    let log := (ofDocument d strict).2.toList
    d.log strict 0 = [] ∧
      (∀ (k : Nat) (hk : k < entries.length), ∃ lookups,
        d.DecodesAt strict k lookups (.ok entries[k]) ∧
        d.log strict (k + 1) = d.log strict k ++
          (d.warnings strict k lookups ++ Event.stored (entries.take k) entries[k])) ∧
      (∀ (s : Session) (place : Section) (id : UInt32),
        let warning := ((s.cursor place).warning? id).toList
        (Session.find place id s).2.searches = s.searches + warning.length ∧
          ∀ event ∈ warning, event.isOutOfOrder = true) ∧
      log.filter Event.isDecodedType = entries.map Event.ofEntry ∧
      (∀ c, (ofDocument d strict).1 = .ok c →
        entries.length = d.named.children.length ∧
        log = d.log strict entries.length ++
          [.decoded (log.countP Event.isDecodedType) (log.countP Event.isOutOfOrder)] ∧
        c.size + log.countP Event.isReplaced = log.countP Event.isDecodedType) ∧
      (∀ e, (ofDocument d strict).1 = .error e →
        (∃ lookups, d.DecodesAt strict entries.length lookups (.error e) ∧
          log = d.log strict entries.length ++ d.warnings strict entries.length lookups) ∧
        ∀ event ∈ log, event.isDecoded = false) ∧
      ∀ s, Session.Reached d strict s → s.searches = s.log.toList.countP Event.isOutOfOrder := by
  refine ⟨rfl, fun k hk => Document.log_succ hk, fun s place id => ?_, filter_ofDocument d strict,
    fun c hc => ⟨(ofDocument_of_ok hc).1, summary_ofDocument hc⟩, fun e he => ?_,
    fun s hs => hs.accounted⟩
  · exact ⟨Session.searches_find place id s, fun event h => Cursor.isOutOfOrder_of_mem_warning? h⟩
  · obtain ⟨lookups, hdecodes, hlog⟩ := ofDocument_of_error he
    refine ⟨⟨lookups, hdecodes, hlog⟩, ?_⟩
    rw [hlog]
    intro event hevent
    rcases List.mem_append.1 hevent with h | h
    · exact Document.isDecoded_of_mem_log le_rfl event h
    · exact (Event.of_isOutOfOrder (Session.isOutOfOrder_of_mem_warnings h)).2.2

end Catalog

end DebugTypes
