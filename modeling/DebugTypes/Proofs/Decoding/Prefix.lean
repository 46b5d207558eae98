import DebugTypes.Proofs.Decoding.Replay

/-!
# What a failed reading leaves

The named types of a document are read one after the other, and the first that does not decode ends
this.  A store is then left with exactly the types before that one.  They are the types of the
document that is cut off in front of it, and nothing behind it matters: neither to what was stored
nor to the failure.

## Main definitions

* `Document.withNamed d records` — the document with other named types.
* `Document.StopsAt d strict store c e k` — a reading that keeps the first `k` types and fails at
  the next with `e`.

## Main statement

* `Document.reading_stopsAt` — a reading that fails stops at exactly one record.
-/

namespace DebugTypes

variable {σ : Type}

namespace Session

variable {store : Store σ} {c : σ} {s : Session}

theorem eq_error_of_map_eq_error {r : Except ReadError Nat} {e : ReadError}
    (h : r.map (· + 1) = .error e) : r = .error e := by
  cases r with
  | error e' => cases h; rfl
  | ok m => cases h

/-- A failed reading has read every record up to one that does not decode. -/
theorem exists_split_of_error {records : List Element} {e : ReadError}
    (h : (readRecords store records c s).result = .error e) :
    ∃ before record rest s₁, records = before ++ record :: rest ∧
      (readRecords store before c s).result = .ok before.length ∧
      decode (Record.namedGroup record) (readRecords store before c s).session =
        (.error e, s₁) := by
  induction records generalizing c s with
  | nil => cases h
  | cons record rest ih =>
      rcases hd : decode (Record.namedGroup record) s with ⟨e' | ⟨name, t⟩, s₁⟩
      · rw [readRecords_of_error hd] at h
        cases h
        exact ⟨[], record, rest, s₁, rfl, rfl, hd⟩
      · rw [readRecords_of_ok hd] at h
        obtain ⟨before, failing, rest, s₂, rfl, hbefore, hfailing⟩ :=
          ih (eq_error_of_map_eq_error h)
        refine ⟨record :: before, failing, rest, s₂, rfl, ?_, ?_⟩
        · rw [readRecords_of_ok hd]
          simp only [hbefore]
          rfl
        · rw [readRecords_of_ok hd]
          exact hfailing

/-- Where a record does not decode after those before it, the reading ends, whatever follows. -/
theorem readRecords_append_of_error {before : List Element} {record : Element} {e : ReadError}
    {s₁ : Session} (hbefore : (readRecords store before c s).result = .ok before.length)
    (hd : decode (Record.namedGroup record) (readRecords store before c s).session =
      (.error e, s₁)) (rest : List Element) :
    readRecords store (before ++ record :: rest) c s =
      ⟨.error e, (readRecords store before c s).contents, s₁⟩ := by
  induction before generalizing c s with
  | nil => exact readRecords_of_error hd rest c
  | cons first before ih =>
      rcases hfirst : decode (Record.namedGroup first) s with ⟨e' | ⟨name, t⟩, s₂⟩
      · rw [readRecords_of_error hfirst] at hbefore
        cases hbefore
      · rw [readRecords_of_ok hfirst] at hbefore hd ⊢
        obtain ⟨m, hm, hlength⟩ := exists_of_map_eq_ok hbefore
        rw [List.length_cons, Nat.add_right_cancel_iff] at hlength
        rw [List.cons_append, readRecords_of_ok hfirst, ih (by rw [hm, hlength]) hd]
        rfl

/-- What is read without a failure is so up to every record in it. -/
theorem exists_ok_of_append {before rest : List Element} {n : Nat}
    (h : (readRecords store (before ++ rest) c s).result = .ok n) :
    ∃ m, (readRecords store before c s).result = .ok m := by
  cases hb : (readRecords store before c s).result with
  | ok m => exact ⟨m, rfl⟩
  | error e =>
      obtain ⟨before, record, later, s₁, rfl, hbefore, hd⟩ := exists_split_of_error hb
      rw [List.append_assoc, List.cons_append, readRecords_append_of_error hbefore hd] at h
      cases h

end Session

namespace Document

/-- The document with other named types. -/
def withNamed (d : Document) (records : List Element) : Document where
  root := .mk d.root.tag d.root.attributes
    (d.root.children.set 2 (.mk d.named.tag d.named.attributes records))
  complete := by
    rw [Element.children_mk, List.length_set]
    exact d.complete

@[simp] theorem named_withNamed (d : Document) (records : List Element) :
    (d.withNamed records).named.children = records := by
  simp [named, withNamed]

@[simp] theorem records_withNamed (d : Document) (records : List Element) (place : Section) :
    (d.withNamed records).records place = d.records place := by
  cases place <;> simp [Document.records, functions, unnamed, withNamed]

/-- Other named types are read by the same session. -/
theorem reading_withNamed (d : Document) (records : List Element) (strict : Bool)
    (store : Store σ) (c : σ) :
    (d.withNamed records).reading strict store c =
      Session.readRecords store records c (Session.start d strict) := by
  rw [reading, Session.readInto, named_withNamed, Session.start, records_withNamed,
    records_withNamed]
  rfl

/-- A reading that keeps the first `k` named types of a document and fails with `e` at the next. -/
structure StopsAt (d : Document) (strict : Bool) (store : Store σ) (c : σ) (e : ReadError)
    (k : Nat) : Prop where
  lt : k < d.named.children.length
  /-- Cut off after `k` records, the document decodes to one entry for each of them, under its name,
  and these entries are what the store received. -/
  kept :
    let entries :=
      ((d.withNamed (d.named.children.take k)).reading strict Store.list #[]).contents.toList
    entries.length = k ∧
      entries.map (fun entry => some entry.1) =
        (d.named.children.take k).map (·.attribute? "name") ∧
      (d.reading strict store c).contents = (store.addAll c entries).1
  cut : ((d.withNamed (d.named.children.take k)).reading strict store c).result = .ok k
  /-- With one record more the document fails in the same way. -/
  cut_succ :
    ((d.withNamed (d.named.children.take (k + 1))).reading strict store c).result = .error e
  /-- And so it does with any records after that, and nothing else is stored. -/
  rest : ∀ later : List Element,
    let other := (d.withNamed (d.named.children.take (k + 1) ++ later)).reading strict store c
    other.result = .error e ∧ other.contents = (d.reading strict store c).contents

variable {d : Document} {strict : Bool} {store : Store σ} {c : σ}

/-- A reading stops at a record that does not decode after those before it. -/
theorem stopsAt_of_split {before rest : List Element} {record : Element} {e : ReadError}
    {s₁ : Session} (hsplit : d.named.children = before ++ record :: rest)
    (hbefore : (Session.readRecords store before c (Session.start d strict)).result =
      .ok before.length)
    (hd : Session.decode (Record.namedGroup record)
      (Session.readRecords store before c (Session.start d strict)).session = (.error e, s₁)) :
    d.StopsAt strict store c e before.length := by
  have htake : d.named.children.take before.length = before := by
    rw [hsplit, List.take_left]
  have htake_succ : d.named.children.take (before.length + 1) = before ++ [record] := by
    rw [hsplit, List.take_length_add_append]
    rfl
  have hstop := Session.readRecords_append_of_error hbefore hd
  have hwhole : (d.reading strict store c).contents =
      (Session.readRecords store before c (Session.start d strict)).contents := by
    rw [reading, Session.readInto, hsplit, hstop]
  refine ⟨?_, ?_, ?_, ?_, fun later => ?_⟩
  · rw [hsplit, List.length_append, List.length_cons]
    omega
  · obtain ⟨hresult, hcontents, hnames⟩ :=
      (d.withNamed before).reading_eq_addAll strict store c
    rw [reading_withNamed] at hresult hcontents
    rw [hbefore] at hresult
    rw [named_withNamed] at hnames
    rw [htake]
    exact ⟨(hnames _ hresult.symm).2.1, (hnames _ hresult.symm).2.2, hwhole.trans hcontents⟩
  · rw [htake, reading_withNamed, hbefore]
  · rw [htake_succ, reading_withNamed, hstop]
  · rw [htake_succ, reading_withNamed, List.append_assoc, List.singleton_append, hstop, hwhole]
    exact ⟨rfl, rfl⟩

/-- A reading cannot keep more types than those before its failure. -/
theorem StopsAt.le {e e' : ReadError} {k k' : Nat} (h : d.StopsAt strict store c e k)
    (h' : d.StopsAt strict store c e' k') : k' ≤ k := by
  by_contra hlt
  -- The record that fails for `k` would be among those that are read for `k'`.
  have hprefix : d.named.children.take k' = d.named.children.take (k + 1) ++
      (d.named.children.take k').drop (k + 1) := by
    have h := List.take_append_drop (k + 1) (d.named.children.take k')
    rw [List.take_take, Nat.min_eq_left (by omega)] at h
    exact h.symm
  have hcut := h'.cut
  rw [reading_withNamed, hprefix] at hcut
  obtain ⟨m, hm⟩ := Session.exists_ok_of_append hcut
  have hfails := h.cut_succ
  rw [reading_withNamed, hm] at hfails
  cases hfails

/-- **A failed reading leaves exactly the types before the failure,** and a reading that does not
fail gives every named type, under its name and in order. -/
theorem reading_stopsAt (d : Document) (strict : Bool) (store : Store σ) (c : σ) :
    (∀ e, (d.reading strict store c).result = .error e → ∃! k, d.StopsAt strict store c e k) ∧
      ∀ count, (d.reading strict store c).result = .ok count →
        count = d.named.children.length ∧ ∃ entries : List (String × CType),
          entries.length = d.named.children.length ∧
            entries.map (fun entry => some entry.1) =
              d.named.children.map (·.attribute? "name") ∧
            (d.reading strict store c).contents = (store.addAll c entries).1 := by
  constructor
  · intro e h
    obtain ⟨before, record, rest, s₁, hsplit, hbefore, hd⟩ := Session.exists_split_of_error h
    have hstops := stopsAt_of_split hsplit hbefore hd
    exact ⟨before.length, hstops, fun k hk => le_antisymm (hstops.le hk) (hk.le hstops)⟩
  · intro count h
    obtain ⟨hresult, hcontents, hnames⟩ := d.reading_eq_addAll strict store c
    obtain ⟨hcount, hlength, hnames⟩ := hnames count (hresult.symm.trans h)
    exact ⟨hcount, _, hlength, hnames, hcontents⟩

end Document

end DebugTypes
