import DebugTypes.Proofs.Decoding.Prefix

/-!
# Reading stage by stage

The reading of named types is told by its stages: the `k`th stage is what has come of the reading
when `k` records have been read.  Each stage but the last comes from the one before by decoding one
record and handing it to the store, and after the last the reading has ended or the next record does
not decode.

## Main definitions

* `Session.stage` — the reading of the first `k` records.
* `Session.Staged` — the stages in which a list of entries goes to a store.

## Main statement

* `Session.exists_staged` — every reading goes in stages.
-/

namespace DebugTypes.Session

variable {σ : Type}

/-- What has come of a reading when `k` records have been read. -/
def stage (store : Store σ) (records : List Element) (c : σ) (s : Session) (k : Nat) : Reading σ :=
  readRecords store (records.take k) c s

/-- The stages of a reading in which the entries go to the store one after the other. -/
structure Staged (store : Store σ) (records : List Element) (c : σ) (s : Session)
    (entries : List (String × CType)) : Prop where
  /-- From one stage to the next, one record is decoded and its entry is stored. -/
  step : ∀ (k : Nat) (hk : k < entries.length), ∃ record s₁, records[k]? = some record ∧
    decode (Record.namedGroup record) (stage store records c s k).session =
      (.ok entries[k], s₁) ∧
    let added := store.add (stage store records c s k).contents entries[k].1 entries[k].2
    stage store records c s (k + 1) =
      { result := .ok (k + 1), contents := added.1,
        session := s₁.note (.decodedType entries[k].2.kind.label entries[k].1 :: added.2) }
  /-- A reading that does not fail has read all records. -/
  done : ∀ n, (readRecords store records c s).result = .ok n →
    entries.length = records.length ∧
      readRecords store records c s = stage store records c s entries.length
  /-- A reading that fails does so at the record after the last stage. -/
  failed : ∀ e, (readRecords store records c s).result = .error e →
    ∃ record s₁, records[entries.length]? = some record ∧
      decode (Record.namedGroup record) (stage store records c s entries.length).session =
        (.error e, s₁) ∧
      readRecords store records c s =
        ⟨.error e, (stage store records c s entries.length).contents, s₁⟩

variable {store : Store σ} {record : Element} {rest : List Element} {c : σ} {s s₁ : Session}

/-- The stages after the first are those of the other records, from where the first has led. -/
theorem stage_succ_of_ok {name : String} {t : CType}
    (h : decode (Record.namedGroup record) s = (.ok (name, t), s₁)) (k : Nat) :
    stage store (record :: rest) c s (k + 1) =
      let later := stage store rest (store.add c name t).1
        (s₁.note (.decodedType t.kind.label name :: (store.add c name t).2)) k
      { later with result := later.result.map (· + 1) } := by
  rw [stage, List.take_succ_cons, readRecords_of_ok h]
  rfl

namespace Staged

theorem of_nil (store : Store σ) (c : σ) (s : Session) : Staged store [] c s [] where
  step k hk := absurd hk (Nat.not_lt_zero k)
  done n _ := ⟨rfl, rfl⟩
  failed e h := by cases h

/-- A first record that does not decode is the end. -/
theorem of_error {e : ReadError} (h : decode (Record.namedGroup record) s = (.error e, s₁))
    (rest : List Element) (c : σ) : Staged store (record :: rest) c s [] where
  step k hk := absurd hk (Nat.not_lt_zero k)
  done n hn := by
    rw [readRecords_of_error h] at hn
    cases hn
  failed e' he := by
    rw [readRecords_of_error h] at he ⊢
    cases he
    exact ⟨record, s₁, rfl, h, rfl⟩

/-- A first record that decodes is one stage before those of the others. -/
theorem cons {name : String} {t : CType} {entries : List (String × CType)}
    (h : decode (Record.namedGroup record) s = (.ok (name, t), s₁))
    (hrest : Staged store rest (store.add c name t).1
      (s₁.note (.decodedType t.kind.label name :: (store.add c name t).2)) entries) :
    Staged store (record :: rest) c s ((name, t) :: entries) where
  step k hk := by
    cases k with
    | zero => exact ⟨record, s₁, rfl, h, stage_succ_of_ok h 0⟩
    | succ k =>
        obtain ⟨other, s₂, hrecord, hdecode, hnext⟩ :=
          hrest.step k (Nat.lt_of_succ_lt_succ hk)
        refine ⟨other, s₂, hrecord, ?_, ?_⟩
        · rw [stage_succ_of_ok h]
          exact hdecode
        · rw [stage_succ_of_ok h, stage_succ_of_ok h, hnext]
          rfl
  done n hn := by
    rw [readRecords_of_ok h] at hn
    obtain ⟨m, hm, -⟩ := exists_of_map_eq_ok hn
    obtain ⟨hlength, heq⟩ := hrest.done m hm
    refine ⟨congrArg (· + 1) hlength, ?_⟩
    rw [List.length_cons, stage_succ_of_ok h, readRecords_of_ok h, heq]
  failed e he := by
    rw [readRecords_of_ok h] at he
    obtain ⟨other, s₂, hrecord, hdecode, heq⟩ := hrest.failed e (eq_error_of_map_eq_error he)
    refine ⟨other, s₂, hrecord, ?_, ?_⟩
    · rw [List.length_cons, stage_succ_of_ok h]
      exact hdecode
    · rw [List.length_cons, stage_succ_of_ok h, readRecords_of_ok h, heq]
      rfl

end Staged

/-- **Every reading goes in stages,** and what goes to the store is what a plain list receives. -/
theorem exists_staged (store : Store σ) (records : List Element) (c : σ)
    (types : Array (String × CType)) {s t : Session} (h : s.Alike t) :
    ∃ entries, Staged store records c s entries ∧
      (readRecords Store.list records types t).contents.toList = types.toList ++ entries := by
  induction records generalizing c types s t with
  | nil => exact ⟨[], .of_nil store c s, (List.append_nil _).symm⟩
  | cons record rest ih =>
      obtain ⟨hresult, hnext⟩ := h.decode (Record.namedGroup record)
      rcases hs : decode (Record.namedGroup record) s with ⟨r, s₁⟩
      rcases ht : decode (Record.namedGroup record) t with ⟨r', t₁⟩
      rw [hs, ht] at hresult hnext
      obtain rfl : r' = r := hresult
      rcases r' with e | ⟨name, u⟩
      · rw [readRecords_of_error ht]
        exact ⟨[], .of_error hs rest c, (List.append_nil _).symm⟩
      · obtain ⟨entries, hstaged, hlist⟩ := ih (store.add c name u).1
          (Store.list.add types name u).1 (hnext.note
            (.decodedType u.kind.label name :: (store.add c name u).2)
            (.decodedType u.kind.label name :: (Store.list.add types name u).2))
        refine ⟨(name, u) :: entries, hstaged.cons hs, ?_⟩
        rw [readRecords_of_ok ht]
        calc
          _ = (Store.list.add types name u).1.toList ++ entries := hlist
          _ = types.toList ++ (name, u) :: entries := by simp [Store.list]

end DebugTypes.Session
