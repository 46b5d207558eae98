import DebugTypes.Proofs.CType.Json

/-!
# How deep types nest that are read from JSON

Types are read from more values than they are written as: a body may be an array, a word may be the
name of a field, qualifiers may be repeated, and what is not known is ignored.  None of this makes a
value nest less than what is written.  A type that was read by entering a number of levels is
therefore written with no more levels than that.

## Main statements

* `Json.mem_of_mapM'_eq_some` — where the parts of a list come from that is read part by part.
* `CType.nesting_le_of_ofJson?` — how deep the value of a type nests that was read.
-/

namespace DebugTypes

namespace Json

theorem Value.itemsNesting_le {vs : List Value} {n : Nat} (h : ∀ v ∈ vs, v.nesting ≤ n) :
    Value.itemsNesting vs ≤ n := by
  induction vs with
  | nil => exact Nat.zero_le n
  | cons v vs ih =>
      have hv := h v List.mem_cons_self
      have hvs := ih fun w hw => h w (List.mem_cons_of_mem v hw)
      rw [Value.itemsNesting]
      exact Nat.max_le.2 ⟨hv, hvs⟩

/-- Each part of a list that was read part by part was read from a part. -/
theorem mem_of_mapM'_eq_some {α β : Type} {f : α → Option β} {as : List α} {bs : List β}
    (h : as.mapM' f = some bs) : ∀ b ∈ bs, ∃ a ∈ as, f a = some b := by
  induction as generalizing bs with
  | nil =>
      cases h
      exact List.forall_mem_nil _
  | cons a as ih =>
      rw [List.mapM'_cons] at h
      simp only [Option.bind_eq_bind, Option.bind_eq_some_iff, Option.pure_def,
        Option.some.injEq] at h
      obtain ⟨b, hb, rest, hrest, rfl⟩ := h
      refine List.forall_mem_cons.2 ⟨⟨a, List.mem_cons_self, hb⟩, fun b' hb' => ?_⟩
      obtain ⟨a', ha', hfa'⟩ := ih hrest b' hb'
      exact ⟨a', List.mem_cons_of_mem a ha', hfa'⟩

/-- What is written for the parts of a list that was read nests no deeper than the array may. -/
theorem nesting_array_le {α β : Type} {f : α → Option β} {write : β → Value} {as : List α}
    {bs : List β} {n : Nat} (h : as.mapM' f = some bs)
    (hf : ∀ a b, f a = some b → (write b).nesting ≤ n) :
    (Value.array (bs.map write)).nesting ≤ n + 1 := by
  rw [Value.nesting_array]
  refine Nat.succ_le_succ (Value.itemsNesting_le fun v hv => ?_)
  obtain ⟨b, hb, rfl⟩ := List.mem_map.1 hv
  obtain ⟨a, -, ha⟩ := mem_of_mapM'_eq_some h b hb
  exact hf a b ha

end Json

namespace CType

open Json (Value nesting_array_le)
open ReadsBack (membersJson_eq_map parametersJson_eq_map)

/-- A kind nests one deeper than its body. -/
theorem nesting_kindJson (k : Kind) (body : Value) :
    (kindJson k body).nesting = body.nesting + 1 := nesting_record_one k.word body

/-- A kind with a body of several parts nests two deeper than they may. -/
theorem nesting_kindRecord_le (k : Kind) {parts : List (String × Value)} {n : Nat}
    (h : ∀ part ∈ parts, part.2.nesting ≤ n) : (kindJson k (.record parts)).nesting ≤ n + 2 := by
  rw [nesting_kindJson, Value.nesting_record]
  refine Nat.add_le_add_right (Value.itemsNesting_le fun v hv => ?_) 2
  obtain ⟨part, hpart, rfl⟩ := List.mem_map.1 hv
  exact h part hpart

/-- Qualifiers are read from an array, and written as one of words. -/
theorem nesting_qualifiers_le {n : Nat} {v : Value} {q : Qualifiers}
    (h : qualifiersOfJson? n v = some q) :
    (Value.array (q.toList.map fun a => .text a.word)).nesting ≤ n := by
  cases n with
  | zero => cases h
  | succ n =>
      rw [Value.nesting_array, itemsNesting_map_text]
      exact Nat.succ_le_succ (Nat.zero_le n)

/-- The constants of an enum are read from arrays in an array. -/
theorem nesting_constants_le {n : Nat} {v : Value} {cs : List (String × String)}
    (h : constantsOfJson? n v = some cs) : (Value.array (cs.map constantJson)).nesting ≤ n := by
  cases n with
  | zero => cases h
  | succ n =>
      obtain ⟨items, -, hitems⟩ := Option.bind_eq_some_iff.1 h
      refine nesting_array_le hitems fun item c hc => ?_
      cases n with
      | zero => cases hc
      | succ n =>
          rw [constantJson, Value.nesting_array]
          exact Nat.succ_le_succ (Nat.zero_le n)

theorem nesting_enumBody_le {n : Nat} {v : Value} {cs : List (String × String)}
    (h : enumBody? n v = some cs) :
    (Value.record [("values", .array (cs.map constantJson))]).nesting ≤ n := by
  cases n with
  | zero => cases h
  | succ n =>
      rw [enumBody?] at h
      split at h
      · rw [nesting_record_one]
        exact Nat.succ_le_succ (nesting_constants_le h)
      · cases h

mutual

/-- **What is read nests no deeper than was entered.**  A type that was read by entering a number of
levels is written with no more levels than that. -/
theorem nesting_le_of_ofJson? : ∀ (n : Nat) (v : Value) (t : CType),
    ofJson? n v = some t → t.toJson.nesting ≤ n
  | 0, _, _, h => by rw [ofJson?] at h; cases h
  | n + 1, v, t, h => by
    simp only [ofJson?, Option.bind_eq_bind, Option.bind_eq_some_iff] at h
    obtain ⟨⟨word, body⟩, -, kind, -, h⟩ := h
    cases kind with
    | primitive =>
        obtain ⟨p, -, h⟩ := Option.bind_eq_some_iff.1 h
        cases h
        rw [toJson, nesting_kindJson, Value.nesting_text]
        exact Nat.succ_le_succ (Nat.zero_le n)
    | pointer =>
        obtain ⟨target, htarget, h⟩ := Option.bind_eq_some_iff.1 h
        cases h
        rw [toJson, nesting_kindJson]
        exact Nat.succ_le_succ (nesting_le_of_ofJson? n body target htarget)
    | array => exact nesting_arrayBody_le n body t h
    | struct | union =>
        obtain ⟨ms, hms, h⟩ := Option.bind_eq_some_iff.1 h
        cases h
        rw [toJson, nesting_kindJson]
        exact Nat.succ_le_succ (nesting_membersBody_le _ _ n body ms hms)
    | enum =>
        obtain ⟨cs, hcs, h⟩ := Option.bind_eq_some_iff.1 h
        cases h
        rw [toJson, nesting_kindJson]
        exact Nat.succ_le_succ (nesting_enumBody_le hcs)
    | function => exact nesting_functionBody_le n body t h
    | bitField => exact nesting_bitFieldBody_le n body t h
    | qualified => exact nesting_qualifiedBody_le n body t h
    | named =>
        obtain ⟨name, -, h⟩ := Option.bind_eq_some_iff.1 h
        cases h
        rw [toJson, nesting_kindJson, Value.nesting_text]
        exact Nat.succ_le_succ (Nat.zero_le n)

theorem nesting_arrayBody_le : ∀ (n : Nat) (v : Value) (t : CType),
    arrayBody? n v = some t → t.toJson.nesting ≤ n + 1
  | 0, _, _, h => by rw [arrayBody?] at h; cases h
  | n + 1, v, t, h => by
    rw [arrayBody?] at h
    split at h
    · simp only [Option.bind_eq_bind, Option.bind_eq_some_iff, Option.some.injEq] at h
      obtain ⟨u, hu, length, -, rfl⟩ := h
      have helement := nesting_le_of_ofJson? n _ u hu
      rw [toJson]
      exact nesting_kindRecord_le .array (by simp [helement])
    · cases h

theorem nesting_membersBody_le (part field : String) : ∀ (n : Nat) (v : Value)
    (ms : List (String × CType)), membersBody? part field n v = some ms →
    (Value.record [(part, .array (membersJson field ms))]).nesting ≤ n
  | 0, _, _, h => by rw [membersBody?] at h; cases h
  | n + 1, v, ms, h => by
    rw [membersBody?] at h
    split at h
    · rw [nesting_record_one]
      exact Nat.succ_le_succ (nesting_members_le field n _ ms h)
    · cases h

theorem nesting_members_le (field : String) : ∀ (n : Nat) (v : Value)
    (ms : List (String × CType)), membersOfJson? field n v = some ms →
    (Value.array (membersJson field ms)).nesting ≤ n
  | 0, _, _, h => by rw [membersOfJson?] at h; cases h
  | n + 1, v, ms, h => by
    rw [membersOfJson?] at h
    obtain ⟨items, -, hitems⟩ := Option.bind_eq_some_iff.1 h
    rw [membersJson_eq_map]
    exact nesting_array_le hitems fun item m hm => nesting_member_le field n item m hm

theorem nesting_member_le (field : String) : ∀ (n : Nat) (v : Value) (m : String × CType),
    memberOfJson? field n v = some m →
    (Value.record [("name", .text m.1), (field, m.2.toJson)]).nesting ≤ n
  | 0, _, _, h => by rw [memberOfJson?] at h; cases h
  | n + 1, v, m, h => by
    rw [memberOfJson?] at h
    split at h
    · simp only [Option.bind_eq_bind, Option.bind_eq_some_iff, Option.some.injEq] at h
      obtain ⟨name, -, t, ht, rfl⟩ := h
      rw [nesting_record_two, Value.nesting_text, Nat.zero_max]
      exact Nat.succ_le_succ (nesting_le_of_ofJson? n _ t ht)
    · cases h

theorem nesting_functionBody_le : ∀ (n : Nat) (v : Value) (t : CType),
    functionBody? n v = some t → t.toJson.nesting ≤ n + 1
  | 0, _, _, h => by rw [functionBody?] at h; cases h
  | n + 1, v, t, h => by
    rw [functionBody?] at h
    split at h
    · simp only [Option.bind_eq_bind, Option.bind_eq_some_iff, Option.some.injEq] at h
      obtain ⟨u, hu, convention, -, ps, hps, rfl⟩ := h
      have hresult := nesting_le_of_ofJson? n _ u hu
      have hparameters := nesting_parameters_le n _ ps hps
      rw [toJson]
      exact nesting_kindRecord_le .function (by simpa using And.intro hresult hparameters)
    · cases h

theorem nesting_parameters_le : ∀ (n : Nat) (v : Value) (ps : List CType),
    parametersOfJson? n v = some ps → (Value.array (parametersJson ps)).nesting ≤ n
  | 0, _, _, h => by rw [parametersOfJson?] at h; cases h
  | n + 1, v, ps, h => by
    rw [parametersOfJson?] at h
    obtain ⟨items, -, hitems⟩ := Option.bind_eq_some_iff.1 h
    rw [parametersJson_eq_map]
    exact nesting_array_le hitems fun item t ht => nesting_le_of_ofJson? n item t ht

theorem nesting_bitFieldBody_le : ∀ (n : Nat) (v : Value) (t : CType),
    bitFieldBody? n v = some t → t.toJson.nesting ≤ n + 1
  | 0, _, _, h => by rw [bitFieldBody?] at h; cases h
  | n + 1, v, t, h => by
    rw [bitFieldBody?] at h
    split at h
    · simp only [Option.bind_eq_bind, Option.bind_eq_some_iff, Option.some.injEq] at h
      obtain ⟨u, hu, width, -, rfl⟩ := h
      have hbase := nesting_le_of_ofJson? n _ u hu
      rw [toJson]
      exact nesting_kindRecord_le .bitField (by simp [hbase])
    · cases h

theorem nesting_qualifiedBody_le : ∀ (n : Nat) (v : Value) (t : CType),
    qualifiedBody? n v = some t → t.toJson.nesting ≤ n + 1
  | 0, _, _, h => by rw [qualifiedBody?] at h; cases h
  | n + 1, v, t, h => by
    rw [qualifiedBody?] at h
    split at h
    · simp only [Option.bind_eq_bind, Option.bind_eq_some_iff, Option.some.injEq] at h
      obtain ⟨u, hu, q, hq, rfl⟩ := h
      have hinner := nesting_le_of_ofJson? n _ u hu
      have hattrs := nesting_qualifiers_le hq
      rw [toJson]
      exact nesting_kindRecord_le .qualified (by simpa using And.intro hinner hattrs)
    · cases h

end

end CType

end DebugTypes
