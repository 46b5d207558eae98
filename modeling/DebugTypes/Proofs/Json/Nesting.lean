import DebugTypes.Json.Access

/-!
# How deep JSON values nest

A reader that enters one array or object for each it opens gets as far as the value nests, and no
further.  What it gives back is therefore `within` a number of levels: the result if the levels
suffice, and nothing otherwise.

## Main definitions

* `Json.Value.nesting` — how many arrays and objects stand inside one another.
* `Json.within levels depth a` — the result `a` of reading something that nests `depth` deep.

## Main statements

* `Json.eq_within_succ` — reading what is entered.
* `Json.bind_within`, `Json.mapM'_map_within` — reading parts one after the other.
* `Json.parts?_record` — the parts of a body with distinct names.
-/

namespace DebugTypes.Json

namespace Value

mutual

/-- How many arrays and objects stand inside one another in a value. -/
def nesting : Value → Nat
  | scalar _ => 0
  | array items => itemsNesting items + 1
  | object fields => fieldsNesting fields + 1

/-- The nesting of the deepest item. -/
def itemsNesting : List Value → Nat
  | [] => 0
  | v :: vs => max v.nesting (itemsNesting vs)

/-- The nesting of the deepest field. -/
def fieldsNesting : List (Literal × Value) → Nat
  | [] => 0
  | (_, v) :: fields => max v.nesting (fieldsNesting fields)

end

@[simp] theorem nesting_text (s : String) : (text s).nesting = 0 := rfl

@[simp] theorem nesting_natural (n : Nat) : (natural n).nesting = 0 := rfl

@[simp] theorem nesting_array (items : List Value) :
    (array items).nesting = itemsNesting items + 1 := by rw [nesting]

/-- A record nests one deeper than the deepest of its parts. -/
theorem nesting_record (parts : List (String × Value)) :
    (record parts).nesting = itemsNesting (parts.map Prod.snd) + 1 := by
  rw [record, nesting, Nat.add_right_cancel_iff]
  induction parts with
  | nil => rfl
  | cons part parts ih => rw [List.map_cons, List.map_cons, fieldsNesting, itemsNesting, ih]

end Value

/-! ## Results within a number of levels -/

variable {α β : Type}

/-- The result of reading something that nests `depth` deep with a number of levels to enter. -/
def within (levels depth : Nat) (a : α) : Option α := if depth ≤ levels then some a else none

@[simp] theorem within_zero (levels : Nat) (a : α) : within levels 0 a = some a :=
  if_pos (Nat.zero_le levels)

@[simp] theorem within_succ (levels depth : Nat) (a : α) :
    within (levels + 1) (depth + 1) a = within levels depth a := by simp [within]

@[simp] theorem within_zero_succ (depth : Nat) (a : α) : within 0 (depth + 1) a = none := by
  simp [within]

theorem within_of_le {levels depth : Nat} (h : depth ≤ levels) (a : α) :
    within levels depth a = some a := if_pos h

theorem within_of_lt {levels depth : Nat} (h : levels < depth) (a : α) :
    within levels depth a = none := if_neg (Nat.not_le.2 h)

/-- A reader that needs a level for what it enters, and reads what is in there with the levels that
are left. -/
theorem eq_within_succ (f : Nat → Option α) {depth : Nat} {a : α} (hzero : f 0 = none)
    (hsucc : ∀ n, f (n + 1) = within n depth a) (levels : Nat) :
    f levels = within levels (depth + 1) a := by
  cases levels with
  | zero => rw [hzero, within_zero_succ]
  | succ n => rw [hsucc, within_succ]

/-- Two parts read one after the other need the levels of the deeper one. -/
theorem bind_within (levels depth depth' : Nat) (a : α) (f : α → β) :
    ((within levels depth a).bind fun a => within levels depth' (f a)) =
      within levels (max depth depth') (f a) := by
  rcases Nat.lt_or_ge levels depth with h | h
  · rw [within_of_lt h, within_of_lt (by omega), Option.bind_none]
  · rw [within_of_le h, Option.bind_some, within, within]
    simp only [Nat.max_le, h, true_and]

theorem bind_within_some (levels depth : Nat) (a : α) (f : α → β) :
    ((within levels depth a).bind fun a => some (f a)) = within levels depth (f a) := by
  simpa using bind_within levels depth 0 a f

/-- Things that are read one by one, each with the levels that its value needs. -/
theorem mapM'_map_within {γ : Type} {f : γ → Option α} {g : α → γ} {value : α → Value}
    {levels : Nat} {as : List α} (h : ∀ a ∈ as, f (g a) = within levels (value a).nesting a) :
    (as.map g).mapM' f = within levels (Value.itemsNesting (as.map value)) as := by
  induction as with
  | nil => exact (within_zero levels []).symm
  | cons a as ih =>
      have hrest := ih fun b hb => h b (List.mem_cons_of_mem a hb)
      rw [List.map_cons, List.map_cons, List.mapM'_cons, h a List.mem_cons_self, hrest,
        Value.itemsNesting, ← bind_within levels _ _ a (· :: as)]
      simp only [Option.bind_eq_bind, Option.pure_def, bind_within_some]

/-! ## The parts of a record -/

theorem fields?_record (fields : List (String × Value)) :
    (Value.record fields).fields? = some fields := by
  rw [Value.record, Value.fields?]
  induction fields with
  | nil => rfl
  | cons f fields ih => rw [List.map_cons, List.mapM'_cons, ih]; rfl

/-- A field is found by its name where names are distinct. -/
theorem unique?_of_mem {fields : List (String × Value)} (hdistinct : (fields.map Prod.fst).Nodup)
    {f : String × Value} (h : f ∈ fields) : Value.unique? fields f.1 = some f.2 := by
  have hfilter : fields.filter (fun g => g.1 == f.1) = [f] := by
    induction fields with
    | nil => exact absurd h List.not_mem_nil
    | cons g fields ih =>
        rw [List.map_cons, List.nodup_cons] at hdistinct
        rcases List.mem_cons.1 h with rfl | h
        · have hrest : fields.filter (fun g => g.1 == f.1) = [] :=
            List.filter_eq_nil_iff.2 fun g hg hname =>
              hdistinct.1 (List.mem_map.2 ⟨g, hg, beq_iff_eq.1 hname⟩)
          rw [List.filter_cons_of_pos (by simp), hrest]
        · have hname : g.1 ≠ f.1 := fun hname =>
            hdistinct.1 (hname ▸ List.mem_map_of_mem h)
          rw [List.filter_cons_of_neg (by simpa using hname), ih hdistinct.2 h]
  rw [Value.unique?, hfilter]

/-- A body with distinct names has the parts that it was put together from. -/
theorem parts?_record (fields : List (String × Value)) (h : (fields.map Prod.fst).Nodup) :
    (Value.record fields).parts? (fields.map Prod.fst) = some (fields.map Prod.snd) := by
  have hparts : (Value.record fields).parts? (fields.map Prod.fst) =
      (Value.record fields).fields?.bind fun fs =>
        (fields.map Prod.fst).mapM' (Value.unique? fs) := rfl
  rw [hparts, fields?_record, Option.bind_some]
  have hmap : ∀ fs ⊆ fields, (fs.map Prod.fst).mapM' (Value.unique? fields) =
      some (fs.map Prod.snd) := by
    intro fs hfs
    induction fs with
    | nil => rfl
    | cons f fs ih =>
        rw [List.map_cons, List.mapM'_cons, unique?_of_mem h (hfs List.mem_cons_self),
          ih fun g hg => hfs (List.mem_cons_of_mem f hg)]
        rfl
  exact hmap fields fun _ hf => hf

/-- The one field of a record. -/
theorem only?_record (name : String) (v : Value) :
    (Value.record [(name, v)]).only? = some (name, v) := by
  rw [Value.only?, fields?_record]

end DebugTypes.Json
