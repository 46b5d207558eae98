import DebugTypes.CType.Constants
import Mathlib.Data.List.Nodup
import Mathlib.Data.List.Pairwise

/-!
# Names and values of enum constants

The constants of an enum are looked up from both ends.  A name stands for the first constant that
has it, and a value is named by the first constant whose literal has it, in whatever spelling.
Neither look-up is the inverse of the other in general: names may be repeated, a value may have
several names, and a literal may have no value.

## Main statements

* `CType.constantName?_eq_some_iff`, `CType.constantValue?_eq_some_iff` — each look-up as a first
  match in declaration order.
* `CType.constant_lookups` — how far the two look-ups undo each other.
-/

namespace DebugTypes.CType

variable {cs cs' : List (String × String)} {n : String} {v : Int64}

/-! ## First matches -/

theorem constantName?_eq_some_iff :
    constantName? cs v = some n ↔
      ∃ before literal after, cs = before ++ (n, literal) :: after ∧
        literalValue? literal = some v ∧ ∀ c ∈ before, literalValue? c.2 ≠ some v := by
  simp only [constantName?, Option.map_eq_some_iff, List.find?_eq_some_iff_append, Prod.exists,
    beq_iff_eq, Bool.not_eq_true', beq_eq_false_iff_ne]
  constructor
  · rintro ⟨_, literal, ⟨hvalue, before, after, hcs, hbefore⟩, rfl⟩
    exact ⟨before, literal, after, hcs, hvalue, hbefore⟩
  · rintro ⟨before, literal, after, hcs, hvalue, hbefore⟩
    exact ⟨n, literal, ⟨hvalue, before, after, hcs, hbefore⟩, rfl⟩

theorem constantValue?_eq_some_iff :
    constantValue? cs n = some v ↔
      ∃ before literal after, cs = before ++ (n, literal) :: after ∧
        literalValue? literal = some v ∧ ∀ c ∈ before, c.1 ≠ n := by
  simp only [constantValue?, constantLiteral?, Option.bind_eq_some_iff, Option.map_eq_some_iff,
    List.find?_eq_some_iff_append, Prod.exists, beq_iff_eq, Bool.not_eq_true', beq_eq_false_iff_ne]
  constructor
  · rintro ⟨_, ⟨_, literal, ⟨rfl, before, after, hcs, hbefore⟩, rfl⟩, hvalue⟩
    exact ⟨before, literal, after, hcs, hvalue, hbefore⟩
  · rintro ⟨before, literal, after, hcs, hvalue, hbefore⟩
    exact ⟨literal, ⟨n, literal, ⟨rfl, before, after, hcs, hbefore⟩, rfl⟩, hvalue⟩

theorem isSome_constantName?_iff :
    (constantName? cs v).isSome = true ↔ ∃ c ∈ cs, literalValue? c.2 = some v := by
  simp only [constantName?, Option.isSome_map, List.find?_isSome, beq_iff_eq]

/-- Only the values of the literals matter for the names of values. -/
theorem constantName?_congr
    (h : cs'.map (Prod.map id literalValue?) = cs.map (Prod.map id literalValue?)) (v : Int64) :
    constantName? cs' v = constantName? cs v := by
  have hvalued : ∀ cs, constantName? cs v =
      ((cs.map (Prod.map id literalValue?)).find? fun c => c.2 == some v).map Prod.fst := by
    intro cs
    rw [List.find?_map, Option.map_map]
    rfl
  rw [hvalued, hvalued, h]

/-- A constant is told by its value if no two of them have the same. -/
theorem eq_of_literalValue? (h : (cs.filterMap fun c => literalValue? c.2).Nodup)
    {a b : String × String} (ha : a ∈ cs) (hb : b ∈ cs) (hva : literalValue? a.2 = some v)
    (hvb : literalValue? b.2 = some v) : a = b := by
  rw [List.Nodup, List.pairwise_filterMap] at h
  have hsymm : Std.Symm fun a b : String × String =>
      ∀ v, literalValue? a.2 = some v → ∀ w, literalValue? b.2 = some w → v ≠ w :=
    ⟨fun a b hab v hv w hw hvw => hab w hw v hv hvw.symm⟩
  by_contra hne
  exact h.forall ha hb hne v hva v hvb rfl

/-! ## Distinct names -/

/-- A constant does not have the name of one in front of it. -/
theorem fst_notMem_of_nodup {before after : List (String × String)}
    (h : ((before ++ after).map Prod.fst).Nodup) {c : String × String} (hc : c ∈ after) :
    c.1 ∉ before.map Prod.fst := by
  rw [List.map_append, List.nodup_append] at h
  intro hbefore
  exact h.2.2 _ hbefore _ (List.mem_map_of_mem hc) rfl

section

variable (hnames : (cs.map Prod.fst).Nodup)
include hnames

theorem constantValue?_eq_some_iff_mem :
    constantValue? cs n = some v ↔
      ∃ literal, (n, literal) ∈ cs ∧ literalValue? literal = some v := by
  rw [constantValue?_eq_some_iff]
  constructor
  · rintro ⟨before, literal, after, rfl, hvalue, -⟩
    exact ⟨literal, by simp, hvalue⟩
  · rintro ⟨literal, hmem, hvalue⟩
    obtain ⟨before, after, rfl⟩ := List.append_of_mem hmem
    refine ⟨before, literal, after, rfl, hvalue, fun c hc hcn => ?_⟩
    have hdeclared : n ∈ before.map Prod.fst := List.mem_map.2 ⟨c, hc, hcn⟩
    exact fst_notMem_of_nodup hnames List.mem_cons_self hdeclared

/-- The name of a value has the value. -/
theorem constantValue?_of_constantName? (h : constantName? cs v = some n) :
    constantValue? cs n = some v := by
  obtain ⟨before, literal, after, rfl, hvalue, -⟩ := constantName?_eq_some_iff.1 h
  exact (constantValue?_eq_some_iff_mem hnames).2 ⟨literal, by simp, hvalue⟩

/-- A value of a name has a name, which is declared no later. -/
theorem exists_constantName?_of_constantValue? (h : constantValue? cs n = some v) :
    ∃ m, constantName? cs v = some m ∧
      (cs.map Prod.fst).idxOf m ≤ (cs.map Prod.fst).idxOf n := by
  obtain ⟨literal, hmem, hvalue⟩ := (constantValue?_eq_some_iff_mem hnames).1 h
  obtain ⟨m, hm⟩ := Option.isSome_iff_exists.1 (isSome_constantName?_iff.2 ⟨_, hmem, hvalue⟩)
  refine ⟨m, hm, ?_⟩
  obtain ⟨before, literal', after, rfl, -, hbefore⟩ := constantName?_eq_some_iff.1 hm
  have hlater : (n, literal) ∈ (m, literal') :: after := by
    refine (List.mem_append.1 hmem).resolve_left fun hearlier => ?_
    exact hbefore _ hearlier hvalue
  -- Neither name is declared in `before`, and `m` is the next one behind it.
  have hm' : m ∉ before.map Prod.fst := fst_notMem_of_nodup hnames List.mem_cons_self
  have hn' : n ∉ before.map Prod.fst := fst_notMem_of_nodup hnames hlater
  rw [List.map_append, List.idxOf_append_of_notMem hm', List.idxOf_append_of_notMem hn',
    List.map_cons, List.idxOf_cons_self]
  omega

/-- The look-ups undo each other exactly if no two constants have the same value. -/
theorem constantName?_of_constantValue?_iff :
    (∀ n v, constantValue? cs n = some v → constantName? cs v = some n) ↔
      (cs.filterMap fun c => literalValue? c.2).Nodup := by
  constructor
  · intro hinverse
    have hname : ∀ c ∈ cs, ∀ v, literalValue? c.2 = some v → constantName? cs v = some c.1 :=
      fun c hc v hv => hinverse _ _ ((constantValue?_eq_some_iff_mem hnames).2 ⟨c.2, hc, hv⟩)
    refine List.pairwise_filterMap.2 ((List.pairwise_map.1 hnames).imp_of_mem ?_)
    rintro a b ha hb hne v hva _ hvb rfl
    exact hne (Option.some.inj ((hname a ha v hva).symm.trans (hname b hb v hvb)))
  · intro hvalues n v hvalue
    obtain ⟨m, hm, -⟩ := exists_constantName?_of_constantValue? hnames hvalue
    have hvalue' := constantValue?_of_constantName? hnames hm
    obtain ⟨literal, hmem, hv⟩ := (constantValue?_eq_some_iff_mem hnames).1 hvalue
    obtain ⟨literal', hmem', hv'⟩ := (constantValue?_eq_some_iff_mem hnames).1 hvalue'
    have hsame : (m, literal') = (n, literal) := eq_of_literalValue? hvalues hmem' hmem hv' hv
    rw [hm, (Prod.mk.inj hsame).1]

end

/-- **Names and values of constants.**  A value has a name exactly if some literal has the value,
and this is the name of the first constant whose literal has it; how the literals are spelled makes
no difference.  Where no name is repeated, the name of a value has the value, and the value of a
name has a name with that value which is declared no later.  The value of every name then leads back
to the name exactly if the literals that have a value have distinct ones. -/
theorem constant_lookups (cs : List (String × String)) :
    (∀ v, (constantName? cs v).isSome = true ↔ ∃ c ∈ cs, literalValue? c.2 = some v) ∧
    (∀ v n, constantName? cs v = some n ↔
      ∃ before literal after, cs = before ++ (n, literal) :: after ∧
        literalValue? literal = some v ∧ ∀ c ∈ before, literalValue? c.2 ≠ some v) ∧
    (∀ cs', cs'.map (Prod.map id literalValue?) = cs.map (Prod.map id literalValue?) →
      ∀ v, constantName? cs' v = constantName? cs v) ∧
    ((cs.map Prod.fst).Nodup →
      (∀ v n, constantName? cs v = some n → constantValue? cs n = some v) ∧
      (∀ v n, constantValue? cs n = some v →
        ∃ m, constantName? cs v = some m ∧ constantValue? cs m = some v ∧
          (cs.map Prod.fst).idxOf m ≤ (cs.map Prod.fst).idxOf n) ∧
      ((∀ n v, constantValue? cs n = some v → constantName? cs v = some n) ↔
        (cs.filterMap fun c => literalValue? c.2).Nodup)) := by
  refine ⟨fun v => isSome_constantName?_iff, fun v n => constantName?_eq_some_iff,
    fun cs' h v => constantName?_congr h v, fun hnames => ⟨fun v n h => ?_, fun v n h => ?_, ?_⟩⟩
  · exact constantValue?_of_constantName? hnames h
  · obtain ⟨m, hm, hle⟩ := exists_constantName?_of_constantValue? hnames h
    exact ⟨m, hm, constantValue?_of_constantName? hnames hm, hle⟩
  · exact constantName?_of_constantValue?_iff hnames

/-- Two values with two names each, every one spelled in its own way, around a literal without
one. -/
theorem constant_lookups_aliases :
    let cs := [("low", "255"), ("mask", " 0xff"), ("odd", "1u"), ("all", "-1"),
      ("bits", "0XFFFFFFFFFFFFFFFF")]
    (cs.map Prod.fst).Nodup ∧ constantValue? cs "bits" = some (-1) ∧
      (∃ m, constantName? cs (-1) = some m ∧ constantValue? cs m = some (-1) ∧
        (cs.map Prod.fst).idxOf m ≤ (cs.map Prod.fst).idxOf "bits") ∧
      ¬∀ n v, constantValue? cs n = some v → constantName? cs v = some n := by
  intro cs
  have hnames : (cs.map Prod.fst).Nodup := by decide
  have hvalue : constantValue? cs "bits" = some (-1) := by decide
  obtain ⟨-, -, -, hlookups⟩ := constant_lookups cs
  obtain ⟨-, hname, hinverse⟩ := hlookups hnames
  refine ⟨hnames, hvalue, hname _ _ hvalue, fun h => ?_⟩
  exact absurd (hinverse.1 h) (by decide)

end DebugTypes.CType
