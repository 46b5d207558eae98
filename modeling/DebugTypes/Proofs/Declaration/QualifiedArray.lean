import DebugTypes.Proofs.Declaration.Frame
import Mathlib.Logic.Function.Iterate

/-!
# Qualifiers of arrays

In C, to qualify an array is to qualify its elements.  A declaration puts the qualifiers of an array
in front of all else, and those of its elements where they belong to the elements: in front as well,
but behind the star if the elements are pointers.

## Main statements

* `CType.specify_declare_iff` — where qualifiers in front of all else belong to the type.
* `CType.declare_qualified_array_iff` — where the qualifiers of an array and those of its elements
  are written alike.
-/

namespace DebugTypes

/-- Only the empty set of qualifiers has an empty spelling. -/
theorem Qualifiers.spelling_eq_empty_iff {q : Qualifiers} : q.spelling = "" ↔ q = .empty := by
  obtain ⟨c, v, u⟩ := q
  cases c <;> cases v <;> cases u <;> decide

/-- A specifier that is not empty leads with a space behind it. -/
theorem lead_of_ne {specifier : String} (h : specifier ≠ "") :
    lead specifier = specifier ++ " " := by
  rw [lead, if_neg]
  simpa using h

/-- A text that ends with a star does not end with a space. -/
theorem append_star_ne (a b : String) : a ++ "*" ≠ b ++ " " := by
  intro h
  have hlast := congrArg (fun s => s.toList.getLast?) h
  simp at hlast

namespace CType

/-! ## Qualifiers in front of a declaration -/

/-- In front of the declaration of a pointer, qualifiers do not stand where those of the pointer
do: the last character before the declarator is the star, and not the space behind a qualifier. -/
theorem specify_declare_pointer_ne (t : CType) {q : Qualifiers} (hq : q ≠ .empty) {d : String}
    (hd : d ≠ "") :
    specify q.spelling ((pointer t).declare d) ≠ (qualified (pointer t) q).declare d := by
  intro h
  have hspelling : q.spelling ≠ "" := fun hs => hq (Qualifiers.spelling_eq_empty_iff.1 hs)
  have hdeclared : (pointer t).declare d ≠ "" := by simp [declare_eq_append _ hd, hd]
  obtain ⟨s, hs⟩ := exists_front_pointer t
  have hpointer : (pointer t).isPointer = true := rfl
  have hfront : (qualified (pointer t) q).front = s ++ "*" ++ (q.spelling ++ " ") := by
    rw [front, if_pos hpointer, hs, lead_of_ne hspelling]
  have hback : (qualified (pointer t) q).back = (pointer t).back := rfl
  rw [specify_of_ne hdeclared, declare_eq_append _ hd, declare_eq_append _ hd, hfront, hback, hs,
    lead_of_ne hspelling, ← String.append_assoc, ← String.append_assoc, String.append_left_inj,
    String.append_left_inj, ← String.append_assoc, ← String.append_assoc] at h
  exact append_star_ne _ _ h

/-- Qualifiers in front of the declaration of a type are the qualifiers of the type, unless it is a
pointer and there are some. -/
theorem specify_declare_iff (t : CType) (q : Qualifiers) {d : String} (hd : d ≠ "") :
    specify q.spelling (t.declare d) = (qualified t q).declare d ↔
      (t.isPointer = true → q = .empty) := by
  by_cases hpointer : t.isPointer = true
  · by_cases hq : q = .empty
    · subst hq
      have hdeclared : t.declare d ≠ "" := by simp [declare_eq_append _ hd, hd]
      have hempty : lead Qualifiers.empty.spelling = "" := by decide
      rw [declare, if_pos hpointer, specify_of_ne hdeclared, specify_of_ne hd, hempty,
        String.empty_append, String.empty_append]
      simp
    · cases t with
      | pointer t => simp [specify_declare_pointer_ne t hq hd, hpointer, hq]
      | _ => cases hpointer
  · rw [declare, if_neg hpointer]
    simp [hpointer]

/-! ## Arrays inside pointers -/

theorem kind_ne_function_of_bindsTighter {t : CType} (h : t.bindsTighter = true) :
    t.kind ≠ .function := by
  cases t with
  | function => cases h
  | _ => nofun

/-- Pointers around an array change nothing but the declarator that it is given. -/
theorem exists_declare_pointers (k : Nat) (d : String) :
    ∃ d', ∀ t : CType, t.bindsTighter = true → (pointer^[k] t).declare d = t.declare d' := by
  induction k generalizing d with
  | zero => exact ⟨d, fun t _ => rfl⟩
  | succ k ih =>
      cases k with
      | zero =>
          refine ⟨parenthesise ("*" ++ d), fun t ht => ?_⟩
          rw [Function.iterate_one, declare_pointer (kind_ne_function_of_bindsTighter ht),
            if_pos ht]
      | succ k =>
          obtain ⟨d', hd'⟩ := ih ("*" ++ d)
          refine ⟨d', fun t ht => ?_⟩
          -- The type inside is itself a pointer, so that no parentheses come between the stars.
          have hinner := Function.iterate_succ_apply' pointer k t
          have hkind : (pointer^[k + 1] t).kind ≠ .function := by rw [hinner]; nofun
          have htight : (pointer^[k + 1] t).bindsTighter = false := by rw [hinner]; rfl
          rw [Function.iterate_succ_apply', declare_pointer hkind, htight, if_neg (by decide),
            hd' t ht]

/-- **Qualifying an array and qualifying its elements** are written alike, under any number of
pointers and with a name or without, unless the elements are pointers and there is a qualifier. -/
theorem declare_qualified_array_iff (e : CType) (n : UInt64) (q : Qualifiers) (k : Nat)
    (name : Option String) :
    (pointer^[k] (qualified (array e n) q)).declare (name.getD "") =
        (pointer^[k] (array (qualified e q) n)).declare (name.getD "") ↔
      (e.isPointer = true → q = .empty) := by
  obtain ⟨d, hd⟩ := exists_declare_pointers k (name.getD "")
  have hlength : d ++ "[" ++ toString n.toNat ++ "]" ≠ "" := by simp
  have houter : (qualified (array e n) q).declare d =
      specify q.spelling (e.declare (d ++ "[" ++ toString n.toNat ++ "]")) := by
    have harray : ¬(array e n).isPointer = true := nofun
    rw [declare, if_neg harray, declare]
  have hinner : (array (qualified e q) n).declare d =
      (qualified e q).declare (d ++ "[" ++ toString n.toNat ++ "]") := by rw [declare]
  rw [hd _ rfl, hd _ rfl, houter, hinner]
  exact specify_declare_iff e q hlength

/-- The qualifiers of an array of pointers are written as those of what the pointers point to, and
not as those of the pointers. -/
theorem declare_qualified_array_ne :
    let pointers := pointer (.primitive .int)
    let const : Qualifiers := { const := true }
    (qualified (array pointers 3) const).declare "a" = "const int *a[3]" ∧
      (array (qualified pointers const) 3).declare "a" = "int *const a[3]" ∧
      (qualified (array pointers 3) const).declare "a" ≠
        (array (qualified pointers const) 3).declare "a" := by
  decide

end CType

end DebugTypes
