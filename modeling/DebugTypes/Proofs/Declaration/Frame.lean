import DebugTypes.Proofs.Declaration.RoundTrip
import Mathlib.Logic.ExistsUnique

/-!
# The text around a declarator

A declaration is built around its declarator, which stands in it as it is.  What is in front of the
declarator and what is behind it depends on the type alone, as long as the declarator is not empty:
only then are specifiers separated from it.

## Main definitions

* `CType.front t`, `CType.back t` — the text in front of a declarator and behind it.

## Main statements

* `CType.declare_eq_append` — a declaration is its declarator between these two.
* `CType.exists_front_pointer` — in front of the declarator of a pointer stands the star.
* `CType.existsUnique_frame` — a declaration leaves one place for the name.
-/

namespace DebugTypes

/-- A specifier with the space that separates it from what follows. -/
def lead (specifier : String) : String := if specifier.isEmpty then "" else specifier ++ " "

theorem specify_of_ne {d : String} (h : d ≠ "") (specifier : String) :
    specify specifier d = lead specifier ++ d := by
  have hd : ¬ d.isEmpty = true := by simpa using h
  rw [specify, if_neg hd, lead]
  by_cases hs : specifier.isEmpty = true
  · rw [if_pos hs, if_pos hs, String.empty_append]
  · rw [if_neg hs, if_neg hs]

namespace CType

/-- The text in front of the declarator in a declaration. -/
def front : CType → String
  | primitive p => lead p.spelling
  | named n => lead n
  | struct _ => lead "struct \x7b ... \x7d"
  | union _ => lead "union \x7b ... \x7d"
  | enum _ => lead "enum \x7b ... \x7d"
  | pointer (function result c _) => front result ++ "(" ++ lead (c.keyword?.getD "") ++ "*"
  | pointer t => front t ++ (if t.bindsTighter then "(" else "") ++ "*"
  | array t _ => front t
  | function result c _ => front result ++ lead (c.keyword?.getD "")
  | bitField t _ => front t
  | qualified t q => if t.isPointer then front t ++ lead q.spelling else lead q.spelling ++ front t

/-- The text behind the declarator in a declaration. -/
def back : CType → String
  | primitive _ | named _ | struct _ | union _ | enum _ => ""
  | pointer (function result _ ps) => ")" ++ parameterList (declareAll ps) ++ back result
  | pointer t => (if t.bindsTighter then ")" else "") ++ back t
  | array t n => "[" ++ toString n.toNat ++ "]" ++ back t
  | function result _ ps => parameterList (declareAll ps) ++ back result
  | bitField t n => back t ++ " : " ++ toString n.toNat
  | qualified t _ => back t

variable {t : CType}

theorem front_pointer (h : t.kind ≠ .function) :
    (pointer t).front = t.front ++ (if t.bindsTighter then "(" else "") ++ "*" := by
  cases t with
  | function => exact absurd rfl h
  | _ => rfl

theorem back_pointer (h : t.kind ≠ .function) :
    (pointer t).back = (if t.bindsTighter then ")" else "") ++ t.back := by
  cases t with
  | function => exact absurd rfl h
  | _ => rfl

/-- The star of a pointer stands directly in front of its declarator. -/
theorem exists_front_pointer (t : CType) : ∃ s, (pointer t).front = s ++ "*" := by
  by_cases h : t.kind = .function
  · cases t with
    | function result c ps => exact ⟨_, rfl⟩
    | _ => cases h
  · exact ⟨_, front_pointer h⟩

/-! ## One constructor around framed types -/

/-- A declaration of the type is its declarator between the texts around it. -/
def Framed (t : CType) : Prop := ∀ d, d ≠ "" → t.declare d = t.front ++ d ++ t.back

namespace Framed

theorem array (h : Framed t) (n : UInt64) : Framed (.array t n) := by
  intro d _
  have hlength : d ++ "[" ++ toString n.toNat ++ "]" ≠ "" := by simp
  change _ = t.front ++ d ++ ("[" ++ toString n.toNat ++ "]" ++ t.back)
  rw [declare, h _ hlength]
  simp only [String.append_assoc]

theorem bitField (h : Framed t) (n : UInt32) : Framed (.bitField t n) := by
  intro d hd
  change _ = t.front ++ d ++ (t.back ++ " : " ++ toString n.toNat)
  rw [declare, h d hd]
  simp only [String.append_assoc]

theorem function (h : Framed t) (c : Convention) (ps : List CType) :
    Framed (.function t c ps) := by
  intro d hd
  have hmark : c.mark d = lead (c.keyword?.getD "") ++ d := specify_of_ne hd _
  have hlist : c.mark d ++ parameterList (declareAll ps) ≠ "" := by simp [hmark, hd]
  change _ = t.front ++ lead (c.keyword?.getD "") ++ d ++
    (parameterList (declareAll ps) ++ t.back)
  rw [declare, h _ hlist, hmark]
  simp only [String.append_assoc]

theorem functionPointer (h : Framed t) (c : Convention) (ps : List CType) :
    Framed (.pointer (.function t c ps)) := by
  intro d _
  have hstar : "*" ++ d ≠ "" := by simp
  have hmark : c.mark ("*" ++ d) = lead (c.keyword?.getD "") ++ ("*" ++ d) := specify_of_ne hstar _
  have hlist : parenthesise (c.mark ("*" ++ d)) ++ parameterList (declareAll ps) ≠ "" := by
    simp [parenthesise]
  change _ = t.front ++ "(" ++ lead (c.keyword?.getD "") ++ "*" ++ d ++
    (")" ++ parameterList (declareAll ps) ++ t.back)
  rw [declare, h _ hlist, parenthesise, hmark]
  simp only [String.append_assoc]

theorem pointer (h : Framed t) (hfunction : t.kind ≠ .function) : Framed (.pointer t) := by
  intro d _
  rw [declare_pointer hfunction, front_pointer hfunction, back_pointer hfunction]
  by_cases htight : t.bindsTighter = true
  · have hgroup : parenthesise ("*" ++ d) ≠ "" := by simp [parenthesise]
    rw [if_pos htight, if_pos htight, if_pos htight, h _ hgroup, parenthesise]
    simp only [String.append_assoc]
  · have hstar : "*" ++ d ≠ "" := by simp
    rw [if_neg htight, if_neg htight, if_neg htight, h _ hstar, String.append_empty,
      String.empty_append]
    simp only [String.append_assoc]

theorem qualified (h : Framed t) (q : Qualifiers) : Framed (.qualified t q) := by
  intro d hd
  have hspecified : specify q.spelling d ≠ "" := by simp [specify_of_ne hd, hd]
  have hdeclared : t.declare d ≠ "" := by simp [h d hd, hd]
  change _ = (if t.isPointer then t.front ++ lead q.spelling else lead q.spelling ++ t.front) ++
    d ++ t.back
  rw [declare]
  by_cases hpointer : t.isPointer = true
  · rw [if_pos hpointer, if_pos hpointer, h _ hspecified, specify_of_ne hd]
    simp only [String.append_assoc]
  · rw [if_neg hpointer, if_neg hpointer, specify_of_ne hdeclared, h d hd]
    simp only [String.append_assoc]

end Framed

/-- Every type is framed: a case for each constructor, and one for the pointers to functions. -/
theorem framed (t : CType) : Framed t := by
  cases t with
  | primitive | named | struct | union | enum =>
      intro d hd
      rw [declare, specify_of_ne hd]
      exact (String.append_empty).symm
  | array t n => exact (framed t).array n
  | bitField t n => exact (framed t).bitField n
  | function result c ps => exact (framed result).function c ps
  | qualified t q => exact (framed t).qualified q
  | pointer t =>
      by_cases hfunction : t.kind = .function
      · cases t with
        | function result c ps => exact (framed result).functionPointer c ps
        | _ => cases hfunction
      · exact (framed t).pointer hfunction
  termination_by sizeOf t

/-- **A declaration is its declarator with a text around it** that depends on the type alone. -/
theorem declare_eq_append (t : CType) {d : String} (hd : d ≠ "") :
    t.declare d = t.front ++ d ++ t.back := framed t d hd

end CType

/-! ## The place of the name -/

/-- Where a character stands in a text is known if the same text is around every character. -/
theorem eq_of_append_cons_eq {a b a' b' : List Char} (h : ∀ c, a ++ c :: b = a' ++ c :: b') :
    a = a' ∧ b = b' := by
  -- A character in front of one of the places only would have to be both of two characters.
  have hmoved : ∀ {d : Char}, ¬∀ c, c = d := fun hd =>
    absurd ((hd 'a').trans (hd 'b').symm) (by decide)
  induction a generalizing a' with
  | nil =>
      cases a' with
      | nil => exact ⟨rfl, (List.cons.inj (h 'a')).2⟩
      | cons d a' => exact absurd (fun c => (List.cons.inj (h c)).1) hmoved
  | cons d a ih =>
      cases a' with
      | nil => exact absurd (fun c => (List.cons.inj (h c)).1.symm) hmoved
      | cons d' a' =>
          obtain rfl : d = d' := (List.cons.inj (h 'a')).1
          obtain ⟨rfl, hb⟩ := ih fun c => (List.cons.inj (h c)).2
          exact ⟨rfl, hb⟩

/-- **The name is a hole in a declaration.**  For every type there are two texts, and no other two,
between which the declaration has any name that is not empty. -/
theorem CType.existsUnique_frame (t : CType) :
    ∃! frame : String × String, ∀ x, x ≠ "" → t.declare x = frame.1 ++ x ++ frame.2 := by
  refine ⟨(t.front, t.back), fun x hx => declare_eq_append t hx, ?_⟩
  rintro ⟨pre, suf⟩ hframe
  have haround : ∀ c, pre.toList ++ c :: suf.toList = t.front.toList ++ c :: t.back.toList := by
    intro c
    have hc : String.ofList [c] ≠ "" := by simp
    have htext := (hframe _ hc).symm.trans (declare_eq_append t hc)
    simpa using congrArg String.toList htext
  obtain ⟨hpre, hsuf⟩ := eq_of_append_cons_eq haround
  exact Prod.ext (String.toList_inj.1 hpre) (String.toList_inj.1 hsuf)

end DebugTypes
