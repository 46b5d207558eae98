import DebugTypes.Proofs.Catalog.Outline

/-!
# What a definition writes out

The definition of a struct or union writes out the members of a struct or union that is a member
itself, at any depth.  Every other member is a declaration, which abbreviates the structs, unions
and enums inside it: those behind pointers, arrays, qualifiers, functions and widths, and an enum
that is a member.  What they hold has no part in the text.

## Main definitions

* `CType.shownMembers ms` — the members without what a definition abbreviates.

## Main statements

* `CType.declare_abbreviated` — a declaration is that of the abbreviated type.
* `CType.definition_shownMembers` — a definition is that of the members shown.
* `Catalog.definition_expansion` — which members are written out, and which are abbreviated.
-/

namespace DebugTypes

namespace CType

/-! ## Declarations -/

@[simp] theorem kind_abbreviated (t : CType) : t.abbreviated.kind = t.kind := by
  cases t <;> rfl

@[simp] theorem isPointer_abbreviated (t : CType) : t.abbreviated.isPointer = t.isPointer := by
  rw [isPointer, isPointer, kind_abbreviated]

@[simp] theorem bindsTighter_abbreviated (t : CType) :
    t.abbreviated.bindsTighter = t.bindsTighter := by
  cases t with
  | qualified u q => cases u <;> rfl
  | _ => rfl

mutual

/-- **A declaration is that of the abbreviated type.** -/
theorem declare_abbreviated : ∀ (t : CType) (d : String), t.abbreviated.declare d = t.declare d
  | .primitive _, _ | .named _, _ | .struct _, _ | .union _, _ | .enum _, _ => by
    simp only [abbreviated, declare]
  | .pointer t, d => by
    by_cases hfunction : t.kind = .function
    · cases t with
      | function result c ps =>
          simp only [abbreviated, declare, declare_abbreviated result,
            declareAll_abbreviatedAll ps]
      | _ => cases hfunction
    · have habbreviated : t.abbreviated.kind ≠ .function := by rwa [kind_abbreviated]
      rw [abbreviated, declare_pointer habbreviated, declare_pointer hfunction,
        bindsTighter_abbreviated, declare_abbreviated t]
  | .array t n, d => by simp only [abbreviated, declare, declare_abbreviated t]
  | .function result c ps, d => by
    simp only [abbreviated, declare, declare_abbreviated result, declareAll_abbreviatedAll ps]
  | .bitField t n, d => by simp only [abbreviated, declare, declare_abbreviated t]
  | .qualified t q, d => by
    simp only [abbreviated, declare, isPointer_abbreviated, declare_abbreviated t]

/-- The declarations of parameters are those of the abbreviated types. -/
theorem declareAll_abbreviatedAll : ∀ ts : List CType,
    declareAll (abbreviatedAll ts) = declareAll ts
  | [] => rfl
  | t :: ts => by
    rw [abbreviatedAll, declareAll, declareAll, declare_abbreviated t, declareAll_abbreviatedAll ts]

end

/-! ## Members -/

mutual

/-- The type without what a definition abbreviates: the members of a struct or union stay. -/
def shown : CType → CType
  | struct ms => struct (shownMembers ms)
  | union ms => union (shownMembers ms)
  | t => t.abbreviated

/-- Members without what a definition abbreviates. -/
def shownMembers : List (String × CType) → List (String × CType)
  | [] => []
  | (name, t) :: ms => (name, t.shown) :: shownMembers ms

end

theorem shown_of_isBlock_eq_false {t : CType} (h : t.isBlock = false) :
    t.shown = t.abbreviated := by
  cases t with
  | struct | union => cases h
  | _ => rfl

/-- A member that is no struct or union is a line, with its declaration abbreviated. -/
theorem item_eq_line_abbreviated {t : CType} (h : t.isBlock = false) (name : String) :
    t.item name = .line (t.abbreviated.declare name) := by
  rw [item_of_isBlock_eq_false h, declare_abbreviated]

theorem item_abbreviated {t : CType} (h : t.isBlock = false) (name : String) :
    t.abbreviated.item name = t.item name := by
  have habbreviated : t.abbreviated.isBlock = false := by rwa [isBlock, kind_abbreviated]
  rw [item_of_isBlock_eq_false habbreviated, item_eq_line_abbreviated h]

mutual

/-- A member has the item of what is shown of it. -/
theorem item_shown : ∀ (t : CType) (name : String), t.shown.item name = t.item name
  | .struct ms, name | .union ms, name => by rw [shown, item, item, items_shownMembers ms]
  | .primitive _, name | .pointer _, name | .array _ _, name | .enum _, name
  | .function _ _ _, name | .bitField _ _, name | .qualified _ _, name | .named _, name => by
    rw [shown_of_isBlock_eq_false rfl, item_abbreviated rfl]

/-- Members have the items of what is shown of them. -/
theorem items_shownMembers : ∀ ms : List (String × CType), items (shownMembers ms) = items ms
  | [] => rfl
  | (name, t) :: ms => by
    rw [shownMembers, items, items, item_shown t, items_shownMembers ms]

end

/-- **A definition is that of the members shown.** -/
theorem definition_shownMembers (keyword : BlockKeyword) (ms : List (String × CType))
    (name : String) :
    (keyword.type (shownMembers ms)).definition name = (keyword.type ms).definition name := by
  rw [← String.toList_inj, toList_definition, toList_definition, items_shownMembers]

theorem infix_broken {lines lines' : List (List Char)} (h : lines <:+: lines') :
    broken lines <:+: broken lines' := by
  obtain ⟨before, after, rfl⟩ := h
  rw [broken_append, broken_append]
  exact List.infix_append _ _ _

/-- The lines of a member stand in the text of a definition. -/
theorem MemberAt.infix_definition {ms : List (String × CType)} {depth : Nat}
    {m : String × CType} (hm : MemberAt ms depth m) (keyword : BlockKeyword) (name : String) :
    broken ((m.2.item m.1).lines (depth + 1)) <:+: ((keyword.type ms).definition name).toList := by
  have hlines := hm.infix_itemLines 1
  rw [toList_definition, Outline.lines, ← List.cons_append, intercalate_concat]
  exact (infix_broken (hlines.trans (List.suffix_cons _ _).isInfix)).trans
    (List.prefix_append _ _).isInfix

end CType

namespace Catalog

open CType

/-- **What a definition writes out.**  In the definition of a stored struct or union, every struct
or union that is reached through members only has a block of its own, with its own members, and
every other member so reached has the line of its declaration, in which all structs, unions and
enums are abbreviated.  What is abbreviated has no part in the text: it is that of the members
shown, and the same for every other struct or union of which the same members are shown. -/
theorem definition_expansion (c : Catalog) {keyword : BlockKeyword} {ms : List (String × CType)}
    {name : String} (hget : c.get? name = some (keyword.type ms)) :
    (∀ depth n keyword' inner, MemberAt ms depth (n, BlockKeyword.type keyword' inner) →
      broken ((Item.block keyword' (items inner) n).lines (depth + 1)) <:+:
        (c.definition name).toList) ∧
      (∀ depth n t, MemberAt ms depth (n, t) → t.isBlock = false →
        broken ((Item.line (t.abbreviated.declare n)).lines (depth + 1)) <:+:
          (c.definition name).toList) ∧
      c.definition name = (keyword.type (shownMembers ms)).definition name ∧
      ∀ (c' : Catalog) ms', c'.get? name = some (keyword.type ms') →
        shownMembers ms' = shownMembers ms → c'.definition name = c.definition name := by
  rw [definition_of_get? hget]
  refine ⟨fun depth n keyword' inner hm => ?_, fun depth n t hm hline => ?_,
    (definition_shownMembers keyword ms name).symm, fun c' ms' hget' hshown => ?_⟩
  · have hlines := hm.infix_definition keyword name
    rwa [item_type] at hlines
  · have hlines := hm.infix_definition keyword name
    rwa [item_eq_line_abbreviated hline] at hlines
  · rw [definition_of_get? hget', ← definition_shownMembers keyword ms', hshown,
      definition_shownMembers]

/-- A catalog with a struct of one member. -/
def oneMember (name : String) (t : CType) : Catalog where
  entries := [("T", .struct [(name, t)])]
  distinct := by simp

/-- The members of a struct behind a pointer are not written out. -/
theorem definition_expansion_pointer :
    (oneMember "p" (.pointer (.struct [("x", .primitive .int)]))).get? "T" =
        some (BlockKeyword.struct.type [("p", .pointer (.struct [("x", .primitive .int)]))]) ∧
      (oneMember "p" (.pointer (.struct [("x", .primitive .int)]))).definition "T" =
        (BlockKeyword.struct.type [("p", .pointer (.struct []))]).definition "T" := by
  have hget : (oneMember "p" (.pointer (.struct [("x", .primitive .int)]))).get? "T" =
      some (BlockKeyword.struct.type [("p", .pointer (.struct [("x", .primitive .int)]))]) := rfl
  obtain ⟨-, -, hshown, -⟩ := definition_expansion _ hget
  exact ⟨hget, hshown⟩

/-- Structs that differ behind a pointer have one definition, and so do structs that differ in the
constants of an enum that is a member. -/
theorem definition_oneMember_abbreviated :
    (oneMember "p" (.pointer (.struct [("x", .primitive .int)]))).get? "T" ≠
        (oneMember "p" (.pointer (.struct [("y", .primitive .char)]))).get? "T" ∧
      (oneMember "p" (.pointer (.struct [("x", .primitive .int)]))).definition "T" =
        "struct T \x7b\n    struct \x7b ... \x7d *p;\n\x7d;" ∧
      (oneMember "p" (.pointer (.struct [("y", .primitive .char)]))).definition "T" =
        "struct T \x7b\n    struct \x7b ... \x7d *p;\n\x7d;" ∧
      (oneMember "e" (.enum [("A", "1")])).get? "T" ≠
        (oneMember "e" (.enum [("B", "2")])).get? "T" ∧
      (oneMember "e" (.enum [("A", "1")])).definition "T" =
        "struct T \x7b\n    enum \x7b ... \x7d e;\n\x7d;" ∧
      (oneMember "e" (.enum [("B", "2")])).definition "T" =
        "struct T \x7b\n    enum \x7b ... \x7d e;\n\x7d;" := by
  decide

end Catalog

end DebugTypes
