import DebugTypes.Catalog.Definition
import DebugTypes.Proofs.Declaration.OneLine
import Mathlib.Data.List.Basic

/-!
# Definitions read back

The definition of a struct or union shows an outline of its members: a member that is itself an
anonymous struct or union is a block with items of its own, and every other member is the line of
its declaration.  The items of a block stand four blanks further in than the block, so that the
outline is read back from the lines by their indentation.

## Main definitions

* `Outline` — what a definition shows.
* `CType.items ms` — the items of members.
* `Outline.lines o` — the lines of a definition with this outline.
* `Outline.read? text` — the outline that the lines of a text have.
* `CType.MemberAt ms depth m` — a member at some depth below a list of members.

## Main statements

* `CType.toList_definition` — a definition is the lines of its outline.
* `Outline.run_item` — reading the lines of an item, whatever stands around it.
* `Catalog.definition_outline` — the outline is read back.
-/

namespace DebugTypes

/-- The keyword of a block. -/
inductive BlockKeyword where
  | struct
  | union
  deriving DecidableEq, Repr

/-- The spelling of a keyword. -/
def BlockKeyword.text : BlockKeyword → String
  | struct => "struct"
  | union => "union"

/-- The line that opens a block, without the blanks in front. -/
def BlockKeyword.opening (keyword : BlockKeyword) : List Char :=
  keyword.text.toList ++ [' ', '\x7b']

/-- The struct or union of a keyword with some members. -/
def BlockKeyword.type : BlockKeyword → List (String × CType) → CType
  | struct => .struct
  | union => .union

/-- What a definition shows of a member: its declaration, or a block with items of its own and the
name of the member behind it. -/
inductive Item where
  | line (declaration : String)
  | block (keyword : BlockKeyword) (items : List Item) (name : String)

/-- What a definition shows: the keyword and the name, and the items of the members. -/
structure Outline where
  keyword : BlockKeyword
  name : String
  items : List Item

/-! ## Outlines of types -/

namespace CType

/-- Whether a definition shows a member of the type as a block. -/
def isBlock (t : CType) : Bool := t.kind == .struct || t.kind == .union

mutual

/-- The item of a member. -/
def item (name : String) : CType → Item
  | struct ms => .block .struct (items ms) name
  | union ms => .block .union (items ms) name
  | t => .line (t.declare name)

/-- The items of members. -/
def items : List (String × CType) → List Item
  | [] => []
  | (name, t) :: ms => t.item name :: items ms

end

/-- The item of a struct or union is a block. -/
theorem item_type (keyword : BlockKeyword) (ms : List (String × CType)) (name : String) :
    (keyword.type ms).item name = .block keyword (items ms) name := by
  cases keyword <;> rfl

/-- The item of any other type is a line. -/
theorem item_of_isBlock_eq_false {t : CType} (h : t.isBlock = false) (name : String) :
    t.item name = .line (t.declare name) := by
  cases t with
  | struct | union => cases h
  | _ => rfl

end CType

/-! ## Lines -/

/-- The blanks in front of a line `depth` blocks deep. -/
def blanks (depth : Nat) : List Char := List.replicate (4 * depth) ' '

mutual

/-- The lines of an item `depth` blocks deep.  A block ends with as many blanks as it began with. -/
def Item.lines (depth : Nat) : Item → List (List Char)
  | .line declaration => [blanks depth ++ (declaration.toList ++ [';'])]
  | .block keyword items name =>
    (blanks depth ++ keyword.opening) ::
      (itemLines (depth + 1) items ++ [blanks depth ++ (['\x7d', ' '] ++ (name.toList ++ [';']))])

/-- The lines of items `depth` blocks deep. -/
def itemLines (depth : Nat) : List Item → List (List Char)
  | [] => []
  | i :: is => i.lines depth ++ itemLines depth is

end

/-- The lines of a definition. -/
def Outline.lines (o : Outline) : List (List Char) :=
  (o.keyword.text.toList ++ ([' '] ++ (o.name.toList ++ [' ', '\x7b']))) ::
    (itemLines 1 o.items ++ [['\x7d', ';']])

/-- Lines with a line break behind each of them. -/
def broken (lines : List (List Char)) : List Char := lines.flatMap (· ++ ['\n'])

@[simp] theorem broken_nil : broken [] = [] := rfl

@[simp] theorem broken_cons (line : List Char) (lines : List (List Char)) :
    broken (line :: lines) = line ++ '\n' :: broken lines := by simp [broken]

@[simp] theorem broken_append (lines lines' : List (List Char)) :
    broken (lines ++ lines') = broken lines ++ broken lines' := List.flatMap_append

theorem toList_indentation (depth : Nat) : (indentation depth).toList = blanks depth :=
  String.toList_ofList

theorem intercalate_concat (lines : List (List Char)) (last : List Char) :
    ['\n'].intercalate (lines ++ [last]) = broken lines ++ last := by
  induction lines with
  | nil => simp
  | cons line lines ih =>
      cases lines with
      | nil => simp
      | cons next lines =>
          rw [List.cons_append, List.cons_append, List.intercalate_cons_cons, ← List.cons_append,
            ih]
          simp

namespace CType

mutual

/-- A member is written as the lines of its item. -/
theorem toList_memberLine : ∀ (t : CType) (depth : Nat) (name : String),
    (indentation depth ++ memberLine depth name t).toList = broken ((t.item name).lines depth)
  | .struct ms, depth, name | .union ms, depth, name => by
    simp [memberLine, item, Item.lines, block, toList_indentation, toList_memberLines ms,
      BlockKeyword.opening, BlockKeyword.text]
  | .primitive _, depth, name | .pointer _, depth, name | .array _ _, depth, name
  | .enum _, depth, name | .function _ _ _, depth, name | .bitField _ _, depth, name
  | .qualified _ _, depth, name | .named _, depth, name => by
    simp [memberLine, item, Item.lines, toList_indentation]

/-- Members are written as the lines of their items. -/
theorem toList_memberLines : ∀ (ms : List (String × CType)) (depth : Nat),
    (memberLines depth ms).toList = broken (itemLines depth (items ms))
  | [], depth => by simp [memberLines, items, itemLines]
  | (name, t) :: ms, depth => by
    rw [memberLines, items, itemLines, String.toList_append, toList_memberLine t,
      toList_memberLines ms, broken_append]

end

/-- **A definition is the lines of its outline.** -/
theorem toList_definition (keyword : BlockKeyword) (ms : List (String × CType)) (name : String) :
    ((keyword.type ms).definition name).toList =
      ['\n'].intercalate (Outline.lines ⟨keyword, name, items ms⟩) := by
  have hzero : indentation 0 = "" := rfl
  rw [Outline.lines, ← List.cons_append, intercalate_concat]
  cases keyword <;>
    simp [BlockKeyword.type, BlockKeyword.text, definition, block, toList_memberLines, hzero]

end CType

/-! ## Lines without line breaks -/

theorem not_mem_blanks (depth : Nat) : '\n' ∉ blanks depth := by
  intro h
  exact absurd (List.eq_of_mem_replicate h) (by decide)

/-- The lines of a block have no line breaks inside if those of its items have none. -/
theorem not_mem_lines_block {keyword : BlockKeyword} {items : List Item} {name : String}
    {depth : Nat} (hitems : ∀ line ∈ itemLines (depth + 1) items, '\n' ∉ line)
    (hname : OneLine name) :
    ∀ line ∈ (Item.block keyword items name).lines depth, '\n' ∉ line := by
  have hopening : '\n' ∉ keyword.opening := by cases keyword <;> decide
  have hname : '\n' ∉ name.toList := hname
  intro line hline
  rw [Item.lines, List.mem_cons, List.mem_append, List.mem_singleton] at hline
  rcases hline with rfl | hline | rfl
  · simp [not_mem_blanks, hopening]
  · exact hitems line hline
  · simp [not_mem_blanks, hname]

theorem not_mem_lines_line {declaration : String} (h : OneLine declaration) (depth : Nat) :
    ∀ line ∈ (Item.line declaration).lines depth, '\n' ∉ line := by
  have hdeclaration : '\n' ∉ declaration.toList := h
  intro line hline
  rw [Item.lines, List.mem_singleton] at hline
  subst hline
  simp [not_mem_blanks, hdeclaration]

namespace CType

mutual

/-- The lines of a member have no line breaks inside. -/
theorem not_mem_lines : ∀ (t : CType) (name : String) (depth : Nat), t.unbroken = true →
    OneLine name → ∀ line ∈ (t.item name).lines depth, '\n' ∉ line
  | .struct ms, name, depth, h, hname | .union ms, name, depth, h, hname => by
    rw [unbroken] at h
    rw [item]
    exact not_mem_lines_block (not_mem_itemLines ms (depth + 1) h) hname
  | .primitive _, name, depth, h, hname | .pointer _, name, depth, h, hname
  | .array _ _, name, depth, h, hname | .enum _, name, depth, h, hname
  | .function _ _ _, name, depth, h, hname | .bitField _ _, name, depth, h, hname
  | .qualified _ _, name, depth, h, hname | .named _, name, depth, h, hname => by
    rw [item_of_isBlock_eq_false rfl]
    exact not_mem_lines_line (oneLine_declare _ h hname) depth

/-- The lines of members have no line breaks inside. -/
theorem not_mem_itemLines : ∀ (ms : List (String × CType)) (depth : Nat),
    membersUnbroken ms = true → ∀ line ∈ itemLines depth (items ms), '\n' ∉ line
  | [], depth, h => by simp [items, itemLines]
  | (name, t) :: ms, depth, h => by
    rw [membersUnbroken, Bool.and_eq_true, Bool.and_eq_true, decide_eq_true_iff] at h
    intro line hline
    rw [items, itemLines, List.mem_append] at hline
    rcases hline with hline | hline
    · exact not_mem_lines t name depth h.1.2 h.1.1 line hline
    · exact not_mem_itemLines ms depth h.2 line hline

end

end CType

/-! ## Reading -/

/-- What stands between two texts. -/
def between? (front back text : List Char) : Option (List Char) :=
  (front.isPrefixOf? text).bind back.isSuffixOf?

/-- The keyword of a line that opens a block. -/
def BlockKeyword.ofOpening? (line : List Char) : Option BlockKeyword :=
  [struct, union].find? fun keyword => line == keyword.opening

namespace Outline

/-- A block whose end has not come yet: its keyword and the items in front of it, the last one
first. -/
structure Open where
  keyword : BlockKeyword
  outer : List Item

/-- How far the lines have been read: the blocks that are open, the innermost one first, and the
items of the innermost block so far, the last one first. -/
structure Reading where
  opened : List Open
  current : List Item

/-- Reading a line.  It belongs to the innermost block if it has the indentation of its items, and
otherwise ends it. -/
def Reading.step? (r : Reading) (line : List Char) : Option Reading :=
  match (blanks (r.opened.length + 1)).isPrefixOf? line with
  | some body =>
    match [';'].isSuffixOf? body with
    | some declaration => some ⟨r.opened, .line (String.ofList declaration) :: r.current⟩
    | none => (BlockKeyword.ofOpening? body).map fun k => ⟨⟨k, r.current⟩ :: r.opened, []⟩
  | none =>
    match r.opened with
    | [] => none
    | o :: opened =>
      (between? (blanks (opened.length + 1) ++ ['\x7d', ' ']) [';'] line).map fun name =>
        ⟨opened, .block o.keyword r.current.reverse (String.ofList name) :: o.outer⟩

/-- The keyword and the name in the first line of a definition. -/
def heading? (line : List Char) : Option (BlockKeyword × String) :=
  [BlockKeyword.struct, .union].findSome? fun keyword =>
    (between? (keyword.text.toList ++ [' ']) [' ', '\x7b'] line).map fun name =>
      (keyword, String.ofList name)

/-- The outline that the lines of a definition have. -/
def ofLines? : List (List Char) → Option Outline
  | [] => none
  | first :: rest => do
    let (keyword, name) ← heading? first
    let lines ← [['\x7d', ';']].isSuffixOf? rest
    let r ← lines.foldlM Reading.step? ⟨[], []⟩
    if r.opened.isEmpty then some ⟨keyword, name, r.current.reverse⟩ else none

/-- The outline that the text of a definition has. -/
def read? (text : String) : Option Outline := ofLines? (text.toList.splitOn '\n')

/-! ### One line -/

theorem isPrefixOf?_append (front rest : List Char) :
    front.isPrefixOf? (front ++ rest) = some rest :=
  List.isPrefixOf?_eq_some_iff_append_eq.2 rfl

theorem isSuffixOf?_append {α : Type} [BEq α] [LawfulBEq α] (rest back : List α) :
    back.isSuffixOf? (rest ++ back) = some rest :=
  List.isSuffixOf?_eq_some_iff_append_eq.2 rfl

theorem between?_append (front inner back : List Char) :
    between? front back (front ++ (inner ++ back)) = some inner := by
  rw [between?, isPrefixOf?_append, Option.bind_some, isSuffixOf?_append]

/-- A line with fewer blanks in front is less far in. -/
theorem isPrefixOf?_blanks_eq_none (depth : Nat) {c : Char} (hc : c ≠ ' ') (rest : List Char) :
    (blanks (depth + 1)).isPrefixOf? (blanks depth ++ c :: rest) = none := by
  have hblanks : blanks (depth + 1) = blanks depth ++ List.replicate 4 ' ' := by
    rw [blanks, blanks, List.replicate_append_replicate]
    rfl
  cases h : (blanks (depth + 1)).isPrefixOf? (blanks depth ++ c :: rest) with
  | none => rfl
  | some tail =>
      rw [List.isPrefixOf?_eq_some_iff_append_eq, hblanks, List.append_assoc,
        List.append_cancel_left_eq] at h
      exact absurd (List.cons.inj h).1.symm hc

/-- A declaration is an item of the innermost block. -/
theorem step?_line (r : Reading) (declaration : String) :
    r.step? (blanks (r.opened.length + 1) ++ (declaration.toList ++ [';'])) =
      some ⟨r.opened, .line declaration :: r.current⟩ := by
  simp only [Reading.step?, isPrefixOf?_append, isSuffixOf?_append, String.ofList_toList]

/-- The first line of a block opens it. -/
theorem step?_opening (r : Reading) (keyword : BlockKeyword) :
    r.step? (blanks (r.opened.length + 1) ++ keyword.opening) =
      some ⟨⟨keyword, r.current⟩ :: r.opened, []⟩ := by
  have hline : [';'].isSuffixOf? keyword.opening = none := by cases keyword <;> decide
  have hkeyword : BlockKeyword.ofOpening? keyword.opening = some keyword := by
    cases keyword <;> decide
  simp only [Reading.step?, isPrefixOf?_append, hline, hkeyword, Option.map_some]

/-- The last line of a block closes it: it is not as far in as the items of the block. -/
theorem step?_closing (o : Open) (opened : List Open) (current : List Item) (name : String) :
    Reading.step? ⟨o :: opened, current⟩
        (blanks (opened.length + 1) ++ (['\x7d', ' '] ++ (name.toList ++ [';']))) =
      some ⟨opened, .block o.keyword current.reverse name :: o.outer⟩ := by
  have hout : (blanks (opened.length + 1 + 1)).isPrefixOf?
      (blanks (opened.length + 1) ++ (['\x7d', ' '] ++ (name.toList ++ [';']))) = none :=
    isPrefixOf?_blanks_eq_none _ (by decide) _
  simp only [Reading.step?, List.length_cons, hout]
  rw [← List.append_assoc, between?_append, Option.map_some, String.ofList_toList]

/-! ### All lines -/

mutual

/-- Reading the lines of an item adds the item, whatever has been read before. -/
theorem run_item : ∀ (i : Item) (r : Reading),
    (i.lines (r.opened.length + 1)).foldlM Reading.step? r = some ⟨r.opened, i :: r.current⟩
  | .line declaration, r => by
    rw [Item.lines, List.foldlM_cons, step?_line]
    rfl
  | .block keyword items name, r => by
    have hitems := run_items items ⟨⟨keyword, r.current⟩ :: r.opened, []⟩
    rw [List.length_cons] at hitems
    simp only [Item.lines, List.foldlM_cons, step?_opening, List.foldlM_append, hitems,
      Option.bind_eq_bind, Option.bind_some, step?_closing, List.foldlM_nil, List.append_nil,
      List.reverse_reverse, Option.pure_def]

theorem run_items : ∀ (is : List Item) (r : Reading),
    (itemLines (r.opened.length + 1) is).foldlM Reading.step? r =
      some ⟨r.opened, is.reverse ++ r.current⟩
  | [], r => by simp [itemLines]
  | i :: is, r => by
    have his := run_items is ⟨r.opened, i :: r.current⟩
    simp only at his
    rw [itemLines, List.foldlM_append, run_item i r, Option.bind_eq_bind, Option.bind_some, his]
    simp

end

/-- The first line of a definition gives its keyword and name. -/
theorem heading?_eq (keyword : BlockKeyword) (name : String) :
    heading? (keyword.text.toList ++ ([' '] ++ (name.toList ++ [' ', '\x7b']))) =
      some (keyword, name) := by
  have hname := between?_append (keyword.text.toList ++ [' ']) name.toList [' ', '\x7b']
  rw [← List.append_assoc, heading?]
  cases keyword with
  | struct => simp only [List.findSome?_cons, hname, Option.map_some, String.ofList_toList]
  | union =>
      have hstruct : between? (BlockKeyword.struct.text.toList ++ [' ']) [' ', '\x7b']
          (BlockKeyword.union.text.toList ++ [' '] ++ (name.toList ++ [' ', '\x7b'])) = none := rfl
      simp only [List.findSome?_cons, hstruct, hname, Option.map_none, Option.map_some,
        String.ofList_toList]

/-- The lines of an outline are read as this outline. -/
theorem ofLines?_lines (o : Outline) : ofLines? o.lines = some o := by
  have hheading := heading?_eq o.keyword o.name
  have hitems := run_items o.items ⟨[], []⟩
  rw [List.append_nil] at hitems
  simp only [List.length_nil, Nat.zero_add] at hitems
  simp only [ofLines?, lines, hheading, isSuffixOf?_append, hitems, Option.bind_eq_bind,
    Option.bind_some, List.isEmpty_nil, List.reverse_reverse, if_true]

end Outline

namespace CType

variable {keyword : BlockKeyword} {ms : List (String × CType)} {name : String}

/-- The lines of a definition, found by its line breaks. -/
theorem splitOn_definition (hname : OneLine name) (h : (keyword.type ms).unbroken = true) :
    ((keyword.type ms).definition name).toList.splitOn '\n' =
      Outline.lines ⟨keyword, name, items ms⟩ := by
  have hkeyword : '\n' ∉ keyword.text.toList := by cases keyword <;> decide
  have hname : '\n' ∉ name.toList := hname
  have hlines : ∀ line ∈ Outline.lines ⟨keyword, name, items ms⟩, '\n' ∉ line := by
    intro line hline
    rw [Outline.lines, List.mem_cons, List.mem_append, List.mem_singleton] at hline
    rcases hline with rfl | hline | rfl
    · simp [hkeyword, hname]
    · have hms : membersUnbroken ms = true := by cases keyword <;> exact h
      exact not_mem_itemLines ms 1 hms line hline
    · decide
  rw [toList_definition]
  exact List.splitOn_intercalate _ hlines (List.cons_ne_nil _ _)

/-- **A definition is read back** from its text. -/
theorem read?_definition (hname : OneLine name) (h : (keyword.type ms).unbroken = true) :
    Outline.read? ((keyword.type ms).definition name) = some ⟨keyword, name, items ms⟩ := by
  rw [Outline.read?, splitOn_definition hname h, Outline.ofLines?_lines]

end CType

/-! ## Members at a depth -/

namespace CType

/-- A member below some members, through those that are structs or unions themselves. -/
inductive MemberAt : List (String × CType) → Nat → String × CType → Prop where
  | here {ms : List (String × CType)} {m : String × CType} (hm : m ∈ ms) : MemberAt ms 0 m
  | inside {ms inner : List (String × CType)} {keyword : BlockKeyword} {name : String}
      {depth : Nat} {m : String × CType} (hblock : (name, keyword.type inner) ∈ ms)
      (hm : MemberAt inner depth m) : MemberAt ms (depth + 1) m

theorem infix_itemLines_of_mem {ms : List (String × CType)} {m : String × CType} (hm : m ∈ ms)
    (depth : Nat) : (m.2.item m.1).lines depth <:+: itemLines depth (items ms) := by
  induction ms with
  | nil => cases hm
  | cons first ms ih =>
      rw [items, itemLines]
      rcases List.mem_cons.1 hm with rfl | hm
      · exact (List.prefix_append _ _).isInfix
      · exact (ih hm).trans (List.suffix_append _ _).isInfix

/-- The lines of a member stand among those of the members above it, further in by its depth. -/
theorem MemberAt.infix_itemLines {ms : List (String × CType)} {depth : Nat} {m : String × CType}
    (hm : MemberAt ms depth m) :
    ∀ outer, (m.2.item m.1).lines (depth + outer) <:+: itemLines outer (items ms) := by
  induction hm with
  | here hm =>
      intro outer
      rw [Nat.zero_add]
      exact infix_itemLines_of_mem hm outer
  | @inside ms inner keyword name depth m hblock hm ih =>
      intro outer
      have hinner : itemLines (outer + 1) (items inner) <:+:
          ((keyword.type inner).item name).lines outer := by
        rw [item_type, Item.lines]
        exact (List.prefix_append _ _).isInfix.trans (List.suffix_cons _ _).isInfix
      rw [Nat.add_right_comm]
      exact (ih (outer + 1)).trans (hinner.trans (infix_itemLines_of_mem hblock outer))

end CType

namespace Catalog

open CType

theorem definition_of_get? {c : Catalog} {name : String} {t : CType} (h : c.get? name = some t) :
    c.definition name = t.definition name := by
  rw [definition, h]

/-- **The layout of a definition.**  The lines of the definition of a stored struct or union, whose
names have no line breaks, are those of its outline, and this is read back from the text.  The lines
of a member are among them, with four blanks in front for each block around it.  Definitions with
one text have one outline. -/
theorem definition_outline (c : Catalog) {keyword : BlockKeyword} {ms : List (String × CType)}
    {name : String} (hget : c.get? name = some (keyword.type ms)) (hname : OneLine name)
    (h : (keyword.type ms).unbroken = true) :
    (c.definition name).toList.splitOn '\n' = Outline.lines ⟨keyword, name, items ms⟩ ∧
      Outline.read? (c.definition name) = some ⟨keyword, name, items ms⟩ ∧
      (∀ depth m, MemberAt ms depth m →
        (m.2.item m.1).lines (depth + 1) <:+: (c.definition name).toList.splitOn '\n') ∧
      ∀ (c' : Catalog) keyword' ms' name', c'.get? name' = some (keyword'.type ms') →
        OneLine name' → (keyword'.type ms').unbroken = true →
        c'.definition name' = c.definition name →
        keyword' = keyword ∧ name' = name ∧ items ms' = items ms := by
  have hlines := splitOn_definition hname h
  have hread := read?_definition hname h
  rw [← definition_of_get? hget] at hlines hread
  refine ⟨hlines, hread, fun depth m hm => ?_, fun c' keyword' ms' name' hget' hname' h' heq => ?_⟩
  · have hitems : itemLines 1 (items ms) <:+: Outline.lines ⟨keyword, name, items ms⟩ :=
      (List.prefix_append _ _).isInfix.trans (List.suffix_cons _ _).isInfix
    rw [hlines]
    exact (hm.infix_itemLines 1).trans hitems
  · have hread' := read?_definition hname' h'
    rw [← definition_of_get? hget', heq, hread, Option.some.injEq, Outline.mk.injEq] at hread'
    obtain ⟨hkeyword, hname, hitems⟩ := hread'
    exact ⟨hkeyword.symm, hname.symm, hitems.symm⟩

/-- Members with blocks inside each other: an empty one without a name, and one with a line that has
braces of its own. -/
def blockMembers : List (String × CType) :=
  [("tag", .primitive .int),
    ("u", .union [("", .struct []), ("link", .pointer (.struct [("x", .primitive .char)]))])]

/-- A catalog with a struct of these members. -/
def blocks : Catalog where
  entries := [("S", .struct blockMembers)]
  distinct := by decide

/-- The definition of the struct is read back. -/
theorem definition_outline_blocks :
    blocks.get? "S" = some (BlockKeyword.struct.type blockMembers) ∧ OneLine "S" ∧
      (BlockKeyword.struct.type blockMembers).unbroken = true ∧
      Outline.read? (blocks.definition "S") = some ⟨.struct, "S",
        [.line "int tag",
          .block .union [.block .struct [] "", .line "struct \x7b ... \x7d *link"] "u"]⟩ ∧
      [blanks 2 ++ "struct \x7b".toList, blanks 2 ++ "\x7d ;".toList] <:+:
        (blocks.definition "S").toList.splitOn '\n' := by
  have hget : blocks.get? "S" = some (BlockKeyword.struct.type blockMembers) := rfl
  have hname : OneLine "S" := by decide
  have h : (BlockKeyword.struct.type blockMembers).unbroken = true := by decide
  obtain ⟨-, hread, hmembers, -⟩ := definition_outline blocks hget hname h
  have hblock : ("u", BlockKeyword.union.type
      [("", .struct []), ("link", .pointer (.struct [("x", .primitive .char)]))]) ∈ blockMembers :=
    List.mem_cons_of_mem _ List.mem_cons_self
  have hmember : MemberAt blockMembers 1 ("", .struct []) :=
    .inside hblock (.here List.mem_cons_self)
  exact ⟨hget, hname, h, hread, hmembers 1 _ hmember⟩

end Catalog

end DebugTypes
