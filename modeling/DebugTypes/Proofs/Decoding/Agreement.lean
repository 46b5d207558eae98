import DebugTypes.Decoding.Session
import Mathlib.Data.List.Forall2

/-!
# Records that say the same

Of a record only its tag and a few attributes are read, which ones depends on what the record stands
for, and of each of them only the first value.  Two records *agree* if they are the same in all that
is read of them.  The rest may differ: other attributes, later values of the same attribute,
whatever stands below a member, parameter or constant, the wrap chain of a bit-field, and the order,
number and spacing of qualifiers.

## Main definitions

* `Element.AgreeOn names a b` — the same tag, and the same first value under each of the names.
* `SameQualifiers` — two qualifier lists that say the same.
* `Record.SameType`, `Record.SameMember`, `Record.SameConstant`, `Record.SameGroup`,
  `Record.SameNamed` — agreement of records by what they stand for.
* `Document.SameRecords` — two documents whose records agree one by one.

## Main statements

* `Record.content_eq`, `Record.namedGroup_eq` — records that agree have the same recipe.
-/

namespace DebugTypes

open List (Forall₂)

namespace Element

/-- The same tag, and the same first value under each of the names. -/
structure AgreeOn (names : List String) (a b : Element) : Prop where
  tag : a.tag = b.tag
  value : ∀ name ∈ names, a.attribute? name = b.attribute? name

namespace AgreeOn

variable {names : List String} {a b : Element}

theorem required_eq (h : a.AgreeOn names b) {name : String} (hname : name ∈ names) :
    a.required name = b.required name := by
  rw [required, required, h.value name hname, h.tag]

theorem integer_eq (h : a.AgreeOn names b) {name : String} (hname : name ∈ names) (α : Type)
    [Text.FixedWidth α] : a.integer α name = b.integer α name := by
  rw [integer, integer, h.required_eq hname]

end AgreeOn

end Element

/-! ## Qualifier lists -/

/-- Two qualifier lists that say the same: they are the same text, or both hold known qualifiers
only and the same ones, in any order, number and spacing. -/
inductive SameQualifiers : Option String → Option String → Prop where
  | same (list : Option String) : SameQualifiers list list
  | rewritten {text other : String}
      (known : ∀ word ∈ Text.wordsOf text, word ∈ Qualifier.all.map Qualifier.token)
      (words : ∀ word, word ∈ Text.wordsOf text ↔ word ∈ Text.wordsOf other) :
      SameQualifiers (some text) (some other)

theorem Qualifier.token_injective : Function.Injective token := by
  intro p q h
  cases p <;> cases q <;> first | rfl | exact absurd h (by decide)

/-- Words that are known qualifiers are read as these. -/
theorem mapM'_ofToken {words : List String}
    (h : ∀ word ∈ words, word ∈ Qualifier.all.map Qualifier.token) :
    ∃ qs : List Qualifier, words.mapM' Qualifier.ofToken = .ok qs ∧
      qs.map Qualifier.token = words := by
  induction words with
  | nil => exact ⟨[], rfl, rfl⟩
  | cons word words ih =>
      obtain ⟨q, -, rfl⟩ := List.mem_map.1 (h word List.mem_cons_self)
      obtain ⟨qs, hread, rfl⟩ := ih fun w hw => h w (List.mem_cons_of_mem _ hw)
      refine ⟨q :: qs, ?_, rfl⟩
      rw [List.mapM'_cons, Qualifier.ofToken_token, hread]
      rfl

/-- A list of known qualifiers is the set of those whose tokens are among its words. -/
theorem readQualifiers_of_known {text : String}
    (h : ∀ word ∈ Text.wordsOf text, word ∈ Qualifier.all.map Qualifier.token) :
    ∃ s, readQualifiers text = .ok s ∧ ∀ q, s.has q = true ↔ q.token ∈ Text.wordsOf text := by
  obtain ⟨qs, hread, hwords⟩ := mapM'_ofToken h
  refine ⟨.ofList qs, by rw [readQualifiers, hread]; rfl, fun q => ?_⟩
  rw [Qualifiers.has_ofList, List.contains_iff_mem, ← hwords,
    List.mem_map_of_injective Qualifier.token_injective]

theorem readQualifiers_eq {text other : String}
    (known : ∀ word ∈ Text.wordsOf text, word ∈ Qualifier.all.map Qualifier.token)
    (words : ∀ word, word ∈ Text.wordsOf text ↔ word ∈ Text.wordsOf other) :
    readQualifiers text = readQualifiers other := by
  obtain ⟨s, hs, hmem⟩ := readQualifiers_of_known known
  obtain ⟨s', hs', hmem'⟩ := readQualifiers_of_known fun word hword =>
    known word ((words word).2 hword)
  have heq : s = s' := by
    ext q
    rw [Bool.eq_iff_iff, hmem, hmem', words]
  rw [hs, hs', heq]

/-! ## Records -/

namespace Record

/-- Two records that describe the same type; `wrapped` says whether a wrap chain counts. -/
structure SameType (wrapped : Bool) (a b : Element) : Prop where
  base : a.AgreeOn ["base"] b
  qualifiers : SameQualifiers (a.attribute? "attr") (b.attribute? "attr")
  wrap : wrapped = true → a.attribute? "wrap" = b.attribute? "wrap"

/-- Two records of the same member.  The wrap chain of a bit-field does not count, and neither does
the width of any other member. -/
structure SameMember (a b : Element) : Prop where
  name : a.AgreeOn ["name"] b
  type : SameType (a.tag != "bit-field") a b
  width : a.tag = "bit-field" → a.attribute? "len" = b.attribute? "len"

/-- Two records of the same enum constant. -/
def SameConstant (a b : Element) : Prop := a.AgreeOn ["name", "val"] b

/-- Two records of the same struct, union or enum. -/
structure SameGroup (a b : Element) : Prop where
  tag : a.tag = b.tag
  constants : a.tag = "enum" → Forall₂ SameConstant a.children b.children
  members : a.tag = "struct" ∨ a.tag = "union" → Forall₂ SameMember a.children b.children

/-- Two records of a section that stand for the same. -/
def SameContent : Section → Element → Element → Prop
  | .functions, a, b => Forall₂ (SameType true) a.children b.children
  | .unnamed, a, b => SameGroup a b

/-- Two records of a section with the same id that stand for the same. -/
structure SameRecord (place : Section) (a b : Element) : Prop where
  id : a.AgreeOn ["id"] b
  content : SameContent place a b

/-- Two records of the same named type. -/
structure SameNamed (a b : Element) : Prop where
  name : a.AgreeOn ["name"] b
  group : SameGroup a b

/-! ## Recipes of records that agree -/

variable {a b : Element}

/-- Items that are treated alike one by one are treated alike as a list. -/
theorem mapM'_eq_of_forall₂ {m : Type → Type} [Monad m] {β : Type} {f : Element → m β}
    {R : Element → Element → Prop} (hf : ∀ a b, R a b → f a = f b) {as bs : List Element}
    (h : Forall₂ R as bs) : as.mapM' f = bs.mapM' f := by
  induction h with
  | nil => rfl
  | cons hab _ ih => rw [List.mapM'_cons, List.mapM'_cons, hf _ _ hab, ih]

theorem qualify_eq_of_same
    (h : SameQualifiers (a.attribute? "attr") (b.attribute? "attr")) : qualify a = qualify b := by
  funext t
  rw [qualify, qualify]
  generalize a.attribute? "attr" = list, b.attribute? "attr" = other at h
  cases h with
  | same => rfl
  | rewritten known words => simp only [readQualifiers_eq known words]

theorem type_eq {wrapped : Bool} (h : SameType wrapped a b) : type a wrapped = type b wrapped := by
  have hwrap : (if wrapped then a.attribute? "wrap" else none) =
      if wrapped then b.attribute? "wrap" else none := by
    cases wrapped with
    | false => rfl
    | true => exact h.wrap rfl
  rw [type, type, h.base.required_eq List.mem_cons_self, qualify_eq_of_same h.qualifiers, hwrap]

theorem member_eq (h : SameMember a b) : member a = member b := by
  rw [member, member, ← h.name.tag]
  by_cases htag : a.tag = "bit-field"
  · have htype : SameType false a b := by simpa [htag] using h.type
    have hwidth : a.AgreeOn ["len"] b := ⟨h.name.tag, by simpa using h.width htag⟩
    simp only [htag, beq_self_eq_true, if_true, type_eq htype,
      hwidth.integer_eq List.mem_cons_self]
  · have hne : (a.tag != "bit-field") = true := bne_iff_ne.2 htag
    have htype : SameType true a b := hne ▸ h.type
    simp only [beq_iff_eq, htag, if_false, type_eq htype]

theorem namedMember_eq (h : SameMember a b) : namedMember a = namedMember b := by
  rw [namedMember, namedMember, h.name.required_eq List.mem_cons_self, member_eq h]

theorem constant_eq (h : SameConstant a b) : constant a = constant b := by
  rw [constant, constant, h.required_eq (by decide : "name" ∈ ["name", "val"]),
    h.required_eq (by decide : "val" ∈ ["name", "val"])]

theorem group_eq (h : SameGroup a b) : group a = group b := by
  rw [group, group, ← h.tag]
  split
  next htag => rw [mapM'_eq_of_forall₂ (fun _ _ h => constant_eq h) (h.constants htag)]
  next htag => rw [mapM'_eq_of_forall₂ (fun _ _ h => namedMember_eq h) (h.members (.inl htag))]
  next htag => rw [mapM'_eq_of_forall₂ (fun _ _ h => namedMember_eq h) (h.members (.inr htag))]
  · rfl

/-- **Records that agree stand for the same.** -/
theorem content_eq {place : Section} (h : SameContent place a b) :
    content place a = content place b := by
  cases place with
  | functions => exact mapM'_eq_of_forall₂ (fun _ _ h => type_eq h) h
  | unnamed => exact group_eq h

theorem namedGroup_eq (h : SameNamed a b) : namedGroup a = namedGroup b := by
  rw [namedGroup, namedGroup, h.name.required_eq List.mem_cons_self, group_eq h.group]

end Record

/-- Two documents whose records agree one by one.  Nothing is said of the root and of the sections
themselves, nor of what stands after the third section. -/
structure Document.SameRecords (d d' : Document) : Prop where
  records : ∀ place, Forall₂ (Record.SameRecord place) (d.records place) (d'.records place)
  named : Forall₂ Record.SameNamed d.named.children d'.named.children

end DebugTypes
