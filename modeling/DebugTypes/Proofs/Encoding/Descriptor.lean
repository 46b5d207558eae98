import DebugTypes.Decoding.Record
import DebugTypes.Proofs.Text.Decimal

/-!
# Descriptors written down

A *descriptor* is what the attributes of a member or parameter say, before it is spelled.  It has a
recipe of its own, and the record that spells a descriptor has the same recipe.

## Main definitions

* `WrapStep` — an operator of a wrap chain with its operand.
* `Descriptor` — a base, qualifiers, wrap operators and a width.
* `Descriptor.recipe` — the type that a descriptor describes.
* `Descriptor.member`, `Descriptor.parameter` — the records that spell a descriptor.

## Main statements

* `Record.namedMember_member`, `Record.type_parameter` — these records say what the descriptor says.
-/

namespace DebugTypes

/-- The request for what the id in a field of a record stands for. -/
def Record.refer (place : Section) (field text : String) : Recipe place.Answer := do
  let id ← Recipe.ofExcept (readInteger UInt32 field text)
  .ask place id .done

/-- The text of a set of qualifiers, each once. -/
def Qualifiers.text (s : Qualifiers) : String := " ".intercalate (s.toList.map Qualifier.token)

/-- The token for a function operator of a convention. -/
def Convention.token : Convention → String
  | default => "f"
  | stdcall => "F"

/-- An operator of a wrap chain with its operand. -/
inductive WrapStep where
  | pointer
  | array (length : UInt64)
  | function (convention : Convention) (id : Nat)

namespace WrapStep

/-- The tokens of an operator. -/
def tokens : WrapStep → List String
  | pointer => ["p"]
  | array length => ["a", length.toNat.repr]
  | function convention id => [convention.token, id.repr]

/-- A type inside an operator. -/
def apply : WrapStep → CType → Recipe CType
  | pointer, t => pure (.pointer t)
  | array length, t => pure (.array t length)
  | function convention id, t => do
    let parameters ← Record.refer .functions "wrap" id.repr
    pure (.function t convention parameters)

end WrapStep

/-- What the attributes of a member or parameter say. -/
structure Descriptor where
  base : String
  qualifiers : Option Qualifiers := none
  steps : List WrapStep := []
  width : Option UInt32 := none

namespace Descriptor

/-- The tokens of the wrap chain. -/
def tokens (d : Descriptor) : List String := d.steps.flatMap WrapStep.tokens

/-- The text of the wrap chain; a chain without operators is left out. -/
def chain? (d : Descriptor) : Option String :=
  if d.steps.isEmpty then none else some (" ".intercalate d.tokens)

/-- A type with the qualifiers. -/
def qualify (d : Descriptor) (t : CType) : CType :=
  match d.qualifiers with
  | none => t
  | some qualifiers => .qualified t qualifiers

/-- A type as the base of a bit-field, if there is a width. -/
def narrow (d : Descriptor) (t : CType) : CType :=
  match d.width with
  | none => t
  | some width => .bitField t width

/-- The type that the base, the qualifiers and the wrap chain describe. -/
def type (d : Descriptor) : Recipe CType := do
  let t ← Record.base d.base
  d.steps.foldlM (fun t step => step.apply t) (d.qualify t)

/-- The type that a descriptor describes. -/
def recipe (d : Descriptor) : Recipe CType := do
  let t ← d.type
  pure (d.narrow t)

/-- The descriptor with qualifiers. -/
def withQualifiers (d : Descriptor) (q : Qualifiers) : Descriptor :=
  { d with qualifiers := some q }

/-- The descriptor with one more wrap operator. -/
def withStep (d : Descriptor) (step : WrapStep) : Descriptor :=
  { d with steps := d.steps ++ [step] }

/-- The descriptor with a width. -/
def withWidth (d : Descriptor) (width : UInt32) : Descriptor := { d with width := some width }

/-- The attributes that spell the base, the qualifiers and the wrap chain. -/
def attributes (d : Descriptor) : List (String × String) :=
  ("base", d.base) :: ((d.qualifiers.map fun q => ("attr", q.text)).toList ++
    (d.chain?.map fun text => ("wrap", text)).toList)

/-- The record of a member. -/
def member (d : Descriptor) (name : String) : Element :=
  match d.width with
  | none => .mk "field" (("name", name) :: d.attributes) []
  | some width =>
    .mk "bit-field" (("name", name) :: ("len", width.toNat.repr) :: d.attributes) []

/-- The record of a parameter. -/
def parameter (d : Descriptor) : Element := .mk "arg" d.attributes []

end Descriptor

open Text

theorem readInteger_uint32 {n : Nat} (h : n < UInt32.size) (field : String) :
    readInteger UInt32 field n.repr = .ok (UInt32.ofNat n) := by
  rw [readInteger, integer?_uint32 h]

theorem readInteger_uint64 {n : Nat} (h : n < UInt64.size) (field : String) :
    readInteger UInt64 field n.repr = .ok (UInt64.ofNat n) := by
  rw [readInteger, integer?_uint64 h]

theorem readQualifiers_text (s : Qualifiers) : readQualifiers s.text = .ok s := by
  have hwords : ∀ token ∈ s.toList.map Qualifier.token, IsWord token := by
    intro token hmem
    obtain ⟨q, -, rfl⟩ := List.mem_map.1 hmem
    cases q <;> decide
  have htokens : ∀ qs : List Qualifier,
      (qs.map Qualifier.token).mapM' Qualifier.ofToken = .ok qs := by
    intro qs
    induction qs with
    | nil => rfl
    | cons q qs ih =>
        rw [List.map_cons, List.mapM'_cons, Qualifier.ofToken_token, ih]
        rfl
  rw [readQualifiers, Qualifiers.text, wordsOf_intercalate hwords, htokens]
  simp [Except.map]

namespace WrapStep

theorem isWord_of_mem_tokens {step : WrapStep} {token : String} (h : token ∈ step.tokens) :
    IsWord token := by
  cases step with
  | pointer =>
      obtain rfl := List.mem_singleton.1 h
      decide
  | array length =>
      rw [tokens, List.mem_cons, List.mem_singleton] at h
      rcases h with rfl | rfl
      · decide
      · exact isWord_repr _
  | function convention id =>
      rw [tokens, List.mem_cons, List.mem_singleton] at h
      rcases h with rfl | rfl
      · cases convention <;> decide
      · exact isWord_repr _

end WrapStep

namespace Record

/-- A chain goes on after an operator with the type inside it. -/
theorem wrapTokens_tokens_append (text : String) (step : WrapStep) (rest : List String)
    (t : CType) :
    wrapTokens text (step.tokens ++ rest) t = (step.apply t).bind (wrapTokens text rest) := by
  cases step with
  | pointer => rfl
  | array length =>
      have htokens : wrapTokens text ("a" :: length.toNat.repr :: rest) t =
          (Recipe.ofExcept (readInteger UInt64 "wrap" length.toNat.repr)).bind fun length =>
            wrapTokens text rest (.array t length) := rfl
      rw [WrapStep.tokens, List.cons_append, List.singleton_append, htokens,
        readInteger_uint64 length.toNat_lt, UInt64.ofNat_toNat]
      rfl
  | function convention id =>
      have htokens : wrapTokens text (convention.token :: id.repr :: rest) t =
          (Recipe.ofExcept (readInteger UInt32 "wrap" id.repr)).bind fun id =>
            (Recipe.askParameters id).bind fun parameters =>
              wrapTokens text rest (.function t convention parameters) := by
        cases convention <;> rfl
      rw [WrapStep.tokens, List.cons_append, List.singleton_append, htokens, WrapStep.apply, refer]
      cases readInteger UInt32 "wrap" id.repr <;> rfl

/-- A chain wraps a type in one operator after the other. -/
theorem wrapTokens_flatMap (text : String) (steps : List WrapStep) (t : CType) :
    wrapTokens text (steps.flatMap WrapStep.tokens) t =
      steps.foldlM (fun t step => step.apply t) t := by
  induction steps generalizing t with
  | nil => rfl
  | cons step steps ih =>
      rw [List.flatMap_cons, wrapTokens_tokens_append, List.foldlM_cons, Recipe.bind_eq]
      congr 1
      funext t
      exact ih t

/-- The wrap chain of a descriptor within the limit is read as its operators. -/
theorem wrap_tokens (d : Descriptor) (h : d.tokens.length ≤ wrapLimit) (t : CType) :
    wrap (" ".intercalate d.tokens) t = d.steps.foldlM (fun t step => step.apply t) t := by
  have hwords : ∀ token ∈ d.tokens, IsWord token := by
    intro token hmem
    obtain ⟨step, -, htoken⟩ := List.mem_flatMap.1 hmem
    exact WrapStep.isWord_of_mem_tokens htoken
  rw [wrap, wordsOf_intercalate hwords, if_neg (by omega)]
  exact wrapTokens_flatMap _ d.steps t

end Record

namespace Descriptor

theorem chain?_eq_none {d : Descriptor} (h : d.steps = []) : d.chain? = none := by
  rw [chain?, h]
  rfl

theorem chain?_eq_some {d : Descriptor} (h : d.steps ≠ []) :
    d.chain? = some (" ".intercalate d.tokens) := by
  rw [chain?, if_neg (by simpa using h)]

variable (d : Descriptor) (tag : String)

theorem attribute?_base : (Element.mk tag d.attributes []).attribute? "base" = some d.base := rfl

theorem attribute?_attr :
    (Element.mk tag d.attributes []).attribute? "attr" = d.qualifiers.map Qualifiers.text := by
  rw [Element.attribute?, Element.attributes_mk, attributes]
  cases d.qualifiers <;> cases d.chain? <;> rfl

theorem attribute?_wrap : (Element.mk tag d.attributes []).attribute? "wrap" = d.chain? := by
  rw [Element.attribute?, Element.attributes_mk, attributes]
  cases d.qualifiers <;> cases d.chain? <;> rfl

end Descriptor

namespace Record

theorem base_primitive (p : Primitive) : base ("." ++ p.token) = .done (.primitive p) := by
  cases p <;> rfl

theorem base_named {name : String} (h : name ≠ "") : base ("$" ++ name) = .done (.named name) := by
  have hne : name.toList ≠ [] := by simpa using h
  obtain ⟨c, cs, hname⟩ := List.exists_cons_of_ne_nil hne
  have htext : Base.ofText ("$" ++ name) = .ok (.named name) := by
    rw [Base.ofText, String.toList_append, hname]
    change Except.ok (Base.named (String.ofList (c :: cs))) = _
    rw [← hname, String.ofList_toList]
  rw [base, htext]
  rfl

theorem base_unnamed (text : String) : base ("#" ++ text) = refer .unnamed "base" text := by
  have htext : Base.ofText ("#" ++ text) =
      (readInteger UInt32 "base" text).map Base.unnamed := by
    rw [Base.ofText, String.toList_append]
    change (readInteger UInt32 "base" (String.ofList text.toList)).map Base.unnamed = _
    rw [String.ofList_toList]
  rw [base, refer, htext]
  cases readInteger UInt32 "base" text <;> rfl

end Record

namespace Descriptor

variable {d : Descriptor}

theorem recipe_of_width_none (h : d.width = none) : d.recipe = d.type := by
  have hnarrow : (fun t => (pure (d.narrow t) : Recipe CType)) = .done := by
    funext t
    rw [narrow, h]
    rfl
  rw [recipe, Recipe.bind_eq, hnarrow, Recipe.bind_done]

theorem recipe_of_width {width : UInt32} (h : d.width = some width) :
    d.recipe = d.type.bind fun t => .done (.bitField t width) := by
  have hnarrow : (fun t => (pure (d.narrow t) : Recipe CType)) =
      fun t => .done (.bitField t width) := by
    funext t
    rw [narrow, h]
    rfl
  rw [recipe, Recipe.bind_eq, hnarrow]

/-- Qualifiers go directly around a base. -/
theorem recipe_withQualifiers (hq : d.qualifiers = none) (hs : d.steps = [])
    (hw : d.width = none) (q : Qualifiers) :
    (d.withQualifiers q).recipe = d.recipe.bind fun t => .done (.qualified t q) := by
  have hplain : (fun t => (d.steps.foldlM (fun t step => step.apply t) (d.qualify t) :
      Recipe CType)) = .done := by
    funext t
    rw [qualify, hq, hs]
    rfl
  have hw' : (d.withQualifiers q).width = none := hw
  rw [recipe_of_width_none hw, recipe_of_width_none hw', type, type, Recipe.bind_eq,
    Recipe.bind_eq, hplain, Recipe.bind_done]
  congr 1
  funext t
  rw [withQualifiers, hs]
  rfl

/-- A new wrap operator goes around the type so far. -/
theorem recipe_withStep (hw : d.width = none) (step : WrapStep) :
    (d.withStep step).recipe = d.recipe.bind step.apply := by
  have hw' : (d.withStep step).width = none := hw
  have hlast : (fun t => [step].foldlM (fun t step => step.apply t) t) = step.apply := by
    funext t
    rw [List.foldlM_cons]
    exact Recipe.bind_done _
  rw [recipe_of_width_none hw, recipe_of_width_none hw', type, type, Recipe.bind_eq,
    Recipe.bind_eq, Recipe.bind_assoc]
  congr 1
  funext t
  rw [withStep, List.foldlM_append, Recipe.bind_eq, hlast]
  rfl

/-- A width makes a bit-field of the type so far. -/
theorem recipe_withWidth (hw : d.width = none) (width : UInt32) :
    (d.withWidth width).recipe = d.recipe.bind fun t => .done (.bitField t width) := by
  rw [recipe_of_width_none hw, recipe_of_width rfl]
  rfl

end Descriptor

namespace Record

theorem qualify_eq {record : Element} (d : Descriptor)
    (h : record.attribute? "attr" = d.qualifiers.map Qualifiers.text) (t : CType) :
    qualify record t = .done (d.qualify t) := by
  rw [qualify, h, Descriptor.qualify]
  cases d.qualifiers with
  | none => rfl
  | some q =>
      change (Recipe.ofExcept (readQualifiers q.text)).bind _ = _
      rw [readQualifiers_text]
      rfl

/-- A record with the attributes of a descriptor has its type. -/
theorem type_attributes (d : Descriptor) (tag : String) (before : List (String × String))
    (wrapped : Bool) (hbefore : ∀ a ∈ before, a.1 ≠ "base" ∧ a.1 ≠ "attr" ∧ a.1 ≠ "wrap")
    (hwrapped : wrapped = true ∨ d.steps = []) (hlimit : d.tokens.length ≤ wrapLimit) :
    type (.mk tag (before ++ d.attributes) []) wrapped = d.type := by
  have hskip (name : String) (h : ∀ a ∈ before, a.1 ≠ name) :=
    Element.attribute?_append h tag d.attributes []
  have hbase := (hskip "base" fun a ha => (hbefore a ha).1).trans (d.attribute?_base tag)
  have hattr := (hskip "attr" fun a ha => (hbefore a ha).2.1).trans (d.attribute?_attr tag)
  have hwrap := (hskip "wrap" fun a ha => (hbefore a ha).2.2).trans (d.attribute?_wrap tag)
  have hchain : (if wrapped then (Element.mk tag (before ++ d.attributes) []).attribute? "wrap"
      else none) = d.chain? := by
    rw [hwrap]
    rcases hwrapped with rfl | hs
    · exact if_pos rfl
    · rw [Descriptor.chain?_eq_none hs, ite_self]
  rw [type, Descriptor.type, Element.required, hbase, hchain]
  simp only [Recipe.ofExcept_ok, Recipe.bind_eq, Recipe.done_bind]
  congr 1
  funext t
  rw [qualify_eq d hattr, Recipe.done_bind]
  by_cases hs : d.steps = []
  · rw [Descriptor.chain?_eq_none hs, hs]
    rfl
  · rw [Descriptor.chain?_eq_some hs]
    exact wrap_tokens d hlimit _

/-- The record of a parameter says what the descriptor says. -/
theorem type_parameter (d : Descriptor) (hw : d.width = none)
    (hlimit : d.tokens.length ≤ wrapLimit) : type d.parameter true = d.recipe := by
  have htype := type_attributes d "arg" [] true (by simp) (.inl rfl) hlimit
  rw [Descriptor.recipe_of_width_none hw, Descriptor.parameter]
  exact htype

theorem namedMember_mk (tag name : String) (attributes : List (String × String)) :
    namedMember (.mk tag (("name", name) :: attributes) []) =
      (member (.mk tag (("name", name) :: attributes) [])).bind fun t => .done (name, t) := by
  rw [namedMember, Element.required, Element.attribute?_cons_self]
  rfl

/-- The record of a member says what the descriptor says.  A bit-field has no wrap chain. -/
theorem namedMember_member (d : Descriptor) (name : String)
    (hw : d.steps = [] ∨ d.width = none) (hlimit : d.tokens.length ≤ wrapLimit) :
    namedMember (d.member name) = d.recipe.bind fun t => .done (name, t) := by
  rw [Descriptor.member]
  cases hd : d.width with
  | none =>
      have htype := type_attributes d "field" [("name", name)] true (by simp) (.inl rfl) hlimit
      have hfield : ¬ ("field" == "bit-field") = true := by decide
      rw [List.singleton_append] at htype
      simp only
      rw [namedMember_mk, member, Element.tag_mk, if_neg hfield, htype,
        Descriptor.recipe_of_width_none hd]
  | some width =>
      have hsteps : d.steps = [] := hw.resolve_right (by rw [hd]; exact Option.some_ne_none width)
      have htype := type_attributes d "bit-field" [("name", name), ("len", width.toNat.repr)]
        false (by simp) (.inr hsteps) hlimit
      have hfield : ("bit-field" == "bit-field") = true := by decide
      have hlen : (Element.mk "bit-field"
          (("name", name) :: ("len", width.toNat.repr) :: d.attributes) []).integer UInt32 "len" =
          .ok width := by
        rw [Element.integer, Element.required, Element.attribute?_cons_of_ne (by decide),
          Element.attribute?_cons_self]
        simp only [bind, Except.bind]
        rw [readInteger_uint32 width.toNat_lt, UInt32.ofNat_toNat]
      rw [List.cons_append, List.singleton_append] at htype
      simp only
      rw [namedMember_mk, member, Element.tag_mk, if_pos hfield, htype, hlen,
        Descriptor.recipe_of_width hd]
      rfl

end Record

end DebugTypes
