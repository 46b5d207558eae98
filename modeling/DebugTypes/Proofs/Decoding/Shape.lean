import DebugTypes.Proofs.CType.Parts
import DebugTypes.Proofs.Decoding.Calls
import DebugTypes.Proofs.Decoding.Depth
import DebugTypes.Proofs.Store

/-!
# The shape of decoded types

Each step of decoding keeps to its own part of the form of types: a base comes first, qualifiers go
around it, the operators of the wrap chain around these, and only a member may then become a
bit-field.  A record that is looked up is decoded by the same steps, so that every tree has this
form at every depth, whatever records its references lead to.

## Main definitions

* `Shaped` — an answer is of the form that records can spell.
* `Call.Admits` — what the trees of a call may be.

## Main statement

* `Session.perform_shape` — the form of everything that comes of a call.
-/

namespace DebugTypes

open CType (Spelled hasShape_qualified hasShape_chain hasShape_member chainLength_of_hasShape)

/-- An answer is of the form that records can spell. -/
def Shaped : AnswerProperty
  | .functions, _, (ts : List CType) => CType.haveChainShape ts = true
  | .unnamed, _, (t : CType) => t.isGroup = true

/-- The shape of what a record describes, with or without its wrap chain. -/
def Shape.ofRecord (wrapped : Bool) : Shape := if wrapped then .chain else .qualified

/-- A base with a name has a name that is not empty. -/
theorem Base.ofText_named {text name : String} (h : Base.ofText text = .ok (.named name)) :
    name ≠ "" := by
  unfold Base.ofText at h
  split at h
  · cases h
  next token _ =>
    cases hp : Primitive.ofToken (String.ofList token) <;> rw [hp] at h <;> cases h
  · cases h
  next cs hcs _ =>
    cases h
    exact fun hempty => hcs (String.ofList_eq_empty_iff.1 hempty)
  next id _ _ _ _ =>
    cases hn : readInteger UInt32 "base" (String.ofList id) <;> rw [hn] at h <;> cases h

namespace Record

open Recipe

theorem shape_base (text : String) :
    (base text).Yields Shaped fun _ t => t.hasShape .base = true := by
  rw [base, bind_eq, yields_bind, yields_ofExcept]
  rintro (p | name | id) htext
  · rfl
  · simpa [CType.hasShape] using Base.ofText_named htext
  · intro record trace t ht
    have ht : t.isGroup = true := ht
    rw [CType.isGroup, Bool.and_eq_true] at ht
    exact ht.2

theorem shape_qualify (record : Element) {t : CType} (h : t.hasShape .base = true) :
    (qualify record t).Yields Shaped fun _ u => u.hasShape .qualified = true := by
  rw [qualify]
  split
  · exact hasShape_qualified h
  · rw [bind_eq, yields_bind, yields_ofExcept]
    intro q _
    change CType.hasShape (.qualified t q) .qualified = true
    rw [CType.hasShape, h]
    rfl

/-- Every operator of a wrap chain goes around a chain, and takes its tokens. -/
theorem shape_wrapTokens (text : String) (tokens : List String) (t : CType)
    (h : t.hasShape .chain = true) :
    (wrapTokens text tokens t).Yields Shaped fun _ u =>
      u.hasShape .chain = true ∧ u.chainLength = t.chainLength + tokens.length := by
  fun_induction wrapTokens text tokens t with
  | case1 t => exact ⟨h, rfl⟩
  | case2 t token rest hop ih =>
      refine (ih (by rw [CType.hasShape, h]; rfl)).mono fun _ u hu => ⟨hu.1, ?_⟩
      rw [hu.2, CType.chainLength, List.length_cons]
      omega
  | case3 t token hop => trivial
  | case4 t token operand rest hop ih =>
      rw [bind_eq, yields_bind, yields_ofExcept]
      intro length _
      refine (ih length (by rw [CType.hasShape, h]; rfl)).mono fun _ u hu => ⟨hu.1, ?_⟩
      rw [hu.2, CType.chainLength, List.length_cons, List.length_cons]
      omega
  | case5 t token convention operand rest hop ih =>
      rw [bind_eq, yields_bind, yields_ofExcept]
      intro id _ record trace ts hts
      have hts : CType.haveChainShape ts = true := hts
      refine (ih ts (by rw [CType.hasShape, h, hts]; rfl)).mono fun _ u hu => ⟨hu.1, ?_⟩
      rw [hu.2, CType.chainLength, List.length_cons, List.length_cons]
      omega

theorem shape_wrap (text : String) {t : CType} (h : t.hasShape .qualified = true) :
    (wrap text t).Yields Shaped fun _ u =>
      u.hasShape .chain = true ∧ u.chainLength ≤ wrapLimit := by
  simp only [wrap]
  split
  · trivial
  · refine (shape_wrapTokens text (Text.wordsOf text) t (hasShape_chain h)).mono
      fun _ u hu => ⟨hu.1, ?_⟩
    rw [hu.2, chainLength_of_hasShape rfl h]
    omega

theorem shape_type_unwrapped (record : Element) :
    (type record false).Yields Shaped fun _ t => t.hasShape .qualified = true := by
  rw [type, bind_eq, yields_bind, yields_ofExcept]
  intro text _
  rw [bind_eq, yields_bind]
  refine (shape_base text).mono fun _ t ht => ?_
  rw [bind_eq, yields_bind]
  exact (shape_qualify record ht).mono fun _ u hu => hu

theorem shape_type (record : Element) (wrapped : Bool) :
    (type record wrapped).Yields Shaped fun _ t =>
      t.hasShape (.ofRecord wrapped) = true ∧ t.chainLength ≤ wrapLimit := by
  cases wrapped
  · refine (shape_type_unwrapped record).mono fun _ t ht => ⟨ht, ?_⟩
    rw [chainLength_of_hasShape rfl ht]
    exact Nat.zero_le _
  · rw [type_wrapped, yields_bind]
    refine (shape_type_unwrapped record).mono fun _ t ht => ?_
    split
    · refine ⟨hasShape_chain ht, ?_⟩
      rw [chainLength_of_hasShape rfl ht]
      exact Nat.zero_le _
    · exact shape_wrap _ ht

/-- Only a member may be a bit-field, which has no wrap chain. -/
theorem shape_member (record : Element) : (member record).Yields Shaped fun _ t => t.Spelled := by
  rw [member]
  split
  · rw [bind_eq, yields_bind]
    refine (shape_type_unwrapped record).mono fun _ t ht => ?_
    rw [bind_eq, yields_bind, yields_ofExcept]
    intro width _
    exact ⟨by rw [CType.hasShape, ht]; rfl, Nat.zero_le _⟩
  · exact (shape_type record true).mono fun _ t ht => ⟨hasShape_member ht.1, ht.2⟩

theorem shape_members (records : List Element) :
    (records.mapM' namedMember).Yields Shaped fun _ ms => CType.haveMemberShape ms = true := by
  have hmember : ∀ record ∈ records, (namedMember record).Yields Shaped fun _ m =>
      m.2.Spelled := by
    intro record _
    rw [namedMember, bind_eq, yields_bind, yields_ofExcept]
    intro name _
    rw [bind_eq, yields_bind]
    exact (shape_member record).mono fun _ t ht => ht
  refine (yields_mapM' hmember).mono fun _ ms hms => CType.haveMemberShape_iff.2 fun m hm => ?_
  have hspelled := hms.forall_mem m hm
  exact ⟨hspelled.shape, hspelled.chain⟩

theorem shape_group (record : Element) :
    (group record).Yields Shaped fun _ t => t.isGroup = true := by
  rw [group]
  split
  · rw [bind_eq, yields_bind, yields_ofExcept]
    intro constants _
    rfl
  · rw [bind_eq, yields_bind]
    refine (shape_members record.children).mono fun _ ms hms => ?_
    change CType.isGroup (.struct ms) = true
    rw [CType.isGroup, CType.hasShape, hms]
    rfl
  · rw [bind_eq, yields_bind]
    refine (shape_members record.children).mono fun _ ms hms => ?_
    change CType.isGroup (.union ms) = true
    rw [CType.isGroup, CType.hasShape, hms]
    rfl
  · trivial

theorem shape_parameters (record : Element) :
    (parameters record).Yields Shaped fun _ ts => CType.haveChainShape ts = true := by
  refine (yields_mapM' fun parameter _ => shape_type parameter true).mono fun _ ts hts => ?_
  exact CType.haveChainShape_iff.2 hts.forall_mem

/-- Every record is of the form that records can spell. -/
theorem shape_content (place : Section) (record : Element) :
    (content place record).Yields Shaped (Shaped place) := by
  cases place
  · exact shape_parameters record
  · exact shape_group record

theorem shape_namedGroup (record : Element) :
    (namedGroup record).Yields Shaped fun _ entry => entry.2.isGroup = true := by
  rw [namedGroup, bind_eq, yields_bind, yields_ofExcept]
  intro name _
  rw [bind_eq, yields_bind]
  exact (shape_group record).mono fun _ t ht => ht

end Record

/-! ## Calls -/

namespace Call

/-- What the trees of a call may be: structs, unions and enums where it asks for such, and types of
the shape of a member or of a record otherwise. -/
def Admits : Call → CType → Prop
  | group _, t => t.isGroup = true
  | member _, t => t.Spelled
  | type _ wrapped, t => t.hasShape (.ofRecord wrapped) = true ∧ t.chainLength ≤ wrapLimit
  | named, t => t.isGroup = true

theorem Admits.spelled {call : Call} {t : CType} (h : call.Admits t) : t.Spelled := by
  have hgroup : t.isGroup = true → t.Spelled := by
    intro hg
    rw [CType.isGroup, Bool.and_eq_true] at hg
    exact .of_hasShape_base hg.2
  cases call with
  | group | named => exact hgroup h
  | member => exact h
  | type => exact ⟨hasShape_member h.1, h.2⟩

/-- The recipe of a call yields what the call admits. -/
theorem admits_recipe? {call : Call} {p : Recipe CType} (hp : call.recipe? = some p) :
    p.Yields Shaped fun _ t => call.Admits t := by
  cases call with
  | group record => cases hp; exact Record.shape_group record
  | member record => cases hp; exact Record.shape_member record
  | type record wrapped => cases hp; exact Record.shape_type record wrapped
  | named => cases hp

end Call

/-- The trees of a call are what its recipes yield. -/
theorem Performs.admits {d : Document} {s : Session} {call : Call} {trace : List Lookup}
    {o : Outcome} (h : Performs d s call trace o) : ∀ t ∈ o.trees, call.Admits t := by
  cases h with
  | @decoded _ _ r _ hp run =>
      cases r with
      | error e => exact List.forall_mem_nil _
      | ok t =>
          intro u hu
          obtain rfl := List.mem_singleton.1 hu
          exact run.yields Record.shape_content (Call.admits_recipe? hp)
  | read hp run =>
      obtain rfl : call = .named := by cases call <;> first | rfl | cases hp
      obtain ⟨entries, rfl, hruns⟩ := run.exists_entries (I := fun _ => True)
        (fun _ _ _ _ => trivial) (fun _ _ _ => trivial) trivial
      intro t ht
      rw [Store.toList_addAll_list, List.nil_append] at ht
      obtain ⟨entry, hentry, rfl⟩ := List.mem_map.1 ht
      obtain ⟨record, -, _, _, _, -, hrun⟩ := hruns entry hentry
      exact hrun.yields Record.shape_content (Record.shape_namedGroup record)

/-- **Everything that is decoded has the form that records can spell.**  However a session is used,
what a call returns or stores is what the call admits: a struct, union or enum of the shape of groups
for a group and for the named types of a document.  And so it is at every depth: a bit-field stands
only directly in a struct or union and has no wrap operator inside, qualifiers stand only directly
on a base, no reference has an empty name, and no wrap chain takes more than 1024 tokens. -/
theorem Session.perform_shape (d : Document) (strict : Bool) (calls : List Call) (call : Call) :
    ∀ t ∈ (((start d strict).performAll d calls).perform d call).trees,
      call.Admits t ∧ ∀ u, t.Contains u → u.WellPlaced := by
  intro t ht
  obtain ⟨trace, h⟩ := ((start d strict).performAll d calls).performs_perform d call
  have hadmits := h.admits t ht
  exact ⟨hadmits, fun u hu => hadmits.spelled.wellPlaced_of_contains hu⟩

/-- A document of a struct with a callback and a bit-field; the record of the callback's parameter
is tagged as a bit-field as well. -/
def Document.bitFieldParameter : Document where
  root := .mk "types" [] [
    .mk "funcs" [] [.mk "func" [("id", "0")]
      [.mk "bit-field" [("base", ".INT"), ("attr", "CONST"), ("len", "3")] []]],
    .mk "unnamed" [] [],
    .mk "named" [] [.mk "struct" [("name", "S")]
      [.mk "field" [("name", "f"), ("base", ".VOID"), ("wrap", "F 0 p")] [],
        .mk "bit-field" [("name", "b"), ("base", ".UINT"), ("len", "3")] []]]]
  complete := by decide

/-- The type of this document. -/
def CType.withBitField : CType :=
  .struct [
    ("f", .pointer (.function (.primitive .void) .stdcall
      [.qualified (.primitive .int) { const := true }])),
    ("b", .bitField (.primitive .unsignedInt) 3)]

/-- The member is a bit-field and the parameter is none. -/
theorem Session.perform_shape_bitFieldParameter :
    CType.withBitField ∈
        (((start .bitFieldParameter true).performAll .bitFieldParameter []).perform
          .bitFieldParameter .named).trees ∧
      CType.withBitField.isGroup = true ∧
      ∀ u, CType.withBitField.Contains u → u.WellPlaced := by
  have hmem : CType.withBitField ∈
      (((start .bitFieldParameter true).performAll .bitFieldParameter []).perform
        .bitFieldParameter .named).trees := by decide +kernel
  obtain ⟨hgroup, hparts⟩ := perform_shape .bitFieldParameter true [] .named _ hmem
  exact ⟨hmem, hgroup, hparts⟩

end DebugTypes
