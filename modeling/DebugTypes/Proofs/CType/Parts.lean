import DebugTypes.Proofs.CType.Shape
import Mathlib.Logic.Relation

/-!
# Types inside types

A type that records can spell keeps to their form at every depth.  Its parts do not all have the
shape of the whole, but each of them has the shape of a member or less, and that already says where
bit-fields, qualifiers and wrap operators may stand.

## Main definitions

* `CType.parts t` — the types directly inside a type.
* `CType.Contains t u` — the type `u` occurs in `t`, at any depth.
* `CType.Spelled t` — a record can spell the type as a member, with a wrap chain of allowed length.
* `CType.WellPlaced t` — nothing directly inside the type stands where no record can put it.

## Main statement

* `CType.Spelled.wellPlaced_of_contains` — everything inside a spelled type is well placed.
-/

namespace DebugTypes.CType

/-- The types directly inside a type, from left to right. -/
def parts : CType → List CType
  | primitive _ | enum _ | named _ => []
  | pointer t | array t _ | bitField t _ | qualified t _ => [t]
  | struct ms | union ms => ms.map Prod.snd
  | function t _ ps => t :: ps

/-- The shape of the types directly inside a type of a kind. -/
def Kind.partShape : Kind → Shape
  | .struct | .union => .member
  | .pointer | .array | .function => .chain
  | .bitField => .qualified
  | _ => .base

/-- The type `u` occurs in `t`, at any depth or as `t` itself. -/
def Contains (t u : CType) : Prop := Relation.ReflTransGen (fun t u => u ∈ t.parts) t u

/-! ## Shapes and their parts -/

/-- What a shape allows, every shape allows that allows at least as much. -/
theorem hasShape_mono {shape wider : Shape} (hq : shape.qualifies = true → wider.qualifies = true)
    (hw : shape.wraps = true → wider.wraps = true) (hm : shape = .member → wider = .member)
    {t : CType} (h : t.hasShape shape = true) : t.hasShape wider = true := by
  cases t <;> simp only [hasShape, Bool.and_eq_true, beq_iff_eq] at h ⊢ <;> grind

theorem hasShape_qualified {t : CType} (h : t.hasShape .base = true) :
    t.hasShape .qualified = true := hasShape_mono (by decide) (by decide) (by decide) h

theorem hasShape_chain {t : CType} (h : t.hasShape .qualified = true) :
    t.hasShape .chain = true := hasShape_mono (by decide) (by decide) (by decide) h

/-- Members may have every shape. -/
theorem hasShape_member {t : CType} {shape : Shape} (h : t.hasShape shape = true) :
    t.hasShape .member = true :=
  hasShape_mono (fun _ => rfl) (fun _ => rfl) (fun _ => rfl) h

/-- Without wrap operators there is no wrap chain. -/
theorem chainLength_of_hasShape {t : CType} {shape : Shape} (hw : shape.wraps = false)
    (h : t.hasShape shape = true) : t.chainLength = 0 := by
  cases t <;> simp only [hasShape, hw, Bool.false_and, Bool.false_eq_true] at h <;> rfl

theorem haveMemberShape_iff {ms : List (String × CType)} :
    haveMemberShape ms = true ↔
      ∀ m ∈ ms, m.2.hasShape .member = true ∧ m.2.chainLength ≤ wrapLimit := by
  induction ms with
  | nil => simp [haveMemberShape]
  | cons m ms ih => simp [haveMemberShape, ih]

theorem haveChainShape_iff {ts : List CType} :
    haveChainShape ts = true ↔
      ∀ t ∈ ts, t.hasShape .chain = true ∧ t.chainLength ≤ wrapLimit := by
  induction ts with
  | nil => simp [haveChainShape]
  | cons t ts ih => simp [haveChainShape, ih]

/-! ## What may stand where -/

/-- A record can spell the type as a member. -/
structure Spelled (t : CType) : Prop where
  shape : t.hasShape .member = true
  chain : t.chainLength ≤ wrapLimit

/-- Nothing directly inside a type stands where no record can put it, and its wrap chain is no
longer than a record may have. -/
structure WellPlaced (t : CType) : Prop where
  /-- Bit-fields are members, and nothing else: neither targets nor elements, results nor
  parameters. -/
  bitField : ∀ u ∈ t.parts, u.kind = .bitField → t.kind = .struct ∨ t.kind = .union
  /-- There is no wrap operator inside a bit-field. -/
  width : t.kind = .bitField → ∀ u ∈ t.parts, u.kind ∉ [.pointer, .array, .function, .bitField]
  /-- Qualifiers stand directly on a base. -/
  qualified : t.kind = .qualified →
    ∀ u ∈ t.parts, u.kind ∉ [.pointer, .array, .function, .bitField, .qualified]
  named : t ≠ .named ""
  chain : t.chainLength ≤ wrapLimit

section

variable {t : CType} {shape : Shape}

theorem kind_of_hasShape (hm : shape ≠ .member) (h : t.hasShape shape = true) :
    t.kind ≠ .bitField := by
  cases t <;> simp_all [hasShape, kind]

theorem kind_of_not_wraps (hw : shape.wraps = false) (h : t.hasShape shape = true) :
    t.kind ∉ [.pointer, .array, .function, .bitField] := by
  have hm : shape ≠ .member := by rintro rfl; exact absurd hw (by decide)
  cases t <;> simp_all [hasShape, kind]

theorem kind_of_not_qualifies (hq : shape.qualifies = false) (h : t.hasShape shape = true) :
    t.kind ≠ .qualified := by
  cases t <;> simp_all [hasShape, kind]

end

namespace Spelled

variable {t u : CType}

/-- A struct, union or enum that a record can spell has no wrap chain. -/
theorem of_hasShape_base (h : t.hasShape .base = true) : t.Spelled where
  shape := hasShape_member h
  chain := by rw [chainLength_of_hasShape rfl h]; exact Nat.zero_le _

/-- What is directly inside a spelled type has the shape that the type allows inside. -/
theorem hasShape_part (h : t.Spelled) (hu : u ∈ t.parts) :
    u.hasShape t.kind.partShape = true ∧ u.chainLength ≤ wrapLimit := by
  obtain ⟨hshape, hchain⟩ := h
  cases t with
  | primitive | enum | named => cases hu
  | struct ms | union ms =>
      obtain ⟨m, hm, rfl⟩ := List.mem_map.1 hu
      exact haveMemberShape_iff.1 hshape m hm
  | pointer t | array t =>
      obtain rfl := List.mem_singleton.1 hu
      rw [hasShape, Bool.and_eq_true] at hshape
      rw [chainLength] at hchain
      exact ⟨hshape.2, by omega⟩
  | qualified t | bitField t =>
      obtain rfl := List.mem_singleton.1 hu
      rw [hasShape, Bool.and_eq_true] at hshape
      refine ⟨hshape.2, ?_⟩
      rw [chainLength_of_hasShape rfl hshape.2]
      exact Nat.zero_le _
  | function t c ps =>
      rw [hasShape, Bool.and_eq_true, Bool.and_eq_true] at hshape
      rw [chainLength] at hchain
      rcases List.mem_cons.1 hu with rfl | hu
      · exact ⟨hshape.1.2, by omega⟩
      · exact haveChainShape_iff.1 hshape.2 u hu

/-- What is directly inside a spelled type is spelled. -/
theorem part (h : t.Spelled) (hu : u ∈ t.parts) : u.Spelled where
  shape := hasShape_member (h.hasShape_part hu).1
  chain := (h.hasShape_part hu).2

theorem wellPlaced (h : t.Spelled) : t.WellPlaced where
  bitField u hu hk := by
    have hmember : t.kind.partShape = .member → t.kind = .struct ∨ t.kind = .union := by
      cases t.kind <;> decide
    exact hmember (Decidable.byContradiction fun hm =>
      kind_of_hasShape hm (h.hasShape_part hu).1 hk)
  width hk u hu := by
    have hshape := (h.hasShape_part hu).1
    rw [hk] at hshape
    exact kind_of_not_wraps rfl hshape
  qualified hk u hu := by
    have hshape := (h.hasShape_part hu).1
    rw [hk] at hshape
    have hwraps := kind_of_not_wraps rfl hshape
    have hqualifies := kind_of_not_qualifies rfl hshape
    simp only [List.mem_cons, List.not_mem_nil, or_false, not_or] at hwraps ⊢
    exact ⟨hwraps.1, hwraps.2.1, hwraps.2.2.1, hwraps.2.2.2, hqualifies⟩
  named := by
    rintro rfl
    exact absurd h.shape (by decide)
  chain := h.chain

/-- Everything inside a spelled type is well placed. -/
theorem wellPlaced_of_contains (h : t.Spelled) (hu : t.Contains u) : u.WellPlaced := by
  have hspelled : u.Spelled := by
    induction hu with
    | refl => exact h
    | tail _ hpart ih => exact ih.part hpart
  exact hspelled.wellPlaced

end Spelled

end DebugTypes.CType
