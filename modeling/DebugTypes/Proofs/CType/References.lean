import DebugTypes.CType.References
import DebugTypes.Proofs.CType.Parts

/-!
# References are the names inside a type

`CType.references` walks a type constructor by constructor.  Here it is compared with what occurs in
the type at all: it lists a name exactly if the reference to that name occurs in the type, through
members, targets, elements, bit-fields, qualifiers, results and parameters, at any depth.

## Main statement

* `CType.mem_references_iff` — the names that are listed.
-/

namespace DebugTypes.CType

variable {t u : CType} {name : String}

/-- A type that is not a reference refers to what its parts refer to, part by part. -/
theorem references_eq_flatMap_parts (h : t.isNamed = false) :
    t.references = t.parts.flatMap references := by
  cases t with
  | primitive | enum => rfl
  | named n => cases h
  | pointer | array | bitField | qualified => simp [references, parts]
  | struct ms | union ms => simp [references, parts, memberReferences_eq_flatMap, List.flatMap_map]
  | function t c ps => simp [references, parts, parameterReferences_eq_flatMap]

/-- A type is larger than its parts. -/
theorem sizeOf_lt_of_mem_parts (h : u ∈ t.parts) : sizeOf u < sizeOf t := by
  cases t with
  | primitive | enum | named => cases h
  | pointer | array | bitField | qualified =>
      obtain rfl := List.mem_singleton.1 h
      simp only [pointer.sizeOf_spec, array.sizeOf_spec, bitField.sizeOf_spec,
        qualified.sizeOf_spec]
      omega
  | struct ms | union ms =>
      obtain ⟨m, hm, rfl⟩ := List.mem_map.1 h
      have hlist := List.sizeOf_lt_of_mem hm
      have hpair : sizeOf m.2 < sizeOf m := by
        rw [Prod.mk.sizeOf_spec]
        omega
      simp only [struct.sizeOf_spec, union.sizeOf_spec]
      omega
  | function t c ps =>
      rcases List.mem_cons.1 h with rfl | h
      · rw [function.sizeOf_spec]
        omega
      · have hlist := List.sizeOf_lt_of_mem h
        rw [function.sizeOf_spec]
        omega

/-- What a part refers to, the whole refers to. -/
theorem mem_references_of_mem_parts (hu : u ∈ t.parts) (h : name ∈ u.references) :
    name ∈ t.references := by
  have hnamed : t.isNamed = false := by
    cases t with
    | named => cases hu
    | _ => rfl
  rw [references_eq_flatMap_parts hnamed]
  exact List.mem_flatMap.2 ⟨u, hu, h⟩

/-- A name that is listed occurs in the type. -/
theorem contains_of_mem_references (t : CType) (h : name ∈ t.references) :
    t.Contains (.named name) := by
  by_cases hnamed : t.isNamed = false
  · rw [references_eq_flatMap_parts hnamed] at h
    obtain ⟨u, hu, hname⟩ := List.mem_flatMap.1 h
    have hlt := sizeOf_lt_of_mem_parts hu
    exact .head hu (contains_of_mem_references u hname)
  · cases t with
    | named n =>
        obtain rfl := List.mem_singleton.1 h
        exact .refl
    | _ => exact absurd rfl hnamed
  termination_by sizeOf t

/-- **The references of a type are the names inside it,** at any depth. -/
theorem mem_references_iff : name ∈ t.references ↔ t.Contains (.named name) := by
  constructor
  · exact contains_of_mem_references t
  · intro h
    induction h using Relation.ReflTransGen.head_induction_on with
    | refl => exact List.mem_singleton_self name
    | head hpart _ ih => exact mem_references_of_mem_parts hpart ih

end DebugTypes.CType
