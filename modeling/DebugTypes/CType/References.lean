import DebugTypes.CType.Basic

/-!
# References inside a type

## Main definitions

* `CType.references t` — the names of the types that `t` refers to, one entry for each occurrence
  and from left to right; a function's result comes before its parameters.
-/

namespace DebugTypes.CType

mutual

/-- The names of the types referred to, in tree order and with repetitions. -/
def references : CType → List String
  | primitive _ => []
  | pointer t => references t
  | array t _ => references t
  | struct ms => memberReferences ms
  | union ms => memberReferences ms
  | enum _ => []
  | function t _ ps => references t ++ parameterReferences ps
  | bitField t _ => references t
  | qualified t _ => references t
  | named n => [n]

/-- The names that the types of members refer to. -/
def memberReferences : List (String × CType) → List String
  | [] => []
  | (_, t) :: ms => references t ++ memberReferences ms

/-- The names that parameters refer to. -/
def parameterReferences : List CType → List String
  | [] => []
  | t :: ts => references t ++ parameterReferences ts

end

theorem memberReferences_eq_flatMap (ms : List (String × CType)) :
    memberReferences ms = ms.flatMap fun m => references m.2 := by
  induction ms with
  | nil => rfl
  | cons m ms ih => rw [memberReferences, ih, List.flatMap_cons]

theorem parameterReferences_eq_flatMap (ts : List CType) :
    parameterReferences ts = ts.flatMap references := by
  induction ts with
  | nil => rfl
  | cons t ts ih => rw [parameterReferences, ih, List.flatMap_cons]

end DebugTypes.CType
