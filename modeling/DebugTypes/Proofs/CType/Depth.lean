import DebugTypes.CType.Basic

/-!
# How deep a type nests

A scalar, a reference, an enum and a struct or union without members have depth one; any other type
is one deeper than the deepest type in it.
-/

namespace DebugTypes.CType

mutual

/-- The nesting depth of a type. -/
def depth : CType → Nat
  | primitive _ => 1
  | pointer t => depth t + 1
  | array t _ => depth t + 1
  | struct ms => membersDepth ms + 1
  | union ms => membersDepth ms + 1
  | enum _ => 1
  | function t _ ps => max (depth t) (parametersDepth ps) + 1
  | bitField t _ => depth t + 1
  | qualified t _ => depth t + 1
  | named _ => 1

/-- The depth of the deepest member, if there is one. -/
def membersDepth : List (String × CType) → Nat
  | [] => 0
  | (_, t) :: ms => max (depth t) (membersDepth ms)

/-- The depth of the deepest parameter, if there is one. -/
def parametersDepth : List CType → Nat
  | [] => 0
  | t :: ts => max (depth t) (parametersDepth ts)

end

theorem membersDepth_le {ms : List (String × CType)} {n : Nat} (h : ∀ m ∈ ms, m.2.depth ≤ n) :
    membersDepth ms ≤ n := by
  induction ms with
  | nil => exact Nat.zero_le n
  | cons m ms ih =>
      have hm := h m List.mem_cons_self
      have hms := ih fun x hx => h x (List.mem_cons_of_mem m hx)
      rw [membersDepth]
      exact Nat.max_le.2 ⟨hm, hms⟩

theorem parametersDepth_le {ts : List CType} {n : Nat} (h : ∀ t ∈ ts, t.depth ≤ n) :
    parametersDepth ts ≤ n := by
  induction ts with
  | nil => exact Nat.zero_le n
  | cons t ts ih =>
      have ht := h t List.mem_cons_self
      have hts := ih fun x hx => h x (List.mem_cons_of_mem t hx)
      rw [parametersDepth]
      exact Nat.max_le.2 ⟨ht, hts⟩

end DebugTypes.CType
