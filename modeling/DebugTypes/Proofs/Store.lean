import DebugTypes.Catalog.Basic

/-!
# Stores

What a plain list holds after named types went to it, and the stores whose reports are no warnings.
-/

namespace DebugTypes

/-- A look-up that met another record than the wanted one. -/
def Event.isOutOfOrder : Event → Bool
  | .outOfOrder _ _ _ _ => true
  | _ => false

namespace Store

/-- A store that reports nothing that a look-up reports. -/
def Quiet {τ : Type} (store : Store τ) : Prop :=
  ∀ c name t, ∀ event ∈ (store.add c name t).2, event.isOutOfOrder = false

theorem quiet_list : Store.list.Quiet := by
  intro c name t event h
  cases h

/-- What a list is given comes after what it held. -/
theorem toList_addAll_list (types : Array (String × CType)) (entries : List (String × CType)) :
    (Store.list.addAll types entries).1.toList = types.toList ++ entries := by
  induction entries generalizing types with
  | nil => simp [addAll]
  | cons entry entries ih =>
      rw [addAll]
      simp only [list] at ih ⊢
      rw [ih, Array.toList_push, List.append_assoc]
      rfl

end Store

end DebugTypes
