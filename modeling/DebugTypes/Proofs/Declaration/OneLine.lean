import DebugTypes.Proofs.Declaration.RoundTrip

/-!
# Declarations on one line

The text of a declaration brings no line breaks of its own: there are only those of the references
inside the type and of the declared name.

## Main definitions

* `OneLine s` — the text `s` has no line break.
* `CType.unbroken t` — no reference and no name of a member inside `t` has a line break.

## Main statement

* `CType.oneLine_declare` — a declaration of such a type is on one line.
-/

namespace DebugTypes

/-- A text without line breaks. -/
def OneLine (s : String) : Prop := '\n' ∉ s.toList

instance (s : String) : Decidable (OneLine s) := inferInstanceAs (Decidable (¬_))

/-! ## Texts put together -/

theorem OneLine.append {a b : String} (ha : OneLine a) (hb : OneLine b) : OneLine (a ++ b) := by
  unfold OneLine at *
  simp [ha, hb]

theorem oneLine_repr (n : Nat) : OneLine n.repr := by
  intro h
  exact absurd (Text.isDigit_of_mem_repr h) (by decide)

theorem oneLine_specify {a b : String} (ha : OneLine a) (hb : OneLine b) :
    OneLine (specify a b) := by
  unfold specify
  split
  · exact ha
  split
  · exact hb
  · exact (ha.append (by decide)).append hb

theorem oneLine_parenthesise {d : String} (h : OneLine d) : OneLine (parenthesise d) :=
  (OneLine.append (by decide) h).append (by decide)

theorem oneLine_parameterList {ps : List String} (h : ∀ p ∈ ps, OneLine p) :
    OneLine (parameterList ps) := by
  have hjoined : OneLine (", ".intercalate ps) := by
    induction ps with
    | nil => decide
    | cons p ps ih =>
        have hp := h p List.mem_cons_self
        have hps := ih fun p hp => h p (List.mem_cons_of_mem _ hp)
        cases ps with
        | nil => rwa [String.intercalate_singleton]
        | cons next ps =>
            rw [String.intercalate_cons_cons]
            exact (hp.append (by decide)).append hps
  apply oneLine_parenthesise
  split
  · decide
  · exact hjoined

theorem oneLine_mark (c : Convention) {d : String} (h : OneLine d) : OneLine (c.mark d) := by
  apply oneLine_specify _ h
  cases c <;> decide

theorem oneLine_qualifiers (q : Qualifiers) : OneLine q.spelling := by
  obtain ⟨c, v, u⟩ := q
  cases c <;> cases v <;> cases u <;> decide

/-! ## Declarations -/

namespace CType

mutual

/-- No reference and no name of a member has a line break, at any depth. -/
def unbroken : CType → Bool
  | primitive _ | enum _ => true
  | pointer t | array t _ | bitField t _ | qualified t _ => unbroken t
  | struct ms | union ms => membersUnbroken ms
  | function t _ ps => unbroken t && allUnbroken ps
  | named name => decide (OneLine name)

/-- The same for the names and types of members. -/
def membersUnbroken : List (String × CType) → Bool
  | [] => true
  | (name, t) :: ms => decide (OneLine name) && unbroken t && membersUnbroken ms

/-- The same for the types of parameters. -/
def allUnbroken : List CType → Bool
  | [] => true
  | t :: ts => unbroken t && allUnbroken ts

end

theorem allUnbroken_iff {ts : List CType} :
    allUnbroken ts = true ↔ ∀ t ∈ ts, t.unbroken = true := by
  induction ts with
  | nil => simp [allUnbroken]
  | cons t ts ih => simp [allUnbroken, ih]

theorem oneLine_declare_function {result : CType} {ps : List CType}
    (hresult : ∀ {d}, OneLine d → OneLine (result.declare d))
    (hps : ∀ p ∈ ps, OneLine (p.declare "")) {d : String} (hd : OneLine d) :
    OneLine (result.declare (d ++ parameterList (declareAll ps))) := by
  refine hresult (hd.append (oneLine_parameterList fun text htext => ?_))
  rw [declareAll_eq_map] at htext
  obtain ⟨p, hp, rfl⟩ := List.mem_map.1 htext
  exact hps p hp

/-- **A declaration is on one line** if the names in it are. -/
theorem oneLine_declare (t : CType) (h : t.unbroken = true) {d : String} (hd : OneLine d) :
    OneLine (t.declare d) := by
  cases t with
  | primitive p =>
      rw [declare]
      exact oneLine_specify (by cases p <;> decide) hd
  | named n =>
      rw [unbroken, decide_eq_true_iff] at h
      rw [declare]
      exact oneLine_specify h hd
  | struct | union | enum =>
      rw [declare]
      exact oneLine_specify (by decide) hd
  | array t n =>
      rw [unbroken] at h
      have hlength := ((hd.append (by decide : OneLine "[")).append (oneLine_repr n.toNat)).append
        (by decide : OneLine "]")
      rw [declare]
      exact oneLine_declare t h hlength
  | bitField t n =>
      rw [unbroken] at h
      rw [declare]
      exact ((oneLine_declare t h hd).append (by decide)).append (oneLine_repr n.toNat)
  | qualified t q =>
      rw [unbroken] at h
      rw [declare]
      split
      · exact oneLine_declare t h (oneLine_specify (oneLine_qualifiers q) hd)
      · exact oneLine_specify (oneLine_qualifiers q) (oneLine_declare t h hd)
  | function result c ps =>
      rw [unbroken, Bool.and_eq_true, allUnbroken_iff] at h
      have hps : ∀ p ∈ ps, OneLine (p.declare "") := fun p hp =>
        have := List.sizeOf_lt_of_mem hp
        oneLine_declare p (h.2 p hp) (by decide)
      rw [declare]
      exact oneLine_declare_function (oneLine_declare result h.1) hps (oneLine_mark c hd)
  | pointer t =>
      rw [unbroken] at h
      have hstar : OneLine ("*" ++ d) := OneLine.append (by decide) hd
      by_cases hfunction : t.kind = .function
      · cases t with
        | function result c ps =>
            rw [unbroken, Bool.and_eq_true, allUnbroken_iff] at h
            have hps : ∀ p ∈ ps, OneLine (p.declare "") := fun p hp =>
              have := List.sizeOf_lt_of_mem hp
              oneLine_declare p (h.2 p hp) (by decide)
            rw [declare]
            exact oneLine_declare_function (oneLine_declare result h.1) hps
              (oneLine_parenthesise (oneLine_mark c hstar))
        | _ => cases hfunction
      · rw [declare_pointer hfunction]
        split
        · exact oneLine_declare t h (oneLine_parenthesise hstar)
        · exact oneLine_declare t h hstar
  termination_by sizeOf t

end CType

end DebugTypes
