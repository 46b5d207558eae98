import DebugTypes.Proofs.CType.References

/-!
# Where references occur

A place inside a type is a path: the positions of the parts that one goes through from the type
down, which are members, targets, elements, results and parameters.  Paths in lexicographic order
are the places from left to right, and in this order `CType.references` lists the references of a
type, each as often as it occurs.

## Main definitions

* `CType.typeAt? t path` — the type at the end of a path.
* `CType.RefersAt t path name` — there is a reference to the name at the end of the path.
* `CType.Locates` — names at increasing paths, with no path left out.

## Main statements

* `CType.contains_iff_exists_typeAt?` — what occurs in a type is at the end of a path.
* `CType.exists_locates` — the references of a type are listed from left to right.
-/

namespace DebugTypes.CType

/-- The type at the end of a path; in a function `0` is the result and `1` the first parameter. -/
def typeAt? (t : CType) : List Nat → Option CType
  | [] => some t
  | i :: path => t.parts[i]?.bind fun u => u.typeAt? path

/-- There is a reference to the name at the end of the path. -/
def RefersAt (t : CType) (path : List Nat) (name : String) : Prop :=
  t.typeAt? path = some (.named name)

variable {t u : CType} {ts : List CType} {name : String} {path : List Nat} {i : Nat}

theorem typeAt?_cons_eq_some_iff :
    t.typeAt? (i :: path) = some u ↔ ∃ part, t.parts[i]? = some part ∧
      part.typeAt? path = some u := by
  rw [typeAt?, Option.bind_eq_some_iff]

/-- **What occurs in a type is at the end of a path.** -/
theorem contains_iff_exists_typeAt? : t.Contains u ↔ ∃ path, t.typeAt? path = some u := by
  constructor
  · intro h
    induction h using Relation.ReflTransGen.head_induction_on with
    | refl => exact ⟨[], rfl⟩
    | head hpart _ ih =>
        obtain ⟨path, hpath⟩ := ih
        obtain ⟨i, hi⟩ := List.mem_iff_getElem?.1 hpart
        exact ⟨i :: path, typeAt?_cons_eq_some_iff.2 ⟨_, hi, hpath⟩⟩
  · rintro ⟨path, h⟩
    induction path generalizing t with
    | nil =>
        obtain rfl := Option.some.inj h
        exact .refl
    | cons i path ih =>
        obtain ⟨part, hpart, h⟩ := typeAt?_cons_eq_some_iff.1 h
        exact .head (List.mem_of_getElem? hpart) (ih h)

/-! ## References inside lists of types -/

/-- There is a reference to the name at the path inside a list of types, the first of which has the
position `i`. -/
def ReferIn (ts : List CType) (i : Nat) (path : List Nat) (name : String) : Prop :=
  ∃ j t rest, ts[j]? = some t ∧ path = (i + j) :: rest ∧ t.RefersAt rest name

theorem not_referIn_nil : ¬ReferIn [] i path name := by
  rintro ⟨_, _, _, ht, -⟩
  cases ht

theorem referIn_cons_iff :
    ReferIn (t :: ts) i path name ↔
      (∃ rest, path = i :: rest ∧ t.RefersAt rest name) ∨ ReferIn ts (i + 1) path name := by
  constructor
  · rintro ⟨_ | j, u, rest, hu, rfl, hname⟩
    · obtain rfl := Option.some.inj hu
      exact .inl ⟨rest, rfl, hname⟩
    · exact .inr ⟨j, u, rest, hu, by rw [Nat.add_right_comm, Nat.add_assoc], hname⟩
  · rintro (⟨rest, rfl, hname⟩ | ⟨j, u, rest, hu, rfl, hname⟩)
    · exact ⟨0, t, rest, rfl, rfl, hname⟩
    · exact ⟨j + 1, u, rest, hu, by rw [Nat.add_right_comm, Nat.add_assoc], hname⟩

/-- A reference is at the path to itself and at no other. -/
theorem refersAt_named_iff {n : String} : RefersAt (.named n) path name ↔ path = [] ∧ name = n := by
  cases path with
  | nil => simp [RefersAt, typeAt?, eq_comm]
  | cons i path => simp [RefersAt, typeAt?, parts]

/-- A type that is no reference has its references inside its parts. -/
theorem refersAt_iff_referIn (h : t.isNamed = false) :
    t.RefersAt path name ↔ ReferIn t.parts 0 path name := by
  cases path with
  | nil =>
      constructor
      · intro hname
        rw [Option.some.inj hname] at h
        cases h
      · rintro ⟨_, _, _, -, hpath, -⟩
        cases hpath
  | cons i path =>
      rw [RefersAt, typeAt?_cons_eq_some_iff]
      constructor
      · rintro ⟨u, hu, hname⟩
        exact ⟨i, u, path, hu, by rw [Nat.zero_add], hname⟩
      · rintro ⟨j, u, rest, hu, hpath, hname⟩
        rw [Nat.zero_add, List.cons.injEq] at hpath
        obtain ⟨rfl, rfl⟩ := hpath
        exact ⟨u, hu, hname⟩

/-! ## References from left to right -/

/-- Names at increasing paths, with no path left out. -/
structure Locates (refersAt : List Nat → String → Prop) (places : List (List Nat × String)) :
    Prop where
  increasing : places.Pairwise fun place later => place.1 < later.1
  mem_iff : ∀ path name, (path, name) ∈ places ↔ refersAt path name

/-- The places in the first type of a list come before those in the others. -/
theorem Locates.cons {places later : List (List Nat × String)} (h : Locates t.RefersAt places)
    (hlater : Locates (ReferIn ts (i + 1)) later) :
    Locates (ReferIn (t :: ts) i) (places.map (fun place => (i :: place.1, place.2)) ++ later) where
  increasing := by
    refine List.pairwise_append.2 ⟨h.increasing.map _ fun _ _ hlt => ?_, hlater.increasing, ?_⟩
    · exact List.cons_lt_cons_iff.2 (.inr ⟨rfl, hlt⟩)
    · -- Paths into the first type begin with `i`, and all others with a later position.
      rintro _ hplace ⟨path, name⟩ hplace'
      obtain ⟨place, -, rfl⟩ := List.mem_map.1 hplace
      obtain ⟨j, _, _, -, rfl, -⟩ := (hlater.mem_iff path name).1 hplace'
      exact List.cons_lt_cons_iff.2 (.inl (by omega))
  mem_iff path name := by
    rw [referIn_cons_iff, List.mem_append, hlater.mem_iff]
    refine or_congr_left ⟨fun hmem => ?_, ?_⟩
    · obtain ⟨place, hplace, heq⟩ := List.mem_map.1 hmem
      obtain ⟨rfl, rfl⟩ := Prod.mk.inj heq
      exact ⟨place.1, rfl, (h.mem_iff place.1 place.2).1 hplace⟩
    · rintro ⟨rest, rfl, hname⟩
      exact List.mem_map.2 ⟨(rest, name), (h.mem_iff rest name).2 hname, rfl⟩

/-- Where the references of each type of a list are listed from left to right, those of the list
are. -/
theorem exists_locates_referIn
    (h : ∀ t ∈ ts, ∃ places, Locates t.RefersAt places ∧ places.map Prod.snd = t.references) :
    ∀ i, ∃ places, Locates (ReferIn ts i) places ∧
      places.map Prod.snd = ts.flatMap references := by
  induction ts with
  | nil =>
      intro i
      refine ⟨[], ⟨.nil, fun path name => ⟨nofun, fun hname => ?_⟩⟩, rfl⟩
      exact (not_referIn_nil hname).elim
  | cons t ts ih =>
      intro i
      obtain ⟨places, hplaces, hnames⟩ := h t List.mem_cons_self
      obtain ⟨later, hlater, hnames'⟩ := ih (fun u hu => h u (List.mem_cons_of_mem t hu)) (i + 1)
      refine ⟨_, hplaces.cons hlater, ?_⟩
      rw [List.map_append, List.map_map, hnames', List.flatMap_cons, ← hnames]
      rfl

/-- **The references of a type are listed from left to right:** at increasing paths, which are all
the paths to a reference. -/
theorem exists_locates (t : CType) :
    ∃ places, Locates t.RefersAt places ∧ places.map Prod.snd = t.references := by
  by_cases hnamed : t.isNamed = false
  · have hparts : ∀ u ∈ t.parts, ∃ places, Locates u.RefersAt places ∧
        places.map Prod.snd = u.references := fun u hu =>
      have := sizeOf_lt_of_mem_parts hu
      exists_locates u
    obtain ⟨places, hplaces, hnames⟩ := exists_locates_referIn hparts 0
    refine ⟨places, ⟨hplaces.increasing, fun path name => ?_⟩, ?_⟩
    · rw [hplaces.mem_iff, refersAt_iff_referIn hnamed]
    · rw [hnames, references_eq_flatMap_parts hnamed]
  · cases t with
    | named n =>
        refine ⟨[([], n)], ⟨List.pairwise_singleton _ _, fun path name => ?_⟩, rfl⟩
        rw [refersAt_named_iff, List.mem_singleton, Prod.mk.injEq]
    | _ => exact absurd rfl hnamed
  termination_by sizeOf t

end DebugTypes.CType
