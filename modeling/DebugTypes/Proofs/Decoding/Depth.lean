import DebugTypes.Proofs.CType.Depth
import DebugTypes.Proofs.Decoding.Yields

/-!
# How deep decoded types nest

One record adds at most `levelDepth` levels to a tree: a wrap chain of at most `wrapLimit`
operators, a qualifier set, and the struct, union or bit-field around them.  Every further record on
a path takes a look-up, so that the depth of a tree is bounded by the look-ups behind it.
-/

namespace DebugTypes

/-- The greatest number of levels that one record adds to a path. -/
def levelDepth : Nat := wrapLimit + 2

/-- The bound on the depth of answers, by the look-ups behind them.  A struct or union stands one
level above its members. -/
def DepthBounded : AnswerProperty
  | .functions, trace, (ts : List CType) =>
    ∀ t ∈ ts, t.depth ≤ levelDepth * (1 + trace.length)
  | .unnamed, trace, (t : CType) => t.depth ≤ 1 + levelDepth * (1 + trace.length)

namespace Record

open Recipe

/-- A base is a leaf, or an unnamed type that took a look-up. -/
theorem depth_base (text : String) :
    (base text).Yields DepthBounded fun trace t =>
      t.depth ≤ 1 + levelDepth * trace.length := by
  rw [base, bind_eq, yields_bind, yields_ofExcept]
  rintro (p | n | id) -
  · simp [CType.depth]
  · simp [CType.depth]
  · intro record trace t ht
    have ht : CType.depth t ≤ 1 + levelDepth * (1 + trace.length) := ht
    simpa [Nat.add_comm] using ht

/-- Each token of a wrap chain adds at most one level, and parameters bring their own look-ups. -/
theorem depth_wrapTokens (text : String) (tokens : List String) (t : CType) :
    (wrapTokens text tokens t).Yields DepthBounded fun trace u =>
      u.depth ≤ tokens.length + max t.depth (levelDepth * trace.length) := by
  fun_induction wrapTokens text tokens t with
  | case1 t => simp
  | case2 t token rest hop ih =>
      refine ih.mono fun trace u hu => ?_
      simp only [CType.depth, List.length_cons] at hu ⊢
      omega
  | case3 t token hop => simp
  | case4 t token operand rest hop ih =>
      rw [bind_eq, yields_bind, yields_ofExcept]
      intro n _
      refine (ih n).mono fun trace u hu => ?_
      simp only [CType.depth, List.length_cons, List.nil_append] at hu ⊢
      omega
  | case5 t token convention operand rest hop ih =>
      rw [bind_eq, yields_bind, yields_ofExcept]
      intro id _ record trace ts hts
      refine (ih ts).mono fun later u hu => ?_
      have hps := CType.parametersDepth_le hts
      simp only [CType.depth, List.length_cons, List.nil_append, List.length_append] at hu ⊢
      have hmul :
          levelDepth * (1 + trace.length) ≤ levelDepth * (trace.length + later.length + 1) :=
        Nat.mul_le_mul_left _ (by omega)
      have hmul' : levelDepth * later.length ≤ levelDepth * (trace.length + later.length + 1) :=
        Nat.mul_le_mul_left _ (by omega)
      omega

theorem depth_wrap (text : String) (t : CType) :
    (wrap text t).Yields DepthBounded fun trace u =>
      u.depth ≤ wrapLimit + max t.depth (levelDepth * trace.length) := by
  simp only [wrap]
  split
  · trivial
  · refine (depth_wrapTokens text (Text.wordsOf text) t).mono fun trace u hu => ?_
    omega

theorem depth_qualify (record : Element) (t : CType) :
    (qualify record t).Yields DepthBounded fun trace u =>
      trace = [] ∧ u.depth ≤ 1 + t.depth := by
  rw [qualify]
  split
  · simp
  · rw [bind_eq, yields_bind, yields_ofExcept]
    intro q _
    simp [CType.depth, Nat.add_comm]

/-- What is inside a wrap chain: a base with its qualifiers. -/
theorem depth_type_unwrapped (record : Element) :
    (type record false).Yields DepthBounded fun trace t =>
      t.depth ≤ 2 + levelDepth * trace.length := by
  rw [type, bind_eq, yields_bind, yields_ofExcept]
  intro text _
  rw [bind_eq, yields_bind]
  refine (depth_base text).mono fun trace t ht => ?_
  rw [bind_eq, yields_bind]
  refine (depth_qualify record t).mono fun later u hu => ?_
  obtain ⟨rfl, hu⟩ := hu
  change u.depth ≤ 2 + levelDepth * (trace ++ ([] ++ [])).length
  rw [List.append_nil, List.append_nil]
  omega

/-- A type with its wrap chain is what the chain makes of the type without it. -/
theorem type_wrapped (record : Element) :
    type record true = (type record false).bind fun t =>
      match record.attribute? "wrap" with
      | none => pure t
      | some text => wrap text t := by
  rw [type, type, bind_eq, bind_eq, bind_assoc]
  congr 1
  funext text
  rw [bind_eq, bind_eq, bind_assoc]
  congr 1
  funext t
  rw [bind_eq, bind_eq, bind_assoc]
  congr 1

/-- A wrap chain keeps a type within the levels of one record. -/
theorem depth_type (record : Element) (wrapped : Bool) :
    (type record wrapped).Yields DepthBounded fun trace t =>
      t.depth ≤ levelDepth * (1 + trace.length) := by
  have hlevel : levelDepth = wrapLimit + 2 := rfl
  cases wrapped
  · refine (depth_type_unwrapped record).mono fun trace t ht => ?_
    rw [Nat.mul_add]
    omega
  · rw [type_wrapped, yields_bind]
    refine (depth_type_unwrapped record).mono fun trace t ht => ?_
    split
    · simp only [pure_eq, yields_done, List.append_nil]
      rw [Nat.mul_add]
      omega
    · refine (depth_wrap _ t).mono fun later u hu => ?_
      rw [List.length_append, Nat.mul_add, Nat.mul_add]
      omega

theorem depth_member (record : Element) :
    (member record).Yields DepthBounded fun trace t =>
      t.depth ≤ levelDepth * (1 + trace.length) := by
  have hlevel : levelDepth = 1026 := rfl
  rw [member]
  split
  · rw [bind_eq, yields_bind]
    refine (depth_type_unwrapped record).mono fun trace t ht => ?_
    rw [bind_eq, yields_bind, yields_ofExcept]
    intro width _
    simp only [pure_eq, yields_done, List.append_nil, CType.depth]
    rw [Nat.mul_add]
    omega
  · exact depth_type record true

end Record

/-- Bounds by the look-ups of single items hold by the look-ups of all of them. -/
theorem Each.depth_le {ι β : Type} {f : β → Nat} {is : List ι} {trace : List Lookup}
    {bs : List β}
    (h : Each (fun _ trace b => f b ≤ levelDepth * (1 + trace.length)) is trace bs) :
    ∀ b ∈ bs, f b ≤ levelDepth * (1 + trace.length) := by
  induction h with
  | nil => simp
  | @cons i is trace later b bs head tail ih =>
      have hhead : levelDepth * (1 + trace.length) ≤ levelDepth * (1 + (trace ++ later).length) :=
        Nat.mul_le_mul_left _ (by simp)
      have htail : levelDepth * (1 + later.length) ≤ levelDepth * (1 + (trace ++ later).length) :=
        Nat.mul_le_mul_left _ (by simp)
      intro x hx
      rcases List.mem_cons.mp hx with rfl | hx
      · exact Nat.le_trans head hhead
      · exact Nat.le_trans (ih x hx) htail

namespace Record

open Recipe

theorem depth_members (records : List Element) :
    (records.mapM' namedMember).Yields DepthBounded fun trace ms =>
      CType.membersDepth ms ≤ levelDepth * (1 + trace.length) := by
  have hmember : ∀ record ∈ records, (namedMember record).Yields DepthBounded fun trace m =>
      m.2.depth ≤ levelDepth * (1 + trace.length) := by
    intro record _
    rw [namedMember, bind_eq, yields_bind, yields_ofExcept]
    intro name _
    rw [bind_eq, yields_bind]
    refine (depth_member record).mono fun trace t ht => ?_
    simpa using ht
  refine (yields_mapM' hmember).mono fun trace ms hms => ?_
  exact CType.membersDepth_le (Each.depth_le (f := fun m : String × CType => m.2.depth) hms)

theorem depth_group (record : Element) :
    (group record).Yields DepthBounded fun trace t =>
      t.depth ≤ 1 + levelDepth * (1 + trace.length) := by
  rw [group]
  split
  · rw [bind_eq, yields_bind, yields_ofExcept]
    intro constants _
    simp [CType.depth]
  · rw [bind_eq, yields_bind]
    refine (depth_members record.children).mono fun trace ms hms => ?_
    simpa [CType.depth, Nat.add_comm] using hms
  · rw [bind_eq, yields_bind]
    refine (depth_members record.children).mono fun trace ms hms => ?_
    simpa [CType.depth, Nat.add_comm] using hms
  · trivial

theorem depth_parameters (record : Element) :
    (parameters record).Yields DepthBounded fun trace ts =>
      ∀ t ∈ ts, t.depth ≤ levelDepth * (1 + trace.length) := by
  refine (yields_mapM' fun parameter _ => depth_type parameter true).mono fun trace ts hts => ?_
  exact Each.depth_le hts

/-- Every record keeps the bound on the depth of answers. -/
theorem depth_content (place : Section) (record : Element) :
    (content place record).Yields DepthBounded (DepthBounded place) := by
  cases place
  · exact depth_parameters record
  · exact depth_group record

theorem depth_namedGroup (record : Element) :
    (namedGroup record).Yields DepthBounded fun trace named =>
      named.2.depth ≤ 1 + levelDepth * (1 + trace.length) := by
  rw [namedGroup, bind_eq, yields_bind, yields_ofExcept]
  intro name _
  rw [bind_eq, yields_bind]
  refine (depth_group record).mono fun trace t ht => ?_
  simpa using ht

end Record

end DebugTypes
