import DebugTypes.Proofs.Declaration.Spelling

/-!
# What the reader makes of pieces

## Main definitions

* `Declaration.Opens ps` — pieces that carry on no specifier in front of them.
* `Declaration.Specifies s t` — the text `s` is a base that specifies `t`.
* `Declaration.Core` — what the lengths and parameter lists of a declarator stand behind.

## Main statements

* `declaration?_base`, `declaration?_qualified` — a specifier is read up to its declarator.
* `declarator?_lengths`, `declarator?_function`, `declarator?_functionPointer` — a core with what
  stands behind it.
-/

namespace DebugTypes.Declaration

/-! ## Words -/

section

variable {w : String}

theorem not_mem_reserved (h : isName w = true) : w ∉ reserved := by
  rw [isName, Bool.and_eq_true, Bool.not_eq_true', List.contains_eq_mem,
    decide_eq_false_iff_not] at h
  exact h.2

/-- A name is one word. -/
theorem spells_name (h : isName w = true) : Spells w [word w] := by
  rw [isName, Bool.and_eq_true, Bool.and_eq_true] at h
  exact spells_word h.1.1

theorem qualifier?_word (h : w ∉ reserved) : qualifier? (word w) = none := by
  refine List.find?_eq_none.2 fun q _ hq => h ?_
  rw [← beq_iff_eq.1 hq]
  cases q <;> decide

theorem typeWord?_word (h : w ∉ reserved) : typeWord? (word w) = none := by
  refine if_neg fun hw => h ?_
  exact List.mem_append_right _ (by simpa using hw)

theorem composite?_eq_none (h : w ∉ reserved) : composite? w = none := by
  have hne : ∀ r ∈ reserved, w ≠ r := fun r hr hw => h (hw ▸ hr)
  rw [composite?, if_neg (hne _ (by decide)), if_neg (hne _ (by decide)),
    if_neg (hne _ (by decide))]

theorem ne_stdcall (h : w ∉ reserved) : w ≠ "__stdcall" := fun hw => h (by rw [hw]; decide)

end

section

variable {α : Type} {f : Piece → Option α}

theorem leading_of_head {ps : List Piece} (h : ∀ p ∈ ps.head?, f p = none) :
    leading f ps = ([], ps) := by
  cases ps with
  | nil => rfl
  | cons p ps => rw [leading, h p rfl]

/-- Pieces with results in front of one without. -/
theorem leading_map_append {β : Type} {as : List β} {g : β → Piece} {r : β → α}
    (h : ∀ a ∈ as, f (g a) = some (r a)) {ps : List Piece} (hps : ∀ p ∈ ps.head?, f p = none) :
    leading f (as.map g ++ ps) = (as.map r, ps) := by
  induction as with
  | nil => exact leading_of_head hps
  | cons a as ih =>
      rw [List.map_cons, List.cons_append, leading, h a List.mem_cons_self]
      simp only [ih fun b hb => h b (List.mem_cons_of_mem a hb), List.map_cons]

end

/-! ## Specifiers -/

/-- Pieces that carry on no specifier in front of them. -/
def Opens (ps : List Piece) : Prop := ∀ p ∈ ps.head?, qualifier? p = none ∧ typeWord? p = none

/-- A text that is a base, which specifies a type in front of any declarator. -/
def Specifies (s : String) (t : CType) : Prop :=
  ∃ ps, Spells s ps ∧ ∀ ds, Opens ds →
    (∀ p ∈ (ps ++ ds).head?, qualifier? p = none) ∧ takeBase (ps ++ ds) = (some t, ds)

/-- The words that spell a scalar type. -/
def primitiveWords (p : Primitive) : List String := Text.wordsOf p.spelling

theorem specifies_primitive (p : Primitive) : Specifies p.spelling (.primitive p) := by
  have htype : ∀ w ∈ primitiveWords p, typeWords.contains w = true := by cases p <;> decide
  have hread : primitive? (primitiveWords p) = some (.primitive p) := by cases p <;> decide
  have hspelled : Spells p.spelling ((primitiveWords p).map word) := by
    have hwords : ∀ w ∈ primitiveWords p, isWord w = true := by cases p <;> decide
    have hjoin : " ".intercalate (primitiveWords p) = p.spelling := by cases p <;> decide
    rw [← hjoin]
    exact spells_words hwords
  refine ⟨(primitiveWords p).map word, hspelled, fun ds hds => ?_⟩
  have hwords : leading typeWord? ((primitiveWords p).map word ++ ds) = (primitiveWords p, ds) := by
    have hread : ∀ w ∈ primitiveWords p, typeWord? (word w) = some (id w) :=
      fun w hw => if_pos (htype w hw)
    rw [leading_map_append hread fun q hq => (hds q hq).2, List.map_id]
  cases hp : primitiveWords p with
  | nil => cases p <;> exact absurd hp (by decide)
  | cons w ws =>
      rw [hp] at hwords htype hread
      have hqualifier : ∀ w ∈ typeWords, qualifier? (word w) = none := by decide
      constructor
      · rintro q ⟨⟩
        exact hqualifier w (by simpa using htype w List.mem_cons_self)
      · rw [takeBase, hwords]
        exact congrArg (·, ds) hread

theorem specifies_named {n : String} (h : isName n = true) : Specifies n (.named n) := by
  have hn := not_mem_reserved h
  refine ⟨[word n], spells_name h, fun ds _ => ⟨?_, ?_⟩⟩
  · rintro p ⟨⟩
    exact qualifier?_word hn
  · have hwords : leading typeWord? (word n :: ds) = ([], word n :: ds) :=
      leading_of_head (by rintro p ⟨⟩; exact typeWord?_word hn)
    rw [List.singleton_append, takeBase, hwords]
    simp only [takeNamed, composite?_eq_none hn, h, if_true]

/-- The abbreviated body of a composite type. -/
theorem specifies_composite (keyword : String) {t : CType} (h : composite? keyword = some t) :
    Specifies (keyword ++ " \x7b ... \x7d") t := by
  have hkeyword : keyword = "struct" ∨ keyword = "union" ∨ keyword = "enum" := by
    unfold composite? at h
    split at h
    · exact .inl ‹_›
    split at h
    · exact .inr (.inl ‹_›)
    split at h
    · exact .inr (.inr ‹_›)
    · exact absurd h (by simp)
  have hspelled : tokens (keyword ++ " \x7b ... \x7d") = listTokens
      [word keyword, mark '\x7b', mark '.', mark '.', mark '.', mark '\x7d'] := by
    rcases hkeyword with rfl | rfl | rfl <;> rfl
  have htype : typeWord? (word keyword) = none := by
    rcases hkeyword with rfl | rfl | rfl <;> rfl
  refine ⟨[word keyword, mark '\x7b', mark '.', mark '.', mark '.', mark '\x7d'],
    ⟨hspelled, ?_⟩, fun ds hds => ⟨?_, ?_⟩⟩
  · intro q hq
    simp only [List.mem_cons, List.not_mem_nil, or_false] at hq
    rcases hq with rfl | rfl | rfl | rfl | rfl | rfl <;> rfl
  · rintro q ⟨⟩
    rcases hkeyword with rfl | rfl | rfl <;> rfl
  · rw [takeBase, leading_of_head (by rintro q ⟨⟩; exact htype)]
    simp only [List.cons_append, takeNamed, h]
    rfl

/-! ## Qualifiers -/

/-- The pieces of a set of qualifiers. -/
def qualifierPieces (q : Qualifiers) : List Piece := q.toList.map fun a => word a.spelling

theorem spells_qualifiers (q : Qualifiers) : Spells q.spelling (qualifierPieces q) := by
  have hwords : ∀ w ∈ q.toList.map Qualifier.spelling, isWord w = true := by
    intro w hw
    obtain ⟨a, -, rfl⟩ := List.mem_map.1 hw
    cases a <;> decide
  have h := spells_words hwords
  rwa [List.map_map] at h

/-- Qualifiers are read up to something else. -/
theorem leading_qualifiers (q : Qualifiers) {ps : List Piece}
    (h : ∀ p ∈ ps.head?, qualifier? p = none) :
    leading qualifier? (qualifierPieces q ++ ps) = (q.toList, ps) := by
  have hread : ∀ a ∈ q.toList, qualifier? (word a.spelling) = some (id a) := by
    intro a _
    cases a <;> decide
  rw [qualifierPieces, leading_map_append hread h, List.map_id]

/-- A set with members is put around a type, and one without is not. -/
theorem qualify_toList {q : Qualifiers} (h : q ≠ .empty) (t : CType) :
    qualify q.toList t = .qualified t q := by
  cases hq : q.toList with
  | nil =>
      have hempty := Qualifiers.ofList_toList q
      rw [hq] at hempty
      exact absurd hempty.symm h
  | cons a as => rw [qualify, ← hq, Qualifiers.ofList_toList]; exact fun h => by cases h

/-! ## Declarations and declarators -/

/-- A base is read up to its declarator. -/
theorem declaration?_base {t : CType} {ps ds : List Piece}
    (h : (∀ p ∈ (ps ++ ds).head?, qualifier? p = none) ∧ takeBase (ps ++ ds) = (some t, ds)) :
    declaration? (ps ++ ds) = declarator? t ds := by
  rw [declaration?, takeSpecifier, leading_of_head h.1]
  simp only [h.2, Option.map_some, Option.bind_some, qualify]

/-- A base with qualifiers in front is read up to its declarator. -/
theorem declaration?_qualified {t : CType} {ps ds : List Piece}
    (h : (∀ p ∈ (ps ++ ds).head?, qualifier? p = none) ∧ takeBase (ps ++ ds) = (some t, ds))
    {q : Qualifiers} (hq : q ≠ .empty) :
    declaration? (qualifierPieces q ++ (ps ++ ds)) = declarator? (.qualified t q) ds := by
  rw [declaration?, takeSpecifier, leading_qualifiers q h.1]
  simp only [h.2, Option.map_some, Option.bind_some, qualify_toList hq]

theorem declarator?_star (t : CType) (ps : List Piece) :
    declarator? t (mark '*' :: ps) =
      declarator? (qualify (leading qualifier? ps).1 (.pointer t)) (leading qualifier? ps).2 := by
  rw [mark, declarator?]

/-- A star makes a pointer. -/
theorem declarator?_pointer (t : CType) {ds : List Piece} (h : Opens ds) :
    declarator? t (mark '*' :: ds) = declarator? (.pointer t) ds := by
  rw [declarator?_star, leading_of_head fun p hp => (h p hp).1]
  rfl

/-- A star with qualifiers behind it makes a pointer with these qualifiers. -/
theorem declarator?_qualifiedPointer (t : CType) {q : Qualifiers} (hq : q ≠ .empty)
    {ds : List Piece} (h : Opens ds) :
    declarator? t (mark '*' :: (qualifierPieces q ++ ds)) =
      declarator? (.qualified (.pointer t) q) ds := by
  rw [declarator?_star, leading_qualifiers q fun p hp => (h p hp).1, qualify_toList hq]

theorem declarator?_of_not_opensWithStar {ps : List Piece} (h : opensWithStar ps = false)
    (t : CType) : declarator? t ps = direct? t ps := by
  rw [declarator?]
  rintro ps' rfl
  exact absurd h (by simp [opensWithStar])

/-! ## Lengths and parameter lists -/

/-- Lengths are applied from the last to the first. -/
theorem suffixes?_lengths (t : CType) (ns : List UInt64) :
    suffixes? .default t (ns.flatMap lengthPieces) =
      some (ns.foldr (fun n u => .array u n) t) := by
  induction ns with
  | nil => rw [List.flatMap_nil, suffixes?]; rfl
  | cons n ns ih =>
      have hn : Text.integer? UInt64 n.toNat.repr = some n := by
        rw [Text.integer?_uint64 n.toNat_lt, UInt64.ofNat_toNat]
      rw [List.flatMap_cons, lengthPieces, List.cons_append, List.cons_append, List.cons_append,
        List.nil_append, mark, word, mark, suffixes?, if_pos rfl, ih, hn]
      rfl

/-- A group that is read as a list of parameters, not as a declarator. -/
structure ReadsParameters (part : List Piece) (parts : List (List Piece)) (ps : List CType) :
    Prop where
  plain : opensWithStar (takeConvention part).2 = false
  types : (if isVoid part && parts.isEmpty then some [] else parameters? (part :: parts)) = some ps

theorem suffixes?_parameters {part : List Piece} {parts : List (List Piece)} {ps : List CType}
    (h : ReadsParameters part parts ps) (c : Convention) (t : CType) :
    suffixes? c t [.group part parts] = some (.function t c ps) := by
  have hend : suffixes? .default t [] = some t := by rw [suffixes?]; rfl
  rw [suffixes?, hend, Option.bind_some, h.types]
  rfl

/-! ## Cores -/

/-- The pieces of a convention's keyword. -/
def conventionPieces (c : Convention) : List Piece := (c.keyword?.map word).toList

theorem takeConvention_append (c : Convention) {ps : List Piece}
    (h : ∀ p ∈ ps.head?, p ≠ word "__stdcall") :
    takeConvention (conventionPieces c ++ ps) = (c, ps) := by
  cases c with
  | stdcall => rfl
  | default =>
      change takeConvention ps = (.default, ps)
      unfold takeConvention
      split
      · rename_i w ps
        exact if_neg fun hw => h (word w) rfl (by rw [hw])
      · rfl

/-- What lengths and parameter lists stand behind: nothing, a name, or a group that opens with a
star. -/
inductive Core where
  | absent
  | name (n : String)
  | group (ds : List Piece)

namespace Core

/-- The pieces of a core. -/
def pieces : Core → List Piece
  | absent => []
  | name n => [word n]
  | group ds => [.group (mark '*' :: ds) []]

/-- What a core declares to have a type. -/
def declares (t : CType) : Core → Option (CType × Option String)
  | absent => some (t, none)
  | name n => some (t, some n)
  | group ds => declarator? t (mark '*' :: ds)

/-- A core whose name is one. -/
def Valid : Core → Prop
  | name n => isName n = true
  | _ => True

end Core

theorem direct?_of_not_group {ps : List Piece} (h : ∀ part rest, ps ≠ .group part [] :: rest)
    (t : CType) :
    direct? t ps = (suffixes? (takeConvention ps).1 t (takeName (takeConvention ps).2).2).map
      (·, (takeName (takeConvention ps).2).1) := by
  rw [direct?]
  exact h

/-- A name in front of lengths or a parameter list. -/
theorem direct?_name {n : String} (h : isName n = true) (c : Convention) (t : CType)
    (rest : List Piece) :
    direct? t (conventionPieces c ++ word n :: rest) = (suffixes? c t rest).map (·, some n) := by
  have hhead : ∀ p ∈ (word n :: rest).head?, p ≠ word "__stdcall" := by
    rintro p ⟨⟩ hp
    exact ne_stdcall (not_mem_reserved h) (by simpa [word] using hp)
  have hname : takeName (word n :: rest) = (some n, rest) := if_pos h
  rw [direct?_of_not_group, takeConvention_append c hhead, hname]
  intro part rest
  cases c <;> simp [conventionPieces, Convention.keyword?, word]

/-- A group that opens with a star, or with a keyword and a star. -/
theorem direct?_group (c : Convention) (t : CType) (ds rest : List Piece) :
    direct? t (.group (conventionPieces c ++ mark '*' :: ds) [] :: rest) =
      (suffixes? c t rest).bind fun u => declarator? u (mark '*' :: ds) := by
  have hconvention : takeConvention (conventionPieces c ++ mark '*' :: ds) =
      (c, mark '*' :: ds) := takeConvention_append c (by rintro p ⟨⟩ hp; cases hp)
  rw [direct?, hconvention]
  rfl

theorem takeName_of_head {ps : List Piece} (h : ∀ p ∈ ps.head?, ∀ w, p ≠ word w) :
    takeName ps = (none, ps) := by
  unfold takeName
  split
  · rename_i w ps
    exact absurd rfl (h (word w) rfl w)
  · rfl

/-- No name in front of lengths or a parameter list. -/
theorem direct?_absent {rest : List Piece} (h : ∀ p ∈ rest.head?, ∀ w, p ≠ word w)
    (hgroup : ∀ part more, rest = .group part [] :: more →
      opensWithStar (takeConvention part).2 = false)
    (c : Convention) (t : CType) :
    direct? t (conventionPieces c ++ rest) = (suffixes? c t rest).map (·, none) := by
  have hconvention : takeConvention (conventionPieces c ++ rest) = (c, rest) :=
    takeConvention_append c fun p hp => h p hp _
  by_cases hrest : ∃ part more, conventionPieces c ++ rest = .group part [] :: more
  · obtain ⟨part, more, hrest⟩ := hrest
    cases c with
    | stdcall => exact absurd (List.cons.inj hrest).1 (by simp [word])
    | default =>
        change rest = _ at hrest
        subst hrest
        change direct? t (.group part [] :: more) = _
        rw [direct?, hgroup part more rfl, if_neg (by decide)]
  · rw [direct?_of_not_group (fun part more hps => hrest ⟨part, more, hps⟩), hconvention,
      takeName_of_head h]

/-- A core with lengths behind it. -/
theorem declarator?_lengths {core : Core} (h : core.Valid) (t : CType) (ns : List UInt64) :
    declarator? t (core.pieces ++ ns.flatMap lengthPieces) =
      core.declares (ns.foldr (fun n u => .array u n) t) := by
  cases core with
  | absent =>
      have hopens : opensWithStar (ns.flatMap lengthPieces) = false := by cases ns <;> rfl
      have hword : ∀ p ∈ (ns.flatMap lengthPieces).head?, ∀ w, p ≠ word w := by
        intro p hp w hw
        cases ns with
        | nil => exact absurd hp (by simp)
        | cons n ns => cases hp; cases hw
      have hgroup : ∀ part more, ns.flatMap lengthPieces ≠ .group part [] :: more := by
        intro part more
        cases ns <;> simp [lengthPieces, mark]
      have hdirect := direct?_absent hword (fun part more hps => absurd hps (hgroup part more))
        .default t
      rw [suffixes?_lengths] at hdirect
      exact (declarator?_of_not_opensWithStar hopens t).trans hdirect
  | name n =>
      have hdirect := direct?_name h .default t (ns.flatMap lengthPieces)
      rw [suffixes?_lengths] at hdirect
      exact (declarator?_of_not_opensWithStar rfl t).trans hdirect
  | group ds =>
      have hdirect := direct?_group .default t ds (ns.flatMap lengthPieces)
      rw [suffixes?_lengths] at hdirect
      exact (declarator?_of_not_opensWithStar rfl t).trans hdirect

/-- A core with nothing behind it. -/
theorem declarator?_core {core : Core} (h : core.Valid) (t : CType) :
    declarator? t core.pieces = core.declares t := by
  have hlengths := declarator?_lengths h t []
  rwa [List.flatMap_nil, List.append_nil] at hlengths

/-- A core with a parameter list behind it, where a keyword stands in front of all of it. -/
theorem declarator?_function {core : Core} (h : core.Valid) (hcore : ∀ ds, core ≠ .group ds)
    {part : List Piece} {parts : List (List Piece)} {ps : List CType}
    (hps : ReadsParameters part parts ps) (c : Convention) (t : CType) :
    declarator? t (conventionPieces c ++ (core.pieces ++ [.group part parts])) =
      core.declares (.function t c ps) := by
  have hopens :
      opensWithStar (conventionPieces c ++ (core.pieces ++ [.group part parts])) = false := by
    cases c <;> cases core <;> rfl
  rw [declarator?_of_not_opensWithStar hopens]
  cases core with
  | absent =>
      rw [Core.pieces, List.nil_append, direct?_absent, suffixes?_parameters hps]
      · rfl
      · rintro p ⟨⟩ w hw
        cases hw
      · intro part' more hmore
        cases hmore
        exact hps.plain
  | name n =>
      rw [Core.pieces, List.singleton_append, direct?_name h, suffixes?_parameters hps]
      rfl
  | group ds => exact absurd rfl (hcore ds)

/-- A pointer to a function. -/
theorem declarator?_functionPointer {part : List Piece} {parts : List (List Piece)}
    {ps : List CType} (hps : ReadsParameters part parts ps) (c : Convention) (t : CType)
    (ds : List Piece) :
    declarator? t [.group (conventionPieces c ++ mark '*' :: ds) [], .group part parts] =
      declarator? (.function t c ps) (mark '*' :: ds) := by
  rw [declarator?_of_not_opensWithStar rfl, direct?_group, suffixes?_parameters hps]
  rfl

end DebugTypes.Declaration
