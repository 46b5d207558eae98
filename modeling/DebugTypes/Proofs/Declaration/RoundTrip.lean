import DebugTypes.Proofs.Declaration.Reading

/-!
# Declarations read back

What is written as the declaration of a type is read, by C's rules for declarators, as that type
with the declared name.  The members of structs, unions and enums are not written, so they are not
read either.

A declaration is written from the inside out and read from the outside in.  What carries the
induction is therefore a statement about any declarator: reading what a type makes of a declarator
comes to reading that declarator with the type to start from.

## Main definitions

* `CType.isDeclaration t` — a type that C can declare, with names that are no other words.
* `CType.abbreviated t` — the type without the members of its structs, unions and enums.
* `Declaration.Faithful t` — reading what `t` makes of a declarator is reading the declarator.

## Main statements

* `Declaration.faithful` — every type that C can declare is faithful.
* `Declaration.read?_declare` — the declaration of such a type declares it.
-/

namespace DebugTypes

namespace CType

/-- A type that a specifier without qualifiers can give. -/
def isBase (t : CType) : Bool := t.kind == .primitive || t.kind == .named || t.isComposite

/-- A type that a specifier can give. -/
def isSpecifier : CType → Bool
  | qualified t _ => t.isBase
  | t => t.isBase

/-- The list of parameters that is written as the empty one is. -/
def isSoleVoid : List CType → Bool
  | [primitive .void] => true
  | _ => false

mutual

/-- A type that C can declare: qualifiers stand around bases and pointers, and functions are no
elements and return neither functions nor arrays. -/
def isDeclarable : CType → Bool
  | primitive _ => true
  | named n => Declaration.isName n
  | struct _ => true
  | union _ => true
  | enum _ => true
  | pointer t => isDeclarable t
  | array t _ => isDeclarable t && t.kind != .function
  | function t _ ps =>
    isDeclarable t && t.kind != .function && t.kind != .array && areDeclarable ps && !isSoleVoid ps
  | qualified t q => isDeclarable t && (t.isBase || t.isPointer) && q != .empty
  | bitField _ _ => false

/-- Types that C can declare. -/
def areDeclarable : List CType → Bool
  | [] => true
  | t :: ts => isDeclarable t && areDeclarable ts

end

/-- A type that C can declare, or a bit-field of a specified type. -/
def isDeclaration : CType → Bool
  | bitField t _ => isDeclarable t && t.isSpecifier
  | t => isDeclarable t

mutual

/-- The type without the members of its structs, unions and enums. -/
def abbreviated : CType → CType
  | primitive p => primitive p
  | named n => named n
  | struct _ => struct []
  | union _ => union []
  | enum _ => enum []
  | pointer t => pointer (abbreviated t)
  | array t n => array (abbreviated t) n
  | function t c ps => function (abbreviated t) c (abbreviatedAll ps)
  | qualified t q => qualified (abbreviated t) q
  | bitField t n => bitField (abbreviated t) n

/-- Types without the members of their structs, unions and enums. -/
def abbreviatedAll : List CType → List CType
  | [] => []
  | t :: ts => abbreviated t :: abbreviatedAll ts

end

theorem kind_of_isBase {t : CType} (h : t.isBase = true) :
    t.kind ≠ .function ∧ t.kind ≠ .array ∧ t.isPointer = false ∧ t.bindsTighter = false ∧
      ∀ q, (t.qualified q).bindsTighter = false := by
  cases t <;> simp_all [isBase, isComposite, isPointer, kind, bindsTighter]

/-- A pointer to anything but a function puts its star in front, in parentheses where that is
needed. -/
theorem declare_pointer {t : CType} (h : t.kind ≠ .function) (d : String) :
    (pointer t).declare d =
      t.declare (if t.bindsTighter then parenthesise ("*" ++ d) else "*" ++ d) := by
  rw [declare]
  rintro result c ps rfl
  exact h rfl

end CType

namespace Declaration

open CType

/-! ## What carries the induction -/

/-- The declarators that a type is given: those of arrays and functions come from a core. -/
def Fits (t : CType) (ds : List Piece) : Prop :=
  match t.kind with
  | .array =>
    ∃ (core : Core) (ns : List UInt64), core.Valid ∧ ds = core.pieces ++ ns.flatMap lengthPieces
  | .function => ∃ core : Core, core.Valid ∧ (∀ ds', core ≠ .group ds') ∧ ds = core.pieces
  | _ => Opens ds

/-- A text is read as the declarator `ds` is that starts from `t`. -/
def Declares (s : String) (t : CType) (ds : List Piece) : Prop :=
  ∃ ps, Spells s ps ∧ declaration? ps = declarator? t ds

/-- Reading what a type makes of a declarator is reading the declarator, and so for a pointer to the
type. -/
structure Faithful (t : CType) : Prop where
  itself : ∀ d ds, Spells d ds → Fits t ds → Declares (t.declare d) t.abbreviated ds
  pointed : ∀ d ds, Spells d ds →
    Declares ((pointer t).declare d) t.abbreviated (mark '*' :: ds)

theorem opens_star (ds : List Piece) : Opens (mark '*' :: ds) := by
  rintro p ⟨⟩
  exact ⟨rfl, rfl⟩

theorem Fits.opens {t : CType} (harray : t.kind ≠ .array) (hfunction : t.kind ≠ .function)
    {ds : List Piece} : Fits t ds ↔ Opens ds := by
  unfold Fits
  split
  · exact absurd ‹_› harray
  · exact absurd ‹_› hfunction
  · exact Iff.rfl

/-- A type other than a function has its stars in front. -/
theorem faithful_of_itself {t : CType} (hfunction : t.kind ≠ .function)
    (htight : t.bindsTighter = (t.kind == .array))
    (h : ∀ d ds, Spells d ds → Fits t ds → Declares (t.declare d) t.abbreviated ds) :
    Faithful t := by
  refine ⟨h, fun d ds hd => ?_⟩
  rw [declare_pointer hfunction, htight]
  by_cases harray : t.kind = .array
  · rw [if_pos (beq_iff_eq.2 harray)]
    have hgroup : Spells (parenthesise ("*" ++ d)) (Core.group ds).pieces :=
      Spells.grouped (by rw [hd.starred.eq]; exact (List.append_nil _).symm)
    have hfits : Fits t (Core.group ds).pieces := by
      unfold Fits
      rw [harray]
      exact ⟨.group ds, [], trivial, (List.append_nil _).symm⟩
    obtain ⟨ps, hps, hread⟩ := h _ _ hgroup hfits
    have hvalid : (Core.group ds).Valid := trivial
    exact ⟨ps, hps, hread.trans (declarator?_core hvalid t.abbreviated)⟩
  · rw [if_neg (by simpa using harray)]
    exact h _ _ hd.starred ((Fits.opens harray hfunction).2 (opens_star ds))

/-- The declarator of a type that stands alone: a name, or nothing. -/
def nameCore : Option String → Core
  | none => .absent
  | some n => .name n

theorem opens_core {core : Core} (h : core.Valid) {ps : List Piece} (hps : Opens ps) :
    Opens (core.pieces ++ ps) := by
  cases core with
  | absent => exact hps
  | name n =>
      rintro p ⟨⟩
      exact ⟨qualifier?_word (not_mem_reserved h), typeWord?_word (not_mem_reserved h)⟩
  | group ds =>
      rintro p ⟨⟩
      exact ⟨rfl, rfl⟩

theorem opens_lengths (ns : List UInt64) : Opens (ns.flatMap lengthPieces) := by
  cases ns with
  | nil => rintro p ⟨⟩
  | cons n ns =>
      rintro p ⟨⟩
      exact ⟨rfl, rfl⟩

theorem opens_nil : Opens [] := opens_lengths []

/-- A name or nothing fits every type. -/
theorem fits_nameCore (t : CType) {name : Option String} (h : (nameCore name).Valid) :
    Fits t (nameCore name).pieces := by
  unfold Fits
  split
  · exact ⟨nameCore name, [], h, (List.append_nil _).symm⟩
  · refine ⟨nameCore name, h, fun ds hds => ?_, rfl⟩
    cases name <;> cases hds
  · have hopens := opens_core h opens_nil
    rwa [List.append_nil] at hopens

theorem spells_nameCore {name : Option String} (h : (nameCore name).Valid) :
    Spells (name.getD "") (nameCore name).pieces := by
  cases name with
  | none => exact spells_nil
  | some n => exact spells_name h

/-- The declaration of a faithful type declares it. -/
theorem Faithful.declaration?_eq {t : CType} (h : Faithful t) {name : Option String}
    (hname : (nameCore name).Valid) :
    ∃ ps, Spells (t.declare (name.getD "")) ps ∧ declaration? ps = some (t.abbreviated, name) := by
  obtain ⟨ps, hps, hread⟩ := h.itself _ _ (spells_nameCore hname) (fits_nameCore t hname)
  refine ⟨ps, hps, hread.trans ((declarator?_core hname t.abbreviated).trans ?_)⟩
  cases name <;> rfl

namespace Faithful

variable {t : CType}

/-! ## Bases and pointers -/

/-- A type with a specifier and no more. -/
theorem base {s : String} (ht : t.isBase = true) (hdeclare : ∀ d, t.declare d = specify s d)
    (hs : Specifies s t.abbreviated) : Faithful t := by
  obtain ⟨ps, hps, hread⟩ := hs
  obtain ⟨hfunction, harray, -, htight, -⟩ := kind_of_isBase ht
  have htight : t.bindsTighter = (t.kind == .array) := by
    rw [htight, beq_eq_false_iff_ne.2 harray]
  refine faithful_of_itself hfunction htight fun d ds hd hfits => ?_
  rw [hdeclare]
  exact ⟨ps ++ ds, hps.specified hd,
    declaration?_base (hread ds ((Fits.opens harray hfunction).1 hfits))⟩

/-- A type with a specifier, and qualifiers in front of it. -/
theorem qualifiedBase {s : String} (ht : t.isBase = true)
    (hdeclare : ∀ d, t.declare d = specify s d) (hs : Specifies s t.abbreviated) {q : Qualifiers}
    (hq : q ≠ .empty) : Faithful (t.qualified q) := by
  obtain ⟨ps, hps, hread⟩ := hs
  obtain ⟨-, -, hpointer, -, htight⟩ := kind_of_isBase ht
  refine faithful_of_itself (by simp [kind]) (htight q) fun d ds hd hfits => ?_
  rw [declare, hpointer, if_neg (by decide), hdeclare]
  exact ⟨qualifierPieces q ++ (ps ++ ds), (spells_qualifiers q).specified (hps.specified hd),
    declaration?_qualified (hread ds hfits) hq⟩

theorem pointer (h : Faithful t) : Faithful t.pointer := by
  refine faithful_of_itself (by simp [kind]) rfl fun d ds hd hfits => ?_
  obtain ⟨ps, hps, hread⟩ := h.pointed d ds hd
  exact ⟨ps, hps, hread.trans (declarator?_pointer t.abbreviated hfits)⟩

theorem qualifiedPointer (h : Faithful t) {q : Qualifiers} (hq : q ≠ .empty) :
    Faithful (t.pointer.qualified q) := by
  refine faithful_of_itself (by simp [kind]) rfl fun d ds hd hfits => ?_
  obtain ⟨ps, hps, hread⟩ := h.pointed _ _ ((spells_qualifiers q).specified hd)
  have hpointer : t.pointer.isPointer = true := rfl
  rw [declare, if_pos hpointer]
  exact ⟨ps, hps, hread.trans (declarator?_qualifiedPointer t.abbreviated hq hfits)⟩

/-! ## Arrays -/

/-- A length behind the declarator of an array is that of its elements. -/
theorem array (h : Faithful t) (ht : t.kind ≠ .function) (n : UInt64) : Faithful (t.array n) := by
  refine faithful_of_itself (by simp [kind]) rfl fun d ds hd hfits => ?_
  obtain ⟨core, ns, hcore, rfl⟩ := hfits
  have hlengths : core.pieces ++ ns.flatMap lengthPieces ++ lengthPieces n =
      core.pieces ++ (ns ++ [n]).flatMap lengthPieces := by
    rw [List.flatMap_append, List.flatMap_singleton, List.append_assoc]
  have hfits : Fits t (core.pieces ++ (ns ++ [n]).flatMap lengthPieces) := by
    by_cases harray : t.kind = .array
    · unfold Fits
      rw [harray]
      exact ⟨core, ns ++ [n], hcore, rfl⟩
    · exact (Fits.opens harray ht).2 (opens_core hcore (opens_lengths _))
  have hspelled := hd.withLength n
  rw [hlengths] at hspelled
  obtain ⟨ps, hps, hread⟩ := h.itself _ _ hspelled hfits
  refine ⟨ps, by rwa [declare], ?_⟩
  rw [hread, declarator?_lengths hcore, abbreviated, declarator?_lengths hcore, List.foldr_append]
  rfl

end Faithful

/-! ## Functions -/

theorem breaks_parameterList (texts : List String) : Breaks (parameterList texts) := by
  have hopen : Breaks "(" := breaks_of_toList rfl (by decide)
  rw [parameterList, parenthesise, String.append_assoc]
  exact breaks_append hopen (by decide) _

theorem conventionPieces_takeConvention (ps : List Piece) :
    conventionPieces (takeConvention ps).1 ++ (takeConvention ps).2 = ps := by
  unfold takeConvention
  split
  · split
    next h => rw [h]; rfl
    next => rfl
  · rfl

/-- What starts with a star, or with a keyword and a star, is no declaration. -/
theorem opensWithStar_of_declaration? {ps : List Piece} {result : CType × Option String}
    (h : declaration? ps = some result) : opensWithStar (takeConvention ps).2 = false := by
  rw [← Bool.not_eq_true]
  intro hstar
  obtain ⟨more, hmore⟩ : ∃ more, (takeConvention ps).2 = mark '*' :: more := by
    unfold opensWithStar at hstar
    split at hstar
    · exact ⟨_, ‹_›⟩
    · exact absurd hstar (by decide)
  have hnone : ∀ c, (takeSpecifier (conventionPieces c ++ mark '*' :: more)).1 = none := by
    intro c
    cases c <;> rfl
  rw [← conventionPieces_takeConvention ps, hmore, declaration?, hnone] at h
  exact absurd h (by simp)

theorem eq_of_isVoid {part : List Piece} (h : isVoid part = true) : part = [word "void"] := by
  unfold isVoid at h
  split at h
  · rw [beq_iff_eq.1 h]
    rfl
  · exact absurd h (by decide)

theorem declaration?_void :
    declaration? [word "void"] = some (.primitive .void, none) := by
  have hspecifier : takeSpecifier [word "void"] = (some (.primitive .void), []) := rfl
  have habsent : Core.absent.Valid := trivial
  rw [declaration?, hspecifier]
  exact declarator?_core habsent (.primitive .void)

/-- The declarations of types with commas between them are read as these types. -/
theorem exists_parts {p : CType} {ps : List CType} (h : ∀ t ∈ p :: ps, Faithful t) :
    ∃ part parts, tokens (", ".intercalate (declareAll (p :: ps))) =
        listTokens part ++ partsTokens parts ∧
      declaration? part = some (p.abbreviated, none) ∧
      parameters? (part :: parts) = some (abbreviatedAll (p :: ps)) := by
  have hnone : (nameCore none).Valid := trivial
  obtain ⟨part, hpart, hread⟩ := (h p List.mem_cons_self).declaration?_eq hnone
  induction ps generalizing p part with
  | nil =>
      refine ⟨part, [], ?_, hread, ?_⟩
      · rw [declareAll, declareAll, String.intercalate_singleton]
        exact hpart.eq.trans (List.append_nil _).symm
      · rw [parameters?, hread, parameters?]
        rfl
  | cons q ps ih =>
      have hrest : ∀ t ∈ q :: ps, Faithful t := fun t ht => h t (List.mem_cons_of_mem p ht)
      obtain ⟨next, hnext, hreadNext⟩ := (hrest q List.mem_cons_self).declaration?_eq hnone
      obtain ⟨part', parts, hparts, -, htypes⟩ := ih hrest next hnext hreadNext
      refine ⟨part, part' :: parts, ?_, hread, ?_⟩
      · rw [declareAll, declareAll, String.intercalate_cons_cons, tokens_comma, ← declareAll,
          hparts, partsTokens, ← hpart.eq]
        rfl
      · rw [parameters?, hread, htypes]
        rfl

/-- The parameter list of faithful types is read as these types. -/
theorem exists_parameters {ps : List CType} (h : ∀ p ∈ ps, Faithful p)
    (hvoid : isSoleVoid ps = false) :
    ∃ part parts, Spells (parameterList (declareAll ps)) [.group part parts] ∧
      ReadsParameters part parts (abbreviatedAll ps) := by
  cases ps with
  | nil => exact ⟨[word "void"], [], Spells.grouped (by decide), rfl, rfl⟩
  | cons p ps =>
      obtain ⟨part, parts, htokens, hread, htypes⟩ := exists_parts h
      refine ⟨part, parts, Spells.grouped htokens, opensWithStar_of_declaration? hread, ?_⟩
      rw [if_neg, htypes]
      -- `void` alone is read as no parameters; here it could only be the one parameter
      intro hempty
      rw [Bool.and_eq_true, List.isEmpty_iff] at hempty
      obtain ⟨hpart, rfl⟩ := hempty
      have hp : p = .primitive .void := by
        rw [eq_of_isVoid hpart, declaration?_void, Option.some.injEq, Prod.mk.injEq] at hread
        cases p <;> simp_all [abbreviated]
      have hps : ps = [] := by
        rw [parameters?, hread, parameters?, abbreviatedAll] at htypes
        cases ps with
        | nil => rfl
        | cons q ps => exact absurd htypes (by simp [abbreviatedAll])
      rw [hp, hps] at hvoid
      exact absurd hvoid (by decide)

theorem spells_convention (c : Convention) : Spells (c.keyword?.getD "") (conventionPieces c) := by
  cases c with
  | default => exact spells_nil
  | stdcall => exact spells_word (by decide)

theorem opens_group (part : List Piece) (parts : List (List Piece)) (ps : List Piece) :
    Opens (.group part parts :: ps) := by
  rintro p ⟨⟩
  exact ⟨rfl, rfl⟩

theorem opens_convention (c : Convention) {ps : List Piece} (h : Opens ps) :
    Opens (conventionPieces c ++ ps) := by
  cases c with
  | default => exact h
  | stdcall =>
      rintro p ⟨⟩
      exact ⟨by decide, by decide⟩

/-- A parameter list behind the declarator of a function is read with what it returns. -/
theorem Faithful.function {t : CType} (h : Faithful t) (hfunction : t.kind ≠ .function)
    (harray : t.kind ≠ .array) (c : Convention) {ps : List CType} (hps : ∀ p ∈ ps, Faithful p)
    (hvoid : isSoleVoid ps = false) : Faithful (t.function c ps) := by
  obtain ⟨part, parts, hspelled, hparameters⟩ := exists_parameters hps hvoid
  have hbreaks := breaks_parameterList (declareAll ps)
  constructor
  · intro d ds hd hfits
    obtain ⟨core, hcore, hgroup, rfl⟩ := hfits
    have hmarked := ((spells_convention c).specified hd).append hspelled hbreaks
    rw [List.append_assoc] at hmarked
    have hopens : Opens (conventionPieces c ++ (core.pieces ++ [.group part parts])) :=
      opens_convention c (opens_core hcore (opens_group part parts []))
    obtain ⟨qs, hqs, hread⟩ := h.itself _ _ hmarked ((Fits.opens harray hfunction).2 hopens)
    refine ⟨qs, by rwa [declare], ?_⟩
    rw [hread, declarator?_function hcore hgroup hparameters, abbreviated, declarator?_core hcore]
  · intro d ds hd
    have hgroup : Spells (parenthesise (c.mark ("*" ++ d)))
        [.group (conventionPieces c ++ mark '*' :: ds) []] := by
      refine Spells.grouped ?_
      have hmarked := (spells_convention c).specified hd.starred
      exact hmarked.eq.trans (List.append_nil _).symm
    have hspelled := hgroup.append hspelled hbreaks
    have hopens := (Fits.opens harray hfunction).2
      (opens_group (conventionPieces c ++ mark '*' :: ds) [] [.group part parts])
    obtain ⟨qs, hqs, hread⟩ := h.itself _ _ hspelled hopens
    refine ⟨qs, by rwa [declare], ?_⟩
    rw [hread, List.singleton_append, declarator?_functionPointer hparameters, abbreviated]

/-! ## All types -/

/-- A base has the text that specifies it in front of its declarator. -/
theorem exists_specifier {t : CType} (hbase : t.isBase = true) (h : t.isDeclarable = true) :
    ∃ s, (∀ d, t.declare d = specify s d) ∧ Specifies s t.abbreviated := by
  cases t with
  | primitive p => exact ⟨p.spelling, fun d => by rw [declare], specifies_primitive p⟩
  | named n => exact ⟨n, fun d => by rw [declare], specifies_named h⟩
  | struct _ => exact ⟨_, fun d => by rw [declare]; rfl, specifies_composite "struct" rfl⟩
  | union _ => exact ⟨_, fun d => by rw [declare]; rfl, specifies_composite "union" rfl⟩
  | enum _ => exact ⟨_, fun d => by rw [declare]; rfl, specifies_composite "enum" rfl⟩
  | _ => exact absurd hbase (by simp [isBase, isComposite, kind])

mutual

/-- Every type that C can declare is faithful. -/
theorem faithful : ∀ t : CType, t.isDeclarable = true → Faithful t
  | .primitive _, h | .named _, h | .struct _, h | .union _, h | .enum _, h => by
    obtain ⟨s, hdeclare, hs⟩ := exists_specifier rfl h
    exact .base rfl hdeclare hs
  | .pointer t, h => (faithful t h).pointer
  | .array t n, h => by
    rw [isDeclarable, Bool.and_eq_true, bne_iff_ne] at h
    exact (faithful t h.1).array h.2 n
  | .function t c ps, h => by
    simp only [isDeclarable, Bool.and_eq_true, bne_iff_ne, Bool.not_eq_true'] at h
    obtain ⟨⟨⟨⟨ht, hfunction⟩, harray⟩, hps⟩, hvoid⟩ := h
    exact (faithful t ht).function hfunction harray c (faithful_all ps hps) hvoid
  | .qualified t q, h => by
    simp only [isDeclarable, Bool.and_eq_true, Bool.or_eq_true, bne_iff_ne] at h
    obtain ⟨⟨ht, hbase | hpointer⟩, hq⟩ := h
    · obtain ⟨s, hdeclare, hs⟩ := exists_specifier hbase ht
      exact .qualifiedBase hbase hdeclare hs hq
    · cases t with
      | pointer u => exact (faithful u ht).qualifiedPointer hq
      | _ => exact absurd hpointer (by simp [isPointer, kind])
  | .bitField _ _, h => absurd h (by simp [isDeclarable])

theorem faithful_all : ∀ ts : List CType, areDeclarable ts = true → ∀ t ∈ ts, Faithful t
  | [], _ => List.forall_mem_nil _
  | t :: ts, h => by
    rw [areDeclarable, Bool.and_eq_true] at h
    exact List.forall_mem_cons.2 ⟨faithful t h.1, faithful_all ts h.2⟩

end

/-! ## Whole texts -/

theorem leading_notColon {ps : List Piece} (h : ∀ p ∈ ps, notColon? p = some p)
    {rest : List Piece} (hrest : ∀ p ∈ rest.head?, notColon? p = none) :
    leading notColon? (ps ++ rest) = (ps, rest) := by
  have hread : ∀ p ∈ ps, notColon? (id p) = some (id p) := h
  have hleading := leading_map_append hread hrest
  rwa [List.map_id] at hleading

/-- A text without a width is read as a declaration. -/
theorem read?_of_spells {s : String} {ps : List Piece} (h : Spells s ps) :
    read? s = declaration? ps := by
  have hnil : ∀ p ∈ ([] : List Piece).head?, notColon? p = none := by rintro p ⟨⟩
  have hleading := leading_notColon h.plain hnil
  rw [List.append_nil] at hleading
  rw [read?, h.eq, nest?_listTokens, Option.bind_some, readPieces?, hleading]

/-- A text with a width behind it is read as a bit-field. -/
theorem read?_withWidth {s : String} {ps : List Piece} (h : Spells s ps) (n : UInt32) :
    read? (s ++ " : " ++ toString n.toNat) =
      (declaration? ps).map fun r => (.bitField r.1 n, r.2) := by
  have hcolon : ∀ p ∈ [mark ':', word n.toNat.repr].head?, notColon? p = none := by
    rintro p ⟨⟩
    rfl
  have hleading := leading_notColon h.plain hcolon
  have hn : Text.integer? UInt32 n.toNat.repr = some n := by
    rw [Text.integer?_uint32 n.toNat_lt, UInt32.ofNat_toNat]
  rw [read?, h.withWidth, nest?_listTokens, Option.bind_some, readPieces?, hleading]
  simp only [hn]
  cases declaration? ps <;> rfl

/-- **A declaration reads back.**  The text that declares a name, or none, with a type that C can
declare is read as that type, up to the members of its structs, unions and enums, and that name. -/
theorem read?_declare (t : CType) (name : Option String) (ht : t.isDeclaration = true)
    (hname : ∀ n ∈ name, isName n = true) :
    read? (t.declare (name.getD "")) = some (t.abbreviated, name) := by
  have hcore : (nameCore name).Valid := by
    cases name with
    | none => trivial
    | some n => exact hname n rfl
  by_cases hdeclarable : t.isDeclarable = true
  · obtain ⟨ps, hps, hread⟩ := (faithful t hdeclarable).declaration?_eq hcore
    rw [read?_of_spells hps, hread]
  · cases t with
    | bitField u n =>
        rw [isDeclaration, Bool.and_eq_true] at ht
        obtain ⟨ps, hps, hread⟩ := (faithful u ht.1).declaration?_eq hcore
        rw [declare, read?_withWidth hps, hread]
        rfl
    | _ => exact absurd ht hdeclarable

/-- A pointer to an array of pointers to functions with a calling convention, which return constant
pointers. -/
def callbackTable : CType :=
  .pointer (.array (.pointer (.function (.qualified (.pointer (.named "T")) { const := true })
    .stdcall [.primitive .unsignedLong, .array (.qualified (.struct []) { volatile := true }) 3])) 5)

/-- Its declaration reads back. -/
theorem read?_declare_callbackTable :
    callbackTable.isDeclaration = true ∧ (∀ n ∈ some "table", isName n = true) ∧
      read? (callbackTable.declare "table") = some (callbackTable, some "table") := by
  have htable : callbackTable.isDeclaration = true := by decide
  have hname : ∀ n ∈ some "table", isName n = true := by decide
  have hread := read?_declare callbackTable (some "table") htable hname
  exact ⟨htable, hname, hread⟩

end Declaration

end DebugTypes
