import DebugTypes.CType.Basic
import DebugTypes.Proofs.Declaration.Token
import DebugTypes.Text.Integer

/-!
# Reading C declarations

A declaration starts with words that specify a type: qualifiers, then a base.  A declarator follows,
which is read from the outside in: each star makes a pointer, to which the qualifiers behind it
belong.  Lengths and parameter lists bind tighter than stars and are applied from the last to the
first; parentheses that open with a star, or with the keyword of a convention and a star, group.
The keyword belongs to the function whose declarator it stands in front of.  A bit-field has its
width at the end, after a colon.

The reader knows nothing of how declarations are written.

## Main definitions

* `Declaration.isName w` — an identifier that has no meaning of its own in a declaration.
* `Declaration.takeSpecifier` — the words in front of a declarator.
* `Declaration.declarator?`, `direct?`, `suffixes?` — the parts of declarators.
* `Declaration.read? s` — the type and the name that the text `s` declares.
-/

namespace DebugTypes.Declaration

/-- The piece of a word. -/
@[match_pattern] def word (w : String) : Piece := .leaf (.word w)

/-- The piece of a mark. -/
@[match_pattern] def mark (c : Char) : Piece := .leaf (.mark c)

/-! ## Words -/

/-- The words that scalar types are made of. -/
def typeWords : List String :=
  ["void", "wchar_t", "char", "short", "int", "long", "unsigned", "float", "double"]

/-- The words that have a meaning of their own in a declaration. -/
def reserved : List String :=
  ["const", "volatile", "__unaligned", "__stdcall", "struct", "union", "enum"] ++ typeWords

/-- An identifier that has no meaning of its own in a declaration.  Every identifier of C is one
that is no keyword, and none of `wchar_t`, `__unaligned` and `__stdcall`. -/
def isName (w : String) : Bool :=
  isWord w && !(w.toList.head?.any Char.isDigit) && !reserved.contains w

/-- The qualifier of a word. -/
def qualifier? : Piece → Option Qualifier
  | word w => Qualifier.all.find? fun q => q.spelling == w
  | _ => none

/-- A word of a scalar type. -/
def typeWord? : Piece → Option String
  | word w => if typeWords.contains w then some w else none
  | _ => none

/-- The pieces in front for which `f` has a result, each as its result, and the others. -/
def leading {α : Type} (f : Piece → Option α) : List Piece → List α × List Piece
  | [] => ([], [])
  | p :: ps =>
    match f p with
    | some a => (a :: (leading f ps).1, (leading f ps).2)
    | none => ([], p :: ps)

/-! ## Specifiers -/

/-- A type with qualifiers, if there are any. -/
def qualify : List Qualifier → CType → CType
  | [], t => t
  | qs, t => .qualified t (.ofList qs)

/-- The scalar type that words spell. -/
def primitive? (words : List String) : Option CType :=
  (Primitive.all.find? fun p => " ".intercalate words == p.spelling).map .primitive

/-- The abbreviated struct, union or enum of a keyword. -/
def composite? (keyword : String) : Option CType :=
  if keyword = "struct" then some (.struct [])
  else if keyword = "union" then some (.union [])
  else if keyword = "enum" then some (.enum [])
  else none

/-- The composite type `t` if its abbreviated body is in front, and what follows it. -/
def takeBody (t : CType) : List Piece → Option CType × List Piece
  | mark '\x7b' :: mark '.' :: mark '.' :: mark '.' :: mark '\x7d' :: ps => (some t, ps)
  | ps => (none, ps)

/-- The base of a specifier that is not a scalar type, and what follows it. -/
def takeNamed : List Piece → Option CType × List Piece
  | word w :: ps =>
    match composite? w with
    | some t => takeBody t ps
    | none => (if isName w then some (.named w) else none, ps)
  | ps => (none, ps)

/-- The base of a specifier, and what follows it. -/
def takeBase (ps : List Piece) : Option CType × List Piece :=
  match leading typeWord? ps with
  | ([], _) => takeNamed ps
  | (words, rest) => (primitive? words, rest)

/-- The type that the words in front of a declarator specify, and the declarator. -/
def takeSpecifier (ps : List Piece) : Option CType × List Piece :=
  let (qs, ps) := leading qualifier? ps
  let (base, ps) := takeBase ps
  (base.map (qualify qs), ps)

/-! ## Declarators -/

/-- The convention that a keyword in front names, and what follows it. -/
def takeConvention : List Piece → Convention × List Piece
  | word w :: ps => if w = "__stdcall" then (.stdcall, ps) else (.default, word w :: ps)
  | ps => (.default, ps)

/-- The name in front, if there is one, and what follows it. -/
def takeName : List Piece → Option String × List Piece
  | word w :: ps => if isName w then (some w, ps) else (none, word w :: ps)
  | ps => (none, ps)

/-- Pieces that start with a star. -/
def opensWithStar : List Piece → Bool
  | mark '*' :: _ => true
  | _ => false

/-- The one word that stands for an empty list of parameters. -/
def isVoid : List Piece → Bool
  | [word w] => w == "void"
  | _ => false

theorem sizeOf_leading_le {α : Type} (f : Piece → Option α) (ps : List Piece) :
    sizeOf (leading f ps).2 ≤ sizeOf ps := by
  induction ps with
  | nil => exact Nat.le_refl _
  | cons p ps ih =>
      rw [leading]
      split
      · simp only [List.cons.sizeOf_spec]; omega
      · exact Nat.le_refl _

theorem sizeOf_takeBody_le (t : CType) (ps : List Piece) :
    sizeOf (takeBody t ps).2 ≤ sizeOf ps := by
  unfold takeBody
  split
  · simp only [List.cons.sizeOf_spec]; omega
  · exact Nat.le_refl _

theorem sizeOf_takeNamed_le (ps : List Piece) : sizeOf (takeNamed ps).2 ≤ sizeOf ps := by
  unfold takeNamed
  split
  · rename_i w ps
    split
    · rename_i t _
      have := sizeOf_takeBody_le t ps
      simp only [List.cons.sizeOf_spec]; omega
    · simp only [List.cons.sizeOf_spec]; omega
  · exact Nat.le_refl _

theorem sizeOf_takeBase_le (ps : List Piece) : sizeOf (takeBase ps).2 ≤ sizeOf ps := by
  have h := sizeOf_leading_le typeWord? ps
  unfold takeBase
  split
  · exact sizeOf_takeNamed_le ps
  · rename_i heq
    rwa [heq] at h

theorem sizeOf_takeSpecifier_le (ps : List Piece) : sizeOf (takeSpecifier ps).2 ≤ sizeOf ps :=
  Nat.le_trans (sizeOf_takeBase_le _) (sizeOf_leading_le qualifier? ps)

theorem sizeOf_takeConvention_le (ps : List Piece) : sizeOf (takeConvention ps).2 ≤ sizeOf ps := by
  unfold takeConvention
  split
  · split
    · simp only [List.cons.sizeOf_spec]; omega
    · exact Nat.le_refl _
  · exact Nat.le_refl _

theorem sizeOf_takeName_le (ps : List Piece) : sizeOf (takeName ps).2 ≤ sizeOf ps := by
  unfold takeName
  split
  · split
    · simp only [List.cons.sizeOf_spec]; omega
    · exact Nat.le_refl _
  · exact Nat.le_refl _

mutual

/-- The type and the name, if there is one, that a declaration declares. -/
def declaration? (ps : List Piece) : Option (CType × Option String) :=
  (takeSpecifier ps).1.bind fun t => declarator? t (takeSpecifier ps).2
termination_by (sizeOf ps, 3)
decreasing_by
  have := sizeOf_takeSpecifier_le ps
  simp only [Prod.lex_def]; omega

/-- The type and the name that a declarator declares, where `t` is the type that it starts from. -/
def declarator? (t : CType) (ps : List Piece) : Option (CType × Option String) :=
  match ps with
  | mark '*' :: ps =>
    declarator? (qualify (leading qualifier? ps).1 (.pointer t)) (leading qualifier? ps).2
  | ps => direct? t ps
termination_by (sizeOf ps, 2)
decreasing_by
  · have := sizeOf_leading_le qualifier? ps
    simp only [Prod.lex_def, List.cons.sizeOf_spec]; omega
  · exact Prod.Lex.right _ (by decide)

/-- What a declarator without stars in front declares. -/
def direct? (t : CType) (ps : List Piece) : Option (CType × Option String) :=
  match ps with
  | .group content [] :: rest =>
    if opensWithStar (takeConvention content).2 then
      (suffixes? (takeConvention content).1 t rest).bind fun t =>
        declarator? t (takeConvention content).2
    else (suffixes? .default t (.group content [] :: rest)).map (·, none)
  | ps =>
    (suffixes? (takeConvention ps).1 t (takeName (takeConvention ps).2).2).map
      (·, (takeName (takeConvention ps).2).1)
termination_by (sizeOf ps, 1)
decreasing_by
  · simp only [Prod.lex_def, List.cons.sizeOf_spec]; omega
  · have := sizeOf_takeConvention_le content
    simp only [Prod.lex_def, List.cons.sizeOf_spec, Piece.group.sizeOf_spec]; omega
  · exact Prod.Lex.right _ (by decide)
  · have := sizeOf_takeConvention_le ps
    have := sizeOf_takeName_le (takeConvention ps).2
    simp only [Prod.lex_def]; omega

/-- The type behind lengths and parameter lists, where `c` is the convention of the first of them,
which is then a parameter list. -/
def suffixes? (c : Convention) (t : CType) (ps : List Piece) : Option CType :=
  match ps with
  | [] => if c = .default then some t else none
  | mark '[' :: word n :: mark ']' :: ps =>
    if c = .default then do some (.array (← suffixes? .default t ps) (← Text.integer? UInt64 n))
    else none
  | .group part parts :: ps =>
    (suffixes? .default t ps).bind fun result =>
      (if isVoid part && parts.isEmpty then some [] else parameters? (part :: parts)).map
        (.function result c)
  | _ => none
termination_by (sizeOf ps, 0)
decreasing_by
  all_goals simp only [Prod.lex_def, List.cons.sizeOf_spec, Piece.group.sizeOf_spec]; omega

/-- The types of parameters; their names do not matter. -/
def parameters? (parts : List (List Piece)) : Option (List CType) :=
  match parts with
  | [] => some []
  | part :: parts => do
    let (t, _) ← declaration? part
    some (t :: (← parameters? parts))
termination_by (sizeOf parts, 4)
decreasing_by
  all_goals simp only [Prod.lex_def, List.cons.sizeOf_spec]; omega

end

/-! ## Whole texts -/

/-- A piece other than a colon. -/
def notColon? : Piece → Option Piece
  | mark ':' => none
  | p => some p

/-- The type and the name that pieces declare, where a bit-field has its width at the end. -/
def readPieces? (ps : List Piece) : Option (CType × Option String) :=
  match leading notColon? ps with
  | (ps, []) => declaration? ps
  | (ps, [_, word n]) => do
    let (t, name) ← declaration? ps
    some (.bitField t (← Text.integer? UInt32 n), name)
  | _ => none

/-- The type and the name that a text declares. -/
def read? (s : String) : Option (CType × Option String) := (nest? (tokens s)).bind readPieces?

end DebugTypes.Declaration
