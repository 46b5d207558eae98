import DebugTypes.CType.Declaration
import DebugTypes.Proofs.Declaration.Reader
import DebugTypes.Proofs.Text.Decimal

/-!
# Texts and the pieces that they spell

Declarations are put together from texts in a few ways: a specifier goes in front of a declarator, a
star in front of it, parentheses around it, a length or a parameter list behind it.  Each of them
puts the pieces of the texts together.

## Main definition

* `Declaration.Spells s ps` — the text `s` spells the pieces `ps`, none of which is a colon.

## Main statements

* `Spells.specified`, `Spells.starred`, `Spells.grouped`, `Spells.withLength`, `Spells.append` —
  texts put together.
-/

namespace DebugTypes.Declaration

/-! ## Tokens of texts put together -/

/-- A text that does not carry on a word in front of it. -/
def Breaks (s : String) : Prop := ∀ c ∈ s.toList.head?, isWordChar c = false

theorem breaks_append {s : String} (h : Breaks s) (hne : s.toList ≠ []) (d : String) :
    Breaks (s ++ d) := by
  intro c hc
  cases hs : s.toList with
  | nil => exact absurd hs hne
  | cons c' cs =>
      rw [String.toList_append, hs] at hc
      exact h c (by rw [hs]; exact hc)

theorem breaks_of_toList {s : String} {c : Char} (h : s.toList = [c])
    (hc : isWordChar c = false) : Breaks s := by
  intro c' hc'
  rw [h, List.head?_cons, Option.mem_some_iff] at hc'
  rwa [← hc']

/-- The tokens of two texts, where no word goes across. -/
theorem tokens_append {a b : String} (h : Breaks b) : tokens (a ++ b) = tokens a ++ tokens b := by
  rw [tokens, tokens, tokens, String.toList_append]
  cases hb : b.toList with
  | nil => simp
  | cons c cs =>
      have hc : isWordChar c = false := h c (by rw [hb]; rfl)
      rw [tokensOf_append_cons _ hc, tokensOf_cons hc]

/-- The tokens of a text behind a character that is no part of a word. -/
theorem tokens_mark_append {m : String} {c : Char} (hm : m.toList = [c])
    (hc : isWordChar c = false) (s : String) : tokens (m ++ s) = symbol c ++ tokens s := by
  rw [tokens, tokens, String.toList_append, hm, List.singleton_append, tokensOf_cons hc]

/-! ## Spelled pieces -/

/-- The pieces of a length. -/
def lengthPieces (n : UInt64) : List Piece := [mark '[', word n.toNat.repr, mark ']']

/-- A text spells pieces, none of which is a colon. -/
structure Spells (s : String) (ps : List Piece) : Prop where
  eq : tokens s = listTokens ps
  plain : ∀ p ∈ ps, notColon? p = some p

theorem spells_nil : Spells "" [] := ⟨rfl, List.forall_mem_nil _⟩

theorem spells_word {w : String} (h : isWord w = true) : Spells w [word w] where
  eq := tokens_of_isWord h
  plain p hp := by rw [List.mem_singleton.1 hp]; rfl

theorem spells_repr (n : Nat) : Spells n.repr [word n.repr] := by
  have hne : n.repr.toList.isEmpty = false :=
    List.isEmpty_eq_false_iff.2 (Text.isWord_repr n).ne_nil
  have hall : n.repr.toList.all isWordChar = true := List.all_eq_true.2 fun c hc => by
    simp [isWordChar, Char.isAlphanum, Text.isDigit_of_mem_repr hc]
  exact spells_word (by rw [isWord, hne, hall]; rfl)

namespace Spells

variable {s d : String} {ps ds : List Piece}

theorem append (hs : Spells s ps) (hd : Spells d ds) (h : Breaks d) :
    Spells (s ++ d) (ps ++ ds) where
  eq := by rw [tokens_append h, hs.eq, hd.eq, listTokens_append]
  plain p hp := (List.mem_append.1 hp).elim (hs.plain p) (hd.plain p)

/-- A specifier in front of a declarator, whether one of them is empty or not. -/
theorem specified (hs : Spells s ps) (hd : Spells d ds) : Spells (specify s d) (ps ++ ds) where
  eq := by
    rw [listTokens_append, ← hs.eq, ← hd.eq, specify]
    by_cases hdempty : d.isEmpty = true
    · rw [if_pos hdempty, String.isEmpty_iff.1 hdempty]
      exact (List.append_nil _).symm
    by_cases hsempty : s.isEmpty = true
    · rw [if_neg hdempty, if_pos hsempty, String.isEmpty_iff.1 hsempty]
      rfl
    have hspace : Breaks " " := breaks_of_toList rfl (by decide)
    rw [if_neg hdempty, if_neg hsempty, String.append_assoc,
      tokens_append (breaks_append hspace (by decide) d), tokens_mark_append rfl (by decide)]
    rfl
  plain p hp := (List.mem_append.1 hp).elim (hs.plain p) (hd.plain p)

theorem starred (hd : Spells d ds) : Spells ("*" ++ d) (mark '*' :: ds) where
  eq := by rw [tokens_mark_append rfl (by decide), hd.eq]; rfl
  plain := List.forall_mem_cons.2 ⟨rfl, hd.plain⟩

/-- A length in brackets behind a declarator. -/
theorem withLength (hd : Spells d ds) (n : UInt64) :
    Spells (d ++ "[" ++ toString n.toNat ++ "]") (ds ++ lengthPieces n) := by
  have hopen : Breaks "[" := breaks_of_toList rfl (by decide)
  have hclose : Breaks "]" := breaks_of_toList rfl (by decide)
  constructor
  · rw [tokens_append hclose, String.append_assoc,
      tokens_append (breaks_append hopen (by decide) _), tokens_mark_append rfl (by decide),
      listTokens_append, hd.eq]
    change _ ++ (_ ++ tokens n.toNat.repr) ++ _ = _
    rw [(spells_repr n.toNat).eq, List.append_assoc]
    rfl
  · intro p hp
    rcases List.mem_append.1 hp with hp | hp
    · exact hd.plain p hp
    · simp only [lengthPieces, List.mem_cons, List.not_mem_nil, or_false] at hp
      rcases hp with rfl | rfl | rfl <;> rfl

/-- Parentheses make a group. -/
theorem grouped {part : List Piece} {parts : List (List Piece)}
    (h : tokens s = listTokens part ++ partsTokens parts) :
    Spells (parenthesise s) [.group part parts] where
  eq := by
    have hclose : Breaks ")" := breaks_of_toList rfl (by decide)
    rw [parenthesise, tokens_append hclose, tokens_mark_append rfl (by decide), h]
    simp only [listTokens, Piece.tokens, List.append_nil, List.append_assoc]
    rfl
  plain p hp := by rw [List.mem_singleton.1 hp]; rfl

/-- A width behind a declaration. -/
theorem withWidth (hs : Spells s ps) (n : UInt32) :
    tokens (s ++ " : " ++ toString n.toNat) =
      listTokens (ps ++ [mark ':', word n.toNat.repr]) := by
  have hspaces : " : " = " " ++ (":" ++ " ") := rfl
  have hbreaks : Breaks " " := breaks_of_toList rfl (by decide)
  rw [hspaces, String.append_assoc, String.append_assoc, String.append_assoc,
    tokens_append (breaks_append hbreaks (by decide) _), tokens_mark_append rfl (by decide),
    tokens_mark_append rfl (by decide), tokens_mark_append rfl (by decide), hs.eq,
    listTokens_append]
  change _ ++ (_ ++ (_ ++ (_ ++ tokens n.toNat.repr))) = _
  rw [(spells_repr n.toNat).eq]
  rfl

end Spells

/-- Words with spaces between them. -/
theorem spells_words {ws : List String} (h : ∀ w ∈ ws, isWord w = true) :
    Spells (" ".intercalate ws) (ws.map word) := by
  induction ws with
  | nil => exact spells_nil
  | cons w ws ih =>
      have hword := spells_word (h w List.mem_cons_self)
      have ih := ih fun w' hw' => h w' (List.mem_cons_of_mem w hw')
      cases ws with
      | nil => rw [String.intercalate_singleton]; exact hword
      | cons w' ws =>
          have hspace : Breaks " " := breaks_of_toList rfl (by decide)
          have hrest : tokens (" " ++ " ".intercalate (w' :: ws)) =
              listTokens ((w' :: ws).map word) := by
            rw [tokens_mark_append rfl (by decide), ih.eq]
            rfl
          rw [String.intercalate_cons_cons, String.append_assoc]
          exact hword.append ⟨hrest, ih.plain⟩ (breaks_append hspace (by decide) _)

/-- Two texts with a comma between them. -/
theorem tokens_comma (a b : String) : tokens (a ++ ", " ++ b) = tokens a ++ .comma :: tokens b := by
  have hcomma : ", " = "," ++ " " := rfl
  have hbreaks : Breaks "," := breaks_of_toList rfl (by decide)
  rw [hcomma, String.append_assoc, String.append_assoc,
    tokens_append (breaks_append hbreaks (by decide) _), tokens_mark_append rfl (by decide),
    tokens_mark_append rfl (by decide)]
  rfl

end DebugTypes.Declaration
