/-!
# The tokens of a C declaration

A declaration is taken apart into words, parentheses, commas and other marks; blanks only separate
words.  Its tokens then nest to *pieces*: a parenthesised group is one piece, with the parts between
its commas.

## Main definitions

* `Declaration.tokens s` — the tokens of a text.
* `Declaration.Piece` — a word or mark, or a group.
* `Declaration.nest? ts` — the pieces that tokens nest to.

## Main statements

* `Declaration.tokensOf_append_cons` — a character that is no part of a word splits the tokens.
* `Declaration.nest?_listTokens` — the tokens of pieces nest to these pieces.
-/

namespace DebugTypes.Declaration

/-- A word, or a mark other than parentheses and commas. -/
inductive Leaf where
  | word (w : String)
  | mark (c : Char)
  deriving DecidableEq, Repr

/-- A token. -/
inductive Token where
  | leaf (l : Leaf)
  | opening
  | closing
  | comma
  deriving DecidableEq, Repr

/-! ## From text to tokens -/

/-- A character of a word. -/
def isWordChar (c : Char) : Bool := c.isAlphanum || c == '_'

/-- A text of one or more characters of words. -/
def isWord (w : String) : Bool := !w.toList.isEmpty && w.toList.all isWordChar

/-- The token of a character that is no part of a word; a blank has none. -/
def symbol (c : Char) : List Token :=
  if c = ' ' then []
  else if c = '(' then [.opening]
  else if c = ')' then [.closing]
  else if c = ',' then [.comma]
  else [.leaf (.mark c)]

/-- The word with the given characters, the last one first. -/
def wordToken (word : List Char) : List Token :=
  if word.isEmpty then [] else [.leaf (.word (String.ofList word.reverse))]

/-- The tokens of `cs`, where `word` holds the characters of the word being read, last one first. -/
def tokensFrom (word : List Char) : List Char → List Token
  | [] => wordToken word
  | c :: cs =>
    if isWordChar c then tokensFrom (c :: word) cs
    else wordToken word ++ (symbol c ++ tokensFrom [] cs)

/-- The tokens of a list of characters. -/
def tokensOf (cs : List Char) : List Token := tokensFrom [] cs

/-- The tokens of a text. -/
def tokens (s : String) : List Token := tokensOf s.toList

@[simp] theorem tokensOf_nil : tokensOf [] = [] := rfl

theorem tokensFrom_append_cons (word cs : List Char) {c : Char} (hc : isWordChar c = false)
    (rest : List Char) :
    tokensFrom word (cs ++ c :: rest) = tokensFrom word cs ++ (symbol c ++ tokensOf rest) := by
  induction cs generalizing word with
  | nil => simp [tokensFrom, tokensOf, hc]
  | cons c' cs ih =>
      rw [List.cons_append, tokensFrom, tokensFrom]
      split
      · exact ih (c' :: word)
      · rw [ih [], List.append_assoc, List.append_assoc]

/-- A character that is no part of a word splits the tokens. -/
theorem tokensOf_append_cons (cs : List Char) {c : Char} (hc : isWordChar c = false)
    (rest : List Char) : tokensOf (cs ++ c :: rest) = tokensOf cs ++ (symbol c ++ tokensOf rest) :=
  tokensFrom_append_cons [] cs hc rest

theorem tokensOf_cons {c : Char} (hc : isWordChar c = false) (rest : List Char) :
    tokensOf (c :: rest) = symbol c ++ tokensOf rest := tokensOf_append_cons [] hc rest

theorem tokensFrom_of_isWordChar {cs : List Char} (h : ∀ c ∈ cs, isWordChar c = true)
    (word : List Char) : tokensFrom word cs = wordToken (cs.reverse ++ word) := by
  induction cs generalizing word with
  | nil => rfl
  | cons c cs ih =>
      rw [tokensFrom, if_pos (h c List.mem_cons_self),
        ih fun c' hc' => h c' (List.mem_cons_of_mem c hc'), List.reverse_cons, List.append_assoc,
        List.singleton_append]

/-- A text of word characters is one word. -/
theorem tokens_of_isWord {w : String} (h : isWord w = true) : tokens w = [.leaf (.word w)] := by
  rw [isWord, Bool.and_eq_true, Bool.not_eq_true', List.all_eq_true] at h
  rw [tokens, tokensOf, tokensFrom_of_isWordChar h.2, List.append_nil, wordToken,
    List.isEmpty_reverse, h.1, if_neg (by decide), List.reverse_reverse, String.ofList_toList]

/-! ## From tokens to pieces -/

/-- A word or mark, or a group in parentheses with the parts between its commas. -/
inductive Piece where
  | leaf (l : Leaf)
  | group (part : List Piece) (parts : List (List Piece))

mutual

/-- The tokens of a piece. -/
def Piece.tokens : Piece → List Token
  | .leaf l => [.leaf l]
  | .group part parts => .opening :: (listTokens part ++ (partsTokens parts ++ [.closing]))

/-- The tokens of pieces one after the other. -/
def listTokens : List Piece → List Token
  | [] => []
  | p :: ps => p.tokens ++ listTokens ps

/-- The tokens of parts after the first, each after a comma. -/
def partsTokens : List (List Piece) → List Token
  | [] => []
  | part :: parts => .comma :: (listTokens part ++ partsTokens parts)

end

/-- A group whose end has not come yet: the pieces in front of it and its finished parts, both with
the last one first. -/
structure Open where
  outer : List Piece
  parts : List (List Piece)

/-- The group with the given parts. -/
def groupOf : List (List Piece) → Piece
  | [] => .group [] []
  | part :: parts => .group part parts

/-- The pieces that tokens nest to, where `current` holds the pieces since the last comma or
parenthesis, the last one first. -/
def nestFrom? : List Open → List Piece → List Token → Option (List Piece)
  | [], current, [] => some current.reverse
  | opened, current, .leaf l :: ts => nestFrom? opened (.leaf l :: current) ts
  | opened, current, .opening :: ts => nestFrom? (⟨current, []⟩ :: opened) [] ts
  | o :: opened, current, .comma :: ts =>
    nestFrom? (⟨o.outer, current.reverse :: o.parts⟩ :: opened) [] ts
  | o :: opened, current, .closing :: ts =>
    nestFrom? opened (groupOf (current.reverse :: o.parts).reverse :: o.outer) ts
  | _, _, _ => none

/-- The pieces that tokens nest to. -/
def nest? (ts : List Token) : Option (List Piece) := nestFrom? [] [] ts

mutual

theorem nestFrom?_tokens : ∀ (p : Piece) (opened : List Open) (current : List Piece)
    (ts : List Token),
    nestFrom? opened current (p.tokens ++ ts) = nestFrom? opened (p :: current) ts
  | .leaf l, opened, current, ts => by rw [Piece.tokens, List.singleton_append, nestFrom?]
  | .group part parts, opened, current, ts => by
    rw [Piece.tokens, List.cons_append, nestFrom?, List.append_assoc, nestFrom?_listTokens part,
      List.append_assoc, List.singleton_append, nestFrom?_partsTokens parts]
    simp only [List.append_nil, List.reverse_reverse, List.reverse_nil, List.nil_append, groupOf]

theorem nestFrom?_listTokens : ∀ (ps : List Piece) (opened : List Open) (current : List Piece)
    (ts : List Token),
    nestFrom? opened current (listTokens ps ++ ts) = nestFrom? opened (ps.reverse ++ current) ts
  | [], opened, current, ts => rfl
  | p :: ps, opened, current, ts => by
    rw [listTokens, List.append_assoc, nestFrom?_tokens p, nestFrom?_listTokens ps,
      List.reverse_cons, List.append_assoc, List.singleton_append]

/-- The parts after the one that has just been read, and the end of the group. -/
theorem nestFrom?_partsTokens : ∀ (parts : List (List Piece)) (o : Open) (opened : List Open)
    (current : List Piece) (ts : List Token),
    nestFrom? (o :: opened) current (partsTokens parts ++ .closing :: ts) =
      nestFrom? opened (groupOf (o.parts.reverse ++ current.reverse :: parts) :: o.outer) ts
  | [], o, opened, current, ts => by
    rw [partsTokens, List.nil_append, nestFrom?, List.reverse_cons]
  | part :: parts, o, opened, current, ts => by
    rw [partsTokens, List.cons_append, List.append_assoc, nestFrom?, nestFrom?_listTokens part,
      nestFrom?_partsTokens parts, List.append_nil, List.reverse_reverse, List.reverse_cons,
      List.append_assoc, List.singleton_append]

end

/-- The tokens of pieces nest to these pieces. -/
theorem nest?_listTokens (ps : List Piece) : nest? (listTokens ps) = some ps := by
  have h := nestFrom?_listTokens ps [] [] []
  rw [List.append_nil, List.append_nil, nestFrom?, List.reverse_reverse] at h
  exact h

@[simp] theorem listTokens_append (ps qs : List Piece) :
    listTokens (ps ++ qs) = listTokens ps ++ listTokens qs := by
  induction ps with
  | nil => rfl
  | cons p ps ih => rw [List.cons_append, listTokens, ih, listTokens, List.append_assoc]

end DebugTypes.Declaration
