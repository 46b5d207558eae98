import DebugTypes.Markup.Scan

/-!
# Tokens of markup

Content is a sequence of start tags, end tags, text and literal data; comments and processing
instructions between them are checked and dropped.  Tokens are read one by one without regard to
names, so that the same reading serves a document and the text of an entity.  A text may end inside
a start tag, after its name or one of its attributes: the tag is then *cut off*.

## Main definitions

* `Token` — the tokens.
* `comment?`, `instruction?`, `data?`, `startTag?`, `endTag?` — each form without the characters
  that tell it apart.
* `content?` — the tokens of a text up to the end tag that ends its content.
-/

namespace DebugTypes.Markup

/-- An attribute as it is written: its name, and its value with the references in it. -/
abbrev RawAttribute := Qualified × List Char

/-- How a start tag ends. -/
inductive TagEnd where
  /-- The content of the element follows. -/
  | opens
  /-- The element is complete. -/
  | closes
  /-- The text ends before the tag does. -/
  | cutOff
  deriving DecidableEq, Repr, Inhabited

/-- A token of content. -/
inductive Token where
  | startTag (name : Qualified) (attributes : List RawAttribute) (ending : TagEnd)
  | endTag (name : Qualified)
  | text (cs : List Char)
  | data
  deriving DecidableEq, Repr

/-- The rest after a comment: two hyphens may only end it. -/
def comment? (cs : List Char) : Option (List Char) := do
  let (text, rest) ← until? "-->".toList cs
  if text.all isAllowed && !contains "--".toList text && text.getLast? != some '-' then some rest
  else none

/-- The rest after a processing instruction.  The declaration of a document is none, and may not
stand where an instruction may. -/
def instruction? (cs : List Char) : Option (List Char) :=
  if (after? "xml ".toList cs).isSome then none
  else do
    let (_, rest) ← name? cs
    let (text, rest) ← until? "?>".toList (skipSpaces rest)
    if text.all isAllowed then some rest else none

/-- The rest after literal data. -/
def data? (cs : List Char) : Option (List Char) := do
  let (text, rest) ← until? "]]>".toList cs
  if text.all isAllowed then some rest else none

/-- An attribute; a value may not hold the character that starts tags. -/
def attribute? (cs : List Char) : Option (RawAttribute × List Char) := do
  let (name, rest) ← qualified? cs
  let rest ← after? ['='] (skipSpaces rest)
  let (value, rest) ← quotedValue? (skipSpaces rest)
  if value.all fun c => isAllowed c && c != '<' then some ((name, value), rest) else none

theorem length_comment? {cs rest : List Char} (h : comment? cs = some rest) :
    rest.length ≤ cs.length := by
  simp only [comment?, Option.bind_eq_bind, Option.bind_eq_some_iff, Prod.exists] at h
  obtain ⟨t, r, hr, h⟩ := h
  split at h
  · have := length_until? hr; simp only [Option.some.injEq] at h; subst h; omega
  · simp at h

theorem length_instruction? {cs rest : List Char} (h : instruction? cs = some rest) :
    rest.length ≤ cs.length := by
  unfold instruction? at h
  split at h
  · simp at h
  · simp only [Option.bind_eq_bind, Option.bind_eq_some_iff, Prod.exists] at h
    obtain ⟨n, r, hn, t, r', hr, h⟩ := h
    have := length_name? hn
    have := length_until? hr
    have := length_skipSpaces_le r
    split at h
    · simp only [Option.some.injEq] at h; subst h; omega
    · simp at h

theorem length_data? {cs rest : List Char} (h : data? cs = some rest) :
    rest.length ≤ cs.length := by
  simp only [data?, Option.bind_eq_bind, Option.bind_eq_some_iff, Prod.exists] at h
  obtain ⟨t, r, hr, h⟩ := h
  split at h
  · have := length_until? hr; simp only [Option.some.injEq] at h; subst h; omega
  · simp at h

theorem length_attribute? {cs rest : List Char} {a : RawAttribute}
    (h : attribute? cs = some (a, rest)) : rest.length < cs.length := by
  simp only [attribute?, Option.bind_eq_bind, Option.bind_eq_some_iff, Prod.exists] at h
  obtain ⟨q, r, hq, r', ha, v, r'', hv, h⟩ := h
  have := length_qualified? hq
  have := length_skipSpaces_le r
  have := length_after? ha
  have := length_skipSpaces_le r'
  have := length_quotedValue? hv
  split at h
  · simp only [Option.some.injEq, Prod.mk.injEq] at h
    obtain ⟨-, rfl⟩ := h
    simp only [List.length_cons, List.length_nil] at *
    omega
  · simp at h

/-- An attribute with the spaces that have to stand in front of it. -/
def spacedAttribute? (cs : List Char) : Option (RawAttribute × List Char) :=
  (spaces? cs).bind attribute?

theorem length_spacedAttribute? {cs rest : List Char} {a : RawAttribute}
    (h : spacedAttribute? cs = some (a, rest)) : rest.length < cs.length := by
  simp only [spacedAttribute?, Option.bind_eq_some_iff] at h
  obtain ⟨r, hr, h⟩ := h
  exact Nat.lt_trans (length_attribute? h) (length_spaces? hr)

/-- The end of a start tag, and what follows.  Spaces may stand in front of a tag's own end only. -/
def tagEnd? (cs : List Char) : Option (TagEnd × List Char) :=
  if cs.isEmpty then some (.cutOff, [])
  else
    match skipSpaces cs with
    | '/' :: '>' :: rest => some (.closes, rest)
    | '>' :: rest => some (.opens, rest)
    | _ => none

theorem length_tagEnd? {cs rest : List Char} {ending : TagEnd}
    (h : tagEnd? cs = some (ending, rest)) : rest.length ≤ cs.length := by
  have hs := length_skipSpaces_le cs
  unfold tagEnd? at h
  split at h
  · simp only [Option.some.injEq, Prod.mk.injEq] at h
    obtain ⟨-, rfl⟩ := h
    exact Nat.zero_le _
  · split at h
    · rename_i r hr
      simp only [Option.some.injEq, Prod.mk.injEq] at h
      obtain ⟨-, rfl⟩ := h
      simp only [hr, List.length_cons] at hs
      omega
    · rename_i r hr
      simp only [Option.some.injEq, Prod.mk.injEq] at h
      obtain ⟨-, rfl⟩ := h
      simp only [hr, List.length_cons] at hs
      omega
    · simp at h

/-- The attributes of a start tag, each after a space, and how the tag ends. -/
def attributes? (cs : List Char) : Option (List RawAttribute × TagEnd × List Char) :=
  match tagEnd? cs with
  | some (ending, rest) => some ([], ending, rest)
  | none =>
    match h : spacedAttribute? cs with
    | none => none
    | some (a, rest) =>
      have : rest.length < cs.length := length_spacedAttribute? h
      (attributes? rest).map fun p => (a :: p.1, p.2)
termination_by cs.length

theorem length_attributes? {cs rest : List Char} {as : List RawAttribute} {ending : TagEnd}
    (h : attributes? cs = some (as, ending, rest)) : rest.length ≤ cs.length := by
  fun_induction attributes? cs generalizing as with
  | case1 cs e r hr =>
    simp only [Option.some.injEq, Prod.mk.injEq] at h
    obtain ⟨-, rfl, rfl⟩ := h
    exact length_tagEnd? hr
  | case2 => simp at h
  | case3 cs _ a r ha hlt ih =>
    simp only [Option.map_eq_some_iff, Prod.mk.injEq] at h
    obtain ⟨p, hp, -, h⟩ := h
    have := @ih p.1 (by rw [hp, ← h])
    omega

/-- A start tag without the character that opens it. -/
def startTag? (cs : List Char) : Option (Token × List Char) := do
  let (name, rest) ← qualified? cs
  let (as, ending, rest) ← attributes? rest
  some (.startTag name as ending, rest)

/-- An end tag without the characters that open it. -/
def endTag? (cs : List Char) : Option (Token × List Char) := do
  let (name, rest) ← qualified? cs
  let rest ← after? ['>'] (skipSpaces rest)
  some (.endTag name, rest)

/-- Whether text may stand between tags. -/
def isTextRun (cs : List Char) : Bool := cs.all isAllowed && !contains "]]>".toList cs

/-- Text up to the next tag; the end mark of literal data may not occur in it. -/
def text? (cs : List Char) : Option (Token × List Char) :=
  if isTextRun (cs.takeWhile (· != '<')) then
    some (.text (cs.takeWhile (· != '<')), cs.dropWhile (· != '<'))
  else none

theorem length_startTag? {cs rest : List Char} {t : Token} (h : startTag? cs = some (t, rest)) :
    rest.length ≤ cs.length := by
  simp only [startTag?, Option.bind_eq_bind, Option.bind_eq_some_iff, Prod.exists,
    Option.some.injEq, Prod.mk.injEq] at h
  obtain ⟨q, r, hq, as, e, r', ha, -, rfl⟩ := h
  have := length_qualified? hq
  have := length_attributes? ha
  omega

theorem length_endTag? {cs rest : List Char} {t : Token} (h : endTag? cs = some (t, rest)) :
    rest.length ≤ cs.length := by
  simp only [endTag?, Option.bind_eq_bind, Option.bind_eq_some_iff, Prod.exists,
    Option.some.injEq, Prod.mk.injEq] at h
  obtain ⟨q, r, hq, r', ha, -, rfl⟩ := h
  have := length_qualified? hq
  have := length_skipSpaces_le r
  have := length_after? ha
  omega

/-- A comment or literal data without the two characters that open it. -/
def declared? (cs : List Char) : Option (Option Token × List Char) :=
  match after? "--".toList cs with
  | some rest => (comment? rest).map fun rest => (none, rest)
  | none => do
    let rest ← after? "[CDATA[".toList cs
    (data? rest).map fun rest => (some .data, rest)

/-- The next token of a text, or nothing in place of a token for what is dropped. -/
def token? : List Char → Option (Option Token × List Char)
  | [] => none
  | '<' :: '/' :: cs => (endTag? cs).map fun p => (some p.1, p.2)
  | '<' :: '?' :: cs => (instruction? cs).map fun rest => (none, rest)
  | '<' :: '!' :: cs => declared? cs
  | '<' :: cs => (startTag? cs).map fun p => (some p.1, p.2)
  | c :: cs => (text? (c :: cs)).map fun p => (some p.1, p.2)

theorem length_declared? {cs rest : List Char} {t : Option Token}
    (h : declared? cs = some (t, rest)) : rest.length ≤ cs.length := by
  unfold declared? at h
  split at h
  · rename_i r hr
    simp only [Option.map_eq_some_iff, Prod.mk.injEq] at h
    obtain ⟨r', hc, -, rfl⟩ := h
    have := length_after? hr
    have := length_comment? hc
    omega
  · simp only [Option.bind_eq_bind, Option.bind_eq_some_iff, Option.map_eq_some_iff,
      Prod.mk.injEq] at h
    obtain ⟨r, hr, r', hd, -, rfl⟩ := h
    have := length_after? hr
    have := length_data? hd
    omega

theorem length_token? {cs rest : List Char} {t : Option Token}
    (h : token? cs = some (t, rest)) : rest.length < cs.length := by
  unfold token? at h
  split at h
  · simp at h
  · simp only [Option.map_eq_some_iff, Prod.mk.injEq] at h
    obtain ⟨p, hp, -, rfl⟩ := h
    have := @length_endTag? _ p.2 _ hp
    simp only [List.length_cons]; omega
  · simp only [Option.map_eq_some_iff, Prod.mk.injEq] at h
    obtain ⟨r, hr, -, rfl⟩ := h
    have := length_instruction? hr
    simp only [List.length_cons]; omega
  · have := length_declared? h
    simp only [List.length_cons]; omega
  · simp only [Option.map_eq_some_iff, Prod.mk.injEq] at h
    obtain ⟨p, hp, -, rfl⟩ := h
    have := @length_startTag? _ p.2 _ hp
    simp only [List.length_cons]; omega
  · rename_i c cs h1 h2 h3 h4
    simp only [Option.map_eq_some_iff, Prod.mk.injEq] at h
    obtain ⟨p, hp, -, rfl⟩ := h
    unfold text? at hp
    split at hp
    · simp only [Option.some.injEq] at hp
      subst hp
      have hc : (c != '<') = true := by
        simp only [bne_iff_ne, ne_eq]
        rintro rfl
        exact h4 rfl
      have := length_dropWhile_le (· != '<') cs
      simp only [List.dropWhile_cons, hc, if_true, List.length_cons]
      omega
    · simp at hp

/-- How deep content nests after a token, counting the tags of its own text only. -/
def Token.levelAfter (level : Nat) : Token → Nat
  | startTag _ _ .opens => level + 1
  | endTag _ => level - 1
  | _ => level

/-- The tokens of content `level` elements deep up to the end tag that ends it, or to the end of the
text if no end tag does, and what follows. -/
def content? (level : Nat) (cs : List Char) : Option (List Token × List Char) :=
  if level = 0 ∨ cs.isEmpty then some ([], cs)
  else
    match h : token? cs with
    | none => none
    | some (none, rest) =>
      have : rest.length < cs.length := length_token? h
      content? level rest
    | some (some t, rest) =>
      have : rest.length < cs.length := length_token? h
      (content? (t.levelAfter level) rest).map fun p => (t :: p.1, p.2)
termination_by cs.length

end DebugTypes.Markup
