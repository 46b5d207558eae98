import DebugTypes.Json.Pretty
import DebugTypes.Json.Token
import DebugTypes.Proofs.Text.Decimal

/-!
# Scalars of JSON read back

A string literal and the digits of a number are read back as one token each.  A number needs to be
followed by something that does not carry it on; a literal has its closing quote.

## Main definitions

* `Json.EndsNumber rest` — the text `rest` does not carry on a number in front of it.
* `Json.Scalar.plain` — the scalars that are what they are written as.

## Main statement

* `Json.tokens?_pretty_scalar` — the token of the text of a plain scalar.
-/

namespace DebugTypes.Json

/-! ## Numbers -/

/-- A text that does not carry on a number in front of it. -/
def EndsNumber (rest : List Char) : Prop :=
  ∀ c ∈ rest.head?, c.isDigit = false ∧ c ≠ '.' ∧ c ≠ 'e' ∧ c ≠ 'E'

theorem endsNumber_nil : EndsNumber [] := by simp [EndsNumber]

theorem endsNumber_cons {c : Char} (h : c.isDigit = false ∧ c ≠ '.' ∧ c ≠ 'e' ∧ c ≠ 'E')
    (cs : List Char) : EndsNumber (c :: cs) := by
  intro c' hmem
  obtain rfl : c = c' := by simpa using hmem
  exact h

/-- Digits are dropped up to the end of the number. -/
theorem EndsNumber.dropWhile_append {rest : List Char} (h : EndsNumber rest) {cs : List Char}
    (hcs : ∀ c ∈ cs, c.isDigit = true) : (cs ++ rest).dropWhile Char.isDigit = rest := by
  rw [List.dropWhile_append_of_pos hcs]
  cases rest with
  | nil => rfl
  | cons c rest => simp [(h c rfl).1]

theorem EndsNumber.fraction?_eq {rest : List Char} (h : EndsNumber rest) :
    fraction? rest = some rest := by
  unfold fraction?
  split
  · exact absurd rfl (h '.' rfl).2.1
  · rfl

theorem EndsNumber.exponent?_eq {rest : List Char} (h : EndsNumber rest) :
    exponent? rest = some rest := by
  cases rest with
  | nil => rfl
  | cons c rest =>
      unfold exponent?
      exact if_neg (not_or.2 (h c rfl).2.2)

/-- The first digit of a number other than zero is not a zero. -/
theorem head?_toDigits_ne (n : Nat) (h : n ≠ 0) : (Nat.toDigits 10 n).head? ≠ some '0' := by
  induction n using Nat.strongRecOn with
  | ind n ih =>
      rcases Nat.lt_or_ge n 10 with hn | hn
      · rw [Nat.toDigits_of_lt_base hn]
        have hdigit : ∀ d < 10, d ≠ 0 → d.digitChar ≠ '0' := by decide
        simpa using hdigit n hn h
      · have hrest : (Nat.toDigits 10 (n / 10)).head? ≠ some '0' :=
          ih (n / 10) (Nat.div_lt_self (by omega) (by decide)) (by omega)
        rw [Nat.toDigits_of_base_le (by decide) hn]
        cases hcs : Nat.toDigits 10 (n / 10) with
        | nil => exact absurd hcs Nat.toDigits_ne_nil
        | cons c cs => rwa [hcs] at hrest

/-- The digits of a number are all of its whole part. -/
theorem wholePart?_repr (n : Nat) {rest : List Char} (h : EndsNumber rest) :
    wholePart? (n.repr.toList ++ rest) = some rest := by
  have hdigits : ∀ c ∈ n.repr.toList, c.isDigit = true := fun c => Text.isDigit_of_mem_repr
  by_cases hn : n = 0
  · subst hn; rfl
  have hhead : n.repr.toList.head? ≠ some '0' := by
    rw [Nat.toList_repr]
    exact head?_toDigits_ne n hn
  cases hcs : n.repr.toList with
  | nil => exact absurd hcs (Text.isWord_repr n).ne_nil
  | cons c cs =>
      rw [hcs] at hdigits hhead
      have hc : c ≠ '0' := fun hc => hhead (by rw [List.head?_cons, hc])
      rw [List.cons_append, wholePart?.eq_2 _ (by rintro cs' ⟨rfl, -⟩; exact hc rfl), digits?,
        if_pos (hdigits c List.mem_cons_self),
        h.dropWhile_append fun c' hmem => hdigits c' (List.mem_cons_of_mem c hmem)]

theorem before_append (cs rest : List Char) : before (cs ++ rest) rest = String.ofList cs := by
  simp [before]

/-- The decimal text of a number is read as that number. -/
theorem number?_repr (n : Nat) {rest : List Char} (h : EndsNumber rest) :
    number? (n.repr.toList ++ rest) = some (.natural n, rest) := by
  have hsign : dropSign (n.repr.toList ++ rest) = n.repr.toList ++ rest := by
    cases hcs : n.repr.toList with
    | nil => exact absurd hcs (Text.isWord_repr n).ne_nil
    | cons c cs =>
        have hc : c.isDigit = true := Text.isDigit_of_mem_repr (n := n) (by rw [hcs]; simp)
        rw [List.cons_append, dropSign.eq_2]
        rintro cs' ⟨rfl, -⟩
        exact absurd hc (by decide)
  have hall : n.repr.toList.all Char.isDigit = true :=
    List.all_eq_true.2 fun c => Text.isDigit_of_mem_repr
  simp only [number?, hsign, wholePart?_repr n h, h.fraction?_eq, h.exponent?_eq, before_append,
    Option.bind_eq_bind, Option.bind_some, String.toList_ofList, hall, Text.digits?_repr]

/-! ## String literals -/

/-- The four hexadecimal digits of a control character. -/
theorem hexQuad?_hexDigit :
    ∀ n < 0x20, hexQuad? '0' '0' (hexDigit (n / 16)) (hexDigit (n % 16)) = some n := by decide

theorem numericPart_toNat {c : Char} (h : c.toNat < 0x20) : numericPart c.toNat = .char c := by
  have hhigh : isHighSurrogate c.toNat = false := by simp [isHighSurrogate]; omega
  have hlow : isLowSurrogate c.toNat = false := by simp [isLowSurrogate]; omega
  rw [numericPart, hhigh, hlow, if_neg (by decide), Char.ofNat_toNat]

/-- What a character is written as is read as that character. -/
theorem stringParts?_escaped (c : Char) (rest : List Char) :
    stringParts? (escaped c ++ rest) =
      (stringParts? rest).map fun p => (.char c :: p.1, p.2) := by
  have hshort : ∀ e d, shortEscape? e = some d → e ≠ 'u' → stringParts? ('\\' :: e :: rest) =
      (stringParts? rest).map fun p => (.char d :: p.1, p.2) := by
    intro e d he hu
    rw [stringParts?.eq_4 _ _ fun _ _ _ _ _ h _ => hu h, he]
    cases stringParts? rest <;> rfl
  unfold escaped
  split
  next h => subst h; exact hshort '"' '"' rfl (by decide)
  split
  next h => subst h; exact hshort '\\' '\\' rfl (by decide)
  split
  next h => subst h; exact hshort 'b' '\x08' rfl (by decide)
  split
  next h => subst h; exact hshort 'f' '\x0c' rfl (by decide)
  split
  next h => subst h; exact hshort 'n' '\n' rfl (by decide)
  split
  next h => subst h; exact hshort 'r' '\r' rfl (by decide)
  split
  next h => subst h; exact hshort 't' '\t' rfl (by decide)
  split
  next h =>
    simp only [List.cons_append, List.nil_append, stringParts?]
    rw [hexQuad?_hexDigit c.toNat h]
    cases stringParts? rest <;> simp [numericPart_toNat h]
  next hquote hslash _ _ _ _ _ hcontrol =>
    rw [List.singleton_append, stringParts?.eq_5 _ _ hquote (fun _ _ _ _ _ h _ => hslash h)
      (fun _ _ h _ => hslash h), if_neg (by simpa [hslash] using hcontrol)]

/-- The inside of a literal is read as the characters that it was written for. -/
theorem stringParts?_flatMap_escaped (cs rest : List Char) :
    stringParts? (cs.flatMap escaped ++ '"' :: rest) = some (cs.map .char, rest) := by
  induction cs with
  | nil => rfl
  | cons c cs ih =>
      rw [List.flatMap_cons, List.append_assoc, stringParts?_escaped, ih]
      rfl

theorem characters?_map_char (cs : List Char) : characters? (cs.map .char) = some cs := by
  induction cs with
  | nil => rfl
  | cons c cs ih => rw [List.map_cons, characters?, ih]; rfl

/-- A literal is read as the text that it was written for. -/
theorem string?_flatMap_escaped (s : String) (rest : List Char) :
    string? (s.toList.flatMap escaped ++ '"' :: rest) = some (.string (.text s), rest) := by
  rw [string?, stringParts?_flatMap_escaped, Option.map_some]
  simp only [characters?_map_char, String.ofList_toList]

/-! ## Tokens -/

theorem tokens?_of_isBlank {c : Char} (h : isBlank c = true) (cs : List Char) :
    tokens? (c :: cs) = tokens? cs := by rw [tokens?, if_pos h]

theorem tokens?_of_token? {c : Char} (hc : isBlank c = false) (cs : List Char)
    {rest : List Char} {t : Token} (h : token? (c :: cs) = some (t, rest)) :
    tokens? (c :: cs) = (tokens? rest).map (t :: ·) := by
  rw [tokens?, if_neg (by rw [hc]; decide)]
  split
  next hnone => rw [hnone] at h; exact absurd h (by simp)
  next t' rest' hsome =>
    rw [hsome, Option.some.injEq, Prod.mk.injEq] at h
    obtain ⟨rfl, rfl⟩ := h
    rfl

/-- Blanks in front of a text add no token. -/
theorem tokens?_append_of_isBlank {cs : List Char} (h : ∀ c ∈ cs, isBlank c = true)
    (rest : List Char) : tokens? (cs ++ rest) = tokens? rest := by
  induction cs with
  | nil => rfl
  | cons c cs ih =>
      rw [List.cons_append, tokens?_of_isBlank (h c List.mem_cons_self),
        ih fun c' hmem => h c' (List.mem_cons_of_mem c hmem)]

@[simp] theorem tokens?_lineBreak (depth : Nat) (rest : List Char) :
    tokens? ((lineBreak depth).toList ++ rest) = tokens? rest := by
  refine tokens?_append_of_isBlank (fun c hmem => ?_) rest
  rw [lineBreak, String.toList_ofList, List.mem_cons] at hmem
  rcases hmem with rfl | hmem
  · decide
  · rw [List.eq_of_mem_replicate hmem]
    decide

/-- The scalars that are what they are written as. -/
def Scalar.plain : Scalar → Bool
  | null | bool _ | natural _ | string (.text _) => true
  | number _ | string (.unpaired _) => false

theorem ne_of_isDigit {c d : Char} (h : c.isDigit = true) (hd : d.isDigit = false) : c ≠ d := by
  rintro rfl
  exact absurd h (by rw [hd]; decide)

/-- A digit starts a number. -/
theorem token?_of_isDigit {c : Char} (h : c.isDigit = true) (cs : List Char) :
    token? (c :: cs) = (number? (c :: cs)).map fun p => (.scalar p.1, p.2) := by
  have hne : ∀ d : Char, d.isDigit = false → c ≠ d := fun _ => ne_of_isDigit h
  rw [token?.eq_9 _ _ (hne _ (by decide)) (hne _ (by decide)) (hne _ (by decide))
    (hne _ (by decide)) (hne _ (by decide)) (hne _ (by decide)) (hne _ (by decide)), h]
  rfl

theorem isBlank_of_isDigit {c : Char} (h : c.isDigit = true) : isBlank c = false := by
  have hne : ∀ d : Char, d.isDigit = false → (c == d) = false := fun _ hd =>
    beq_eq_false_iff_ne.2 (ne_of_isDigit h hd)
  rw [isBlank, hne _ (by decide), hne _ (by decide), hne _ (by decide), hne _ (by decide)]
  rfl

theorem tokens?_repr (n : Nat) {rest : List Char} (h : EndsNumber rest) :
    tokens? (n.repr.toList ++ rest) = (tokens? rest).map (.scalar (.natural n) :: ·) := by
  have hnumber := number?_repr n h
  cases hcs : n.repr.toList with
  | nil => exact absurd hcs (Text.isWord_repr n).ne_nil
  | cons c cs =>
      have hc : c.isDigit = true := Text.isDigit_of_mem_repr (n := n) (by rw [hcs]; simp)
      rw [hcs, List.cons_append] at hnumber
      rw [List.cons_append]
      refine tokens?_of_token? (isBlank_of_isDigit hc) _ ?_
      rw [token?_of_isDigit hc, hnumber]
      rfl

theorem tokens?_literal (s : String) (rest : List Char) :
    tokens? ((Literal.text s).pretty.toList ++ rest) =
      (tokens? rest).map (.scalar (.string (.text s)) :: ·) := by
  have hcs : (Literal.text s).pretty.toList ++ rest =
      '"' :: (s.toList.flatMap escaped ++ '"' :: rest) := by simp [Literal.pretty]
  rw [hcs]
  refine tokens?_of_token? (by decide) _ ?_
  rw [token?, string?_flatMap_escaped]
  rfl

/-- The text of a plain scalar is read as one token. -/
theorem tokens?_pretty_scalar {s : Scalar} (hs : s.plain = true) {rest : List Char}
    (h : EndsNumber rest) :
    tokens? (s.pretty.toList ++ rest) = (tokens? rest).map (.scalar s :: ·) := by
  match s, hs with
  | .null, _ => exact tokens?_of_token? (by decide) _ rfl
  | .bool true, _ => exact tokens?_of_token? (by decide) _ rfl
  | .bool false, _ => exact tokens?_of_token? (by decide) _ rfl
  | .natural n, _ => exact tokens?_repr n h
  | .string (.text s), _ => exact tokens?_literal s rest

end DebugTypes.Json
