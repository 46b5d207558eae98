import DebugTypes.Json.Tree
import DebugTypes.Proofs.Json.Token

/-!
# JSON values read back

The text of a value is taken apart into the tokens of the value, whatever line breaks and blanks
stand between them, and these tokens nest to the value again.

## Main definitions

* `Json.Value.plain` — the values whose scalars and names are what they are written as.
* `Json.Value.tokens` — the tokens of a value.

## Main statements

* `Json.tokens?_prettyAt` — the tokens of the text of a plain value.
* `Json.value?_tokens` — tokens nest to the value that they are of, also inside open arrays and
  objects.
* `Json.parse?_pretty` — a plain value is read back from its text.
-/

namespace DebugTypes.Json

namespace Value

mutual

/-- The values whose scalars and names are what they are written as. -/
def plain : Value → Bool
  | scalar s => s.plain
  | array items => plainItems items
  | object fields => plainFields fields

/-- The lists of plain values. -/
def plainItems : List Value → Bool
  | [] => true
  | v :: vs => v.plain && plainItems vs

/-- The lists of fields with plain names and values. -/
def plainFields : List (Literal × Value) → Bool
  | [] => true
  | (name, v) :: fields => (Scalar.string name).plain && v.plain && plainFields fields

end

mutual

/-- The tokens of a value. -/
def tokens : Value → List Token
  | scalar s => [.scalar s]
  | array [] => [.openArray, .closeArray]
  | array (v :: vs) => .openArray :: (v.tokens ++ (itemsTokens vs ++ [.closeArray]))
  | object [] => [.openObject, .closeObject]
  | object ((name, v) :: fields) =>
    .openObject :: .scalar (.string name) :: .colon ::
      (v.tokens ++ (fieldsTokens fields ++ [.closeObject]))

/-- The tokens of items after the first. -/
def itemsTokens : List Value → List Token
  | [] => []
  | v :: vs => .comma :: (v.tokens ++ itemsTokens vs)

/-- The tokens of fields after the first. -/
def fieldsTokens : List (Literal × Value) → List Token
  | [] => []
  | (name, v) :: fields =>
    .comma :: .scalar (.string name) :: .colon :: (v.tokens ++ fieldsTokens fields)

end

end Value

open Value

/-! ## From text to tokens -/

theorem endsNumber_lineBreak (depth : Nat) (rest : List Char) :
    EndsNumber ((lineBreak depth).toList ++ rest) := by
  rw [lineBreak, String.toList_ofList]
  exact endsNumber_cons (by decide) _

theorem endsNumber_prettyItems (depth : Nat) (vs : List Value) {rest : List Char}
    (h : EndsNumber rest) : EndsNumber ((prettyItems depth vs).toList ++ rest) := by
  cases vs with
  | nil => simpa [prettyItems] using h
  | cons v vs =>
      simp only [prettyItems, String.toList_append, List.append_assoc]
      exact endsNumber_cons (by decide) _

theorem endsNumber_prettyFields (depth : Nat) (fields : List (Literal × Value)) {rest : List Char}
    (h : EndsNumber rest) : EndsNumber ((prettyFields depth fields).toList ++ rest) := by
  match fields with
  | [] => simpa [prettyFields] using h
  | (name, v) :: fields =>
      simp only [prettyFields, String.toList_append, List.append_assoc]
      exact endsNumber_cons (by decide) _

/-- The name of a field and the colon after it. -/
theorem tokens?_fieldName {name : Literal} (h : (Scalar.string name).plain = true)
    (rest : List Char) :
    tokens? (name.pretty.toList ++ (": ".toList ++ rest)) =
      (tokens? rest).map (.scalar (.string name) :: .colon :: ·) := by
  have hname := tokens?_pretty_scalar h
    (show EndsNumber (": ".toList ++ rest) from endsNumber_cons (by decide) _)
  have hcolon : tokens? (": ".toList ++ rest) = (tokens? rest).map (.colon :: ·) :=
    (tokens?_of_token? (c := ':') (by decide) _ rfl).trans
      (congrArg _ (tokens?_of_isBlank (by decide) rest))
  rw [hcolon, Option.map_map] at hname
  exact hname

mutual

/-- The text of a plain value is read as the tokens of the value. -/
theorem tokens?_prettyAt (depth : Nat) : ∀ v : Value, v.plain = true → ∀ rest : List Char,
    EndsNumber rest →
    tokens? ((prettyAt depth v).toList ++ rest) = (tokens? rest).map (v.tokens ++ ·)
  | .scalar s, hv, rest, h => tokens?_pretty_scalar hv h
  | .array [], _, rest, _ => by
    have hopen := tokens?_of_token? (c := '[') (by decide) (']' :: rest) rfl
    have hclose := tokens?_of_token? (c := ']') (by decide) (rest) rfl
    rw [hclose, Option.map_map] at hopen
    simpa [prettyAt, tokens, Function.comp_def] using hopen
  | .array (v :: vs), hv, rest, _ => by
    obtain ⟨hv, hvs⟩ : v.plain = true ∧ plainItems vs = true := by
      simpa [plain, plainItems] using hv
    have hclose := tokens?_of_token? (c := ']') (by decide) (rest) rfl
    have hitems := tokens?_prettyItems (depth + 1) vs hvs
      ((lineBreak depth).toList ++ ']' :: rest) (endsNumber_lineBreak depth _)
    have hitem := tokens?_prettyAt (depth + 1) v hv _
      (endsNumber_prettyItems (depth + 1) vs (endsNumber_lineBreak depth (']' :: rest)))
    rw [hitems, tokens?_lineBreak, hclose] at hitem
    have hopen := tokens?_of_token? (c := '[') (by decide) ((lineBreak (depth + 1)).toList ++
      ((prettyAt (depth + 1) v).toList ++ ((prettyItems (depth + 1) vs).toList ++
        ((lineBreak depth).toList ++ ']' :: rest)))) rfl
    rw [tokens?_lineBreak, hitem] at hopen
    simpa [prettyAt, tokens, Function.comp_def] using hopen
  | .object [], _, rest, _ => by
    have hopen := tokens?_of_token? (c := '\x7b') (by decide) ('\x7d' :: rest) rfl
    have hclose := tokens?_of_token? (c := '\x7d') (by decide) (rest) rfl
    rw [hclose, Option.map_map] at hopen
    simpa [prettyAt, tokens, Function.comp_def] using hopen
  | .object ((name, v) :: fields), hv, rest, _ => by
    obtain ⟨⟨hname, hv⟩, hfields⟩ :
        ((Scalar.string name).plain = true ∧ v.plain = true) ∧ plainFields fields = true := by
      simpa [plain, plainFields] using hv
    have hclose := tokens?_of_token? (c := '\x7d') (by decide) (rest) rfl
    have hrest := tokens?_prettyFields (depth + 1) fields hfields
      ((lineBreak depth).toList ++ '\x7d' :: rest) (endsNumber_lineBreak depth _)
    have hvalue := tokens?_prettyAt (depth + 1) v hv _
      (endsNumber_prettyFields (depth + 1) fields (endsNumber_lineBreak depth ('\x7d' :: rest)))
    rw [hrest, tokens?_lineBreak, hclose] at hvalue
    have hopen := tokens?_of_token? (c := '\x7b') (by decide)
      ((lineBreak (depth + 1)).toList ++ (name.pretty.toList ++ (": ".toList ++
        ((prettyAt (depth + 1) v).toList ++ ((prettyFields (depth + 1) fields).toList ++
          ((lineBreak depth).toList ++ '\x7d' :: rest)))))) rfl
    rw [tokens?_lineBreak, tokens?_fieldName hname, hvalue] at hopen
    simpa [prettyAt, tokens, Function.comp_def] using hopen

/-- The texts of items after the first are read as their tokens. -/
theorem tokens?_prettyItems (depth : Nat) : ∀ vs : List Value, plainItems vs = true →
    ∀ rest : List Char, EndsNumber rest →
    tokens? ((prettyItems depth vs).toList ++ rest) = (tokens? rest).map (itemsTokens vs ++ ·)
  | [], _, rest, _ => by simp [prettyItems, itemsTokens]
  | v :: vs, hvs, rest, h => by
    obtain ⟨hv, hvs⟩ : v.plain = true ∧ plainItems vs = true := by simpa [plainItems] using hvs
    have hitem := tokens?_prettyAt depth v hv _ (endsNumber_prettyItems depth vs h)
    rw [tokens?_prettyItems depth vs hvs rest h] at hitem
    have hcomma := tokens?_of_token? (c := ',') (by decide) ((lineBreak depth).toList ++
      ((prettyAt depth v).toList ++ ((prettyItems depth vs).toList ++ rest))) rfl
    rw [tokens?_lineBreak, hitem] at hcomma
    simpa [prettyItems, itemsTokens, Function.comp_def] using hcomma

/-- The texts of fields after the first are read as their tokens. -/
theorem tokens?_prettyFields (depth : Nat) : ∀ fields : List (Literal × Value),
    plainFields fields = true → ∀ rest : List Char, EndsNumber rest →
    tokens? ((prettyFields depth fields).toList ++ rest) =
      (tokens? rest).map (fieldsTokens fields ++ ·)
  | [], _, rest, _ => by simp [prettyFields, fieldsTokens]
  | (name, v) :: fields, hfields, rest, h => by
    obtain ⟨⟨hname, hv⟩, hfields⟩ :
        ((Scalar.string name).plain = true ∧ v.plain = true) ∧ plainFields fields = true := by
      simpa [plainFields] using hfields
    have hvalue := tokens?_prettyAt depth v hv _ (endsNumber_prettyFields depth fields h)
    rw [tokens?_prettyFields depth fields hfields rest h] at hvalue
    have hcomma := tokens?_of_token? (c := ',') (by decide) ((lineBreak depth).toList ++
      (name.pretty.toList ++ (": ".toList ++ ((prettyAt depth v).toList ++
        ((prettyFields depth fields).toList ++ rest))))) rfl
    rw [tokens?_lineBreak, tokens?_fieldName hname, hvalue] at hcomma
    simpa [prettyFields, fieldsTokens, Function.comp_def] using hcomma

end

/-! ## From tokens to values -/

/-- No value starts with the end of an array. -/
theorem value?_openArray (opened : List Open) (v : Value) (ts : List Token) :
    value? opened (.openArray :: (v.tokens ++ ts)) =
      value? (.array [] :: opened) (v.tokens ++ ts) := by
  match v with
  | .scalar s => rfl
  | .array [] => rfl
  | .array (v :: vs) => rfl
  | .object [] => rfl
  | .object ((name, v) :: fields) => rfl

theorem value?_openObject (opened : List Open) (name : Literal) (ts : List Token) :
    value? opened (.openObject :: .scalar (.string name) :: .colon :: ts) =
      value? (.object [] name :: opened) ts := rfl

mutual

/-- Where a value comes next, its tokens are read as that value. -/
theorem value?_tokens : ∀ (v : Value) (opened : List Open) (ts : List Token),
    value? opened (v.tokens ++ ts) = finish? opened v ts
  | .scalar s, opened, ts => rfl
  | .array [], opened, ts => rfl
  | .array (v :: vs), opened, ts => by
    rw [tokens, List.cons_append, List.append_assoc, value?_openArray, value?_tokens v,
      List.append_assoc, List.singleton_append, finish?_itemsTokens vs]
    rfl
  | .object [], opened, ts => rfl
  | .object ((name, v) :: fields), opened, ts => by
    rw [tokens, List.cons_append, List.cons_append, List.cons_append, List.append_assoc,
      value?_openObject, value?_tokens v, List.append_assoc, List.singleton_append,
      finish?_fieldsTokens fields]
    rfl

/-- The items after the one that has just been read, and the end of the array. -/
theorem finish?_itemsTokens : ∀ (vs : List Value) (opened : List Open) (before : List Value)
    (v : Value) (ts : List Token),
    finish? (.array before :: opened) v (itemsTokens vs ++ .closeArray :: ts) =
      finish? opened (.array (before.reverse ++ v :: vs)) ts
  | [], opened, before, v, ts => by
    rw [itemsTokens, List.nil_append, finish?, List.reverse_cons]
  | w :: vs, opened, before, v, ts => by
    rw [itemsTokens, List.cons_append, List.append_assoc, finish?, value?_tokens w,
      finish?_itemsTokens vs, List.reverse_cons, List.append_assoc, List.singleton_append]

/-- The fields after the one whose value has just been read, and the end of the object. -/
theorem finish?_fieldsTokens : ∀ (fields : List (Literal × Value)) (opened : List Open)
    (before : List (Literal × Value)) (name : Literal) (v : Value) (ts : List Token),
    finish? (.object before name :: opened) v (fieldsTokens fields ++ .closeObject :: ts) =
      finish? opened (.object (before.reverse ++ (name, v) :: fields)) ts
  | [], opened, before, name, v, ts => by
    rw [fieldsTokens, List.nil_append, finish?, List.reverse_cons]
  | (next, w) :: fields, opened, before, name, v, ts => by
    rw [fieldsTokens, List.cons_append, List.cons_append, List.cons_append, List.append_assoc,
      finish?, field?, value?_tokens w, finish?_fieldsTokens fields, List.reverse_cons,
      List.append_assoc, List.singleton_append]

end

/-- A plain value is read back from its text. -/
theorem parse?_pretty {v : Value} (h : v.plain = true) : parse? (pretty v) = some v := by
  have htokens := tokens?_prettyAt 0 v h [] endsNumber_nil
  rw [List.append_nil, tokens?, Option.map_some, List.append_nil] at htokens
  have hvalue := value?_tokens v [] []
  rw [List.append_nil] at hvalue
  rw [parse?, pretty, htokens, Option.bind_some, hvalue, finish?]

end DebugTypes.Json
