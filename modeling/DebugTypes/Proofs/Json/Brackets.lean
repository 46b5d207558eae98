import DebugTypes.Proofs.Json.Nesting
import DebugTypes.Proofs.Json.Parse

/-!
# How deep the brackets of a text nest

A limit on nesting is a limit on the text that is read.  Here its brackets and braces are counted
one character after the other, with no regard to the values that they stand for; those inside
string literals do not count.  In the text of a value they nest as deep as its arrays and objects.

## Main definitions

* `Json.BracketScan` — what is known of a text up to one of its characters.
* `Json.bracketDepth text` — how deep the brackets and braces of a text nest.

## Main statement

* `Json.bracketDepth_pretty` — the brackets of a written value nest as the value does.
-/

namespace DebugTypes.Json

/-- Where the next character of a text stands. -/
inductive ScanMode where
  | between
  | literal
  /-- In a string literal, right after a backslash. -/
  | escape
  deriving DecidableEq, Repr

/-- What is known of a text up to one of its characters: how many brackets are open, and how many
were at most. -/
structure BracketScan where
  mode : ScanMode := .between
  opened : Nat := 0
  deepest : Nat := 0
  deriving DecidableEq, Repr

namespace BracketScan

/-- One more character of the text. -/
def step (s : BracketScan) (c : Char) : BracketScan :=
  match s.mode with
  | .escape => { s with mode := .literal }
  | .literal =>
    if c = '\\' then { s with mode := .escape }
    else if c = '"' then { s with mode := .between }
    else s
  | .between =>
    if c = '"' then { s with mode := .literal }
    else if c = '[' ∨ c = '{' then
      { s with opened := s.opened + 1, deepest := max s.deepest (s.opened + 1) }
    else if c = ']' ∨ c = '}' then { s with opened := s.opened - 1 }
    else s

/-- More of the text. -/
def run (s : BracketScan) (text : String) : BracketScan := text.toList.foldl step s

@[simp] theorem run_append (s : BracketScan) (text later : String) :
    s.run (text ++ later) = (s.run text).run later := by
  rw [run, run, run, String.toList_append, List.foldl_append]

/-- What is known between literals, with the brackets that are open and their greatest number. -/
def between (opened deepest : Nat) : BracketScan := ⟨.between, opened, deepest⟩

/-- What is known inside a literal. -/
def literal (opened deepest : Nat) : BracketScan := ⟨.literal, opened, deepest⟩

variable (opened deepest : Nat)

theorem run_open_bracket :
    (between opened deepest).run "[" = between (opened + 1) (max deepest (opened + 1)) := rfl

theorem run_open_brace :
    (between opened deepest).run "\x7b" = between (opened + 1) (max deepest (opened + 1)) := rfl

theorem run_close_bracket : (between (opened + 1) deepest).run "]" = between opened deepest := rfl

theorem run_close_brace : (between (opened + 1) deepest).run "\x7d" = between opened deepest := rfl

/-- A character that is no quote and no bracket. -/
def isInert (c : Char) : Bool := !(['"', '[', '{', ']', '}'].contains c)

theorem step_of_isInert {c : Char} (h : isInert c = true) :
    (between opened deepest).step c = between opened deepest := by
  simp only [isInert, Bool.not_eq_true', List.contains_eq_mem, List.mem_cons, List.not_mem_nil,
    or_false, decide_eq_false_iff_not, not_or] at h
  obtain ⟨hquote, hopen, hopen', hclose, hclose'⟩ := h
  simp only [step, between, hquote, hopen, hopen', hclose, hclose', or_self, if_false]

/-- Characters that are no quotes and no brackets change nothing. -/
theorem run_of_isInert {text : String} (h : ∀ c ∈ text.toList, isInert c = true) :
    (between opened deepest).run text = between opened deepest := by
  rw [run]
  generalize text.toList = cs at h ⊢
  induction cs with
  | nil => rfl
  | cons c cs ih =>
      rw [List.foldl_cons, step_of_isInert opened deepest (h c List.mem_cons_self)]
      exact ih fun c' hmem => h c' (List.mem_cons_of_mem c hmem)

@[simp] theorem run_lineBreak (depth : Nat) :
    (between opened deepest).run (lineBreak depth) = between opened deepest := by
  refine run_of_isInert opened deepest fun c hmem => ?_
  rw [lineBreak, String.toList_ofList, List.mem_cons] at hmem
  rcases hmem with rfl | hmem
  · decide
  · rw [List.eq_of_mem_replicate hmem]
    decide

/-! ## Scalars -/

theorem step_literal {c : Char} (hslash : c ≠ '\\') (hquote : c ≠ '"') :
    (literal opened deepest).step c = literal opened deepest := by
  simp only [step, literal, hslash, hquote, if_false]

/-- A hexadecimal digit neither ends a literal nor escapes anything. -/
theorem hexDigit_ne : ∀ n < 16, hexDigit n ≠ '\\' ∧ hexDigit n ≠ '"' := by decide

/-- What a character is written as does not end the literal that it stands in. -/
theorem foldl_escaped (c : Char) :
    (escaped c).foldl step (literal opened deepest) = literal opened deepest := by
  by_cases hquote : c = '"'
  · rw [hquote]; rfl
  by_cases hslash : c = '\\'
  · rw [hslash]; rfl
  simp only [escaped, hquote, hslash, if_false]
  -- The five short escapes, then the numeric one, then a character that stands for itself.
  iterate 5 (split; · rfl)
  split
  next hcontrol =>
    obtain ⟨hhigh, hhigh'⟩ := hexDigit_ne (c.toNat / 16) (by omega)
    obtain ⟨hlow, hlow'⟩ := hexDigit_ne (c.toNat % 16) (by omega)
    change ((literal opened deepest).step _).step _ = _
    rw [step_literal opened deepest hhigh hhigh', step_literal opened deepest hlow hlow']
  next => exact step_literal opened deepest hslash hquote

/-- A literal changes nothing, whatever text it is written for. -/
theorem run_literal (s : String) :
    (between opened deepest).run (Literal.text s).pretty = between opened deepest := by
  have hinside : ∀ cs : List Char,
      (cs.flatMap escaped).foldl step (literal opened deepest) = literal opened deepest := by
    intro cs
    induction cs with
    | nil => rfl
    | cons c cs ih => rw [List.flatMap_cons, List.foldl_append, foldl_escaped, ih]
  rw [run, Literal.pretty, String.toList_ofList, List.cons_append, List.foldl_cons,
    List.foldl_append]
  change ((s.toList.flatMap escaped).foldl step (literal opened deepest)).step '"' = _
  rw [hinside]
  rfl

theorem isInert_of_isDigit {c : Char} (h : c.isDigit = true) : isInert c = true := by
  simp only [isInert, Bool.not_eq_true', List.contains_eq_mem, List.mem_cons, List.not_mem_nil,
    or_false, decide_eq_false_iff_not, not_or]
  exact ⟨ne_of_isDigit h (by decide), ne_of_isDigit h (by decide), ne_of_isDigit h (by decide),
    ne_of_isDigit h (by decide), ne_of_isDigit h (by decide)⟩

/-- A plain scalar changes nothing. -/
theorem run_scalar {s : Scalar} (h : s.plain = true) :
    (between opened deepest).run s.pretty = between opened deepest := by
  match s, h with
  | .null, _ => rfl
  | .bool true, _ => rfl
  | .bool false, _ => rfl
  | .natural n, _ =>
    exact run_of_isInert opened deepest fun c hmem =>
      isInert_of_isDigit (Text.isDigit_of_mem_repr hmem)
  | .string (.text s), _ => exact run_literal opened deepest s

/-- The name of a field and the colon after it change nothing. -/
theorem run_fieldName {name : Literal} (h : (Scalar.string name).plain = true) :
    ((between opened deepest).run name.pretty).run ": " = between opened deepest := by
  have hname : (between opened deepest).run name.pretty = between opened deepest :=
    run_scalar opened deepest h
  rw [hname]
  rfl

end BracketScan

open BracketScan Value

/-! ## Values -/

mutual

/-- The text of a plain value opens as many brackets on top of the open ones as the value nests,
and closes them all. -/
theorem run_prettyAt (depth : Nat) : ∀ (v : Value), v.plain = true →
    ∀ opened deepest : Nat, opened ≤ deepest →
    (between opened deepest).run (prettyAt depth v) =
      between opened (max deepest (opened + v.nesting))
  | .scalar s, hv, opened, deepest, hle => by
    rw [prettyAt, run_scalar opened deepest hv, nesting, Nat.add_zero, Nat.max_eq_left hle]
  | .array [], _, opened, deepest, _ => by
    rw [prettyAt, nesting_array, itemsNesting]
    rfl
  | .array (v :: vs), hv, opened, deepest, hle => by
    obtain ⟨hv, hvs⟩ : v.plain = true ∧ plainItems vs = true := by
      simpa [plain, plainItems] using hv
    simp only [prettyAt, run_append, run_open_bracket, run_lineBreak, nesting_array, itemsNesting]
    rw [run_prettyAt (depth + 1) v hv _ _ (by omega),
      run_prettyItems (depth + 1) vs hvs _ _ (by omega), run_lineBreak, run_close_bracket]
    congr 1
    omega
  | .object [], _, opened, deepest, _ => by
    rw [prettyAt, nesting, fieldsNesting]
    rfl
  | .object ((name, v) :: fields), hv, opened, deepest, hle => by
    obtain ⟨⟨hname, hv⟩, hfields⟩ :
        ((Scalar.string name).plain = true ∧ v.plain = true) ∧ plainFields fields = true := by
      simpa [plain, plainFields] using hv
    simp only [prettyAt, run_append, run_open_brace, run_lineBreak, nesting, fieldsNesting]
    rw [run_fieldName _ _ hname, run_prettyAt (depth + 1) v hv _ _ (by omega),
      run_prettyFields (depth + 1) fields hfields _ _ (by omega), run_lineBreak, run_close_brace]
    congr 1
    omega

/-- The same for the items after the first. -/
theorem run_prettyItems (depth : Nat) : ∀ (vs : List Value), plainItems vs = true →
    ∀ opened deepest : Nat, opened ≤ deepest →
    (between opened deepest).run (prettyItems depth vs) =
      between opened (max deepest (opened + itemsNesting vs))
  | [], _, opened, deepest, hle => by
    rw [itemsNesting, Nat.add_zero, Nat.max_eq_left hle]
    rfl
  | v :: vs, hvs, opened, deepest, hle => by
    obtain ⟨hv, hvs⟩ : v.plain = true ∧ plainItems vs = true := by simpa [plainItems] using hvs
    have hcomma : (between opened deepest).run "," = between opened deepest := rfl
    simp only [prettyItems, run_append, hcomma, run_lineBreak, itemsNesting]
    rw [run_prettyAt depth v hv _ _ hle, run_prettyItems depth vs hvs _ _ (by omega)]
    congr 1
    omega

/-- The same for the fields after the first. -/
theorem run_prettyFields (depth : Nat) : ∀ (fields : List (Literal × Value)),
    plainFields fields = true → ∀ opened deepest : Nat, opened ≤ deepest →
    (between opened deepest).run (prettyFields depth fields) =
      between opened (max deepest (opened + fieldsNesting fields))
  | [], _, opened, deepest, hle => by
    rw [fieldsNesting, Nat.add_zero, Nat.max_eq_left hle]
    rfl
  | (name, v) :: fields, hfields, opened, deepest, hle => by
    obtain ⟨⟨hname, hv⟩, hfields⟩ :
        ((Scalar.string name).plain = true ∧ v.plain = true) ∧ plainFields fields = true := by
      simpa [plainFields] using hfields
    have hcomma : (between opened deepest).run "," = between opened deepest := rfl
    simp only [prettyFields, run_append, hcomma, run_lineBreak, fieldsNesting]
    rw [run_fieldName _ _ hname, run_prettyAt depth v hv _ _ hle,
      run_prettyFields depth fields hfields _ _ (by omega)]
    congr 1
    omega

end

/-- How deep the brackets and braces of a text nest, those inside string literals apart. -/
def bracketDepth (text : String) : Nat := (BracketScan.run {} text).deepest

/-- The brackets of the text of a plain value nest as deep as its arrays and objects. -/
theorem bracketDepth_pretty {v : Value} (h : v.plain = true) :
    bracketDepth (pretty v) = v.nesting := by
  have hrun := run_prettyAt 0 v h 0 0 (Nat.le_refl 0)
  rw [Nat.zero_max, Nat.zero_add] at hrun
  exact congrArg BracketScan.deepest hrun

/-- Brackets in a literal are text. -/
example : bracketDepth "[[1], \"[[[\", \"\\\"[[[\"]" = 2 := by decide

end DebugTypes.Json
