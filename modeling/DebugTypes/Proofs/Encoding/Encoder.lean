import DebugTypes.Proofs.CType.Nodes
import DebugTypes.Proofs.CType.Shape
import DebugTypes.Proofs.Decoding.Runs
import DebugTypes.Proofs.Encoding.Descriptor

/-!
# Types written as documents

An encoder writes down the records that a type needs, in the order in which decoding asks for them,
with the ids `0`, `1`, `2`, … in each section.  A member or parameter first needs what its base
needs; then come its wrap operators from the innermost.  A record takes its id before the records
that its own content needs.

## Main definitions

* `Records` — records for each section.
* `Encoder α` — from how many records there are, an `α` that says which ids to use, and new records.
* `Encoder.reserve` — one record in front of those that its content needs.
* `Encoder.describe` — the descriptor of a type.
* `Document.ofTypes` — the document of a list of named types.

## Main statements

* `Encoder.length_describe` — a type needs one record for each of its nodes that stand for one.
* `Encoder.fits_describe` — the descriptor of a type has no more parts than the shape of the type.
-/

namespace DebugTypes

/-- Records for each section. -/
abbrev Records := Section → List Element

namespace Records

/-- No records. -/
def none : Records := fun _ => []

/-- One record in a section. -/
def single (place : Section) (record : Element) : Records :=
  fun other => if other = place then [record] else []

/-- Records with others behind them. -/
def append (r later : Records) : Records := fun place => r place ++ later place

end Records

/-- How many records there are with the new ones. -/
def Tally.after (n : Tally) (r : Records) : Tally := fun place => n place + (r place).length

theorem Tally.after_single (n : Tally) (place : Section) (record : Element) :
    n.after (.single place record) = n.count place := by
  funext other
  rw [after, count, Records.single]
  split <;> rfl

/-- From how many records there are so far, a text of type `α` that may refer to new ones, and the
new ones. -/
abbrev Encoder (α : Type) := Tally → α × Records

namespace Encoder

variable {α β : Type}

/-- A text that needs no record. -/
def plain (a : α) : Encoder α := fun _ => (a, .none)

/-- The text made from another. -/
def map (f : α → β) (x : Encoder α) : Encoder β := fun n => ((f (x n).1), (x n).2)

/-- Two texts, the records of the first in front. -/
def both (x : Encoder α) (y : Encoder β) : Encoder (α × β) := fun n =>
  let later := y (n.after (x n).2)
  (((x n).1, later.1), (x n).2.append later.2)

/-- The id of a new record with the children that `x` writes, in front of the records that these
need. -/
def reserve (place : Section) (tag : String) (x : Encoder (List Element)) : Encoder Nat := fun n =>
  let content := x (n.count place)
  let record := .mk tag [("id", (n place).repr)] content.1
  (n place, (Records.single place record).append content.2)

/-- The descriptor of the unnamed type with an id. -/
def unnamedBase (id : Nat) : Descriptor where
  base := "#" ++ id.repr

/-- The children of an enum record. -/
def constants (cs : List (String × String)) : List Element :=
  cs.map fun c => .mk "const" [("name", c.1), ("val", c.2)] []

mutual

/-- The descriptor of a type.  A function takes its id after its result has taken what it needs. -/
def describe : CType → Encoder Descriptor
  | .primitive p => plain { base := "." ++ p.token }
  | .named n => plain { base := "$" ++ n }
  | .struct ms => (reserve .unnamed "struct" (members ms)).map unnamedBase
  | .union ms => (reserve .unnamed "union" (members ms)).map unnamedBase
  | .enum cs => (reserve .unnamed "enum" (plain (constants cs))).map unnamedBase
  | .qualified t q => (describe t).map fun d => d.withQualifiers q
  | .bitField t width => (describe t).map fun d => d.withWidth width
  | .pointer t => (describe t).map fun d => d.withStep .pointer
  | .array t length => (describe t).map fun d => d.withStep (.array length)
  | .function t c ps =>
    ((describe t).both (reserve .functions "func" (parameters ps))).map fun p =>
      p.1.withStep (.function c p.2)

/-- The records of the members of a struct or union. -/
def members : List (String × CType) → Encoder (List Element)
  | [] => plain []
  | (name, t) :: ms => ((describe t).both (members ms)).map fun p => p.1.member name :: p.2

/-- The records of the parameters of a function. -/
def parameters : List CType → Encoder (List Element)
  | [] => plain []
  | t :: ts => ((describe t).both (parameters ts)).map fun p => p.1.parameter :: p.2

end

/-- The children of the record of a struct, union or enum. -/
def children : CType → Encoder (List Element)
  | .struct ms => members ms
  | .union ms => members ms
  | .enum cs => plain (constants cs)
  | _ => plain []

/-- The record of a named type. -/
def named (name : String) (t : CType) : Encoder Element :=
  (children t).map (.mk t.kind.label [("name", name)])

/-- The records of named types. -/
def entries : List (String × CType) → Encoder (List Element)
  | [] => plain []
  | (name, t) :: rest => ((named name t).both (entries rest)).map fun p => p.1 :: p.2

end Encoder

/-- The document of a list of named types. -/
def Document.ofTypes (types : List (String × CType)) : Document where
  root := .mk "types" []
    [.mk "funcs" [] ((Encoder.entries types fun _ => 0).2 .functions),
      .mk "unnamed" [] ((Encoder.entries types fun _ => 0).2 .unnamed),
      .mk "named" [] (Encoder.entries types fun _ => 0).1]
  complete := by simp [sectionCount]

namespace Descriptor

/-- A descriptor with no more parts than a shape allows. -/
def fits (d : Descriptor) : Shape → Prop
  | .base => d.qualifiers = none ∧ d.steps = [] ∧ d.width = none
  | .qualified => d.steps = [] ∧ d.width = none
  | .chain => d.width = none
  | .member => d.steps = [] ∨ d.width = none

theorem fits_of_fits_base {d : Descriptor} (h : d.fits .base) (shape : Shape) : d.fits shape := by
  obtain ⟨hq, hs, hw⟩ := h
  cases shape with
  | base => exact ⟨hq, hs, hw⟩
  | qualified => exact ⟨hs, hw⟩
  | chain => exact hw
  | member => exact .inl hs

/-- A shape that allows wrap operators allows all but a width. -/
theorem fits_of_wraps {d : Descriptor} {shape : Shape} (h : shape.wraps = true)
    (hw : d.width = none) : d.fits shape := by
  cases shape with
  | base => exact absurd h (by decide)
  | qualified => exact absurd h (by decide)
  | chain => exact hw
  | member => exact .inr hw

theorem tokens_eq_nil {d : Descriptor} (h : d.steps = []) : d.tokens = [] := by
  rw [tokens, h, List.flatMap_nil]

theorem tokens_withStep (d : Descriptor) (step : WrapStep) :
    (d.withStep step).tokens = d.tokens ++ step.tokens := by simp [tokens, withStep]

end Descriptor

namespace Encoder

/-- The descriptor of a type has no more parts than the shape of the type. -/
theorem fits_describe (t : CType) (shape : Shape) (h : t.hasShape shape = true) (n : Tally) :
    (describe t n).1.fits shape := by
  match t with
  | .primitive _ | .named _ | .struct _ | .union _ | .enum _ =>
      refine Descriptor.fits_of_fits_base ?_ shape
      rw [describe]
      exact ⟨rfl, rfl, rfl⟩
  | .qualified t q =>
      rw [CType.hasShape, Bool.and_eq_true] at h
      obtain ⟨-, hs, hw⟩ := fits_describe t .base h.2 n
      rw [describe]
      cases shape with
      | base => exact absurd h.1 (by decide)
      | qualified => exact ⟨hs, hw⟩
      | chain => exact hw
      | member => exact .inl hs
  | .pointer t =>
      rw [CType.hasShape, Bool.and_eq_true] at h
      exact Descriptor.fits_of_wraps h.1 (fits_describe t .chain h.2 n)
  | .array t length =>
      rw [CType.hasShape, Bool.and_eq_true] at h
      exact Descriptor.fits_of_wraps h.1 (fits_describe t .chain h.2 n)
  | .function t c ps =>
      rw [CType.hasShape, Bool.and_eq_true, Bool.and_eq_true] at h
      exact Descriptor.fits_of_wraps h.1.1 (fits_describe t .chain h.1.2 n)
  | .bitField t width =>
      rw [CType.hasShape, Bool.and_eq_true, beq_iff_eq] at h
      obtain ⟨rfl, h⟩ := h
      exact .inl (fits_describe t .qualified h n).1

/-- The wrap chain of a descriptor has as many tokens as the type counts. -/
theorem length_tokens_describe (t : CType) (shape : Shape) (h : t.hasShape shape = true)
    (n : Tally) : (describe t n).1.tokens.length = t.chainLength := by
  match t with
  | .primitive _ | .named _ | .struct _ | .union _ | .enum _ =>
      rw [describe]
      rfl
  | .qualified t q =>
      rw [CType.hasShape, Bool.and_eq_true] at h
      have ht := Descriptor.tokens_eq_nil (fits_describe t .base h.2 n).2.1
      rw [describe]
      exact congrArg List.length ht
  | .bitField t width =>
      rw [CType.hasShape, Bool.and_eq_true] at h
      have ht := Descriptor.tokens_eq_nil (fits_describe t .qualified h.2 n).1
      rw [describe]
      exact congrArg List.length ht
  | .pointer t =>
      rw [CType.hasShape, Bool.and_eq_true] at h
      have ht := length_tokens_describe t .chain h.2 n
      rw [describe, map, Descriptor.tokens_withStep, List.length_append, ht]
      rfl
  | .array t length =>
      rw [CType.hasShape, Bool.and_eq_true] at h
      have ht := length_tokens_describe t .chain h.2 n
      rw [describe, map, Descriptor.tokens_withStep, List.length_append, ht]
      rfl
  | .function t c ps =>
      rw [CType.hasShape, Bool.and_eq_true, Bool.and_eq_true] at h
      have ht := length_tokens_describe t .chain h.1.2 n
      rw [describe, map, both, Descriptor.tokens_withStep, List.length_append, ht]
      rfl

section

variable (place : Section) {α β : Type}

@[simp] theorem length_plain (a : α) (n : Tally) : ((plain a n).2 place).length = 0 := rfl

@[simp] theorem length_map (f : α → β) (x : Encoder α) (n : Tally) :
    ((x.map f n).2 place).length = ((x n).2 place).length := rfl

@[simp] theorem length_both (x : Encoder α) (y : Encoder β) (n : Tally) :
    ((x.both y n).2 place).length =
      ((x n).2 place).length + ((y (n.after (x n).2)).2 place).length :=
  List.length_append

/-- A new record counts beside those that its content needs. -/
@[simp] theorem length_reserve (other : Section) (tag : String) (x : Encoder (List Element))
    (n : Tally) :
    ((reserve other tag x n).2 place).length =
      ((x (n.count other)).2 place).length + if place = other then 1 else 0 := by
  simp only [reserve, Records.append, Records.single, List.length_append]
  split
  · rw [List.length_singleton, Nat.add_comm]
  · rw [List.length_nil, Nat.zero_add, Nat.add_zero]

mutual

/-- A type needs one record for each of its nodes that stand for one. -/
theorem length_describe (t : CType) (n : Tally) :
    ((describe t n).2 place).length = t.nodes place := by
  match t with
  | .primitive _ | .named _ => rw [describe, CType.nodes, length_plain]
  | .struct ms | .union ms =>
      rw [describe, CType.nodes, length_map, length_reserve, length_members]
  | .enum cs => rw [describe, CType.nodes, length_map, length_reserve, length_plain, Nat.zero_add]
  | .qualified t _ | .bitField t _ | .pointer t | .array t _ =>
      rw [describe, CType.nodes, length_map, length_describe t]
  | .function t c ps =>
      rw [describe, CType.nodes, length_map, length_both, length_describe t, length_reserve,
        length_parameters]

theorem length_members (ms : List (String × CType)) (n : Tally) :
    ((members ms n).2 place).length = CType.memberNodes place ms := by
  match ms with
  | [] => rw [members, CType.memberNodes, length_plain]
  | (name, t) :: ms =>
      rw [members, CType.memberNodes, length_map, length_both, length_describe t,
        length_members ms]

theorem length_parameters (ts : List CType) (n : Tally) :
    ((parameters ts n).2 place).length = CType.parameterNodes place ts := by
  match ts with
  | [] => rw [parameters, CType.parameterNodes, length_plain]
  | t :: ts =>
      rw [parameters, CType.parameterNodes, length_map, length_both, length_describe t,
        length_parameters ts]

end

/-- A named type needs records for the nodes in its members. -/
theorem length_named (name : String) (t : CType) (n : Tally) :
    ((named name t n).2 place).length = CType.memberNodes place t.members := by
  cases t with
  | struct ms => rw [named, length_map, children, length_members, CType.members]
  | union ms => rw [named, length_map, children, length_members, CType.members]
  | _ => rfl

/-- Named types need records for the nodes in their members. -/
theorem length_entries (types : List (String × CType)) (n : Tally) :
    ((entries types n).2 place).length = CType.nestedNodes place types := by
  induction types generalizing n with
  | nil => rfl
  | cons entry rest ih =>
      rw [entries, length_map, length_both, length_named, ih, CType.nestedNodes]

end

/-- The new records of an encoder have the next ids, one after the other. -/
def Counts {α : Type} (x : Encoder α) : Prop :=
  ∀ n place, ((x n).2 place).map (·.attribute? "id") =
    (List.range' (n place) ((x n).2 place).length).map fun i => some i.repr

section

variable {α β : Type} {x : Encoder α} {y : Encoder β}

theorem counts_plain (a : α) : Counts (plain a) := fun _ _ => rfl

theorem Counts.map (h : Counts x) (f : α → β) : Counts (x.map f) := h

theorem Counts.both (hx : Counts x) (hy : Counts y) : Counts (x.both y) := by
  intro n place
  change ((x n).2 place ++ (y (n.after (x n).2)).2 place).map _ = _
  rw [List.map_append, hx, hy, length_both, ← List.range'_append_1, List.map_append]
  rfl

/-- A record takes its id before the records that its content needs. -/
theorem Counts.reserve {x : Encoder (List Element)} (h : Counts x) (other : Section)
    (tag : String) : Counts (reserve other tag x) := by
  intro n place
  have hx := h (n.count other) place
  rw [length_reserve]
  simp only [Encoder.reserve, Records.append, Records.single, List.map_append, hx]
  by_cases hp : place = other
  · subst hp
    simp only [Tally.count, if_true, List.map_cons, List.map_nil, Element.attribute?_cons_self]
    rw [List.range'_succ]
    rfl
  · simp only [Tally.count, if_neg hp, Nat.add_zero, List.map_nil, List.nil_append]

mutual

theorem counts_describe (t : CType) : Counts (describe t) := by
  match t with
  | .primitive _ | .named _ =>
      rw [describe]
      exact counts_plain _
  | .struct ms | .union ms =>
      rw [describe]
      exact ((counts_members ms).reserve _ _).map _
  | .enum cs =>
      rw [describe]
      exact ((counts_plain _).reserve _ _).map _
  | .qualified t _ | .bitField t _ | .pointer t | .array t _ =>
      rw [describe]
      exact (counts_describe t).map _
  | .function t c ps =>
      rw [describe]
      exact ((counts_describe t).both ((counts_parameters ps).reserve _ _)).map _

theorem counts_members (ms : List (String × CType)) : Counts (members ms) := by
  match ms with
  | [] =>
      rw [members]
      exact counts_plain _
  | (_, t) :: ms =>
      rw [members]
      exact ((counts_describe t).both (counts_members ms)).map _

theorem counts_parameters (ts : List CType) : Counts (parameters ts) := by
  match ts with
  | [] =>
      rw [parameters]
      exact counts_plain _
  | t :: ts =>
      rw [parameters]
      exact ((counts_describe t).both (counts_parameters ts)).map _

end

theorem counts_entries (types : List (String × CType)) : Counts (entries types) := by
  induction types with
  | nil => exact counts_plain _
  | cons entry rest ih =>
      have hchildren : Counts (children entry.2) := by
        cases entry.2 with
        | struct ms => exact counts_members ms
        | union ms => exact counts_members ms
        | _ => exact counts_plain _
      exact ((hchildren.map _).both ih).map _

end

end Encoder

theorem Document.records_ofTypes (types : List (String × CType)) (place : Section) :
    (ofTypes types).records place = (Encoder.entries types fun _ => 0).2 place := by
  cases place <;> rfl

/-- The document has one record for each nested node that needs one, with the ids `0`, `1`, `2`, …
in this order. -/
theorem Document.ids_ofTypes (types : List (String × CType)) (place : Section) :
    ((ofTypes types).records place).map (·.attribute? "id") =
      (List.range (CType.nestedNodes place types)).map fun i => some i.repr := by
  have hids := Encoder.counts_entries types (fun _ => 0) place
  rw [Encoder.length_entries] at hids
  rw [records_ofTypes, List.range_eq_range', hids]

end DebugTypes
