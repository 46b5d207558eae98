import DebugTypes.CType.Json.Read
import DebugTypes.CType.Json.Write
import DebugTypes.Proofs.Json.Nesting
import DebugTypes.Proofs.Json.Parse

/-!
# Types read back from JSON

A type is read back from the value that it is written as, if as many levels may be entered as that
value nests, and not at all otherwise.

## Main definition

* `CType.ReadsBack t` — the type `t` is read from what it is written as, where the levels suffice.

## Main statements

* `CType.readsBack` — every type reads back.
* `CType.plain_toJson` — what a type is written as survives being written as text.
-/

namespace DebugTypes.CType

open Json (Value within within_zero eq_within_succ bind_within bind_within_some mapM'_map_within
  parts?_record only?_record)

/-! ## Values of words and numbers -/

/-- The word of a scalar type, qualifier or convention is a text. -/
theorem word?_text (levels : Nat) (s : String) : (Value.text s).word? levels = some s := by
  rw [Value.word?]
  rfl

theorem below?_natural {bound n : Nat} (h : n < bound) :
    (Value.natural n).below? bound = some n := if_pos h

/-- The values of words nest no further. -/
theorem itemsNesting_map_text {α : Type} (f : α → String) (as : List α) :
    Value.itemsNesting (as.map fun a => .text (f a)) = 0 := by
  induction as with
  | nil => rfl
  | cons a as ih => rw [List.map_cons, Value.itemsNesting, ih]; rfl

theorem below?_length (n : UInt64) :
    (Value.natural n.toNat).below? UInt64.size = some n.toNat := below?_natural n.toNat_lt

theorem below?_width (n : UInt32) :
    (Value.natural n.toNat).below? UInt32.size = some n.toNat := below?_natural n.toNat_lt

/-! ## Bodies -/

/-- The parts of a body of one part. -/
theorem parts?_one (name : String) (v : Value) :
    (Value.record [(name, v)]).parts? [name] = some [v] :=
  parts?_record [(name, v)] (by simp)

/-- The parts of a body of two parts. -/
theorem parts?_two {name name' : String} (h : name ≠ name') (v v' : Value) :
    (Value.record [(name, v), (name', v')]).parts? [name, name'] = some [v, v'] :=
  parts?_record [(name, v), (name', v')] (by simpa using h)

theorem nesting_record_one (name : String) (v : Value) :
    (Value.record [(name, v)]).nesting = v.nesting + 1 := by
  rw [Value.nesting_record, List.map_singleton, Value.itemsNesting, Value.itemsNesting,
    Nat.max_zero]

theorem nesting_record_two (name name' : String) (v v' : Value) :
    (Value.record [(name, v), (name', v')]).nesting = max v.nesting v'.nesting + 1 := by
  simp only [Value.nesting_record, List.map_cons, List.map_nil, Value.itemsNesting, Nat.max_zero]

/-- Qualifiers are read back. -/
theorem qualifiersOfJson?_toList (levels : Nat) (q : Qualifiers) :
    qualifiersOfJson? levels (.array (q.toList.map fun a => .text a.word)) =
      within levels 1 q := by
  refine eq_within_succ (qualifiersOfJson? · _) rfl (fun n => ?_) levels
  have hwords : (q.toList.map fun a => Value.text a.word).mapM'
      (fun item => (item.word? n).bind Qualifier.ofWord?) =
        within n (Value.itemsNesting (q.toList.map fun a => .text a.word)) q.toList :=
    mapM'_map_within fun a _ => by simp [word?_text]
  rw [itemsNesting_map_text, within_zero] at hwords
  simp [qualifiersOfJson?, Value.items?, hwords]

/-- An enum constant is read back. -/
theorem constantOfJson?_constantJson (levels : Nat) (c : String × String) :
    constantOfJson? levels (constantJson c) = within levels (constantJson c).nesting c := by
  rw [constantJson, Value.nesting_array]
  exact eq_within_succ (constantOfJson? · _) rfl (fun _ => rfl) levels

/-- The constants of an enum are read back. -/
theorem enumBody?_constants (levels : Nat) (cs : List (String × String)) :
    enumBody? levels (.record [("values", .array (cs.map constantJson))]) =
      within levels (Value.itemsNesting (cs.map constantJson) + 2) cs := by
  refine eq_within_succ (enumBody? · _) rfl (fun n => ?_) levels
  rw [enumBody?, parts?_one]
  refine eq_within_succ (constantsOfJson? · _) rfl (fun n => ?_) n
  simp only [constantsOfJson?, Value.items?, Option.bind_some,
    mapM'_map_within fun c _ => constantOfJson?_constantJson n c]

/-! ## Types -/

/-- A type is read back from what it is written as, where the levels suffice. -/
def ReadsBack (t : CType) : Prop :=
  ∀ levels, ofJson? levels t.toJson = within levels t.toJson.nesting t

/-- A type of a kind is read back if its body is. -/
theorem readsBack_of_body {t : CType} {k : Kind} {body : Value} (ht : t.toJson = kindJson k body)
    (h : ∀ n, ofJson? (n + 1) (kindJson k body) = within n body.nesting t) : t.ReadsBack := by
  intro levels
  rw [ht, kindJson, nesting_record_one]
  exact eq_within_succ (ofJson? · _) (by rw [ofJson?]) h levels

namespace ReadsBack

/-- What a kind is followed by is read as a body of that kind. -/
theorem ofJson?_kindJson (n : Nat) (k : Kind) (body : Value) :
    ofJson? (n + 1) (kindJson k body) = match k with
      | .primitive => ((body.word? n).bind Primitive.ofWord?).map .primitive
      | .pointer => (ofJson? n body).map .pointer
      | .array => arrayBody? n body
      | .struct => (membersBody? "fields" "field_type" n body).map .struct
      | .union => (membersBody? "members" "member_type" n body).map .union
      | .enum => (enumBody? n body).map .enum
      | .function => functionBody? n body
      | .bitField => bitFieldBody? n body
      | .qualified => qualifiedBody? n body
      | .named => body.text?.map .named := by
  simp only [kindJson, ofJson?, only?_record, Option.bind_eq_bind, Option.bind_some,
    Kind.ofWord?_word]
  cases k <;> simp only [Option.map_eq_bind] <;> rfl

theorem primitive (p : Primitive) : (primitive p).ReadsBack :=
  readsBack_of_body rfl fun n => by
    simp [ofJson?_kindJson, word?_text]

theorem named (name : String) : (named name).ReadsBack :=
  readsBack_of_body rfl fun n => by
    rw [ofJson?_kindJson, Value.nesting_text, within_zero]
    rfl

theorem pointer {t : CType} (h : t.ReadsBack) : t.pointer.ReadsBack :=
  readsBack_of_body rfl fun n => by
    simp only [ofJson?_kindJson, h n, Option.map_eq_bind]
    exact bind_within_some n _ t _

theorem array {t : CType} (h : t.ReadsBack) (len : UInt64) : (t.array len).ReadsBack :=
  readsBack_of_body rfl fun n => by
    rw [ofJson?_kindJson, nesting_record_two]
    refine eq_within_succ (arrayBody? · _) rfl (fun n => ?_) n
    simp only [arrayBody?, parts?_two (by decide : "element" ≠ "length"), h n, below?_length,
      Option.bind_eq_bind, Option.bind_some, UInt64.ofNat_toNat, Value.nesting_natural,
      Nat.max_zero, bind_within_some]

theorem bitField {t : CType} (h : t.ReadsBack) (width : UInt32) : (t.bitField width).ReadsBack :=
  readsBack_of_body rfl fun n => by
    rw [ofJson?_kindJson, nesting_record_two]
    refine eq_within_succ (bitFieldBody? · _) rfl (fun n => ?_) n
    simp only [bitFieldBody?, parts?_two (by decide : "base" ≠ "width"), h n, below?_width,
      Option.bind_eq_bind, Option.bind_some, UInt32.ofNat_toNat, Value.nesting_natural,
      Nat.max_zero, bind_within_some]

theorem qualified {t : CType} (h : t.ReadsBack) (q : Qualifiers) : (t.qualified q).ReadsBack :=
  readsBack_of_body rfl fun n => by
    rw [ofJson?_kindJson, nesting_record_two]
    refine eq_within_succ (qualifiedBody? · _) rfl (fun n => ?_) n
    simp only [qualifiedBody?, parts?_two (by decide : "inner" ≠ "attrs"), h n,
      qualifiersOfJson?_toList, Option.bind_eq_bind, bind_within_some,
      bind_within n _ _ t fun t => t.qualified q, Value.nesting_array, itemsNesting_map_text]

theorem enum (cs : List (String × String)) : (enum cs).ReadsBack :=
  readsBack_of_body rfl fun n => by
    simp only [ofJson?_kindJson, enumBody?_constants, Option.map_eq_bind, nesting_record_one,
      Value.nesting_array]
    exact bind_within_some n _ cs _

/-! ### Types with lists of types -/

theorem membersJson_eq_map (field : String) (ms : List (String × CType)) :
    membersJson field ms =
      ms.map fun m => .record [("name", .text m.1), (field, m.2.toJson)] := by
  induction ms with
  | nil => rfl
  | cons m ms ih => rw [membersJson, ih]; rfl

theorem parametersJson_eq_map (ps : List CType) : parametersJson ps = ps.map toJson := by
  induction ps with
  | nil => rfl
  | cons t ps ih => rw [parametersJson, ih]; rfl

/-- A member is read back if its type is. -/
theorem memberOfJson?_record {m : String × CType} (h : m.2.ReadsBack) {field : String}
    (hfield : "name" ≠ field) (levels : Nat) :
    memberOfJson? field levels (.record [("name", .text m.1), (field, m.2.toJson)]) =
      within levels (Value.record [("name", .text m.1), (field, m.2.toJson)]).nesting m := by
  rw [nesting_record_two]
  refine eq_within_succ (memberOfJson? field · _) rfl (fun n => ?_) levels
  have hname : (Value.text m.1).text? = some m.1 := rfl
  simp only [memberOfJson?, parts?_two hfield, hname, h n, Option.bind_eq_bind, Option.bind_some,
    bind_within_some, Value.nesting_text, Nat.zero_max]

/-- Members are read back if their types are. -/
theorem membersBody?_record {ms : List (String × CType)} (h : ∀ m ∈ ms, m.2.ReadsBack)
    {part field : String} (hfield : "name" ≠ field) (levels : Nat) :
    membersBody? part field levels (.record [(part, .array (membersJson field ms))]) =
      within levels (Value.record [(part, .array (membersJson field ms))]).nesting ms := by
  rw [nesting_record_one, Value.nesting_array, membersJson_eq_map]
  refine eq_within_succ (membersBody? part field · _) rfl (fun n => ?_) levels
  simp only [membersBody?, parts?_one]
  refine eq_within_succ (membersOfJson? field · _) rfl (fun n => ?_) n
  simp only [membersOfJson?, Value.items?, Option.bind_eq_bind, Option.bind_some,
    mapM'_map_within fun m hm => memberOfJson?_record (h m hm) hfield n]

/-- Parameters are read back if each of them is. -/
theorem parametersOfJson?_array {ps : List CType} (h : ∀ t ∈ ps, t.ReadsBack) (levels : Nat) :
    parametersOfJson? levels (.array (parametersJson ps)) =
      within levels (Value.array (parametersJson ps)).nesting ps := by
  rw [Value.nesting_array, parametersJson_eq_map]
  refine eq_within_succ (parametersOfJson? · _) rfl (fun n => ?_) levels
  simp only [parametersOfJson?, Value.items?, Option.bind_eq_bind, Option.bind_some,
    mapM'_map_within fun t ht => h t ht n]

theorem struct {ms : List (String × CType)} (h : ∀ m ∈ ms, m.2.ReadsBack) :
    (struct ms).ReadsBack :=
  readsBack_of_body rfl fun n => by
    simp only [ofJson?_kindJson, membersBody?_record h (by decide : "name" ≠ "field_type"),
      Option.map_eq_bind]
    exact bind_within_some n _ ms _

theorem union {ms : List (String × CType)} (h : ∀ m ∈ ms, m.2.ReadsBack) :
    (union ms).ReadsBack :=
  readsBack_of_body rfl fun n => by
    simp only [ofJson?_kindJson, membersBody?_record h (by decide : "name" ≠ "member_type"),
      Option.map_eq_bind]
    exact bind_within_some n _ ms _

theorem function {t : CType} (h : t.ReadsBack) (c : Convention) {ps : List CType}
    (hps : ∀ p ∈ ps, p.ReadsBack) : (function t c ps).ReadsBack :=
  readsBack_of_body rfl fun n => by
    have hparts := parts?_record [("return_type", t.toJson), ("convention", .text c.word),
      ("parameters", .array (parametersJson ps))] (by simp)
    simp only [List.map_cons, List.map_nil] at hparts
    simp only [ofJson?_kindJson, Value.nesting_record, List.map_cons, List.map_nil,
      Value.itemsNesting, Value.nesting_text, Nat.zero_max, Nat.max_zero]
    refine eq_within_succ (functionBody? · _) rfl (fun n => ?_) n
    simp only [functionBody?, hparts, h n, word?_text, parametersOfJson?_array hps,
      Convention.ofWord?_word, Option.bind_eq_bind, Option.bind_some, bind_within_some]
    exact bind_within n _ _ t _

end ReadsBack

mutual

/-- Every type is read back from what it is written as, where the levels suffice. -/
theorem readsBack : ∀ t : CType, t.ReadsBack
  | primitive p => .primitive p
  | pointer t => .pointer (readsBack t)
  | array t len => .array (readsBack t) len
  | struct ms => .struct (readsBack_members ms)
  | union ms => .union (readsBack_members ms)
  | enum cs => .enum cs
  | function t c ps => .function (readsBack t) c (readsBack_parameters ps)
  | bitField t width => .bitField (readsBack t) width
  | qualified t q => .qualified (readsBack t) q
  | named name => .named name

theorem readsBack_members : ∀ ms : List (String × CType), ∀ m ∈ ms, m.2.ReadsBack
  | [] => List.forall_mem_nil _
  | (_, t) :: ms => List.forall_mem_cons.2 ⟨readsBack t, readsBack_members ms⟩

theorem readsBack_parameters : ∀ ps : List CType, ∀ p ∈ ps, p.ReadsBack
  | [] => List.forall_mem_nil _
  | t :: ps => List.forall_mem_cons.2 ⟨readsBack t, readsBack_parameters ps⟩

end

/-! ## Plain values -/

theorem plain_text (s : String) : (Value.text s).plain = true := rfl

theorem plain_natural (n : Nat) : (Value.natural n).plain = true := rfl

theorem plain_record_nil : (Value.record []).plain = true := rfl

theorem plain_record_cons (name : String) (v : Value) (fields : List (String × Value)) :
    (Value.record ((name, v) :: fields)).plain = (v.plain && (Value.record fields).plain) := by
  rw [Value.record, Value.record, List.map_cons, Value.plain, Value.plain, Value.plainFields]
  rfl

theorem plain_kindJson (k : Kind) (body : Value) : (kindJson k body).plain = body.plain := by
  rw [kindJson, plain_record_cons, plain_record_nil, Bool.and_true]

/-- Items are plain one by one. -/
theorem plain_array_map {α : Type} {f : α → Value} {as : List α}
    (h : ∀ a ∈ as, (f a).plain = true) : (Value.array (as.map f)).plain = true := by
  rw [Value.plain]
  induction as with
  | nil => rfl
  | cons a as ih =>
      rw [List.map_cons, Value.plainItems, h a List.mem_cons_self,
        ih fun b hb => h b (List.mem_cons_of_mem a hb)]
      rfl

open ReadsBack (membersJson_eq_map parametersJson_eq_map)

/-- Members of plain types are plain. -/
theorem plain_membersJson {ms : List (String × CType)} (h : ∀ m ∈ ms, m.2.toJson.plain = true)
    (field : String) : (Value.array (membersJson field ms)).plain = true := by
  rw [membersJson_eq_map]
  exact plain_array_map fun m hm => by
    simp [plain_record_cons, plain_record_nil, plain_text, h m hm]

mutual

/-- What a type is written as is plain. -/
theorem plain_toJson : ∀ t : CType, t.toJson.plain = true
  | primitive _ | named _ => by rw [toJson, plain_kindJson, plain_text]
  | pointer t => by rw [toJson, plain_kindJson, plain_toJson t]
  | array t _ | bitField t _ => by
    simp only [toJson, plain_kindJson, plain_record_cons, plain_record_nil, plain_toJson t,
      plain_natural, Bool.and_self]
  | struct ms | union ms => by
    simp only [toJson, plain_kindJson, plain_record_cons, plain_record_nil,
      plain_membersJson (plain_members ms), Bool.and_self]
  | enum cs => by
    have hcs : (Value.array (cs.map constantJson)).plain = true :=
      plain_array_map fun c _ => by simp [constantJson, Value.plain, Value.plainItems, plain_text]
    simp only [toJson, plain_kindJson, plain_record_cons, plain_record_nil, hcs, Bool.and_self]
  | function t _ ps => by
    have hps : (Value.array (parametersJson ps)).plain = true := by
      rw [parametersJson_eq_map]
      exact plain_array_map (plain_parameters ps)
    simp only [toJson, plain_kindJson, plain_record_cons, plain_record_nil, plain_toJson t,
      plain_text, hps, Bool.and_self]
  | qualified t q => by
    have hq : (Value.array (q.toList.map fun a => .text a.word)).plain = true :=
      plain_array_map fun a _ => plain_text a.word
    simp only [toJson, plain_kindJson, plain_record_cons, plain_record_nil, plain_toJson t, hq,
      Bool.and_self]

theorem plain_members : ∀ ms : List (String × CType), ∀ m ∈ ms, m.2.toJson.plain = true
  | [] => List.forall_mem_nil _
  | (_, t) :: ms => List.forall_mem_cons.2 ⟨plain_toJson t, plain_members ms⟩

theorem plain_parameters : ∀ ps : List CType, ∀ p ∈ ps, p.toJson.plain = true
  | [] => List.forall_mem_nil _
  | t :: ps => List.forall_mem_cons.2 ⟨plain_toJson t, plain_parameters ps⟩

end

end DebugTypes.CType
