import DebugTypes.Proofs.Decoding.Ends
import DebugTypes.Proofs.Encoding.Encoder

/-!
# Decoding undoes encoding

A session stands *ahead* of what an encoder writes when each cursor has passed as many records as
the encoder was told of, and the new records come next.  Decoding then takes these records one by
one, never searches, and leaves the session right behind them.  This holds for each part of an
encoder, and so by induction on the type for all of it.

## Main definitions

* `Session.pass s r` — the session after its cursors have passed the records `r`.
* `Ahead s n r` — the records `r` come next in the session `s`.
* `Encoder.ReadAs x p a` — the recipe `p` of what `x` writes decodes to `a`.

## Main statement

* `readInto_ofTypes` — the document of a list of named types decodes to this list.
-/

namespace DebugTypes

namespace Session

/-- The session after its cursors have passed records. -/
def pass (s : Session) (r : Records) : Session :=
  { s with
    functions := { s.functions with position := s.functions.position + (r .functions).length }
    unnamed := { s.unnamed with position := s.unnamed.position + (r .unnamed).length } }

variable (s : Session)

theorem cursor_pass (r : Records) (place : Section) :
    (s.pass r).cursor place =
      { s.cursor place with position := (s.cursor place).position + (r place).length } := by
  cases place <;> rfl

@[simp] theorem log_pass (r : Records) : (s.pass r).log = s.log := rfl

@[simp] theorem pass_none : s.pass .none = s := rfl

theorem pass_append (r later : Records) : s.pass (r.append later) = (s.pass r).pass later := by
  refine ext_cursor (fun place => ?_) rfl
  rw [cursor_pass, cursor_pass, cursor_pass, Records.append, List.length_append, Nat.add_assoc]

/-- Passing one record is one step of the cursor. -/
theorem pass_single (place : Section) (record : Element) :
    s.pass (.single place record) = s.setCursor place (s.cursor place).moved := by
  cases place <;> rfl

theorem pass_note (events : List Event) (r : Records) :
    (s.note events).pass r = (s.pass r).note events := rfl

end Session

/-- The records `r` come next in a session, behind as many as `n` says; their ids fit 32 bits. -/
structure Ahead (s : Session) (n : Tally) (r : Records) : Prop where
  position : ∀ place, (s.cursor place).position = n place
  next : ∀ place, r place <+: (s.cursor place).records.drop (n place)
  small : ∀ place, n place + (r place).length ≤ UInt32.size

namespace Ahead

variable {s : Session} {n : Tally} {r later : Records}

theorem note (h : Ahead s n r) (events : List Event) : Ahead (s.note events) n r where
  position place := by rw [Session.cursor_note]; exact h.position place
  next place := by rw [Session.cursor_note]; exact h.next place
  small := h.small

/-- What comes next is first the one part, and behind it the other. -/
theorem append (h : Ahead s n (r.append later)) :
    Ahead s n r ∧ Ahead (s.pass r) (n.after r) later := by
  have hsmall : ∀ place, n place + ((r place).length + (later place).length) ≤ UInt32.size := by
    intro place
    rw [← List.length_append]
    exact h.small place
  refine ⟨⟨h.position, fun place => ?_, fun place => ?_⟩,
    ⟨fun place => ?_, fun place => ?_, fun place => ?_⟩⟩
  · exact (List.prefix_append _ _).trans (h.next place)
  · have := hsmall place
    omega
  · rw [Session.cursor_pass, h.position place]
    rfl
  · obtain ⟨rest, hrest⟩ := h.next place
    refine ⟨rest, ?_⟩
    rw [Session.cursor_pass]
    simp only [Tally.after]
    rw [← List.drop_drop, ← hrest, Records.append, List.append_assoc, List.drop_left]
  · have := hsmall place
    simp only [Tally.after]
    omega

/-- The record that comes next is found at the cursor. -/
theorem find {place : Section} {record : Element} (h : Ahead s n (.single place record))
    (hid : record.attribute? "id" = some (n place).repr) :
    n place < UInt32.size ∧
      Session.find place (UInt32.ofNat (n place)) s =
        (.ok record, s.pass (.single place record)) := by
  have hsmall : n place < UInt32.size := by
    have hle := h.small place
    rw [Records.single, if_pos rfl, List.length_singleton] at hle
    omega
  have hr : (s.cursor place).records[(s.cursor place).position]? = some record := by
    obtain ⟨rest, hrest⟩ := h.next place
    rw [Records.single, if_pos rfl] at hrest
    rw [h.position, ← List.head?_drop, ← hrest]
    rfl
  have hi : record.integer UInt32 "id" = .ok (UInt32.ofNat (n place)) := by
    rw [Element.integer, Element.required, hid]
    simp only [bind, Except.bind]
    rw [readInteger_uint32 hsmall]
  refine ⟨hsmall, ?_⟩
  rw [Session.find_of_moved (Cursor.find_of_matched hr hi), Session.pass_single]
  rfl

end Ahead

/-- What an encoder writes reads as a result: wherever the new records come next, decoding gives the
result and leaves the session right behind them. -/
def Encoder.ReadAs {δ α : Type} (x : Encoder δ) (p : δ → Recipe α) (a : α) : Prop :=
  ∀ n s, Ahead s n (x n).2 → Session.decode (p (x n).1) s = (.ok a, s.pass (x n).2)

namespace Encoder

namespace ReadAs

variable {δ ε ζ α β γ : Type} {x : Encoder δ} {y : Encoder ε} {p : δ → Recipe α} {a : α}

theorem plain {d : δ} (h : p d = .done a) : ReadAs (plain d) p a := by
  intro n s _
  change Session.decode (p d) s = _
  rw [h, Session.decode_done]
  rfl

/-- A text made from another, by a recipe that goes on without requests. -/
theorem map {q : ε → Recipe β} {g : δ → ε} (h : ReadAs x p a) (f : α → β)
    (hq : ∀ n, q (g (x n).1) = (p (x n).1).bind fun a => .done (f a)) :
    ReadAs (x.map g) q (f a) := by
  intro n s hs
  change Session.decode (q (g (x n).1)) s = _
  rw [hq, Session.decode_bind, h n s hs]
  rfl

/-- A text made from two, by a recipe that reads first the one and then the other. -/
theorem both {b : β} {q : ε → Recipe β} {r : ζ → Recipe γ} {g : δ × ε → ζ} (hx : ReadAs x p a)
    (hy : ReadAs y q b) (f : α → β → γ)
    (hr : ∀ n e, r (g ((x n).1, e)) = (p (x n).1).bind fun a => (q e).bind fun b => .done (f a b)) :
    ReadAs ((x.both y).map g) r (f a b) := by
  intro n s hs
  obtain ⟨hleft, hright⟩ := hs.append
  have hx := hx n s hleft
  have hy := hy _ _ hright
  change Session.decode (r (g ((x n).1, (y (n.after (x n).2)).1))) s =
    (.ok (f a b), s.pass ((x n).2.append (y (n.after (x n).2)).2))
  rw [hr, Session.decode_bind, hx, Session.pass_append]
  simp only
  rw [Session.decode_bind, hy]
  rfl

/-- The id of a new record stands for what the children of the record read as. -/
theorem reserve {place : Section} {tag : String} {x : Encoder (List Element)} {a : place.Answer}
    (h : ∀ attributes, ReadAs x (fun es => Record.content place (.mk tag attributes es)) a)
    (field : String) :
    ReadAs (reserve place tag x) (fun id => Record.refer place field id.repr) a := by
  intro n s hs
  obtain ⟨hleft, hright⟩ := hs.append
  obtain ⟨hsmall, hfind⟩ := hleft.find (Element.attribute?_cons_self _ _ _ _ _)
  rw [Tally.after_single] at hright
  have hcontent := h [("id", (n place).repr)] _ _ hright
  have hrefer : Record.refer place field (n place).repr =
      .ask place (UInt32.ofNat (n place)) .done := by
    rw [Record.refer, readInteger_uint32 hsmall]
    rfl
  change Session.decode (Record.refer place field (n place).repr) s = _
  rw [hrefer, Session.decode_ask, hfind, Encoder.reserve, Session.pass_append]
  simp only
  rw [hcontent]
  rfl

end ReadAs

theorem recipe_unnamedBase (id : Nat) :
    (unnamedBase id).recipe = Record.refer .unnamed "base" id.repr := by
  rw [Descriptor.recipe_of_width_none rfl, Descriptor.type, unnamedBase, Record.base_unnamed]
  exact Recipe.bind_done _

theorem mapM'_constant (cs : List (String × String)) :
    (constants cs).mapM' Record.constant = .ok cs := by
  induction cs with
  | nil => rfl
  | cons c cs ih =>
      rw [constants, List.map_cons, List.mapM'_cons, ← constants, ih]
      rfl

variable {x : Encoder (List Element)} {ms : List (String × CType)}

/-- Members that read as themselves are those of a struct. -/
theorem ReadAs.struct (h : ReadAs x (fun es => es.mapM' Record.namedMember) ms)
    (attributes : List (String × String)) :
    ReadAs x (fun es => Record.group (.mk "struct" attributes es)) (.struct ms) :=
  h.map (g := id) CType.struct fun _ => rfl

/-- Members that read as themselves are those of a union. -/
theorem ReadAs.union (h : ReadAs x (fun es => es.mapM' Record.namedMember) ms)
    (attributes : List (String × String)) :
    ReadAs x (fun es => Record.group (.mk "union" attributes es)) (.union ms) :=
  h.map (g := id) CType.union fun _ => rfl

theorem readAs_constants (cs : List (String × String)) (attributes : List (String × String)) :
    ReadAs (plain (constants cs)) (fun es => Record.group (.mk "enum" attributes es))
      (.enum cs) := by
  refine ReadAs.plain ?_
  change (Recipe.ofExcept ((constants cs).mapM' Record.constant)).bind _ = _
  rw [mapM'_constant]
  rfl

/-- The descriptor of an unnamed type refers to the record that its content stands in. -/
theorem readAs_unnamed {tag : String} {t : CType}
    (h : ∀ attributes, ReadAs x (fun es => Record.group (.mk tag attributes es)) t) :
    ReadAs ((reserve .unnamed tag x).map unnamedBase) Descriptor.recipe t := by
  have hid : ReadAs (reserve .unnamed tag x)
      (fun id => Record.refer .unnamed "base" id.repr) t := ReadAs.reserve h "base"
  refine hid.map id ?_
  intro n
  rw [recipe_unnamedBase]
  exact (Recipe.bind_done _).symm

mutual

/-- The descriptor of a type reads as the type. -/
theorem readAs_describe (t : CType) (shape : Shape) (h : t.hasShape shape = true) :
    ReadAs (describe t) Descriptor.recipe t := by
  match t with
  | .primitive p =>
      rw [describe]
      refine ReadAs.plain ?_
      rw [Descriptor.recipe_of_width_none rfl, Descriptor.type, Record.base_primitive]
      rfl
  | .named name =>
      rw [CType.hasShape, bne_iff_ne] at h
      rw [describe]
      refine ReadAs.plain ?_
      rw [Descriptor.recipe_of_width_none rfl, Descriptor.type, Record.base_named h]
      rfl
  | .struct ms =>
      rw [CType.hasShape] at h
      rw [describe]
      exact readAs_unnamed (readAs_members ms h).struct
  | .union ms =>
      rw [CType.hasShape] at h
      rw [describe]
      exact readAs_unnamed (readAs_members ms h).union
  | .enum cs =>
      rw [describe]
      exact readAs_unnamed (readAs_constants cs)
  | .qualified t q =>
      rw [CType.hasShape, Bool.and_eq_true] at h
      rw [describe]
      refine (readAs_describe t .base h.2).map (CType.qualified · q) ?_
      intro n
      obtain ⟨hq, hs, hw⟩ := fits_describe t .base h.2 n
      exact Descriptor.recipe_withQualifiers hq hs hw q
  | .bitField t width =>
      rw [CType.hasShape, Bool.and_eq_true] at h
      rw [describe]
      refine (readAs_describe t .qualified h.2).map (CType.bitField · width) ?_
      intro n
      exact Descriptor.recipe_withWidth (fits_describe t .qualified h.2 n).2 width
  | .pointer t =>
      rw [CType.hasShape, Bool.and_eq_true] at h
      rw [describe]
      refine (readAs_describe t .chain h.2).map CType.pointer ?_
      intro n
      exact Descriptor.recipe_withStep (fits_describe t .chain h.2 n) .pointer
  | .array t length =>
      rw [CType.hasShape, Bool.and_eq_true] at h
      rw [describe]
      refine (readAs_describe t .chain h.2).map (CType.array · length) ?_
      intro n
      exact Descriptor.recipe_withStep (fits_describe t .chain h.2 n) (.array length)
  | .function t c ps =>
      rw [CType.hasShape, Bool.and_eq_true, Bool.and_eq_true] at h
      have hid : ReadAs (reserve .functions "func" (parameters ps))
          (fun id => Record.refer .functions "wrap" id.repr) ps :=
        ReadAs.reserve (readAs_parameters ps h.2) "wrap"
      rw [describe]
      refine (readAs_describe t .chain h.1.2).both hid (CType.function · c ·) ?_
      intro n id
      exact Descriptor.recipe_withStep (fits_describe t .chain h.1.2 n) (.function c id)

/-- The records of members read as the members. -/
theorem readAs_members (ms : List (String × CType)) (h : CType.haveMemberShape ms = true) :
    ReadAs (members ms) (fun es => es.mapM' Record.namedMember) ms := by
  match ms with
  | [] =>
      rw [members]
      exact ReadAs.plain rfl
  | (name, t) :: ms =>
      rw [CType.haveMemberShape, Bool.and_eq_true, Bool.and_eq_true, decide_eq_true_eq] at h
      obtain ⟨⟨hshape, hlimit⟩, hms⟩ := h
      rw [members]
      refine (readAs_describe t .member hshape).both (readAs_members ms hms)
        (fun t ms => (name, t) :: ms) ?_
      intro n es
      have hfits := fits_describe t .member hshape n
      have hlength := length_tokens_describe t .member hshape n
      rw [List.mapM'_cons, Record.namedMember_member _ name hfits (by omega), Recipe.bind_eq,
        Recipe.bind_assoc]
      rfl

/-- The records of parameters read as the parameters. -/
theorem readAs_parameters (ts : List CType) (h : CType.haveChainShape ts = true)
    (attributes : List (String × String)) :
    ReadAs (parameters ts) (fun es => Record.parameters (.mk "func" attributes es)) ts := by
  match ts with
  | [] =>
      rw [parameters]
      exact ReadAs.plain rfl
  | t :: ts =>
      rw [CType.haveChainShape, Bool.and_eq_true, Bool.and_eq_true, decide_eq_true_eq] at h
      obtain ⟨⟨hshape, hlimit⟩, hts⟩ := h
      rw [parameters]
      refine (readAs_describe t .chain hshape).both (readAs_parameters ts hts attributes)
        List.cons ?_
      intro n es
      have hfits := fits_describe t .chain hshape n
      have hlength := length_tokens_describe t .chain hshape n
      rw [Record.parameters, Element.children_mk, List.mapM'_cons,
        Record.type_parameter _ hfits (by omega)]
      rfl

end

/-- The children of the record of a struct, union or enum read as the type. -/
theorem readAs_children {t : CType} (h : t.isGroup = true) (attributes : List (String × String)) :
    ReadAs (children t) (fun es => Record.group (.mk t.kind.label attributes es)) t := by
  rw [CType.isGroup, Bool.and_eq_true] at h
  cases t with
  | struct ms =>
      have hms : CType.haveMemberShape ms = true := h.2
      exact (readAs_members ms hms).struct attributes
  | union ms =>
      have hms : CType.haveMemberShape ms = true := h.2
      exact (readAs_members ms hms).union attributes
  | enum cs => exact readAs_constants cs attributes
  | _ => exact absurd h.1 (by simp [CType.isComposite, CType.kind])

/-- The record of a named type reads as its name and the type. -/
theorem readAs_named (name : String) {t : CType} (h : t.isGroup = true) :
    ReadAs (named name t) Record.namedGroup (name, t) := by
  refine (readAs_children h [("name", name)]).map (fun t => (name, t)) ?_
  intro n
  rw [Record.namedGroup, Element.required, Element.attribute?_cons_self]
  rfl

/-- Reading the records of named types stores the types one after the other. -/
theorem readRecords_entries (types : List (String × CType))
    (h : ∀ entry ∈ types, entry.2.isGroup = true) (c : Array (String × CType)) {n : Tally}
    {s : Session} (hs : Ahead s n (entries types n).2) :
    Session.readRecords Store.list (entries types n).1 c s =
      ⟨.ok types.length, c ++ types,
        (s.pass (entries types n).2).note
          (types.map fun entry => .decodedType entry.2.kind.label entry.1)⟩ := by
  induction types generalizing c n s with
  | nil => simp [entries, Session.readRecords, plain]
  | cons entry rest ih =>
      obtain ⟨name, t⟩ := entry
      obtain ⟨hleft, hright⟩ := hs.append
      have hhead := readAs_named name (h (name, t) List.mem_cons_self) n s hleft
      have htail := ih (fun entry hmem => h entry (List.mem_cons_of_mem _ hmem)) (c.push (name, t))
        (hright.note [.decodedType t.kind.label name])
      change Session.readRecords Store.list ((named name t n).1 ::
        (entries rest (n.after (named name t n).2)).1) c s = _
      have hsession := Session.pass_append s (named name t n).2
        (entries rest (n.after (named name t n).2)).2
      rw [Session.pass_note, ← hsession, Session.note_note] at htail
      rw [Session.readRecords, hhead]
      simp only [Store.list] at htail ⊢
      rw [htail, List.map_cons, Array.appendList_cons]
      rfl

end Encoder

/-- The records of the document of named types come next in a new session over it. -/
theorem ahead_ofTypes (types : List (String × CType)) (strict : Bool)
    (h : ∀ place, CType.nestedNodes place types < UInt32.size) :
    Ahead (Session.start (.ofTypes types) strict) (fun _ => 0)
      (Encoder.entries types fun _ => 0).2 where
  position place := by cases place <;> rfl
  next place := by
    rw [← Document.records_ofTypes, List.drop_zero]
    cases place <;> exact List.prefix_refl _
  small place := by
    rw [Encoder.length_entries, Nat.zero_add]
    exact Nat.le_of_lt (h place)

/-- **Decoding undoes encoding.**  A list of named structs, unions and enums, of the shape that
records can spell and with fewer nodes that need records than there are ids, is read back from its
document, whether the order of records is binding or not.  The document has one record for each such
node, with ascending ids.  No section is searched, every record is passed once, and the log tells of
the types alone. -/
theorem readInto_ofTypes (types : List (String × CType)) (strict : Bool)
    (hshape : ∀ entry ∈ types, entry.2.isGroup = true)
    (hcount : ∀ place, CType.nestedNodes place types < UInt32.size) :
    let reading := (Session.start (.ofTypes types) strict).readInto Store.list (.ofTypes types) #[]
    reading.result = .ok types.length ∧ reading.contents = types.toArray ∧
      reading.session.searches = 0 ∧
      (∀ place,
        ((Document.ofTypes types).records place).map (·.attribute? "id") =
            (List.range (CType.nestedNodes place types)).map (fun i => some i.repr) ∧
          (reading.session.cursor place).position = CType.nestedNodes place types) ∧
      reading.session.log.toList =
        types.map fun entry => .decodedType entry.2.kind.label entry.1 := by
  have hahead := ahead_ofTypes types strict hcount
  have hreading := Encoder.readRecords_entries types hshape #[] hahead
  intro reading
  have heq : reading = _ := hreading
  rw [heq]
  refine ⟨rfl, ?_, rfl, fun place => ⟨Document.ids_ofTypes types place, ?_⟩, ?_⟩
  · simp
  · rw [Session.cursor_note, Session.cursor_pass, hahead.position, Encoder.length_entries,
      Nat.zero_add]
  · simp [Session.note, Session.start]

/-- A struct with a callback, whose parameter is unnamed, around an unnamed union with a bit-field,
and an enum. -/
def callbackTypes : List (String × CType) :=
  [("S", .struct
      [("f", .pointer (.function
          (.array (.qualified (.union [("b", .bitField (.primitive .int) 3)]) { const := true }) 5)
          .stdcall [.pointer (.struct [])])),
        ("e", .named "E")]),
    ("E", .enum [("A", "1")])]

/-- These types come back in either mode. -/
theorem readInto_ofTypes_callback :
    (∀ entry ∈ callbackTypes, entry.2.isGroup = true) ∧
      (∀ place, CType.nestedNodes place callbackTypes < UInt32.size) ∧
      ∀ strict, ((Session.start (.ofTypes callbackTypes) strict).readInto Store.list
        (.ofTypes callbackTypes) #[]).contents = callbackTypes.toArray := by
  have hshape : ∀ entry ∈ callbackTypes, entry.2.isGroup = true := by decide
  have hcount : ∀ place, CType.nestedNodes place callbackTypes < UInt32.size := by
    intro place
    cases place <;> decide
  exact ⟨hshape, hcount, fun strict => (readInto_ofTypes callbackTypes strict hshape hcount).2.1⟩

end DebugTypes
