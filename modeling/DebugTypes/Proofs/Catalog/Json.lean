import DebugTypes.Catalog.Json
import DebugTypes.Proofs.CType.Json
import DebugTypes.Proofs.Encoding.RoundTrip
import DebugTypes.Proofs.Json.Brackets

/-!
# Catalogs read back from JSON

A catalog is read back from its text exactly when its value nests no deeper than is allowed, which
is to say when the brackets and braces of the text nest no deeper.  The limit is far below what
documents can describe: a wrap chain alone may have 1024 pointers, and each of them nests one
deeper.

## Main definitions

* `CType.pointers n t` — the type `t` inside `n` pointers.
* `pointerMember n` — a struct with a member of the type `int` inside `n` pointers.

## Main statements

* `Catalog.ofJsonText?_toJsonText` — which catalogs are read back from their texts.
* `Catalog.reimport_toJsonText` — the same, told by the brackets of the text alone.
* `Catalog.reimport_of_decoded` — which catalogs of documents are, and that documents go beyond.
-/

namespace DebugTypes

open Json (Value within eq_within_succ bind_within_some mapM'_map_within)

/-! ## Entries with distinct names -/

/-- A new name goes to the end. -/
theorem insertEntry_of_not_mem {es : List (String × CType)} {name : String}
    (h : name ∉ entryNames es) (t : CType) : insertEntry es name t = es ++ [(name, t)] := by
  induction es with
  | nil => rfl
  | cons e es ih =>
      obtain ⟨n, u⟩ := e
      rw [entryNames, List.map_cons, List.mem_cons, not_or] at h
      rw [insertEntry, if_neg fun hn => h.1 hn.symm, ih h.2, List.cons_append]

namespace Catalog

/-- Entries with new and distinct names are added behind the others. -/
theorem entries_insertAll (c : Catalog) {es : List (String × CType)}
    (h : (entryNames (c.entries ++ es)).Nodup) : (c.insertAll es).entries = c.entries ++ es := by
  induction es generalizing c with
  | nil => exact (List.append_nil _).symm
  | cons e es ih =>
      obtain ⟨name, t⟩ := e
      have hname : name ∉ entryNames c.entries := by
        rw [entryNames, List.map_append, List.map_cons, List.nodup_append] at h
        exact fun hmem => h.2.2 name hmem name List.mem_cons_self rfl
      have hentries : (c.insert name t).entries = c.entries ++ [(name, t)] :=
        insertEntry_of_not_mem hname t
      have hrest := ih (c.insert name t) (by rwa [hentries, List.append_assoc])
      rw [hentries, List.append_assoc] at hrest
      exact hrest

/-- A catalog is the catalog of its entries. -/
theorem ofList_entries (c : Catalog) : ofList c.entries = c :=
  Catalog.ext (entries_insertAll empty c.distinct)

/-! ## Reading what is written -/

/-- A catalog is read back from its value if the levels suffice. -/
theorem ofJson?_toJson (c : Catalog) (levels : Nat) :
    ofJson? levels c.toJson = within levels c.toJson.nesting c := by
  have hentries : ∀ n, (c.entries.map fun e => (e.1, e.2.toJson)).mapM'
      (fun f => (CType.ofJson? n f.2).bind fun t => some (f.1, t)) =
        within n (Value.itemsNesting (c.entries.map fun e => e.2.toJson)) c.entries := by
    intro n
    refine mapM'_map_within fun e _ => ?_
    rw [CType.readsBack e.2 n, bind_within_some]
  rw [toJson, CType.nesting_record_one, Value.nesting_record, List.map_map]
  refine eq_within_succ (ofJson? · _) rfl (fun n => ?_) levels
  simp only [ofJson?, CType.parts?_one, Option.bind_eq_bind, Option.bind_some]
  refine eq_within_succ (typesOfJson? · _) rfl (fun n => ?_) n
  simp only [typesOfJson?, Json.fields?_record, Option.bind_eq_bind, Option.bind_some, hentries,
    bind_within_some, ofList_entries]
  rfl

/-- What a catalog is written as is plain. -/
theorem plain_toJson (c : Catalog) : c.toJson.plain = true := by
  have hentries : ∀ es : List (String × CType),
      (Value.record (es.map fun e => (e.1, e.2.toJson))).plain = true := by
    intro es
    induction es with
    | nil => rfl
    | cons e es ih => rw [List.map_cons, CType.plain_record_cons, CType.plain_toJson, ih]; rfl
  rw [toJson, CType.plain_record_cons, hentries]
  rfl

/-- **What is read back from JSON.**  The text of a catalog is read as that catalog if its arrays
and objects nest no deeper than the limit, and refused otherwise. -/
theorem ofJsonText?_toJsonText (c : Catalog) :
    ofJsonText? c.toJsonText = if c.toJson.nesting ≤ nestingLimit then some c else none := by
  rw [ofJsonText?, toJsonText, Json.parse?_pretty c.plain_toJson, Option.bind_some, ofJson?_toJson]
  rfl

/-- The brackets of the text of a catalog nest as deep as the arrays and objects of its value. -/
theorem bracketDepth_toJsonText (c : Catalog) :
    Json.bracketDepth c.toJsonText = c.toJson.nesting := Json.bracketDepth_pretty c.plain_toJson

/-- **Export and import are inverse up to the limit on nesting.**  Whatever its names, literals and
types are, a catalog is read back from its text with the same entries in the same order, if the
brackets and braces of the text nest at most 127 deep.  If they nest deeper, the text is refused. -/
theorem reimport_toJsonText (c : Catalog) :
    ofJsonText? c.toJsonText = if Json.bracketDepth c.toJsonText ≤ 127 then some c else none := by
  rw [ofJsonText?_toJsonText, bracketDepth_toJsonText]
  rfl

end Catalog

/-! ## Types that nest too deep -/

namespace CType

/-- A type inside a number of pointers. -/
def pointers : Nat → CType → CType
  | 0, t => t
  | n + 1, t => .pointer (pointers n t)

theorem hasShape_pointers (n : Nat) {t : CType} (h : t.hasShape .chain = true) :
    (pointers n t).hasShape .chain = true := by
  induction n with
  | zero => exact h
  | succ n ih => rw [pointers, hasShape, ih]; rfl

theorem chainLength_pointers (n : Nat) (t : CType) :
    (pointers n t).chainLength = t.chainLength + n := by
  induction n with
  | zero => rfl
  | succ n ih => rw [pointers, chainLength, ih]; rfl

/-- Pointers need no record of their own. -/
theorem nodes_pointers (place : Section) (n : Nat) (t : CType) :
    (pointers n t).nodes place = t.nodes place := by
  induction n with
  | zero => rfl
  | succ n ih => rw [pointers, nodes, ih]

/-- Each pointer nests one deeper. -/
theorem nesting_pointers (n : Nat) (t : CType) :
    (pointers n t).toJson.nesting = t.toJson.nesting + n := by
  induction n with
  | zero => rfl
  | succ n ih => rw [pointers, toJson, kindJson, nesting_record_one, ih]; rfl

/-- A struct with one member, of the type `int` inside a number of pointers. -/
def pointerMember (n : Nat) : CType := .struct [("p", pointers n (.primitive .int))]

/-- A record can spell as many pointers as its wrap chain may have tokens. -/
theorem isGroup_pointerMember {n : Nat} (h : n ≤ wrapLimit) : (pointerMember n).isGroup = true := by
  have hshape : (pointers n (.primitive .int)).hasShape .member = true := by
    cases n with
    | zero => rfl
    | succ n => exact hasShape_pointers (n + 1) rfl
  have hchain : (pointers n (.primitive .int)).chainLength ≤ wrapLimit := by
    have hint : (primitive .int).chainLength = 0 := rfl
    rwa [chainLength_pointers, hint, Nat.zero_add]
  simp only [pointerMember, isGroup, hasShape, haveMemberShape, hshape, hchain, decide_true,
    Bool.and_self, Bool.and_true]
  rfl

theorem nestedNodes_pointerMember (place : Section) (name : String) (n : Nat) :
    nestedNodes place [(name, pointerMember n)] = 0 := by
  simp only [nestedNodes, pointerMember, members, memberNodes, nodes_pointers, nodes, Nat.add_zero]

end CType

/-- Pointers are spelled by one token each. -/
theorem Encoder.describe_pointers (n : Nat) (p : Primitive) (tally : Tally) :
    describe (.pointers n (.primitive p)) tally =
      ({ base := "." ++ p.token, steps := List.replicate n .pointer }, .none) := by
  induction n with
  | zero => rfl
  | succ n ih =>
      rw [CType.pointers, describe, map, ih, List.replicate_succ']
      rfl

/-- The document of a struct `S` with one member, of the type `int` inside a number of pointers. -/
def Document.pointerMember (n : Nat) : Document where
  root := .mk "types" []
    [.mk "funcs" [] [], .mk "unnamed" [] [],
      .mk "named" [] [.mk "struct" [("name", "S")]
        [.mk "field" [("name", "p"), ("base", ".INT"),
          ("wrap", " ".intercalate (List.replicate n "p"))] []]]]
  complete := by simp [sectionCount]

/-- This is the document of the type that it describes. -/
theorem Document.ofTypes_pointerMember {n : Nat} (h : 0 < n) :
    ofTypes [("S", .pointerMember n)] = pointerMember n := by
  have htokens : (List.replicate n WrapStep.pointer).flatMap WrapStep.tokens =
      List.replicate n "p" := by
    rw [List.flatMap_replicate]
    exact List.flatten_replicate_singleton
  have hsteps : (List.replicate n WrapStep.pointer).isEmpty = false := by
    rw [List.isEmpty_replicate]
    exact beq_eq_false_iff_ne.2 (Nat.ne_of_gt h)
  have hmember : Descriptor.member { base := ".INT", steps := List.replicate n .pointer } "p" =
      .mk "field" [("name", "p"), ("base", ".INT"),
        ("wrap", " ".intercalate (List.replicate n "p"))] [] := by
    simp [Descriptor.member, Descriptor.attributes, Descriptor.chain?, Descriptor.tokens, htokens,
      hsteps]
  have hnamed : Encoder.named "S" (.pointerMember n) (fun _ => 0) =
      (Element.mk "struct" [("name", "S")]
        [Descriptor.member { base := ".INT", steps := List.replicate n .pointer } "p"], .none) := by
    simp only [Encoder.named, CType.pointerMember, Encoder.children, Encoder.members, Encoder.map,
      Encoder.both, Encoder.describe_pointers]
    rfl
  rw [hmember] at hnamed
  simp only [ofTypes, Encoder.entries, Encoder.map, Encoder.both, hnamed]
  rfl

namespace Catalog

/-- The document of one type that records can spell decodes to the catalog of that type. -/
theorem ofDocument_ofTypes (name : String) {t : CType} (h : t.isGroup = true)
    (hcount : ∀ place, CType.nestedNodes place [(name, t)] < UInt32.size) (strict : Bool) :
    (ofDocument (.ofTypes [(name, t)]) strict).1 = .ok (empty.insert name t) := by
  have hahead := (ahead_ofTypes [(name, t)] strict hcount).append.1
  have hread := Encoder.readAs_named name h (fun _ => 0) _ hahead
  change Session.decode (Record.namedGroup (Encoder.named name t fun _ => 0).1) _ = _ at hread
  have hrecords : (Document.ofTypes [(name, t)]).named.children =
      [(Encoder.named name t fun _ => 0).1] := rfl
  simp only [ofDocument, Session.readInto, hrecords, Session.readRecords, hread]
  rfl

/-- The value of a catalog with a member inside pointers nests as deep as there are pointers, and
seven more. -/
theorem nesting_pointerMember (name : String) (n : Nat) :
    (empty.insert name (.pointerMember n)).toJson.nesting = n + 7 := by
  have hentries : ∀ t, (empty.insert name t).entries = [(name, t)] := fun _ => rfl
  rw [toJson, CType.nesting_record_one, hentries]
  simp only [List.map_cons, List.map_nil, CType.nesting_record_one, CType.pointerMember,
    CType.toJson, CType.kindJson, CType.membersJson, Value.nesting_array, Value.itemsNesting,
    CType.nesting_record_two, CType.nesting_pointers, Value.nesting_text]
  omega

/-- The document of a member inside at most 1024 pointers decodes, whether order is binding or
not. -/
theorem ofDocument_pointerMember {n : Nat} (hpos : 0 < n) (hn : n ≤ wrapLimit) (strict : Bool) :
    ∃ log, ofDocument (.pointerMember n) strict =
      (.ok (empty.insert "S" (.pointerMember n)), log) := by
  have hcount : ∀ place, CType.nestedNodes place [("S", .pointerMember n)] < UInt32.size := by
    intro place
    rw [CType.nestedNodes_pointerMember]
    decide
  rw [← Document.ofTypes_pointerMember hpos]
  exact ⟨_, Prod.ext (ofDocument_ofTypes "S" (CType.isGroup_pointerMember hn) hcount strict) rfl⟩

/-- **Which decoded catalogs can be exported and imported again.**  A catalog that a document
decodes to is read back from its text if that nests no deeper than the limit, and refused otherwise.
Documents do describe catalogs beyond the limit: a member inside `n` pointers decodes for every `n`
up to 1024, and its catalog is read back only up to 120 of them. -/
theorem reimport_of_decoded (strict : Bool) :
    (∀ d c log, ofDocument d strict = (.ok c, log) →
      ofJsonText? c.toJsonText = if c.toJson.nesting ≤ nestingLimit then some c else none) ∧
    ∀ n, 0 < n → n ≤ wrapLimit → ∃ c log, ofDocument (.pointerMember n) strict = (.ok c, log) ∧
      ofJsonText? c.toJsonText = if n ≤ 120 then some c else none := by
  constructor
  · intro _ c _ _
    exact ofJsonText?_toJsonText c
  · intro n hpos hn
    obtain ⟨log, hdecoded⟩ := ofDocument_pointerMember hpos hn strict
    refine ⟨_, log, hdecoded, ?_⟩
    have hlimit : n + 7 ≤ nestingLimit ↔ n ≤ 120 := by
      rw [nestingLimit]
      omega
    simp only [ofJsonText?_toJsonText, nesting_pointerMember, hlimit]

/-- A member inside 121 pointers decodes where order is binding, and its catalog is not read back
from the text that it is exported to. -/
theorem not_reimported_pointerMember :
    ∃ c log, ofDocument (.pointerMember 121) true = (.ok c, log) ∧
      ofJsonText? c.toJsonText = none := by
  obtain ⟨log, hdecoded⟩ :=
    ofDocument_pointerMember (by decide) (by decide : 121 ≤ wrapLimit) true
  refine ⟨_, log, hdecoded, ?_⟩
  rw [ofJsonText?_toJsonText, nesting_pointerMember, if_neg (by decide)]

end Catalog

end DebugTypes
