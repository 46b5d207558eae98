import DebugTypes.Proofs.CType.Nodes
import DebugTypes.Proofs.Decoding.Bounds
import Mathlib.Algebra.Ring.Nat

/-!
# Every look-up makes one node

A function node of a decoded tree takes one look-up in the section of functions, and a struct, union
or enum takes one in the section of unnamed types unless the call asked for it as such.  Nothing
else is looked up, so that a successful call moves each cursor by as many records as its trees have
nodes.  No record gives two nodes, so that all trees of a session together are no larger than the
two sections, however the records refer to each other.

## Main definitions

* `NodesCounted` — an answer has as many nodes as there were look-ups behind it.
* `Call.roots` — the nodes of trees that a call asked for as such.
* `Session.outcomes` — what comes of calls one after the other.

## Main statement

* `Session.perform_consumption` — how far calls move the cursors.
-/

namespace DebugTypes

/-- The number of nodes of trees that have a record in the section. -/
def treeNodes (place : Section) (ts : List CType) : Nat := (ts.map (CType.nodes place)).sum

theorem CType.parameterNodes_eq (place : Section) (ts : List CType) :
    parameterNodes place ts = treeNodes place ts := by
  induction ts with
  | nil => rfl
  | cons t ts ih => rw [parameterNodes, ih, treeNodes, treeNodes, List.map_cons, List.sum_cons]

theorem CType.memberNodes_eq (place : Section) (ms : List (String × CType)) :
    memberNodes place ms = treeNodes place (ms.map Prod.snd) := by
  induction ms with
  | nil => rfl
  | cons m ms ih =>
      rw [memberNodes, ih, treeNodes, treeNodes, List.map_cons, List.map_cons, List.sum_cons]

/-- A record that was found is one hit, in its own section. -/
theorem countP_hits_cons_ok (place other : Section) (id : UInt32) (record : Element)
    (trace : List Lookup) :
    (Lookup.mk other id (.ok record) :: trace).countP (Lookup.hits place) =
      trace.countP (Lookup.hits place) + if place = other then 1 else 0 := by
  rw [List.countP_cons]
  cases place <;> cases other <;> rfl

/-- The node of a struct, union or enum itself, in the section of unnamed types. -/
def rootNode (place : Section) : Nat := if place = .unnamed then 1 else 0

/-- An answer has as many nodes as there were look-ups behind it; the node of an unnamed type itself
belongs to the look-up that gave its record. -/
def NodesCounted : AnswerProperty
  | .functions, trace, (ts : List CType) =>
    ∀ place, treeNodes place ts = trace.countP (Lookup.hits place)
  | .unnamed, trace, (t : CType) =>
    ∀ place, t.nodes place = trace.countP (Lookup.hits place) + rootNode place

/-- Items with as many nodes as look-ups make a list with as many nodes as look-ups. -/
theorem Each.treeNodes_eq {ι β : Type} {f : β → CType} {is : List ι} {trace : List Lookup}
    {bs : List β}
    (h : Each (fun _ trace b => ∀ place, (f b).nodes place = trace.countP (Lookup.hits place)) is
      trace bs) (place : Section) :
    treeNodes place (bs.map f) = trace.countP (Lookup.hits place) := by
  induction h with
  | nil => rfl
  | @cons i is trace later b bs head tail ih =>
      rw [List.countP_append, ← head, ← ih, treeNodes, treeNodes, List.map_cons, List.map_cons,
        List.sum_cons]

namespace Record

open Recipe

theorem nodes_base (text : String) :
    (base text).Yields NodesCounted fun trace t =>
      ∀ place, t.nodes place = trace.countP (Lookup.hits place) := by
  rw [base, bind_eq, yields_bind, yields_ofExcept]
  rintro (p | n | id) -
  · exact fun place => rfl
  · exact fun place => rfl
  · intro record trace t ht place
    have ht : t.nodes place = trace.countP (Lookup.hits place) + rootNode place := ht place
    change t.nodes place = List.countP _ (_ :: (trace ++ []))
    rw [ht, List.append_nil, countP_hits_cons_ok, rootNode]

/-- Each function of a wrap chain takes one look-up and those of its parameters. -/
theorem nodes_wrapTokens (text : String) (tokens : List String) (t : CType) :
    (wrapTokens text tokens t).Yields NodesCounted fun trace u =>
      ∀ place, u.nodes place = t.nodes place + trace.countP (Lookup.hits place) := by
  fun_induction wrapTokens text tokens t with
  | case1 t => exact fun place => rfl
  | case2 t token rest hop ih => exact ih
  | case3 t token hop => trivial
  | case4 t token operand rest hop ih =>
      rw [bind_eq, yields_bind, yields_ofExcept]
      exact fun length _ => ih length
  | case5 t token convention operand rest hop ih =>
      rw [bind_eq, yields_bind, yields_ofExcept]
      intro id _ record trace ts hts
      refine (ih ts).mono fun later u hu place => ?_
      have hts : treeNodes place ts = trace.countP (Lookup.hits place) := hts place
      change u.nodes place = _ + List.countP _ ([] ++ _ :: (trace ++ later))
      rw [hu, CType.nodes, CType.parameterNodes_eq, hts, List.nil_append, countP_hits_cons_ok,
        List.countP_append]
      omega

theorem nodes_wrap (text : String) (t : CType) :
    (wrap text t).Yields NodesCounted fun trace u =>
      ∀ place, u.nodes place = t.nodes place + trace.countP (Lookup.hits place) := by
  simp only [wrap]
  split
  · trivial
  · exact nodes_wrapTokens text (Text.wordsOf text) t

theorem nodes_qualify (record : Element) (t : CType) :
    (qualify record t).Yields NodesCounted fun trace u =>
      trace = [] ∧ ∀ place, u.nodes place = t.nodes place := by
  rw [qualify]
  split
  · exact ⟨rfl, fun place => rfl⟩
  · rw [bind_eq, yields_bind, yields_ofExcept]
    exact fun q _ => ⟨rfl, fun place => rfl⟩

theorem nodes_type (record : Element) (wrapped : Bool) :
    (type record wrapped).Yields NodesCounted fun trace t =>
      ∀ place, t.nodes place = trace.countP (Lookup.hits place) := by
  rw [type, bind_eq, yields_bind, yields_ofExcept]
  intro text _
  rw [bind_eq, yields_bind]
  refine (nodes_base text).mono fun trace t ht => ?_
  rw [bind_eq, yields_bind]
  refine (nodes_qualify record t).mono fun later u hu => ?_
  obtain ⟨rfl, hu⟩ := hu
  split
  · intro place
    simp [hu place, ht place]
  · refine (nodes_wrap _ u).mono fun later v hv place => ?_
    simp only [List.nil_append, List.countP_append]
    rw [hv place, hu place, ht place]

theorem nodes_member (record : Element) :
    (member record).Yields NodesCounted fun trace t =>
      ∀ place, t.nodes place = trace.countP (Lookup.hits place) := by
  rw [member]
  split
  · rw [bind_eq, yields_bind]
    refine (nodes_type record false).mono fun trace t ht => ?_
    rw [bind_eq, yields_bind, yields_ofExcept]
    intro width _ place
    change t.nodes place = List.countP _ (trace ++ ([] ++ []))
    rw [List.append_nil, List.append_nil, ht place]
  · exact nodes_type record true

theorem nodes_members (records : List Element) :
    (records.mapM' namedMember).Yields NodesCounted fun trace ms =>
      ∀ place, CType.memberNodes place ms = trace.countP (Lookup.hits place) := by
  have hmember : ∀ record ∈ records, (namedMember record).Yields NodesCounted fun trace m =>
      ∀ place, m.2.nodes place = trace.countP (Lookup.hits place) := by
    intro record _
    rw [namedMember, bind_eq, yields_bind, yields_ofExcept]
    intro name _
    rw [bind_eq, yields_bind]
    refine (nodes_member record).mono fun trace t ht place => ?_
    simpa using ht place
  refine (yields_mapM' hmember).mono fun trace ms hms place => ?_
  rw [CType.memberNodes_eq]
  exact hms.treeNodes_eq place

/-- A struct, union or enum has one node besides those of its members. -/
theorem nodes_group (record : Element) :
    (group record).Yields NodesCounted fun trace t =>
      ∀ place, t.nodes place = trace.countP (Lookup.hits place) + rootNode place := by
  rw [group]
  split
  · rw [bind_eq, yields_bind, yields_ofExcept]
    intro constants _ place
    change _ = List.countP _ [] + rootNode place
    rw [List.countP_nil, Nat.zero_add, CType.nodes, rootNode]
  · rw [bind_eq, yields_bind]
    refine (nodes_members record.children).mono fun trace ms hms place => ?_
    rw [List.append_nil, ← hms place, CType.nodes, rootNode]
  · rw [bind_eq, yields_bind]
    refine (nodes_members record.children).mono fun trace ms hms place => ?_
    rw [List.append_nil, ← hms place, CType.nodes, rootNode]
  · trivial

theorem nodes_parameters (record : Element) :
    (parameters record).Yields NodesCounted fun trace ts =>
      ∀ place, treeNodes place ts = trace.countP (Lookup.hits place) := by
  refine (yields_mapM' fun parameter _ => nodes_type parameter true).mono
    fun trace ts hts place => ?_
  simpa using Each.treeNodes_eq (f := id) hts place

/-- Every record keeps the count of nodes. -/
theorem nodes_content (place : Section) (record : Element) :
    (content place record).Yields NodesCounted (NodesCounted place) := by
  cases place
  · exact nodes_parameters record
  · exact nodes_group record

theorem nodes_namedGroup (record : Element) :
    (namedGroup record).Yields NodesCounted fun trace entry =>
      ∀ place, entry.2.nodes place = trace.countP (Lookup.hits place) + rootNode place := by
  rw [namedGroup, bind_eq, yields_bind, yields_ofExcept]
  intro name _
  rw [bind_eq, yields_bind]
  refine (nodes_group record).mono fun trace t ht place => ?_
  simpa using ht place

end Record

namespace Runs

variable {α : Type} {p : Recipe α} {s s₁ : Session} {trace : List Lookup}

/-- A successful run moves each cursor once for every look-up in its section. -/
theorem position_cursor {a : α} (h : Runs Session.finder p s trace (.ok a) s₁) (place : Section) :
    (s₁.cursor place).position =
      (s.cursor place).position + trace.countP (Lookup.hits place) := by
  generalize hr : (Except.ok a : Except ReadError α) = r at h
  induction h with
  | done b s => rfl
  | fail e s => cases hr
  | lost found => cases hr
  | broken found content ih => cases hr
  | @answered _ other id _ record _ _ _ _ s s₁ _ _ found content rest ihc ihr =>
      have hfind := Session.position_cursor_find other place id s
      have hs₁ : (Session.find other id s).2 = s₁ := congrArg Prod.snd found
      have hcontent := ihc rfl
      have hrest := ihr hr
      rw [hs₁] at hfind
      rw [hrest, hcontent, hfind, countP_hits_cons_ok, List.countP_append]
      omega

end Runs

/-! ## Calls -/

namespace Call

/-- The number of trees that a call gives when it succeeds. -/
def treeCount (d : Document) : Call → Nat
  | named => d.named.children.length
  | _ => 1

/-- The nodes of a number of trees that a call asked for as such: a struct, union or enum that is
not asked for by id takes no look-up of its own. -/
def roots (call : Call) (place : Section) (trees : Nat) : Nat :=
  match call with
  | group _ => trees * rootNode place
  | named => trees * rootNode place
  | _ => 0

/-- The trees of a call have the nodes that were looked up and the ones that were asked for. -/
theorem nodes_recipe? {call : Call} {p : Recipe CType} (hp : call.recipe? = some p) :
    p.Yields NodesCounted fun trace t => ∀ place,
      t.nodes place = trace.countP (Lookup.hits place) + call.roots place 1 := by
  cases call with
  | group record =>
      cases hp
      refine (Record.nodes_group record).mono fun trace t ht place => ?_
      rw [ht place, roots, Nat.one_mul]
  | member record =>
      cases hp
      exact Record.nodes_member record
  | type record wrapped =>
      cases hp
      exact Record.nodes_type record wrapped
  | named => cases hp

end Call

/-- Reading named types uses up a record for each node inside what it stores; if it does not fail,
it stores every one of them and moves the cursors no further. -/
theorem Reads.consumption {τ : Type} {store : Store τ} {records : List Element} {c c₁ : τ}
    {s s₁ : Session} {trace : List Lookup} {r : Except ReadError Nat}
    (h : Reads Session.finder store records c s trace r c₁ s₁) (place : Section) :
    ∃ entries, c₁ = (store.addAll c entries).1 ∧
      treeNodes place (entries.map Prod.snd) + (s₁.cursor place).remaining ≤
        (s.cursor place).remaining + entries.length * rootNode place ∧
      (failureOf? r = .none → entries.length = records.length ∧
        (s₁.cursor place).position + entries.length * rootNode place =
          (s.cursor place).position + treeNodes place (entries.map Prod.snd)) := by
  induction h with
  | none c s => exact ⟨[], rfl, by simp [treeNodes], fun _ => ⟨rfl, by simp [treeNodes]⟩⟩
  | broken head =>
      refine ⟨[], rfl, ?_, fun hr => by cases hr⟩
      have hle := head.remaining_cursor_le place
      simpa [treeNodes] using hle
  | @stored record rest c c₁ trace later name t r s s₁ s₂ head tail ih =>
      obtain ⟨entries, hc, hremaining, hposition⟩ := ih
      have hcursor : (Session.finder.note (.decodedType t.kind.label name ::
          (store.add c name t).2) s₁).cursor place = s₁.cursor place :=
        Session.cursor_note s₁ _ place
      rw [hcursor] at hremaining hposition
      have hnodes := head.yields Record.nodes_content (Record.nodes_namedGroup record) place
      have hhits := head.countP_hits_add_remaining_le place
      have hmoved := head.position_cursor place
      have htrees : treeNodes place (((name, t) :: entries).map Prod.snd) =
          t.nodes place + treeNodes place (entries.map Prod.snd) := by
        rw [treeNodes, treeNodes, List.map_cons, List.map_cons, List.sum_cons]
      refine ⟨(name, t) :: entries, hc, ?_, fun hr => ?_⟩
      · rw [htrees, List.length_cons, Nat.succ_mul]
        simp only at hnodes
        omega
      · rw [failureOf?_map] at hr
        obtain ⟨hlength, hposition⟩ := hposition hr
        refine ⟨by rw [List.length_cons, List.length_cons, hlength], ?_⟩
        rw [htrees, List.length_cons, Nat.succ_mul]
        simp only at hnodes
        omega

namespace Performs

variable {d : Document} {s : Session} {call : Call} {trace : List Lookup} {o : Outcome}

/-- A call uses up a record for each node of its trees that it did not ask for as such. -/
theorem treeNodes_add_remaining_le (h : Performs d s call trace o) (place : Section) :
    treeNodes place o.trees + (o.session.cursor place).remaining ≤
      (s.cursor place).remaining + call.roots place o.trees.length := by
  cases h with
  | @decoded _ _ r _ hp run =>
      cases r with
      | error e =>
          have hle := run.remaining_cursor_le place
          simp only [Except.toOption, Option.toList_none, treeNodes, List.map_nil, List.sum_nil]
          omega
      | ok t =>
          have hnodes := run.yields Record.nodes_content (Call.nodes_recipe? hp) place
          have hhits := run.countP_hits_add_remaining_le place
          simp only [Except.toOption, Option.toList_some, treeNodes, List.map_cons, List.map_nil,
            List.sum_cons, List.sum_nil, List.length_singleton]
          omega
  | read hp run =>
      obtain ⟨entries, rfl, hremaining, -⟩ := run.consumption place
      obtain rfl : call = .named := by cases call <;> first | rfl | cases hp
      rw [Store.toList_addAll_list]
      simpa [Call.roots] using hremaining

/-- A successful call moves a cursor once for each node of its trees that it did not ask for as
such. -/
theorem position_add_roots (h : Performs d s call trace o) (hf : o.failure? = none)
    (place : Section) :
    o.trees.length = call.treeCount d ∧
      (o.session.cursor place).position + call.roots place (call.treeCount d) =
        (s.cursor place).position + treeNodes place o.trees := by
  cases h with
  | @decoded _ _ r _ hp run =>
      cases r with
      | error e => cases hf
      | ok t =>
          have hnodes := run.yields Record.nodes_content (Call.nodes_recipe? hp) place
          have hmoved := run.position_cursor place
          have hcount : call.treeCount d = 1 := by cases call <;> first | rfl | cases hp
          rw [hcount]
          refine ⟨rfl, ?_⟩
          simp only [Except.toOption, Option.toList_some, treeNodes, List.map_cons, List.map_nil,
            List.sum_cons, List.sum_nil]
          omega
  | read hp run =>
      obtain ⟨entries, rfl, -, hposition⟩ := run.consumption place
      obtain ⟨hlength, hposition⟩ := hposition hf
      obtain rfl : call = .named := by cases call <;> first | rfl | cases hp
      rw [Store.toList_addAll_list]
      refine ⟨by simpa [Call.treeCount] using hlength, ?_⟩
      rw [Call.treeCount, ← hlength]
      simpa [Call.roots] using hposition

theorem position_le (h : Performs d s call trace o) (place : Section) :
    (s.cursor place).position ≤ (o.session.cursor place).position := by
  refine h.invariant (I := fun t => (s.cursor place).position ≤ (t.cursor place).position)
    (fun other id t ht => ?_) (fun events t ht => ?_) (Nat.le_refl _)
  · rw [Session.position_cursor_find]
    exact Nat.le_add_right_of_le ht
  · rw [Session.cursor_note]
    exact ht

end Performs

namespace Session

/-- What comes of calls one after the other, each with its call. -/
def outcomes (d : Document) : List Call → Session → List (Call × Outcome)
  | [], _ => []
  | call :: calls, s => (call, s.perform d call) :: outcomes d calls (s.perform d call).session

/-- All calls together use up a record for each node of their trees that they did not ask for as
such. -/
theorem sum_treeNodes_le (d : Document) (calls : List Call) (s : Session) (place : Section) :
    ((s.outcomes d calls).map fun x => treeNodes place x.2.trees).sum ≤
      (s.cursor place).remaining +
        ((s.outcomes d calls).map fun x => x.1.roots place x.2.trees.length).sum := by
  induction calls generalizing s with
  | nil => exact Nat.zero_le _
  | cons call calls ih =>
      obtain ⟨trace, h⟩ := s.performs_perform d call
      have hcall := h.treeNodes_add_remaining_le place
      have hcalls := ih (s.perform d call).session
      simp only [outcomes, List.map_cons, List.sum_cons]
      omega

/-- **Every look-up makes one node.**  However a session got where it is, a successful call moves
the cursor of the functions by the function nodes of its trees, and the cursor of the unnamed types
by their struct, union and enum nodes other than those that the call asked for as such: one for a
group, one for each named type of a document, and none for a member or type.  No call moves a cursor
back.  So all trees of a session together have no more function nodes than there are records of
functions, and no more struct, union and enum nodes that were not asked for than there are records
of unnamed types. -/
theorem perform_consumption (d : Document) (strict : Bool) (calls : List Call) :
    (∀ (call : Call) (place : Section),
      let s := (start d strict).performAll d calls
      let o := s.perform d call
      (s.cursor place).position ≤ (o.session.cursor place).position ∧
        (o.failure? = none → o.trees.length = call.treeCount d ∧
          (o.session.cursor place).position + call.roots place (call.treeCount d) =
            (s.cursor place).position + treeNodes place o.trees)) ∧
      ∀ place, (((start d strict).outcomes d calls).map fun x => treeNodes place x.2.trees).sum ≤
        (d.records place).length +
          (((start d strict).outcomes d calls).map fun x =>
            x.1.roots place x.2.trees.length).sum := by
  constructor
  · intro call place s o
    obtain ⟨trace, h⟩ := s.performs_perform d call
    exact ⟨h.position_le place, fun hf => h.position_add_roots hf place⟩
  · intro place
    have hremaining : ((start d strict).cursor place).remaining = (d.records place).length := by
      cases place <;> rfl
    have hle := sum_treeNodes_le d calls (start d strict) place
    rw [hremaining] at hle
    exact hle

end Session

/-- A document with two members of the one unnamed type `0`. -/
def Document.sharing : Document where
  root := .mk "types" [] [
    .mk "funcs" [] [],
    .mk "unnamed" [] [.mk "union" [("id", "0")] [], .mk "enum" [("id", "1")] []],
    .mk "named" [] [.mk "struct" [("name", "S")]
      [.mk "field" [("name", "a"), ("base", "#0")] [],
        .mk "field" [("name", "b"), ("base", "#0")] []]]]
  complete := by decide

/-- The one record gives two nodes, and takes the cursor past both records for it. -/
theorem Session.perform_consumption_sharing :
    let o := (start .sharing false).perform .sharing .named
    o.failure? = none ∧ o.trees.length = 1 ∧ (o.session.cursor .unnamed).position = 2 ∧
      2 + 1 = 0 + treeNodes .unnamed o.trees := by
  obtain ⟨hcalls, -⟩ := perform_consumption .sharing false []
  obtain ⟨hlength, hposition⟩ := (hcalls .named .unnamed).2 rfl
  exact ⟨rfl, hlength, rfl, hposition⟩

end DebugTypes
