import DebugTypes.Proofs.Decoding.Ends

/-!
# Calls on a session

A session is used by calls: decode one record as a struct, union or enum, as a member, or as the
type that it describes, or read every named type of the document.  One session may serve any number
of calls, which share its cursors, and a call that fails leaves them where it got to.

## Main definitions

* `Call`, `Outcome` — what is asked of a session and what comes of it.
* `Session.perform`, `Session.performAll` — one call, and calls one after the other.
* `Performs` — the runs of calls.
-/

namespace DebugTypes

/-- What is asked of a session. -/
inductive Call where
  | group (record : Element)
  | member (record : Element)
  | type (record : Element) (wrapped : Bool)
  /-- Read every named type of the document into a new list. -/
  | named

/-- What comes of a call: its failure if it fails, the trees that it returned or stored, and the
session that it leaves. -/
structure Outcome where
  failure? : Option ReadError
  trees : List CType
  session : Session

/-- The error of a result that is one. -/
def failureOf? {α : Type} : Except ReadError α → Option ReadError
  | .ok _ => none
  | .error e => some e

@[simp] theorem failureOf?_map {α β : Type} (f : α → β) (r : Except ReadError α) :
    failureOf? (r.map f) = failureOf? r := by cases r <;> rfl

namespace Call

/-- The recipe that a call decodes, if it decodes just one record. -/
def recipe? : Call → Option (Recipe CType)
  | group record => some (Record.group record)
  | member record => some (Record.member record)
  | type record wrapped => some (Record.type record wrapped)
  | named => none

end Call

namespace Session

/-- Make a call on a session. -/
def perform (d : Document) (call : Call) (s : Session) : Outcome :=
  match call.recipe? with
  | some p =>
    let (result, after) := decode p s
    ⟨failureOf? result, result.toOption.toList, after⟩
  | none =>
    let reading := s.readInto Store.list d #[]
    ⟨failureOf? reading.result, reading.contents.toList.map Prod.snd, reading.session⟩

/-- The session after a list of calls. -/
def performAll (d : Document) (calls : List Call) (s : Session) : Session :=
  calls.foldl (fun s call => (s.perform d call).session) s

end Session

/-- The runs of calls, each with the look-ups that it makes. -/
inductive Performs (d : Document) (s : Session) : Call → List Lookup → Outcome → Prop where
  | decoded {call : Call} {p : Recipe CType} {trace : List Lookup} {r : Except ReadError CType}
      {s₁ : Session} (hp : call.recipe? = some p) (run : Runs Session.finder p s trace r s₁) :
      Performs d s call trace ⟨failureOf? r, r.toOption.toList, s₁⟩
  | read {call : Call} {trace : List Lookup} {r : Except ReadError Nat}
      {types : Array (String × CType)} {s₁ : Session} (hp : call.recipe? = none)
      (run : Reads Session.finder Store.list d.named.children #[] s trace r types s₁) :
      Performs d s call trace ⟨failureOf? r, types.toList.map Prod.snd, s₁⟩

namespace Session

/-- Every call ends, with the outcome that its run has. -/
theorem performs_perform (d : Document) (call : Call) (s : Session) :
    ∃ trace, Performs d s call trace (s.perform d call) := by
  rw [perform]
  cases hp : call.recipe? with
  | some p =>
      obtain ⟨trace, h⟩ := runs_decode p s
      exact ⟨trace, .decoded hp h⟩
  | none =>
      obtain ⟨trace, h⟩ := reads_readRecords Store.list d.named.children #[] s
      exact ⟨trace, .read hp h⟩

end Session

/-- From a session there is at most one run of a call. -/
theorem Performs.deterministic {d : Document} {s : Session} {call : Call}
    {trace₁ trace₂ : List Lookup} {o₁ o₂ : Outcome} (h₁ : Performs d s call trace₁ o₁)
    (h₂ : Performs d s call trace₂ o₂) : trace₁ = trace₂ ∧ o₁ = o₂ := by
  cases h₁ with
  | decoded hp₁ run₁ =>
      cases h₂ with
      | decoded hp₂ run₂ =>
          rw [hp₁, Option.some.injEq] at hp₂
          subst hp₂
          obtain ⟨rfl, rfl, rfl⟩ := run₁.deterministic run₂
          exact ⟨rfl, rfl⟩
      | read hp₂ run₂ => rw [hp₁] at hp₂; cases hp₂
  | read hp₁ run₁ =>
      cases h₂ with
      | decoded hp₂ run₂ => rw [hp₁] at hp₂; cases hp₂
      | read hp₂ run₂ =>
          obtain ⟨rfl, rfl, rfl, rfl⟩ := run₁.deterministic run₂
          exact ⟨rfl, rfl⟩

/-- What every look-up and every event keep, a call keeps. -/
theorem Performs.invariant {I : Session → Prop}
    (hf : ∀ place id s, I s → I (Session.find place id s).2)
    (hn : ∀ events (s : Session), I s → I (s.note events)) {d : Document} {s : Session}
    {call : Call} {trace : List Lookup} {o : Outcome} (h : Performs d s call trace o)
    (hs : I s) : I o.session := by
  cases h with
  | decoded hp run => exact run.invariant hf hs
  | read hp run => exact run.invariant hf hn hs

/-- What every look-up and every event keep, all calls on a session keep. -/
theorem Session.invariant_performAll {I : Session → Prop}
    (hf : ∀ place id s, I s → I (find place id s).2)
    (hn : ∀ events (s : Session), I s → I (s.note events)) (d : Document) (calls : List Call)
    (s : Session) (hs : I s) : I (s.performAll d calls) := by
  induction calls generalizing s with
  | nil => exact hs
  | cons call calls ih =>
      obtain ⟨trace, h⟩ := s.performs_perform d call
      exact ih _ (h.invariant hf hn hs)

end DebugTypes
