import DebugTypes.Decoding.Named

/-!
# Runs without a bound

`Session.decode` answers requests by a tower of handlers whose height is fixed beforehand.  This
module says what decoding means without such a height.  A *run* of a recipe follows each request to
the record that a finder gives, decodes that record in the same way, and goes on with the answer.
It is a finite derivation, so that a recipe has a run exactly when its decoding ends.  A run carries
the look-ups that it makes, in their order.

## Main definitions

* `Tally` — a number for each section.
* `Finder σ` — a way to look records up, with a state.
* `Runs` — the runs of a recipe.
* `Reads` — the runs of a list of records that are read into a store.

`Runs.deterministic` and `Reads.deterministic` say that there is at most one run from each state, so
that a run may be spoken of as what the decoder does.
-/

namespace DebugTypes

/-- One look-up: the section, the id that was asked for, and what was found. -/
structure Lookup where
  place : Section
  id : UInt32
  answer : Except ReadError Element

/-- A number for each section, such as how many look-ups were made in it. -/
abbrev Tally := Section → Nat

/-- One more in a section. -/
def Tally.count (n : Tally) (place : Section) : Tally :=
  fun other => if other = place then n other + 1 else n other

/-- A way to look records up.  It has a state, which may hold a log. -/
structure Finder (σ : Type) where
  find : Section → UInt32 → σ → Except ReadError Element × σ
  note : List Event → σ → σ

/-- The finder of sessions. -/
def Session.finder : Finder Session where
  find := Session.find
  note events s := s.note events

variable {σ τ : Type}

/-- The runs of recipes: from a state, with look-ups, to a result and a state.  An answer that is
found is decoded before the recipe goes on. -/
inductive Runs (F : Finder σ) :
    {α : Type} → Recipe α → σ → List Lookup → Except ReadError α → σ → Prop where
  | done {α : Type} (a : α) (s : σ) : Runs F (.done a) s [] (.ok a) s
  | fail {α : Type} (e : ReadError) (s : σ) : Runs F (.fail e : Recipe α) s [] (.error e) s
  /-- The look-up fails. -/
  | lost {α : Type} {place : Section} {id : UInt32} {next : place.Answer → Recipe α}
      {e : ReadError} {s s₁ : σ} (found : F.find place id s = (.error e, s₁)) :
      Runs F (.ask place id next) s [⟨place, id, .error e⟩] (.error e) s₁
  /-- The look-up succeeds, but the record does not decode. -/
  | broken {α : Type} {place : Section} {id : UInt32} {next : place.Answer → Recipe α}
      {record : Element} {trace : List Lookup} {e : ReadError} {s s₁ s₂ : σ}
      (found : F.find place id s = (.ok record, s₁))
      (content : Runs F (Record.content place record) s₁ trace (.error e) s₂) :
      Runs F (.ask place id next) s (⟨place, id, .ok record⟩ :: trace) (.error e) s₂
  /-- The record decodes, and the recipe goes on with what it stands for. -/
  | answered {α : Type} {place : Section} {id : UInt32} {next : place.Answer → Recipe α}
      {record : Element} {trace later : List Lookup} {a : place.Answer}
      {r : Except ReadError α} {s s₁ s₂ s₃ : σ}
      (found : F.find place id s = (.ok record, s₁))
      (content : Runs F (Record.content place record) s₁ trace (.ok a) s₂)
      (rest : Runs F (next a) s₂ later r s₃) :
      Runs F (.ask place id next) s (⟨place, id, .ok record⟩ :: (trace ++ later)) r s₃

namespace Runs

variable {F : Finder σ} {α β : Type}

/-- From a state there is at most one run of a recipe. -/
theorem deterministic {p : Recipe α} {s s₁ s₂ : σ} {trace₁ trace₂ : List Lookup}
    {r₁ r₂ : Except ReadError α} (h₁ : Runs F p s trace₁ r₁ s₁) (h₂ : Runs F p s trace₂ r₂ s₂) :
    trace₁ = trace₂ ∧ r₁ = r₂ ∧ s₁ = s₂ := by
  induction h₁ generalizing trace₂ s₂ with
  | done a s => cases h₂; exact ⟨rfl, rfl, rfl⟩
  | fail e s => cases h₂; exact ⟨rfl, rfl, rfl⟩
  | lost found =>
      cases h₂ with
      | lost found₂ => rw [found] at found₂; cases found₂; exact ⟨rfl, rfl, rfl⟩
      | broken found₂ content₂ => rw [found] at found₂; cases found₂
      | answered found₂ content₂ rest₂ => rw [found] at found₂; cases found₂
  | broken found content ih =>
      cases h₂ with
      | lost found₂ => rw [found] at found₂; cases found₂
      | broken found₂ content₂ =>
          rw [found] at found₂
          cases found₂
          obtain ⟨ht, hr, hs⟩ := ih content₂
          cases hr
          exact ⟨by rw [ht], rfl, hs⟩
      | answered found₂ content₂ rest₂ =>
          rw [found] at found₂
          cases found₂
          exact absurd (ih content₂).2.1 (by simp)
  | answered found content rest ihc ihr =>
      cases h₂ with
      | lost found₂ => rw [found] at found₂; cases found₂
      | broken found₂ content₂ =>
          rw [found] at found₂
          cases found₂
          exact absurd (ihc content₂).2.1 (by simp)
      | answered found₂ content₂ rest₂ =>
          rw [found] at found₂
          cases found₂
          obtain ⟨ht, hr, hs⟩ := ihc content₂
          cases hr
          subst hs ht
          obtain ⟨ht', hr', hs'⟩ := ihr rest₂
          exact ⟨by rw [ht'], hr', hs'⟩

/-- What every look-up keeps, a run keeps. -/
theorem invariant {I : σ → Prop} (hf : ∀ place id s, I s → I (F.find place id s).2)
    {p : Recipe α} {s s₁ : σ} {trace : List Lookup} {r : Except ReadError α}
    (h : Runs F p s trace r s₁) (hs : I s) : I s₁ := by
  have hfind : ∀ {place id s s₁ r}, F.find place id s = (r, s₁) → I s → I s₁ := by
    intro place id s s₁ r found hs
    have hs₁ := hf place id s hs
    rwa [found] at hs₁
  induction h with
  | done a s => exact hs
  | fail e s => exact hs
  | lost found => exact hfind found hs
  | broken found _ ih => exact ih (hfind found hs)
  | answered found _ _ ihc ihr => exact ihr (ihc (hfind found hs))

/-- A run goes on where the run of the first part ends. -/
theorem bind {p : Recipe α} {f : α → Recipe β} {s s₁ s₂ : σ} {trace later : List Lookup} {a : α}
    {r : Except ReadError β} (h : Runs F p s trace (.ok a) s₁) (hf : Runs F (f a) s₁ later r s₂) :
    Runs F (p.bind f) s (trace ++ later) r s₂ := by
  generalize hr : (Except.ok a : Except ReadError α) = result at h
  induction h with
  | done b s => cases hr; exact hf
  | fail e s => cases hr
  | lost found => cases hr
  | broken found content ih => cases hr
  | answered found content rest _ ih =>
      rw [Recipe.ask_bind, List.cons_append, List.append_assoc]
      exact .answered found content (ih hf hr)

/-- A failure of the first part is one of the whole. -/
theorem bind_error {p : Recipe α} {f : α → Recipe β} {s s₁ : σ} {trace : List Lookup}
    {e : ReadError} (h : Runs F p s trace (.error e) s₁) :
    Runs F (p.bind f) s trace (.error e) s₁ := by
  generalize hr : (Except.error e : Except ReadError α) = result at h
  induction h with
  | done a s => cases hr
  | fail e' s => cases hr; exact .fail e s
  | lost found => cases hr; exact .lost found
  | broken found content ih => cases hr; exact .broken found content
  | answered found content rest _ ih => exact .answered found content (ih hr)

end Runs

/-- The runs of records that are read as named types into a store, up to the first failure. -/
inductive Reads (F : Finder σ) (store : Store τ) :
    List Element → τ → σ → List Lookup → Except ReadError Nat → τ → σ → Prop where
  | none (c : τ) (s : σ) : Reads F store [] c s [] (.ok 0) c s
  | broken {record : Element} {rest : List Element} {c : τ} {trace : List Lookup} {e : ReadError}
      {s s₁ : σ} (head : Runs F (Record.namedGroup record) s trace (.error e) s₁) :
      Reads F store (record :: rest) c s trace (.error e) c s₁
  | stored {record : Element} {rest : List Element} {c c₁ : τ} {trace later : List Lookup}
      {name : String} {t : CType} {r : Except ReadError Nat} {s s₁ s₂ : σ}
      (head : Runs F (Record.namedGroup record) s trace (.ok (name, t)) s₁)
      (tail : Reads F store rest (store.add c name t).1
        (F.note (.decodedType t.kind.label name :: (store.add c name t).2) s₁) later r c₁ s₂) :
      Reads F store (record :: rest) c s (trace ++ later) (r.map (· + 1)) c₁ s₂

namespace Reads

variable {F : Finder σ} {store : Store τ} {records : List Element} {c c₁ c₂ : τ}

/-- What every look-up and every event keep, reading records keeps. -/
theorem invariant {I : σ → Prop} (hf : ∀ place id s, I s → I (F.find place id s).2)
    (hn : ∀ events s, I s → I (F.note events s)) {s s₁ : σ} {trace : List Lookup}
    {r : Except ReadError Nat} (h : Reads F store records c s trace r c₁ s₁) (hs : I s) :
    I s₁ := by
  induction h with
  | none c s => exact hs
  | broken head => exact head.invariant hf hs
  | stored head _ ih => exact ih (hn _ _ (head.invariant hf hs))

/-- Reading adds entries to the contents of a store.  Each comes from a run of one of the records,
from a state that has what look-ups and events keep. -/
theorem exists_entries {I : σ → Prop} (hf : ∀ place id s, I s → I (F.find place id s).2)
    (hn : ∀ events s, I s → I (F.note events s)) {s s₁ : σ} {trace : List Lookup}
    {r : Except ReadError Nat} (h : Reads F store records c s trace r c₁ s₁) (hs : I s) :
    ∃ entries, c₁ = (store.addAll c entries).1 ∧ ∀ entry ∈ entries, ∃ record ∈ records,
      ∃ trace s₂ s₃, I s₂ ∧ Runs F (Record.namedGroup record) s₂ trace (.ok entry) s₃ := by
  induction h with
  | none c s => exact ⟨[], rfl, by simp⟩
  | broken head => exact ⟨[], rfl, by simp⟩
  | @stored record _ _ _ trace _ name t _ s s₁ _ head _ ih =>
      obtain ⟨entries, hc, hruns⟩ := ih (hn _ _ (head.invariant hf hs))
      refine ⟨(name, t) :: entries, hc, ?_⟩
      intro entry hentry
      rcases List.mem_cons.mp hentry with rfl | hentry
      · exact ⟨record, List.mem_cons_self, trace, s, s₁, hs, head⟩
      · obtain ⟨record', hmem, hrun⟩ := hruns entry hentry
        exact ⟨record', List.mem_cons_of_mem record hmem, hrun⟩

/-- From a state there is at most one run of a list of records. -/
theorem deterministic {s s₁ s₂ : σ} {trace₁ trace₂ : List Lookup} {r₁ r₂ : Except ReadError Nat}
    (h₁ : Reads F store records c s trace₁ r₁ c₁ s₁)
    (h₂ : Reads F store records c s trace₂ r₂ c₂ s₂) :
    trace₁ = trace₂ ∧ r₁ = r₂ ∧ c₁ = c₂ ∧ s₁ = s₂ := by
  induction h₁ generalizing trace₂ r₂ c₂ s₂ with
  | none c s => cases h₂; exact ⟨rfl, rfl, rfl, rfl⟩
  | broken head =>
      cases h₂ with
      | broken head₂ =>
          obtain ⟨ht, hr, hs⟩ := head.deterministic head₂
          cases hr
          exact ⟨ht, rfl, rfl, hs⟩
      | stored head₂ tail₂ => exact absurd (head.deterministic head₂).2.1 (by simp)
  | stored head tail ih =>
      cases h₂ with
      | broken head₂ => exact absurd (head.deterministic head₂).2.1 (by simp)
      | stored head₂ tail₂ =>
          obtain ⟨ht, hr, hs⟩ := head.deterministic head₂
          cases hr
          subst hs ht
          obtain ⟨ht', hr', hc, hs'⟩ := ih tail₂
          exact ⟨by rw [ht'], by rw [hr'], hc, hs'⟩

end Reads

end DebugTypes
