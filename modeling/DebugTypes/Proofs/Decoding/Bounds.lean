import DebugTypes.Proofs.Decoding.Calls
import DebugTypes.Proofs.Decoding.Depth
import DebugTypes.Proofs.Store

/-!
# What decoding takes

Records may lead back to themselves, and nothing in a session remembers which were visited.  The
cursors alone bound what a call does: each look-up that succeeds uses up a record of its section,
and the first that fails ends the call.  The depth of trees is bounded in turn, since every level of
a tree belongs to the record of one look-up.
-/

namespace DebugTypes

/-- A look-up in a section that gave a record. -/
def Lookup.hits (place : Section) (l : Lookup) : Bool :=
  decide (l.place = place) && l.answer.isOk

/-- A look-up that failed. -/
def Lookup.misses (l : Lookup) : Bool := !l.answer.isOk

/-- The look-ups of a computation that ends with `failure?`: the first that fails is the last of
them, and its error the failure. -/
def EndsAtMiss (trace : List Lookup) (failure? : Option ReadError) : Prop :=
  ∀ before l after, trace = before ++ l :: after → ∀ e, l.answer = .error e →
    after = [] ∧ failure? = some e

namespace EndsAtMiss

theorem nil (failure? : Option ReadError) : EndsAtMiss [] failure? := by
  intro before l after h
  simp at h

/-- Look-ups without a failure may stand in front of others. -/
theorem append {trace later : List Lookup} {failure? : Option ReadError}
    (h : EndsAtMiss trace none) (hl : EndsAtMiss later failure?) :
    EndsAtMiss (trace ++ later) failure? := by
  intro before l after heq e he
  rcases List.append_eq_append_iff.1 heq with ⟨mid, rfl, hlater⟩ | ⟨mid, htrace, hmid⟩
  · exact hl mid l after hlater e he
  · cases mid with
    | nil => exact hl [] l after hmid.symm e he
    | cons x mid =>
        rw [List.cons_append, List.cons.injEq] at hmid
        rw [← hmid.1] at htrace
        exact absurd (h before l mid htrace e he).2 (by simp)

theorem cons_ok {l : Lookup} {record : Element} {later : List Lookup}
    {failure? : Option ReadError} (hl : l.answer = .ok record) (h : EndsAtMiss later failure?) :
    EndsAtMiss (l :: later) failure? := by
  have hone : EndsAtMiss [l] none := by
    intro before l' after heq e he
    rcases List.append_eq_cons_iff.1 heq.symm with ⟨rfl, hc⟩ | ⟨_, rfl, hc⟩
    · cases hc
      rw [hl] at he
      cases he
    · simp at hc
  exact hone.append h

theorem singleton {l : Lookup} {e : ReadError} (hl : l.answer = .error e) :
    EndsAtMiss [l] (some e) := by
  intro before l' after heq e' he
  rcases List.append_eq_cons_iff.1 heq.symm with ⟨rfl, hc⟩ | ⟨_, rfl, hc⟩
  · cases hc
    rw [hl] at he
    cases he
    exact ⟨rfl, rfl⟩
  · simp at hc

/-- So at most one look-up fails. -/
theorem countP_misses_le {trace : List Lookup} {failure? : Option ReadError}
    (h : EndsAtMiss trace failure?) : trace.countP Lookup.misses ≤ 1 := by
  induction trace with
  | nil => exact Nat.zero_le 1
  | cons l trace ih =>
      cases ha : l.answer with
      | ok record =>
          have hm : l.misses = false := by rw [Lookup.misses, ha]; rfl
          rw [List.countP_cons, hm]
          refine ih fun before l' after heq => h (l :: before) l' after ?_
          rw [heq, List.cons_append]
      | error e =>
          have hnil : trace = [] := (h [] l trace rfl e ha).1
          rw [hnil, List.countP_cons]
          split <;> simp

/-- Where none fails, every look-up succeeds in one of the two sections. -/
theorem length_eq {trace : List Lookup} (h : EndsAtMiss trace none) :
    trace.length =
      trace.countP (Lookup.hits .functions) + trace.countP (Lookup.hits .unnamed) := by
  induction trace with
  | nil => rfl
  | cons l trace ih =>
      have hok : l.answer.isOk = true := by
        cases ha : l.answer with
        | ok record => rfl
        | error e => exact absurd (h [] l trace rfl e ha).2 (by simp)
      have htail := ih fun before l' after heq => h (l :: before) l' after (by rw [heq]; rfl)
      rw [List.length_cons, List.countP_cons, List.countP_cons, htail]
      cases hp : l.place <;> simp [Lookup.hits, hok, hp] <;> omega

end EndsAtMiss

namespace Runs

variable {α : Type} {p : Recipe α} {s s₁ : Session} {trace : List Lookup}
  {r : Except ReadError α}

/-- The first look-up that fails ends a run. -/
theorem endsAtMiss {σ : Type} {F : Finder σ} {s s₁ : σ} (h : Runs F p s trace r s₁) :
    EndsAtMiss trace (failureOf? r) := by
  induction h with
  | done a s => exact .nil _
  | fail e s => exact .nil _
  | lost found => exact .singleton rfl
  | broken found content ih => exact .cons_ok rfl ih
  | answered found content rest ihc ihr => exact .cons_ok rfl (ihc.append ihr)

end Runs

/-- A look-up that succeeds uses up one record of its section, and no other. -/
theorem Session.hits_add_remaining_le {place' : Section} {id : UInt32} {s s₁ : Session}
    {r : Except ReadError Element} (h : Session.find place' id s = (r, s₁)) (place : Section) :
    (if (Lookup.mk place' id r).hits place = true then 1 else 0) + (s₁.cursor place).remaining ≤
      (s.cursor place).remaining := by
  have hle := Session.remaining_cursor_find_le place' place id s
  rw [h] at hle
  split
  · rename_i hhit
    simp only [Lookup.hits, Bool.and_eq_true, decide_eq_true_eq] at hhit
    obtain ⟨rfl, hok⟩ := hhit
    cases r with
    | error e => cases hok
    | ok record =>
        have hr := Session.remaining_cursor_find h
        omega
  · simpa using hle

namespace Runs

variable {α : Type} {p : Recipe α} {s s₁ : Session} {trace : List Lookup}
  {r : Except ReadError α}

/-- The look-ups of a run that succeed use up records of their section. -/
theorem countP_hits_add_remaining_le (h : Runs Session.finder p s trace r s₁) (place : Section) :
    trace.countP (Lookup.hits place) + (s₁.cursor place).remaining ≤
      (s.cursor place).remaining := by
  induction h with
  | done a s => simp
  | fail e s => simp
  | lost found =>
      have hf := Session.hits_add_remaining_le found place
      rw [List.countP_cons, List.countP_nil]
      omega
  | broken found content ih =>
      have hf := Session.hits_add_remaining_le found place
      rw [List.countP_cons]
      omega
  | answered found content rest ihc ihr =>
      have hf := Session.hits_add_remaining_le found place
      rw [List.countP_cons, List.countP_append]
      omega

/-- Every look-up of a successful run succeeds, so that a run is as long as what it uses up. -/
theorem length_le (h : Runs Session.finder p s trace r s₁) (hr : failureOf? r = none) :
    trace.length ≤ (s.cursor .functions).remaining + (s.cursor .unnamed).remaining := by
  have hends := h.endsAtMiss
  have hf := h.countP_hits_add_remaining_le .functions
  have hu := h.countP_hits_add_remaining_le .unnamed
  rw [hr] at hends
  rw [hends.length_eq]
  omega

end Runs

namespace Reads

variable {τ : Type} {store : Store τ} {records : List Element} {c c₁ : τ} {trace : List Lookup}
  {r : Except ReadError Nat}

theorem endsAtMiss {σ : Type} {F : Finder σ} {s s₁ : σ}
    (h : Reads F store records c s trace r c₁ s₁) : EndsAtMiss trace (failureOf? r) := by
  induction h with
  | none c s => exact .nil _
  | broken head => exact head.endsAtMiss
  | stored head tail ih =>
      rw [failureOf?_map]
      exact head.endsAtMiss.append ih

theorem countP_hits_add_remaining_le {s s₁ : Session}
    (h : Reads Session.finder store records c s trace r c₁ s₁) (place : Section) :
    trace.countP (Lookup.hits place) + (s₁.cursor place).remaining ≤
      (s.cursor place).remaining := by
  induction h with
  | none c s => simp
  | broken head => exact head.countP_hits_add_remaining_le place
  | stored head tail ih =>
      have hh := head.countP_hits_add_remaining_le place
      change _ + _ ≤ ((Session.note _ _).cursor place).remaining at ih
      rw [Session.cursor_note] at ih
      rw [List.countP_append]
      omega

end Reads

/-- The recipe of a call yields a tree whose depth its look-ups bound. -/
theorem Call.depth_recipe? {call : Call} {p : Recipe CType} (hp : call.recipe? = some p) :
    p.Yields DepthBounded fun trace t => t.depth ≤ 1 + levelDepth * (1 + trace.length) := by
  cases call with
  | group record =>
      cases hp
      exact Record.depth_group record
  | member record =>
      cases hp
      exact (Record.depth_member record).mono fun trace t ht => Nat.le_add_left_of_le ht
  | type record wrapped =>
      cases hp
      exact (Record.depth_type record wrapped).mono fun trace t ht => Nat.le_add_left_of_le ht
  | named => cases hp

namespace Performs

variable {d : Document} {s : Session} {call : Call} {trace : List Lookup} {o : Outcome}

theorem endsAtMiss (h : Performs d s call trace o) : EndsAtMiss trace o.failure? := by
  cases h with
  | decoded hp run => exact run.endsAtMiss
  | read hp run => exact run.endsAtMiss

theorem countP_hits_le (h : Performs d s call trace o) (place : Section) :
    trace.countP (Lookup.hits place) ≤ (s.cursor place).remaining := by
  cases h with
  | decoded hp run =>
      have hr := run.countP_hits_add_remaining_le place
      omega
  | read hp run =>
      have hr := run.countP_hits_add_remaining_le place
      omega

/-- The records ahead of a session bound the depth of every tree that comes of a call. -/
theorem depth_le (h : Performs d s call trace o) :
    ∀ t ∈ o.trees, t.depth ≤ 1 + levelDepth * (1 + s.remaining) := by
  have hbound : ∀ {n : Nat}, n ≤ s.remaining →
      1 + levelDepth * (1 + n) ≤ 1 + levelDepth * (1 + s.remaining) := by
    intro n hn
    exact Nat.add_le_add_left (Nat.mul_le_mul_left _ (Nat.add_le_add_left hn 1)) 1
  cases h with
  | @decoded _ _ r _ hp run =>
      cases r with
      | error e => simp [Except.toOption]
      | ok t =>
          have hlength := run.length_le rfl
          have hdepth := run.yields Record.depth_content (Call.depth_recipe? hp)
          intro u hu
          have hut : u = t := by simpa [Except.toOption] using hu
          rw [hut]
          exact Nat.le_trans hdepth (hbound hlength)
  | read hp run =>
      -- Each stored tree has a run of its own, from a session with no more records ahead.
      obtain ⟨entries, rfl, hruns⟩ := run.exists_entries
        (I := fun s' => ∀ place, (s'.cursor place).remaining ≤ (s.cursor place).remaining)
        (fun place id s' hs' other =>
          Nat.le_trans (Session.remaining_cursor_find_le place other id s') (hs' other))
        (fun events s' hs' place => by
          change ((s'.note events).cursor place).remaining ≤ _
          rw [Session.cursor_note]
          exact hs' place)
        (fun place => Nat.le_refl _)
      intro t ht
      rw [Store.toList_addAll_list, List.mem_map] at ht
      obtain ⟨⟨name, u⟩, hmem, rfl⟩ := ht
      obtain ⟨record, -, trace', s₂, s₃, hs₂, hrun⟩ := hruns (name, u) (by simpa using hmem)
      have hlength := hrun.length_le rfl
      have hdepth := hrun.yields Record.depth_content (Record.depth_namedGroup record)
      have hf := hs₂ .functions
      have hu := hs₂ .unnamed
      refine Nat.le_trans hdepth (hbound ?_)
      rw [Session.remaining_eq]
      omega

end Performs

/-- **Every call ends, within the records ahead.**  From any session, strict or lenient and wherever
its cursors stand, a call has exactly one run.  It finds at most the records ahead of each cursor
and fails in at most one look-up, which is its last.  No tree that comes of it nests deeper than the
records of the two sections allow. -/
theorem Session.perform_bounds (d : Document) (call : Call) (s : Session) :
    ∃ trace, Performs d s call trace (s.perform d call) ∧
      (∀ trace' o, Performs d s call trace' o → trace' = trace ∧ o = s.perform d call) ∧
      trace.countP (Lookup.hits .unnamed) ≤ s.unnamed.records.length - s.unnamed.position ∧
      trace.countP (Lookup.hits .functions) ≤
        s.functions.records.length - s.functions.position ∧
      trace.countP Lookup.misses ≤ 1 ∧
      EndsAtMiss trace (s.perform d call).failure? ∧
      ∀ t ∈ (s.perform d call).trees,
        t.depth ≤ 1 + 1026 * (1 + s.unnamed.records.length + s.functions.records.length) := by
  obtain ⟨trace, h⟩ := s.performs_perform d call
  refine ⟨trace, h, ?_, h.countP_hits_le .unnamed, h.countP_hits_le .functions,
    h.endsAtMiss.countP_misses_le, h.endsAtMiss, ?_⟩
  · intro trace' o h'
    exact h'.deterministic h
  · intro t ht
    have hremaining : s.remaining ≤ s.functions.records.length + s.unnamed.records.length :=
      Nat.add_le_add (Nat.sub_le _ _) (Nat.sub_le _ _)
    have hlevel : levelDepth = 1026 := rfl
    have hdepth := h.depth_le t ht
    rw [hlevel] at hdepth
    omega

end DebugTypes
