import DebugTypes.Proofs.Decoding.Runs
import DebugTypes.Proofs.Store

/-!
# One finder follows another

Two ways to look records up are compared look-up by look-up: from related states the second gives
the answer of the first and the states stay related.  A comparison may end early in two ways.  The
first finder may fail with an *excused* error, about which nothing is promised, and the second may
fail where the first has *strayed* from what the second can follow.  `Runs.follow` and
`Reads.follow` carry such a comparison from single look-ups to whole runs, through every nesting of
records.
-/

namespace DebugTypes

variable {σ σ' τ : Type}

/-- The finder `G` follows `F` along the relation `R`: it gives the same answer, or `F` fails with
an excused error, or `G` fails with an error that records how `F` has strayed. -/
structure Follows (F : Finder σ) (G : Finder σ') (R : σ → σ' → Prop)
    (Stray : σ → ReadError → Prop) (Excused : ReadError → Prop) : Prop where
  find : ∀ {place id s s₁ t r}, R s t → F.find place id s = (r, s₁) →
    (∀ e, r = .error e → ¬ Excused e) →
      (∃ t₁, G.find place id t = (r, t₁) ∧ R s₁ t₁) ∨
        ∃ e t₁, G.find place id t = (.error e, t₁) ∧ Stray s₁ e
  note : ∀ {s t} events, R s t → (∀ event ∈ events, event.isOutOfOrder = false) →
    R (F.note events s) (G.note events t)
  /-- What has strayed stays so. -/
  stray_find : ∀ {e} place id s, Stray s e → Stray (F.find place id s).2 e
  stray_note : ∀ {e} events s, Stray s e → Stray (F.note events s) e

variable {F : Finder σ} {G : Finder σ'} {R : σ → σ' → Prop} {Stray : σ → ReadError → Prop}
  {Excused : ReadError → Prop} {α : Type}

/-- What has strayed stays so along a run. -/
theorem Runs.stray (H : Follows F G R Stray Excused) {p : Recipe α} {s s₁ : σ}
    {trace : List Lookup} {r : Except ReadError α} (h : Runs F p s trace r s₁) {e : ReadError}
    (hs : Stray s e) : Stray s₁ e :=
  h.invariant (I := fun s => Stray s e) H.stray_find hs

theorem Reads.stray (H : Follows F G R Stray Excused) {store : Store τ} {records : List Element}
    {c c₁ : τ} {s s₁ : σ} {trace : List Lookup} {r : Except ReadError Nat}
    (h : Reads F store records c s trace r c₁ s₁) {e : ReadError} (hs : Stray s e) :
    Stray s₁ e :=
  h.invariant (I := fun s => Stray s e) H.stray_find H.stray_note hs

/-- A run is followed to its end, or up to where it strays. -/
theorem Runs.follow (H : Follows F G R Stray Excused) {p : Recipe α} {s s₁ : σ} {t : σ'}
    {trace : List Lookup} {r : Except ReadError α} (h : Runs F p s trace r s₁) (hR : R s t)
    (hr : ∀ e, r = .error e → ¬ Excused e) :
    (∃ t₁, Runs G p t trace r t₁ ∧ R s₁ t₁) ∨
      ∃ trace' e t₁, Runs G p t trace' (.error e) t₁ ∧ Stray s₁ e := by
  induction h generalizing t with
  | done a s => exact .inl ⟨t, .done a t, hR⟩
  | fail e s => exact .inl ⟨t, .fail e t, hR⟩
  | lost found =>
      rcases H.find hR found (by rintro e' ⟨⟩; exact hr _ rfl) with
        ⟨t₁, found₁, hR₁⟩ | ⟨e₁, t₁, found₁, hs⟩
      · exact .inl ⟨t₁, .lost found₁, hR₁⟩
      · exact .inr ⟨_, e₁, t₁, .lost found₁, hs⟩
  | broken found content ih =>
      rcases H.find hR found (by rintro e' ⟨⟩) with ⟨t₁, found₁, hR₁⟩ | ⟨e₁, t₁, found₁, hs⟩
      · rcases ih hR₁ (by rintro e' ⟨⟩; exact hr _ rfl) with
          ⟨t₂, content₂, hR₂⟩ | ⟨trace', e₂, t₂, content₂, hs⟩
        · exact .inl ⟨t₂, .broken found₁ content₂, hR₂⟩
        · exact .inr ⟨_, e₂, t₂, .broken found₁ content₂, hs⟩
      · exact .inr ⟨_, e₁, t₁, .lost found₁, content.stray H hs⟩
  | answered found content rest ihc ihr =>
      rcases H.find hR found (by rintro e' ⟨⟩) with ⟨t₁, found₁, hR₁⟩ | ⟨e₁, t₁, found₁, hs⟩
      · rcases ihc hR₁ (by rintro e' ⟨⟩) with
          ⟨t₂, content₂, hR₂⟩ | ⟨trace', e₂, t₂, content₂, hs⟩
        · rcases ihr hR₂ hr with ⟨t₃, rest₃, hR₃⟩ | ⟨later, e₃, t₃, rest₃, hs⟩
          · exact .inl ⟨t₃, .answered found₁ content₂ rest₃, hR₃⟩
          · exact .inr ⟨_, e₃, t₃, .answered found₁ content₂ rest₃, hs⟩
        · exact .inr ⟨_, e₂, t₂, .broken found₁ content₂, rest.stray H hs⟩
      · exact .inr ⟨_, e₁, t₁, .lost found₁, rest.stray H (content.stray H hs)⟩

/-- The reading of records is followed to its end, or up to where it strays; what the second reading
has stored by then, the first has stored as well. -/
theorem Reads.follow (H : Follows F G R Stray Excused) {store : Store τ} (hq : store.Quiet)
    {records : List Element} {c c₁ : τ} {s s₁ : σ} {t : σ'} {trace : List Lookup}
    {r : Except ReadError Nat} (h : Reads F store records c s trace r c₁ s₁) (hR : R s t)
    (hr : ∀ e, r = .error e → ¬ Excused e) :
    (∃ t₁, Reads G store records c t trace r c₁ t₁ ∧ R s₁ t₁) ∨
      ∃ trace' e c' t₁ entries, Reads G store records c t trace' (.error e) c' t₁ ∧ Stray s₁ e ∧
        c₁ = (store.addAll c' entries).1 := by
  induction h generalizing t with
  | none c s => exact .inl ⟨t, .none c t, hR⟩
  | broken head =>
      rcases head.follow H hR (by rintro e' ⟨⟩; exact hr _ rfl) with
        ⟨t₁, head₁, hR₁⟩ | ⟨trace', e₁, t₁, head₁, hs⟩
      · exact .inl ⟨t₁, .broken head₁, hR₁⟩
      · exact .inr ⟨trace', e₁, _, t₁, [], .broken head₁, hs, rfl⟩
  | @stored _ _ c _ _ _ name u _ _ _ _ head tail ih =>
      rcases head.follow H hR (by rintro e' ⟨⟩) with
        ⟨t₁, head₁, hR₁⟩ | ⟨trace', e₁, t₁, head₁, hs⟩
      · have hn := H.note (.decodedType u.kind.label name :: (store.add c name u).2) hR₁
          (by
            intro event hmem
            rcases List.mem_cons.mp hmem with rfl | hmem
            · rfl
            · exact hq c name u event hmem)
        rcases ih hn (by rintro e' rfl; exact hr _ rfl) with
          ⟨t₂, tail₂, hR₂⟩ | ⟨later, e₂, c', t₂, entries, tail₂, hs, hc⟩
        · exact .inl ⟨t₂, .stored head₁ tail₂, hR₂⟩
        · exact .inr ⟨_, e₂, c', t₂, entries, .stored head₁ tail₂, hs, hc⟩
      · obtain ⟨entries, hc, -⟩ := tail.exists_entries (I := fun _ => True)
          (fun _ _ _ _ => trivial) (fun _ _ _ => trivial) trivial
        exact .inr ⟨trace', e₁, _, t₁, (name, u) :: entries, .broken head₁,
          tail.stray H (H.stray_note _ _ hs), hc⟩

end DebugTypes
