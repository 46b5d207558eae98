import DebugTypes.Proofs.Decoding.Runs

/-!
# What the results of recipes satisfy

Facts about decoded trees are proved record by record.  `Recipe.Yields` says what holds of the
result of one recipe and of the look-ups behind it, when something is known of every answer to its
requests.  If every record's own recipe keeps what is assumed of answers, then what a recipe yields
holds of each of its successful runs, however deep the records behind it are nested.

## Main definitions

* `Recipe.Yields` — a property of results, granted one of answers.
* `Each` — a property of the results of a list of recipes, with the look-ups of each.

## Main statements

* `Recipe.yields_bind`, `Recipe.yields_mapM'` — recipes in sequence.
* `Runs.yields` — from the recipes of records to runs.
-/

namespace DebugTypes

/-- A property of answers, with the look-ups that an answer took after its own. -/
abbrev AnswerProperty := (place : Section) → List Lookup → place.Answer → Prop

/-- A property `P` of inputs, look-ups and results that holds item by item; the look-ups of the
items stand one after the other. -/
inductive Each {ι β : Type} (P : ι → List Lookup → β → Prop) :
    List ι → List Lookup → List β → Prop where
  | nil : Each P [] [] []
  | cons {i : ι} {is : List ι} {trace later : List Lookup} {b : β} {bs : List β}
      (head : P i trace b) (tail : Each P is later bs) :
      Each P (i :: is) (trace ++ later) (b :: bs)

/-- What holds of each result, whatever its item and look-ups were. -/
theorem Each.forall_mem {ι β : Type} {Q : β → Prop} {is : List ι} {trace : List Lookup}
    {bs : List β} (h : Each (fun _ _ b => Q b) is trace bs) : ∀ b ∈ bs, Q b := by
  induction h with
  | nil => exact List.forall_mem_nil _
  | cons head _ ih => exact List.forall_mem_cons.2 ⟨head, ih⟩

namespace Recipe

variable {A : AnswerProperty} {ι α β : Type}

/-- `Q` holds of the look-ups and the result of a recipe whenever `A` holds of all answers. -/
def Yields (A : AnswerProperty) : Recipe α → (List Lookup → α → Prop) → Prop
  | done a, Q => Q [] a
  | fail _, _ => True
  | ask place id next, Q => ∀ record trace a, A place trace a →
      (next a).Yields A fun later b => Q (⟨place, id, .ok record⟩ :: (trace ++ later)) b

@[simp] theorem yields_done {a : α} {Q : List Lookup → α → Prop} :
    (done a).Yields A Q ↔ Q [] a := Iff.rfl

@[simp] theorem yields_fail {e : ReadError} {Q : List Lookup → α → Prop} :
    (fail e : Recipe α).Yields A Q := trivial

theorem yields_ask {place : Section} {id : UInt32} {next : place.Answer → Recipe α}
    {Q : List Lookup → α → Prop} :
    (ask place id next).Yields A Q ↔ ∀ record trace a, A place trace a →
      (next a).Yields A fun later b => Q (⟨place, id, .ok record⟩ :: (trace ++ later)) b :=
  Iff.rfl

@[simp] theorem yields_ofExcept {x : Except ReadError α} {Q : List Lookup → α → Prop} :
    (ofExcept x).Yields A Q ↔ ∀ a, x = .ok a → Q [] a := by
  cases x with
  | error e => simp
  | ok a => simp

theorem Yields.mono {p : Recipe α} {Q Q' : List Lookup → α → Prop} (h : p.Yields A Q)
    (hq : ∀ trace a, Q trace a → Q' trace a) : p.Yields A Q' := by
  induction p generalizing Q Q' with
  | done a => exact hq _ _ h
  | fail e => trivial
  | ask place id next ih =>
      intro record trace a ha
      exact ih a (h record trace a ha) fun later b => hq _ b

/-- What a sequence yields is what its second part yields for each result of the first. -/
theorem yields_bind {p : Recipe α} {f : α → Recipe β} {Q : List Lookup → β → Prop} :
    (p.bind f).Yields A Q ↔
      p.Yields A fun trace a => (f a).Yields A fun later b => Q (trace ++ later) b := by
  induction p generalizing Q with
  | done a => rfl
  | fail e => rfl
  | ask place id next ih =>
      simp only [ask_bind, yields_ask, ih, List.cons_append, List.append_assoc]

/-- Recipes one after the other yield item by item what each of them yields. -/
theorem yields_mapM' {f : ι → Recipe β} {P : ι → List Lookup → β → Prop} {is : List ι}
    (h : ∀ i ∈ is, (f i).Yields A (P i)) :
    (is.mapM' f).Yields A fun trace bs => Each P is trace bs := by
  induction is with
  | nil => exact .nil
  | cons i is ih =>
      rw [List.mapM'_cons, bind_eq, yields_bind]
      refine (h i List.mem_cons_self).mono fun trace b hb => ?_
      rw [bind_eq, yields_bind]
      refine (ih fun j hj => h j (List.mem_cons_of_mem i hj)).mono fun later bs hbs => ?_
      change Each P (i :: is) (trace ++ (later ++ [])) (b :: bs)
      rw [List.append_nil]
      exact .cons hb hbs

end Recipe

/-- **What a recipe yields holds of its successful runs,** if every record keeps what is assumed of
answers. -/
theorem Runs.yields {σ α : Type} {F : Finder σ} {A : AnswerProperty}
    (hA : ∀ place record, (Record.content place record).Yields A (A place)) {p : Recipe α}
    {s s₁ : σ} {trace : List Lookup} {a : α} {Q : List Lookup → α → Prop}
    (h : Runs F p s trace (.ok a) s₁) (hp : p.Yields A Q) : Q trace a := by
  generalize hr : (Except.ok a : Except ReadError α) = r at h
  induction h with
  | done b s => cases hr; exact hp
  | fail e s => cases hr
  | lost found => cases hr
  | broken found content ih => cases hr
  | answered found content rest ihc ihr =>
      have hcontent := ihc (hA _ _) rfl
      exact ihr (hp _ _ _ hcontent) hr

end DebugTypes
