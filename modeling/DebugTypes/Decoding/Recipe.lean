import DebugTypes.CType.Basic
import DebugTypes.ReadError

/-!
# Recipes

A record does not hold a whole type: it may refer to unnamed types and to the parameters of
functions by id.  What a record says without following these references is a *recipe*: a result, an
error, or a request for what an id stands for together with the recipe that uses the answer.  How
requests are answered is up to a *handler*, so one reading of records serves every way to look ids
up.

## Main definitions

* `Section` — the two sections whose records are referred to by id.
* `Recipe α` — how to make an `α`, with the requests left open.
* `Handler m` — answers to the requests in a monad `m`.
* `Recipe.run` — the result of a recipe under a handler.
-/

namespace DebugTypes

/-- The sections whose records are referred to by id. -/
inductive Section where
  | functions
  | unnamed
  deriving DecidableEq, Repr

namespace Section

/-- The word for a section in messages. -/
def label : Section → String
  | functions => "functions"
  | unnamed => "unnamed"

/-- What a record of a section stands for: the parameters of a function, or an unnamed type. -/
abbrev Answer : Section → Type
  | functions => List CType
  | unnamed => CType

end Section

/-- How to make an `α` from a record, with requests for what other records say. -/
inductive Recipe (α : Type) : Type where
  | done (result : α)
  | fail (error : ReadError)
  /-- Asks for what the record of a section with an id stands for. -/
  | ask (place : Section) (id : UInt32) (next : place.Answer → Recipe α)

namespace Recipe

variable {α β γ : Type}

/-- The recipe that goes on with the result of another. -/
def bind : Recipe α → (α → Recipe β) → Recipe β
  | done a, f => f a
  | fail e, _ => fail e
  | ask place id next, f => ask place id fun a => (next a).bind f

instance : Monad Recipe where
  pure := done
  bind := bind

@[simp] theorem pure_eq (a : α) : (pure a : Recipe α) = done a := rfl
@[simp] theorem bind_eq (p : Recipe α) (f : α → Recipe β) : p >>= f = p.bind f := rfl
@[simp] theorem done_bind (a : α) (f : α → Recipe β) : (done a).bind f = f a := rfl
@[simp] theorem fail_bind (e : ReadError) (f : α → Recipe β) : (fail e).bind f = fail e := rfl
@[simp] theorem ask_bind (place : Section) (id : UInt32) (next : place.Answer → Recipe α)
    (f : α → Recipe β) :
    (ask place id next).bind f = ask place id fun a => (next a).bind f := rfl

theorem bind_done (p : Recipe α) : p.bind done = p := by
  induction p with
  | done _ => rfl
  | fail _ => rfl
  | ask place id next ih => simp [ih]

theorem bind_assoc (p : Recipe α) (f : α → Recipe β) (g : β → Recipe γ) :
    (p.bind f).bind g = p.bind fun a => (f a).bind g := by
  induction p with
  | done _ => rfl
  | fail _ => rfl
  | ask place id next ih => simp [ih]

instance : LawfulMonad Recipe := LawfulMonad.mk'
  _ (fun p => bind_done p) (fun _ _ => rfl) bind_assoc

/-- The recipe of a value that was read without requests. -/
def ofExcept : Except ReadError α → Recipe α
  | .ok a => done a
  | .error e => fail e

@[simp] theorem ofExcept_ok (a : α) : ofExcept (.ok a) = done a := rfl
@[simp] theorem ofExcept_error (e : ReadError) : (ofExcept (.error e) : Recipe α) = fail e := rfl

/-- The recipe that asks for an unnamed type. -/
def askUnnamed (id : UInt32) : Recipe CType := ask .unnamed id done

/-- The recipe that asks for the parameters of a function. -/
def askParameters (id : UInt32) : Recipe (List CType) := ask .functions id done

end Recipe

/-- Answers to the requests of recipes. -/
abbrev Handler (m : Type → Type) := (place : Section) → UInt32 → m place.Answer

/-- The result of a recipe whose requests a handler answers. -/
def Recipe.run {m : Type → Type} [Monad m] [MonadExceptOf ReadError m] {α : Type}
    (h : Handler m) : Recipe α → m α
  | done a => pure a
  | fail e => throw e
  | ask place id next => do (next (← h place id)).run h

end DebugTypes
