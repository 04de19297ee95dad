import Rowbind.Error

/-!
# Steps of things with state

A row source, a scanner, a cache and a database are used step by step. A **step** succeeds or fails,
and either way leaves a state behind: what was done before a failure stays done.

Steps are plain functions from a state. They are also a monad, in which a failure ends the sequence
and the state reached is kept.
-/

namespace Rowbind

/-- **A step of something with state.** -/
def Step (σ α : Type) : Type := σ → Except Error α × σ

namespace Step

variable {σ τ α β : Type}

/-- The step that does nothing. -/
protected def pure (a : α) : Step σ α := fun s => (.ok a, s)

/-- A step after a step, unless the first one fails. -/
protected def bind (x : Step σ α) (f : α → Step σ β) : Step σ β := fun s =>
  match x s with
  | (.ok a, s') => f a s'
  | (.error e, s') => (.error e, s')

instance : Monad (Step σ) where
  pure := Step.pure
  bind := Step.bind

/-- The step that fails. -/
def fail (e : Error) : Step σ α := fun s => (.error e, s)

/-- A step that cannot touch the state. -/
def ofExcept (r : Except Error α) : Step σ α := fun s => (r, s)

/-- The state itself. -/
def get : Step σ σ := fun s => (.ok s, s)

/-- A step that cannot fail. -/
def modify (f : σ → σ) : Step σ Unit := fun s => (.ok (), f s)

/-- A step of a part, as a step of the whole. -/
def zoom (part : σ → τ) (put : τ → σ → σ) (x : Step τ α) : Step σ α := fun s =>
  let (r, t) := x (part s)
  (r, put t s)

/-- A step whose failure is passed over. -/
def swallow (x : Step σ α) : σ → σ := fun s => (x s).2

theorem pure_apply (a : α) (s : σ) : (pure a : Step σ α) s = (.ok a, s) := rfl

theorem bind_ok {x : Step σ α} {s s' : σ} {a : α} (h : x s = (.ok a, s')) (f : α → Step σ β) :
    (x >>= f) s = f a s' := by
  show Step.bind x f s = _
  simp only [Step.bind, h]

theorem bind_error {x : Step σ α} {s s' : σ} {e : Error} (h : x s = (.error e, s'))
    (f : α → Step σ β) : (x >>= f) s = (.error e, s') := by
  show Step.bind x f s = _
  simp only [Step.bind, h]

/-- A step whose answer is made into another. -/
theorem bind_pure_apply (x : Step σ α) (f : α → β) (s : σ) :
    (x >>= fun a => pure (f a)) s = ((x s).1.map f, (x s).2) := by
  rcases h : x s with ⟨e | a, s'⟩
  · exact bind_error h _
  · exact bind_ok h _

end Step

end Rowbind
