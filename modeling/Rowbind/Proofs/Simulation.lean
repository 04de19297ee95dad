import Rowbind.Step

/-!
# Steps side by side

Two things with state are stepped side by side. A relation between their states that every two steps
keep, where they are answered alike, is kept by sequences of such steps (`Step.Simulates.bind`), as
far as the first failure.
-/

namespace Rowbind.Step

/-- **Whether steps of two things that are related are answered alike**, answers of the first being
seen as `f` shows them, and leave them related. -/
def Simulates {σ σ' α β : Type} (R : σ → σ' → Prop) (f : α → β) (x : Step σ α)
    (y : Step σ' β) : Prop :=
  ∀ s s', R s s' → (y s').1 = (x s).1.map f ∧ R (x s).2 (y s').2

namespace Simulates

variable {σ σ' α β α' β' : Type} {R : σ → σ' → Prop} {f : α → β} {f' : α' → β'}

theorem ofExcept (r : Except Error α) : Simulates R id (.ofExcept r) (.ofExcept r) := by
  intro s s' hs
  cases r <;> exact ⟨rfl, hs⟩

theorem modify {h : σ → σ} {k : σ' → σ'} (hsame : ∀ s s', R s s' → R (h s) (k s')) :
    Simulates R id (.modify h) (.modify k) :=
  fun s s' hs => ⟨rfl, hsame s s' hs⟩

/-- One step after the other beside one step after the other. -/
theorem bind {x : Step σ α} {y : Step σ' β} {k : α → Step σ α'} {k' : β → Step σ' β'}
    (hfirst : Simulates R f x y) (hthen : ∀ a, Simulates R f' (k a) (k' (f a))) :
    Simulates R f' (x >>= k) (y >>= k') := by
  intro s s' hs
  obtain ⟨hanswer, hrest⟩ := hfirst s s' hs
  cases hx : x s with
  | mk answer t =>
    cases hy : y s' with
    | mk answer' t' =>
      rw [hx, hy] at hanswer hrest
      obtain rfl : answer' = answer.map f := hanswer
      cases answer with
      | error e =>
        rw [Step.bind_error hx, Step.bind_error hy]
        exact ⟨rfl, hrest⟩
      | ok a =>
        rw [Step.bind_ok hx, Step.bind_ok hy]
        exact hthen a t t' hrest

end Simulates

end Rowbind.Step
