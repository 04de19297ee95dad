import Mathlib.Data.List.Forall2

/-!
# Sequences that may fail

How an `Except` sequence that succeeded comes apart (`bind_eq_ok`), and how a list taken element by
element ends: with every element's outcome (`mapM_eq_ok_iff`), or as its first failing element does
(`mapM_eq_error_iff`).
-/

namespace Rowbind

variable {ε α β γ : Type}

theorem ok_bind (a : α) (f : α → Except ε β) : (Except.ok a >>= f) = f a := rfl

theorem error_bind (e : ε) (f : α → Except ε β) : (Except.error e >>= f) = .error e := rfl

/-- A sequence succeeds when both its steps do. -/
theorem bind_eq_ok {x : Except ε α} {f : α → Except ε β} {b : β} :
    (x >>= f) = .ok b ↔ ∃ a, x = .ok a ∧ f a = .ok b := by
  cases x with
  | error e => exact ⟨fun h => (nomatch h), fun ⟨_, h, _⟩ => (nomatch h)⟩
  | ok a => exact ⟨fun h => ⟨a, rfl, h⟩, fun ⟨_, h, hb⟩ => Except.ok.inj h ▸ hb⟩

/-- What is made of an outcome succeeds when the outcome does. -/
theorem map_eq_ok {f : α → β} {x : Except ε α} {b : β} :
    x.map f = .ok b ↔ ∃ a, x = .ok a ∧ f a = b := by
  cases x with
  | error e => exact ⟨fun h => (nomatch h), fun ⟨_, h, _⟩ => (nomatch h)⟩
  | ok a => exact ⟨fun h => ⟨a, rfl, Except.ok.inj h⟩, fun ⟨_, h, hb⟩ => by cases h; rw [← hb]; rfl⟩

/-- What is made of an outcome in two ways that come to the same. -/
theorem map_eq_map_map {α' : Type} {p : α → β} {k : β → γ} {k' : α → α'} {q : α' → γ}
    {x : Except ε α} {y : Except ε β} (hy : y = x.map p) (h : ∀ a, k (p a) = q (k' a)) :
    y.map k = (x.map k').map q := by
  rw [hy]
  cases x with
  | error e => rfl
  | ok a => exact congrArg Except.ok (h a)

/-- A list fails as its first failing element does. -/
theorem mapM_eq_error {f : α → Except ε β} {before after : List α} {x : α} {e : ε}
    (hbefore : ∀ a ∈ before, ∃ b, f a = .ok b) (hx : f x = .error e) :
    (before ++ x :: after).mapM f = .error e := by
  induction before with
  | nil => rw [List.nil_append, List.mapM_cons, hx, error_bind]
  | cons a before ih =>
    obtain ⟨b, hb⟩ := hbefore a List.mem_cons_self
    rw [List.cons_append, List.mapM_cons, hb, ok_bind,
      ih fun a ha => hbefore a (List.mem_cons_of_mem _ ha), error_bind]

/-- A list succeeds with the outcomes of its elements, in order. -/
theorem mapM_eq_ok_iff {f : α → Except ε β} {xs : List α} {ys : List β} :
    xs.mapM f = .ok ys ↔ List.Forall₂ (fun x y => f x = .ok y) xs ys := by
  constructor
  · intro h
    induction xs generalizing ys with
    | nil =>
      cases h
      exact .nil
    | cons x xs ih =>
      rw [List.mapM_cons] at h
      obtain ⟨y, hy, h⟩ := bind_eq_ok.mp h
      obtain ⟨rest, hrest, h⟩ := bind_eq_ok.mp h
      cases h
      exact .cons hy (ih hrest)
  · intro h
    induction h with
    | nil => rfl
    | cons hy _ ih =>
      rw [List.mapM_cons, hy, ok_bind, ih, ok_bind]
      rfl

/-- A list succeeds when all its elements do. -/
theorem exists_mapM_eq_ok_iff {f : α → Except ε β} {xs : List α} :
    (∃ ys, xs.mapM f = .ok ys) ↔ ∀ x ∈ xs, ∃ y, f x = .ok y := by
  induction xs with
  | nil => exact ⟨fun _ _ h => absurd h List.not_mem_nil, fun _ => ⟨[], rfl⟩⟩
  | cons x xs ih =>
    rw [List.forall_mem_cons, ← ih, List.mapM_cons]
    constructor
    · rintro ⟨ys, h⟩
      obtain ⟨y, hy, h⟩ := bind_eq_ok.mp h
      obtain ⟨rest, hrest, -⟩ := bind_eq_ok.mp h
      exact ⟨⟨y, hy⟩, rest, hrest⟩
    · rintro ⟨⟨y, hy⟩, rest, hrest⟩
      exact ⟨y :: rest, by rw [hy, ok_bind, hrest, ok_bind]; rfl⟩

/-- A list that fails has a first failing element, and fails as it does. -/
theorem mapM_eq_error_iff {f : α → Except ε β} {xs : List α} {e : ε} :
    xs.mapM f = .error e ↔ ∃ before x after, xs = before ++ x :: after ∧
      (∀ a ∈ before, ∃ b, f a = .ok b) ∧ f x = .error e := by
  constructor
  · intro h
    induction xs with
    | nil => cases h
    | cons x xs ih =>
      rw [List.mapM_cons] at h
      cases hx : f x with
      | error e' =>
        rw [hx, error_bind] at h
        cases h
        exact ⟨[], x, xs, rfl, fun _ hmem => absurd hmem List.not_mem_nil, hx⟩
      | ok b =>
        rw [hx, ok_bind] at h
        cases hrest : xs.mapM f with
        | ok bs =>
          rw [hrest] at h
          cases h
        | error e' =>
          rw [hrest, error_bind] at h
          cases h
          obtain ⟨before, y, after, rfl, hbefore, hy⟩ := ih hrest
          refine ⟨x :: before, y, after, rfl, fun a ha => ?_, hy⟩
          rcases List.mem_cons.mp ha with rfl | ha
          · exact ⟨b, hx⟩
          · exact hbefore a ha
  · rintro ⟨before, x, after, rfl, hbefore, hx⟩
    exact mapM_eq_error hbefore hx

end Rowbind
