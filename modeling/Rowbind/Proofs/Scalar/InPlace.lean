import Rowbind.Proofs.Record.Conformance

/-!
# Scalars are stored afresh

What a scalar holds is replaced by storing a value, or kept when the value is not taken; it is
never read. That is plain where a value is made first and put in its place then (`Slot.scan`). It
holds as well where a scalar is filled in place, wrapping by wrapping (`ScalarType.fill`): an
optional scalar fills a new one and takes it over when that succeeds, and a box has what it holds
filled. The two come to the same (`Slot.scan_eq_fill`). The induction is on the wrappings.

Null is taken where there is a place for it: by a scalar of any value, and by whatever has an
optional wrapping (`ScalarType.scan_null`).
-/

namespace Rowbind

namespace Step

variable {σ : Type}

/-- Takes the outcome for the state, if it is a success. -/
def replace (r : Except Error σ) : Step σ Unit := fun old =>
  match r with
  | .ok new => (.ok (), new)
  | .error e => (.error e, old)

/-- **A state is replaced or kept**, and which of the two does not depend on it. -/
theorem replace_cases (r : Except Error σ) :
    (∃ e, ∀ old, replace r old = (.error e, old)) ∨
      ∃ new, ∀ old, replace r old = (.ok (), new) := by
  cases r with
  | error e => exact .inl ⟨e, fun _ => rfl⟩
  | ok new => exact .inr ⟨new, fun _ => rfl⟩

end Step

namespace ScalarType

/-- **Fills a scalar in place.** An optional scalar fills a new one of what it holds, and is left
alone when that fails; a box has what it holds filled where it is. -/
def fill : (t : ScalarType) → Value → Step t.Content Unit
  | optional t, v => fun old =>
    if v.isNull then (.ok (), none)
    else
      match t.fill v t.blank with
      | (.ok (), inner) => (.ok (), some inner)
      | (.error e, _) => (.error e, old)
  | boxed t, v => t.fill v
  | t, v => .replace (t.scan v)

/-- An optional scalar is emptied by null, and takes over a new one that is filled. -/
theorem fill_optional (t : ScalarType) (v : Value) (old : Option t.Content) :
    (optional t).fill v old =
      if v.isNull then (.ok (), none)
      else
        match t.fill v t.blank with
        | (.ok (), inner) => (.ok (), some inner)
        | (.error e, _) => (.error e, old) := rfl

/-- **Filling in place replaces what is held by what is scanned.** The induction is on the
wrappings; an optional scalar fills a new one, and so what is assumed of it is used at its first
content alone. -/
theorem fill_eq (t : ScalarType) (v : Value) : t.fill v = .replace (t.scan v) := by
  induction t with
  | optional t ih =>
    funext old
    by_cases hv : v = .null
    · subst hv
      rfl
    · have hfull : v.isNull = false := by
        cases v with
        | null => exact absurd rfl hv
        | _ => rfl
      rw [fill_optional, ih, scan_optional t hv, hfull]
      cases t.scan v <;> rfl
  | boxed t ih => exact ih
  | _ => rfl

/-- The type that is left when all wrappings are taken off. -/
def base : ScalarType → ScalarType
  | optional t => t.base
  | boxed t => t.base
  | t => t

/-- **Whether one of the wrappings is optional.** -/
def HasOptional : ScalarType → Prop
  | optional _ => True
  | boxed t => t.HasOptional
  | _ => False

/-- **Null is taken** by any value, and under any optional wrapping. -/
theorem scan_null (t : ScalarType) :
    (∃ c, t.scan .null = .ok c) ↔ t.base = value ∨ t.HasOptional := by
  induction t with
  | value => exact ⟨fun _ => .inl rfl, fun _ => ⟨.null, rfl⟩⟩
  | optional t => exact ⟨fun _ => .inr trivial, fun _ => ⟨none, rfl⟩⟩
  | boxed t ih => exact ih
  | _ => exact ⟨fun ⟨_, h⟩ => (nomatch h), fun h => h.elim nofun False.elim⟩

end ScalarType

namespace Slot

/-- **Storing a value comes to filling in place.** -/
theorem scan_eq_fill (t : ScalarType) (v : Value) (old : t.Content) :
    scan v ⟨t, old⟩ = ((t.fill v old).1, ⟨t, (t.fill v old).2⟩) := by
  rw [ScalarType.fill_eq, scan]
  cases t.scan v <;> rfl

/-- **Storing a value is all or nothing, and forgets the past**, whatever the wrappings. -/
theorem scan_afresh (t : ScalarType) (v : Value) (old old' : t.Content) :
    -- both contents are left alone for one reason, or make way for one content
    ((∃ e, scan v ⟨t, old⟩ = (.error e, ⟨t, old⟩) ∧ scan v ⟨t, old'⟩ = (.error e, ⟨t, old'⟩)) ∨
      ∃ new : t.Content, scan v ⟨t, old⟩ = (.ok (), ⟨t, new⟩) ∧
        scan v ⟨t, old'⟩ = (.ok (), ⟨t, new⟩)) ∧
    -- filling in place, wrapping by wrapping, comes to the same
    scan v ⟨t, old⟩ = ((t.fill v old).1, ⟨t, (t.fill v old).2⟩) ∧
    -- null is taken exactly where the type has a place for it
    ((scan .null ⟨t, old⟩).1 = .ok () ↔ t.base = .value ∨ t.HasOptional) := by
  refine ⟨?_, scan_eq_fill t v old, ?_⟩
  · rw [scan_eq_fill, scan_eq_fill, ScalarType.fill_eq]
    obtain ⟨e, he⟩ | ⟨new, hnew⟩ := Step.replace_cases (t.scan v)
    · exact .inl ⟨e, by rw [he], by rw [he]⟩
    · exact .inr ⟨new, by rw [hnew], by rw [hnew]⟩
  · rw [← ScalarType.scan_null, scan]
    cases t.scan .null with
    | error e => exact ⟨nofun, nofun⟩
    | ok c => exact ⟨fun _ => ⟨c, rfl⟩, fun _ => rfl⟩

end Slot

end Rowbind
