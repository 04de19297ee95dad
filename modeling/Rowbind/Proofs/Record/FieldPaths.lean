import Rowbind.Proofs.Record.Hidden

/-!
# Where the paths of a field map lead

Every path of a field map is between one and `maxDepth` fields long, leads through visible records,
and ends at a visible scalar (`FieldMap.scalarAt_of_path?`). It is the path of a derivation, and each
turn of that goes on in the record that the one before leads into.

Two keys can have one path. Their derivations then go through the same fields, and differ in the
records whose keys they take or leave out. Where they first do so, both stand before one record, and
only an embedded record's key is left out (`FieldMap.omitsKey_of_path?`).
-/

namespace Rowbind

section

variable (schema : TypeId → Schema) (tag : String)

/-- **The paths to a type's visible scalars**, through visible records. -/
inductive ScalarAt : TypeId → Path → Prop
  | field {t : TypeId} {i : Nat} {f : Field} (hf : (schema t).fields[i]? = some f)
      (hvisible : ¬ f.IsHidden tag) (hkind : f.kind = .scalar) : ScalarAt t [i]
  | within {t u : TypeId} {i : Nat} {f : Field} {embedded : Bool} {path : Path}
      (hf : (schema t).fields[i]? = some f) (hvisible : ¬ f.IsHidden tag)
      (hkind : f.kind = .record embedded u) (h : ScalarAt u path) : ScalarAt t (i :: path)

end

namespace FieldMap

variable {w : Walk} {root t u : TypeId} {turns : List Turn} {qualifier key key' : String}
  {path : Path}

/-! ## To visible scalars -/

/-- Behind turns, a scalar of the record that they lead into is a scalar of the root. -/
theorem Walk.Enters.scalarAt (h : w.Enters root turns t qualifier)
    (hpath : ScalarAt w.schema w.tag t path) :
    ScalarAt w.schema w.tag root (pathOf turns ++ path) := by
  induction h generalizing path with
  | root => exact hpath
  | named _ hshows hkind ih =>
    rw [pathOf_append, List.append_assoc]
    exact ih (.within hshows.1 hshows.visible hkind hpath)
  | unnamed _ hshows hkind ih =>
    rw [pathOf_append, List.append_assoc]
    exact ih (.within hshows.1 hshows.visible hkind hpath)

theorem Walk.Derives.scalarAt (h : w.Derives root turns key) :
    ScalarAt w.schema w.tag root (pathOf turns) := by
  cases h with
  | scalar henters hshows hkind =>
    rw [pathOf_append]
    exact henters.scalarAt (.field hshows.1 hshows.visible hkind)

/-- **The paths of a field map lead to visible scalars**, through visible records, and none is longer
than the walk is deep. -/
theorem scalarAt_of_path? {c : Catalog} {rule : KeyRule}
    (h : (FieldMap.of c root rule).path? key = some path) :
    1 ≤ path.length ∧ path.length ≤ maxDepth ∧ ScalarAt c.schema rule.tag root path := by
  obtain ⟨turns, ⟨hderives, hdeep⟩, rfl, -⟩ := path?_eq_some_iff.mp h
  refine ⟨?_, by simpa [pathOf] using hdeep, hderives.scalarAt⟩
  cases hderives with
  | scalar => simp [pathOf]

/-! ## Keys of one field -/

/-- The last of the turns that lead into a record. Only an embedded one is entered without its
key. -/
theorem Walk.Enters.last {turn : Turn} (h : w.Enters root (turns ++ [turn]) u qualifier) :
    ∃ t before own f embedded, w.Enters root turns t before ∧ w.Shows t turn.index f own ∧
      f.kind = .record embedded u ∧ (turn.named = false → embedded = true) ∧
      qualifier = if turn.named then w.qualify before own else before := by
  generalize hturns : turns ++ [turn] = all at h
  cases h with
  | root => simp at hturns
  | named henters hshows hkind =>
    obtain ⟨rfl, hturn⟩ := List.append_inj' hturns rfl
    cases hturn
    exact ⟨_, _, _, _, _, henters, hshows, hkind, nofun, rfl⟩
  | unnamed henters hshows hkind =>
    obtain ⟨rfl, hturn⟩ := List.append_inj' hturns rfl
    cases hturn
    exact ⟨_, _, _, _, _, henters, hshows, hkind, fun _ => rfl, rfl⟩

/-- No turns lead into the root. -/
theorem Walk.Enters.nil (h : w.Enters root [] t qualifier) : t = root ∧ qualifier = "" := by
  generalize hnone : ([] : List Turn) = turns at h
  cases h with
  | root => exact ⟨rfl, rfl⟩
  | named => simp at hnone
  | unnamed => simp at hnone

/-- Turns lead into one record, and join its keys in one way. -/
theorem Walk.Enters.unique (h : w.Enters root turns t qualifier) {qualifier' : String}
    (h' : w.Enters root turns u qualifier') : t = u ∧ qualifier = qualifier' := by
  induction turns using List.reverseRecOn generalizing t u qualifier qualifier' with
  | nil =>
    obtain ⟨rfl, rfl⟩ := h.nil
    obtain ⟨rfl, rfl⟩ := h'.nil
    exact ⟨rfl, rfl⟩
  | append_singleton turns turn ih =>
    obtain ⟨v, before, own, f, embedded, henters, hshows, hkind, -, rfl⟩ := h.last
    obtain ⟨v', before', own', f', embedded', henters', hshows', hkind', -, rfl⟩ := h'.last
    obtain ⟨rfl, rfl⟩ := ih henters henters'
    obtain rfl := Option.some.inj (hshows.1.symm.trans hshows'.1)
    obtain rfl := Option.some.inj (hshows.2.symm.trans hshows'.2)
    cases hkind.symm.trans hkind'
    exact ⟨rfl, rfl⟩

/-- Turns derive one key. -/
theorem Walk.Derives.unique (h : w.Derives root turns key) (h' : w.Derives root turns key') :
    key = key' := by
  generalize hturns : turns = turns' at h'
  cases h with
  | scalar henters hshows hkind =>
    cases h' with
    | scalar henters' hshows' hkind' =>
      obtain ⟨rfl, hturn⟩ := List.append_inj' hturns rfl
      cases hturn
      obtain ⟨rfl, rfl⟩ := henters.unique henters'
      obtain rfl := Option.some.inj (hshows.1.symm.trans hshows'.1)
      rw [Option.some.inj (hshows.2.symm.trans hshows'.2)]

/-- **Whether turns pass an embedded record without its key, which others take.** Both come to the
record by the same turns, and go through the same fields behind it. -/
inductive Walk.LeavesOut (w : Walk) (root : TypeId) : List Turn → List Turn → Prop
  | pass {before after after' : List Turn} {t u : TypeId} {qualifier own : String} {i : Nat}
      {f : Field} (henters : w.Enters root before t qualifier) (hshows : w.Shows t i f own)
      (hkind : f.kind = .record true u) (hpath : pathOf after = pathOf after') :
      w.LeavesOut root (before ++ ⟨i, false⟩ :: after) (before ++ ⟨i, true⟩ :: after')

/-- **Whether a key omits the key of an embedded record that another takes**, both being derived
along one path. -/
def Walk.OmitsKey (w : Walk) (root : TypeId) (path : Path) (key key' : String) : Prop :=
  ∃ turns turns', w.Derives root turns key ∧ w.Derives root turns' key' ∧
    pathOf turns = path ∧ pathOf turns' = path ∧ w.LeavesOut root turns turns'

/-- A record that is passed without its key is an embedded one. -/
theorem Walk.Enters.embedded {before after : List Turn} {i : Nat}
    (h : w.Enters root (before ++ ⟨i, false⟩ :: after) u qualifier) :
    ∃ t own f v before', w.Enters root before t before' ∧ w.Shows t i f own ∧
      f.kind = .record true v := by
  induction after using List.reverseRecOn generalizing u qualifier with
  | nil =>
    obtain ⟨t, before', own, f, embedded, henters, hshows, hkind, hembedded, -⟩ := h.last
    rw [hembedded rfl] at hkind
    exact ⟨t, own, f, u, before', henters, hshows, hkind⟩
  | append_singleton after turn ih =>
    rw [← List.cons_append, ← List.append_assoc] at h
    obtain ⟨t, before', own, f, embedded, henters, -⟩ := h.last
    exact ih henters

theorem Walk.Derives.embedded {before after : List Turn} {i : Nat}
    (h : w.Derives root (before ++ ⟨i, false⟩ :: after) key) :
    ∃ t own f v before', w.Enters root before t before' ∧ w.Shows t i f own ∧
      f.kind = .record true v := by
  generalize hturns : before ++ ⟨i, false⟩ :: after = turns at h
  cases h with
  | scalar henters =>
    -- the last turn is to the scalar, and takes its key
    rcases List.eq_nil_or_concat after with rfl | ⟨after, turn, rfl⟩
    · obtain ⟨-, hturn⟩ := List.append_inj' hturns rfl
      cases hturn
    · rw [List.concat_eq_append, ← List.cons_append, ← List.append_assoc] at hturns
      obtain ⟨rfl, -⟩ := List.append_inj' hturns rfl
      exact henters.embedded

/-- Turns through the same fields are the same, or differ first in one key that is left out. -/
theorem turns_cases {turns turns' : List Turn} (h : pathOf turns = pathOf turns') :
    turns = turns' ∨ ∃ before i named after after',
      turns = before ++ ⟨i, named⟩ :: after ∧ turns' = before ++ ⟨i, !named⟩ :: after' ∧
        pathOf after = pathOf after' := by
  induction turns generalizing turns' with
  | nil => exact .inl (List.map_eq_nil_iff.mp h.symm).symm
  | cons turn turns ih =>
    cases turns' with
    | nil => cases h
    | cons turn' turns' =>
      obtain ⟨hindex, hrest⟩ := List.cons.inj h
      obtain ⟨i, named⟩ := turn
      obtain ⟨i', named'⟩ := turn'
      obtain rfl : i = i' := hindex
      by_cases hnamed : named' = named
      · subst hnamed
        rcases ih hrest with rfl | ⟨before, j, own, after, after', rfl, rfl, hafter⟩
        · exact .inl rfl
        · exact .inr ⟨_ :: before, j, own, after, after', rfl, rfl, hafter⟩
      · rw [Bool.eq_not.mpr hnamed]
        exact .inr ⟨[], i, named, turns, turns', rfl, rfl, hrest⟩

/-- **Two keys of one field** are told apart by an embedded record on the way, whose key the one
omits and the other takes. -/
theorem omitsKey_of_path? (h : (build w root).path? key = some path)
    (h' : (build w root).path? key' = some path) (hne : key ≠ key') :
    w.OmitsKey root path key key' ∨ w.OmitsKey root path key' key := by
  obtain ⟨turns, ⟨hderives, -⟩, rfl, -⟩ := path?_eq_some_iff.mp h
  obtain ⟨turns', ⟨hderives', -⟩, hpath, -⟩ := path?_eq_some_iff.mp h'
  rcases turns_cases hpath with rfl | ⟨before, i, named, after, after', rfl, rfl, hafter⟩
  · exact absurd (hderives.unique hderives') hne
  · cases named with
    | false =>
      obtain ⟨t, own, f, u, qualifier, henters, hshows, hkind⟩ := hderives.embedded
      exact .inl ⟨_, _, hderives, hderives', rfl, hpath.symm, .pass henters hshows hkind hafter⟩
    | true =>
      obtain ⟨t, own, f, u, qualifier, henters, hshows, hkind⟩ := hderives'.embedded
      exact .inr ⟨_, _, hderives', hderives, hpath.symm, rfl,
        .pass henters hshows hkind hafter.symm⟩

end FieldMap

end Rowbind
