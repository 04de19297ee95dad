import Rowbind.Proofs.Record.Stores

/-!
# Storing along a path is local

Storing a value along a path is two things in a row. The path is **opened**: as far as it leads,
every optional record on it that is not set is set to a new one (`opened`). Then the scalar that it
reaches, if it reaches one, is given the value (`reached?`, `scanAt_fst`). A scalar that refuses the
value leaves no more than the opened path (`scanAt_snd_eq_opened`).

So what is read along another path is what was read there before, with two exceptions. A record on
the way holds the stored value afterwards. And where nothing was set, there may be a record now: it
is read there, and has the content of a new one, but for the records on the way and for the value at
the end of it (`StoresAt.reads`).

One might expect less of the second exception: that what read as absent before reads as absent
still, or as the content of a new record. A record on the way has more than that, since the value is
stored in it (`new_record_holds_value`).
-/

namespace Rowbind

variable {c : Catalog} {cells cells' inner inner' : List Cell} {i : Nat} {path q : Path}
  {t : TypeId} {u v : Value} {slot : Slot}

/-! ## Opening a path -/

/-- **The cells with a path opened**: every optional record on it that is not set is set to a new
one, up to where the path is lost. -/
def opened (c : Catalog) (cells : List Cell) : Path → List Cell
  | [] => cells
  | i :: path =>
    match cells[i]? with
    | some (.record inner) => cells.set i (.record (opened c inner path))
    | some (.absent t) => cells.set i (.record (opened c (c.recordType t).fresh path))
    | _ => cells

/-- **The scalar that a path reaches** once it is opened. -/
def reached? (c : Catalog) (cells : List Cell) (path : Path) : Option Slot :=
  match cellAt (opened c cells path) path with
  | some (.scalar slot) => some slot
  | _ => none

/-- **The records that opening a path creates**: the place of each, and its type. -/
inductive Creates (c : Catalog) : List Cell → Path → Path → TypeId → Prop
  | here {cells : List Cell} {i : Nat} {path : Path} {t : TypeId}
      (hcell : cells[i]? = some (.absent t)) : Creates c cells (i :: path) [i] t
  | within {cells inner : List Cell} {i : Nat} {path place : Path} {t : TypeId}
      (henters : Enters c cells i inner) (h : Creates c inner path place t) :
    Creates c cells (i :: path) (i :: place) t

theorem opened_of_enters (h : Enters c cells i inner) :
    opened c cells (i :: path) = cells.set i (.record (opened c inner path)) := by
  cases h with
  | set hcell => rw [opened, hcell]
  | unset hcell => rw [opened, hcell]

theorem reached?_of_enters (h : Enters c cells i inner) :
    reached? c cells (i :: path) = reached? c inner path := by
  have hstands := List.getElem?_set_self (a := Cell.record (opened c inner path)) h.lt_length
  rw [reached?, opened_of_enters h, reached?]
  cases path with
  | nil => simp only [cellAt, hstands]
  | cons j path => rw [cellAt_record hstands (List.cons_ne_nil j path)]

theorem opened_scalar (hcell : cells[i]? = some (.scalar slot)) :
    opened c cells (i :: path) = cells := by
  rw [opened, hcell]

theorem reached?_scalar (hcell : cells[i]? = some (.scalar slot)) :
    reached? c cells [i] = some slot := by
  rw [reached?, opened_scalar hcell, cellAt, hcell]

/-- **What becomes of a path at its first step**: it leads into a record, it ends at a scalar, or it
is lost, so that there is nothing to store into or to read. -/
inductive FirstStep (c : Catalog) (cells : List Cell) (i : Nat) (path : Path) : Prop
  | enters {inner : List Cell} (h : Enters c cells i inner)
  | ends {slot : Slot} (hcell : cells[i]? = some (.scalar slot)) (hend : path = [])
  | lost (hscan : ∀ v, scanAt c v cells (i :: path) = (none, cells))
      (hopened : opened c cells (i :: path) = cells)
      (hreached : reached? c cells (i :: path) = none) (hread : fieldAt cells (i :: path) = none)

theorem firstStep (c : Catalog) (cells : List Cell) (i : Nat) (path : Path) :
    FirstStep c cells i path := by
  cases hcell : cells[i]? with
  | none =>
    have hopened : opened c cells (i :: path) = cells := by rw [opened, hcell]
    refine .lost (fun v => by rw [scanAt, hcell]) hopened ?_ (by simp [fieldAt, hcell])
    cases path <;> simp [reached?, hopened, cellAt, hcell]
  | some cell =>
    cases cell with
    | record inner => exact .enters (.set hcell)
    | absent t => exact .enters (.unset hcell)
    | hidden content =>
      have hopened : opened c cells (i :: path) = cells := by rw [opened, hcell]
      refine .lost (fun v => by rw [scanAt, hcell]) hopened ?_
        (by simp [fieldAt, hcell, Cell.view?])
      cases path <;> simp [reached?, hopened, cellAt, hcell]
    | scalar slot =>
      cases path with
      | nil => exact .ends hcell rfl
      | cons j path =>
        refine .lost (fun v => by simp [scanAt, hcell]) (opened_scalar hcell) ?_
          (by simp [fieldAt, hcell, Cell.view?])
        simp [reached?, opened_scalar hcell, cellAt, hcell]

/-- **A value is read where it was, whatever path is opened.** The induction is on that path. -/
theorem fieldAt_opened (h : fieldAt cells q = some (.value u)) :
    fieldAt (opened c cells path) q = some (.value u) := by
  induction path generalizing cells q with
  | nil => exact h
  | cons i path ih =>
    cases firstStep c cells i path with
    | ends hcell _ => rwa [opened_scalar hcell]
    | lost _ hopened _ _ => rwa [hopened]
    | enters henters =>
      rw [opened_of_enters henters]
      rcases q with _ | ⟨j, q⟩
      · cases h
      by_cases hj : j = i
      · subst hj
        rcases exists_of_fieldAt_eq_value h with ⟨-, slot, hcell, -⟩ | ⟨inner, hcell, hq, hinner⟩
        · exact absurd hcell henters.not_scalar
        · rw [fieldAt_record (List.getElem?_set_self henters.lt_length) hq,
            henters.eq_of_record hcell]
          exact ih hinner
      · rwa [fieldAt_set_ne hj]

/-! ## Storing at its end -/

/-- **A value is stored into the scalar that its path reaches**, and the answer is that scalar's. -/
theorem scanAt_fst : (scanAt c v cells path).1 =
    (reached? c cells path).map fun slot => (slot.scan v).1 := by
  induction path generalizing cells with
  | nil => rfl
  | cons i path ih =>
    cases firstStep c cells i path with
    | enters h => rw [scanAt_of_enters h, reached?_of_enters h, ih]
    | ends hcell hend =>
      subst hend
      rw [scanAt_scalar hcell, reached?_scalar hcell, Option.map_some]
    | lost hscan _ hreached _ => rw [hscan, hreached, Option.map_none]

/-- **A value that is not stored leaves the opened path** and no more. -/
theorem scanAt_snd_eq_opened (h : (scanAt c v cells path).1 ≠ some (.ok ())) :
    (scanAt c v cells path).2 = opened c cells path := by
  induction path generalizing cells with
  | nil => rfl
  | cons i path ih =>
    cases firstStep c cells i path with
    | enters henters =>
      rw [scanAt_of_enters henters] at h ⊢
      rw [opened_of_enters henters, ih h]
    | @ends slot hcell hend =>
      subst hend
      have hsame : (slot.scan v).2 = slot := by
        rw [scanAt_scalar hcell, Slot.scan] at h
        rw [Slot.scan]
        cases hscan : slot.type.scan v with
        | error e => rfl
        | ok content => simp [hscan] at h
      obtain ⟨hlt, hget⟩ := List.getElem?_eq_some_iff.mp hcell
      rw [scanAt_scalar hcell, hsame, opened_scalar hcell, ← hget, List.set_getElem_self]
    | lost hscan hopened _ _ => rw [hscan, hopened]

/-- Where a value is read, a path reaches the scalar of it. -/
theorem exists_reached?_of_value (h : fieldAt cells path = some (.value u)) :
    ∃ slot, reached? c cells path = some slot ∧ slot.toValue = u := by
  induction path generalizing cells with
  | nil => cases h
  | cons i path ih =>
    rcases exists_of_fieldAt_eq_value h with ⟨rfl, slot, hcell, hvalue⟩ | ⟨inner, hcell, -, hinner⟩
    · exact ⟨slot, reached?_scalar hcell, hvalue⟩
    · rw [reached?_of_enters (.set hcell)]
      exact ih hinner

/-- **What is read before the path of a scalar is opened**: its value, or nothing yet. -/
theorem read_of_reached? (h : reached? c cells path = some slot) :
    fieldAt cells path = some .absent ∨ fieldAt cells path = some (.value slot.toValue) := by
  induction path generalizing cells with
  | nil => cases h
  | cons i path ih =>
    cases firstStep c cells i path with
    | enters henters =>
      rw [reached?_of_enters henters] at h
      have hpath : path ≠ [] := by
        rintro rfl
        cases h
      cases henters with
      | set hcell =>
        rw [fieldAt_record hcell hpath]
        exact ih h
      | unset hcell => exact .inl (fieldAt_absent hcell)
    | ends hcell hend =>
      subst hend
      rw [reached?_scalar hcell, Option.some_inj] at h
      subst h
      exact .inr (fieldAt_singleton hcell)
    | lost _ _ hreached _ => cases hreached.symm.trans h

/-- A stored value is read at the end of its path. -/
theorem fieldAt_of_stored {content : slot.type.Content}
    (hreached : reached? c cells path = some slot) (hscan : slot.type.scan v = .ok content) :
    fieldAt (scanAt c v cells path).2 path = some (.value (slot.type.toValue content)) := by
  induction path generalizing cells with
  | nil => cases hreached
  | cons i path ih =>
    cases firstStep c cells i path with
    | enters henters =>
      rw [reached?_of_enters henters] at hreached
      have hpath : path ≠ [] := by
        rintro rfl
        cases hreached
      rw [scanAt_of_enters henters,
        fieldAt_record (List.getElem?_set_self henters.lt_length) hpath]
      exact ih hreached
    | ends hcell hend =>
      subst hend
      rw [reached?_scalar hcell, Option.some_inj] at hreached
      subst hreached
      rw [scanAt_scalar hcell, fieldAt_singleton (getElem?_set_of_eq_some hcell), Slot.scan, hscan]
      rfl
    | lost _ _ hreached' _ => cases hreached'.symm.trans hreached

/-! ## Reading elsewhere -/

/-- **The records of a new record**: itself, and those that are set in it. -/
inductive NewRecord (c : Catalog) (t : TypeId) : Path → List Cell → Prop
  | itself : NewRecord c t [] (c.recordType t).fresh
  | nested {rest : Path} {inner : List Cell}
      (hread : fieldAt (c.recordType t).fresh rest = some (.record inner)) :
    NewRecord c t rest inner

/-- **What is read where a record was created** on the way along a path: what a new record has at
the place, or, on the way itself, a record of a new one with the value stored further on. -/
inductive ReadsNew (c : Catalog) (v : Value) (cells : List Cell) (path : Path)
    (cells' : List Cell) : Path → Prop
  | content {place rest : Path} {t : TypeId} (hcreates : Creates c cells path place t)
      (hrest : rest ≠ [])
      (hread : fieldAt cells' (place ++ rest) = fieldAt (c.recordType t).fresh rest) :
    ReadsNew c v cells path cells' (place ++ rest)
  | leading {place rest further : Path} {t : TypeId} {inner inner' : List Cell}
      (hcreates : Creates c cells path place t) (hnew : NewRecord c t rest inner)
      (hpath : path = place ++ rest ++ further) (hstores : StoresAt c v inner further inner')
      (hread : fieldAt cells' (place ++ rest) = some (.record inner')) :
    ReadsNew c v cells path cells' (place ++ rest)

/-- What is read in a record that a step leads into is read behind that step. -/
theorem ReadsNew.within (henters : Enters c cells i inner) (hq : q ≠ [])
    (h : ReadsNew c v inner path inner' q) :
    ReadsNew c v cells (i :: path) (cells.set i (.record inner')) (i :: q) := by
  have hread : fieldAt (cells.set i (.record inner')) (i :: q) = fieldAt inner' q :=
    fieldAt_record (List.getElem?_set_self henters.lt_length) hq
  cases h with
  | content hcreates hrest hread' =>
    exact .content (hcreates.within henters) hrest (hread.trans hread')
  | leading hcreates hnew hpath hstores hread' =>
    exact .leading (hcreates.within henters) hnew (congrArg (i :: ·) hpath) hstores
      (hread.trans hread')

/-- **What is read along another path after a value was stored**: what was read before; or, on the
way, the record with the value stored further on; or, where nothing was set, what a new record
has. The induction is on the way along which the value was stored. -/
theorem StoresAt.reads (h : StoresAt c v cells path cells') (hne : q ≠ path) :
    fieldAt cells' q = fieldAt cells q ∨
      (∃ further inner inner', path = q ++ further ∧ fieldAt cells q = some (.record inner) ∧
        StoresAt c v inner further inner' ∧ fieldAt cells' q = some (.record inner')) ∨
      fieldAt cells q = some .absent ∧ ReadsNew c v cells path cells' q := by
  induction h generalizing q with
  | @scalar cells i slot content hcell hscan =>
    left
    rcases q with _ | ⟨j, q⟩
    · rfl
    by_cases hj : j = i
    · subst hj
      have hq : q ≠ [] := by
        rintro rfl
        exact hne rfl
      have hset : (cells.set j (.scalar ⟨slot.type, content⟩))[j]? = _ :=
        getElem?_set_of_eq_some hcell
      simp [fieldAt, hcell, hset, Cell.view?, hq]
    · exact fieldAt_set_ne hj
  | @within cells inner inner' i path henters h ih =>
    rcases q with _ | ⟨j, q⟩
    · exact .inl rfl
    by_cases hj : j = i
    swap
    · exact .inl (fieldAt_set_ne hj)
    subst hj
    have hstands := List.getElem?_set_self (a := Cell.record inner') henters.lt_length
    by_cases hq : q = []
    · -- the record that the step leads into
      subst hq
      have hread : fieldAt (cells.set j (.record inner')) [j] = some (.record inner') :=
        fieldAt_singleton hstands
      cases henters with
      | set hcell => exact .inr (.inl ⟨path, inner, inner', rfl, fieldAt_singleton hcell, h, hread⟩)
      | unset hcell =>
        refine .inr (.inr ⟨fieldAt_absent hcell, ?_⟩)
        show ReadsNew c v cells (j :: path) (cells.set j (.record inner')) ([j] ++ [])
        exact .leading (.here hcell) .itself rfl h hread
    · have hread : fieldAt (cells.set j (.record inner')) (j :: q) = fieldAt inner' q :=
        fieldAt_record hstands hq
      have hcases := ih fun heq => hne (congrArg (j :: ·) heq)
      cases henters with
      | set hcell =>
        rw [hread, fieldAt_record hcell hq]
        rcases hcases with hkept | ⟨further, inner₁, inner₂, hpath, hrest⟩ | ⟨habsent, hnew⟩
        · exact .inl hkept
        · exact .inr (.inl ⟨further, inner₁, inner₂, congrArg (j :: ·) hpath, hrest⟩)
        · exact .inr (.inr ⟨habsent, hnew.within (.set hcell) hq⟩)
      | @unset t hcell =>
        refine .inr (.inr ⟨fieldAt_absent hcell, ?_⟩)
        show ReadsNew c v cells (j :: path) (cells.set j (.record inner')) ([j] ++ q)
        rcases hcases with hkept | ⟨further, inner₁, inner₂, hpath, hbefore, hstores, hafter⟩ |
          ⟨-, hnew⟩
        · exact .content (.here hcell) hq (hread.trans hkept)
        · exact .leading (.here hcell) (.nested hbefore) (congrArg (j :: ·) hpath) hstores
            (hread.trans hafter)
        · exact hnew.within (.unset hcell) hq

/-! ## All paths -/

/-- **Storing along a path is local.** The value is given to the scalar that the opened path
reaches, if there is one, and the answer is that scalar's.

* If the scalar takes it, it is read at the end of the path afterwards. Along every other path a
  value is read as before; and what read as absent reads as absent, or as what there is in a record
  that was created on the way.
* If the scalar refuses it, or there is none, the path is opened and that is all; along every path a
  value is read as before.
* A path along which a value is read reaches a scalar, and one that reaches a scalar reads a value or
  absent. -/
theorem scanAt_local (c : Catalog) (v : Value) (cells : List Cell) (path : Path) :
    let after := (scanAt c v cells path).2
    (scanAt c v cells path).1 = (reached? c cells path).map (fun slot => (slot.scan v).1) ∧
      (∀ slot content, reached? c cells path = some slot → slot.type.scan v = .ok content →
        fieldAt after path = some (.value (slot.type.toValue content)) ∧
          ∀ q, q ≠ path →
            (∀ u, fieldAt cells q = some (.value u) → fieldAt after q = some (.value u)) ∧
              (fieldAt cells q = some .absent →
                fieldAt after q = some .absent ∨ ReadsNew c v cells path after q)) ∧
      ((reached? c cells path = none ∨
          ∃ slot e, reached? c cells path = some slot ∧ slot.type.scan v = .error e) →
        after = opened c cells path ∧
          ∀ q u, fieldAt cells q = some (.value u) → fieldAt after q = some (.value u)) ∧
      (∀ u, fieldAt cells path = some (.value u) → reached? c cells path ≠ none) ∧
      (∀ slot, reached? c cells path = some slot →
        fieldAt cells path = some .absent ∨ ∃ u, fieldAt cells path = some (.value u)) := by
  intro after
  refine ⟨scanAt_fst, ?_, ?_, ?_, ?_⟩
  · intro slot content hreached hscan
    have hanswer : (scanAt c v cells path).1 = some (.ok ()) := by
      rw [scanAt_fst, hreached, Option.map_some, Slot.scan, hscan]
    have hstores : StoresAt c v cells path after := scanAt_eq_ok_iff.mp (Prod.ext hanswer rfl)
    refine ⟨fieldAt_of_stored hreached hscan, fun q hne => ⟨fun u hread => ?_, fun habsent => ?_⟩⟩
    · exact fieldAt_scanAt_of_ne hread hne
    · rcases hstores.reads hne with hkept | ⟨_, _, _, -, hrecord, -⟩ | ⟨-, hnew⟩
      · exact .inl (hkept.trans habsent)
      · cases habsent.symm.trans hrecord
      · exact .inr hnew
  · intro hrefused
    have hanswer : (scanAt c v cells path).1 ≠ some (.ok ()) := by
      rw [scanAt_fst]
      rcases hrefused with hnone | ⟨slot, e, hreached, hscan⟩
      · simp [hnone]
      · simp [hreached, Slot.scan, hscan]
    have hopened : after = opened c cells path := scanAt_snd_eq_opened hanswer
    refine ⟨hopened, fun q u hread => ?_⟩
    rw [hopened]
    exact fieldAt_opened hread
  · intro u hread hnone
    obtain ⟨slot, hreached, -⟩ := exists_reached?_of_value (c := c) hread
    cases hnone.symm.trans hreached
  · intro slot hreached
    exact (read_of_reached? hreached).imp id fun hread => ⟨_, hread⟩

/-- A person, and a home that need not be set, with a spot that need not either. -/
def personTypes : Array Declaration :=
  #[⟨"Person", [⟨"id", [], .scalar (.int ⟨true, .w64⟩)⟩,
      ⟨"home", [], .record ⟨1⟩ false true false⟩]⟩,
    ⟨"Home", [⟨"city", [], .scalar .text⟩, ⟨"spot", [], .record ⟨2⟩ false true false⟩]⟩,
    ⟨"Spot", [⟨"lat", [], .scalar .binary64⟩]⟩]

/-- What a program declares that has persons. -/
def personCatalog : Catalog := Catalog.ofDeclarations personTypes fun _ name => name

/-- **A record that is created on the way has more than the content of a new one**: it has the
stored value. A person without a home gets one when its city is stored, and that home's city is not a new
one's. Behind the end of the home's fields, where nothing was read but that it was not set, there is
nothing at all. -/
theorem new_record_holds_value :
    let cells := (Record.new personCatalog ⟨0⟩).cells
    ∃ cells' home, scanAt personCatalog (.text "Oslo") cells [1, 0] = (some (.ok ()), cells') ∧
      fieldAt cells [1] = some .absent ∧ fieldAt cells' [1] = some (.record home) ∧
      (∀ place t, Creates personCatalog cells [1, 0] place t →
        fieldAt home [0] ≠ fieldAt (personCatalog.recordType t).fresh [0]) ∧
      fieldAt cells [1, 2] = some .absent ∧ fieldAt cells' [1, 2] = none := by
  intro cells
  refine ⟨_, _, rfl, rfl, rfl, ?_, rfl, rfl⟩
  intro place t hcreates
  obtain rfl : t = ⟨1⟩ := by
    cases hcreates with
    | here hcell =>
      cases hcell
      rfl
    | within henters h =>
      cases henters with
      | set hcell => cases hcell
      | unset hcell =>
        cases hcell
        cases h with
        | here hcell => cases hcell
        | within henters h => cases h
  intro hsame
  have hcity : FieldView.value (.text "Oslo") = .value (.text "") := Option.some.inj hsame
  simp at hcity

/-- The city of a person's home is stored, and there was no home: the city is read at the end of its
path, the id stays, and the home is a new one but for its city. A whole number is no city: there is
a new home then, and no more. -/
theorem scanAt_local_of_person :
    let c := personCatalog
    let cells := (Record.new c ⟨0⟩).cells
    let after := (scanAt c (.text "Oslo") cells [1, 0]).2
    reached? c cells [1, 0] = some ⟨.text, ""⟩ ∧
      fieldAt after [1, 0] = some (.value (.text "Oslo")) ∧
      fieldAt after [0] = some (.value (.int 0)) ∧
      ReadsNew c (.text "Oslo") cells [1, 0] after [1] ∧
      (scanAt c (.int 5) cells [1, 0]).2 = opened c cells [1, 0] := by
  intro c cells after
  obtain ⟨-, hstored, -, -, -⟩ := scanAt_local c (.text "Oslo") cells [1, 0]
  obtain ⟨-, -, hrefused, -, -⟩ := scanAt_local c (.int 5) cells [1, 0]
  obtain ⟨hread, hother⟩ := hstored ⟨.text, ""⟩ "Oslo" rfl rfl
  refine ⟨rfl, hread, (hother [0] (by decide)).1 (.int 0) rfl, ?_, ?_⟩
  · exact ((hother [1] (by decide)).2 rfl).resolve_left nofun
  · exact (hrefused (.inr ⟨⟨.text, ""⟩, _, rfl, rfl⟩)).1

end Rowbind
