import Rowbind.Binding.Named
import Rowbind.Proofs.Outcome
import Rowbind.Proofs.Record.Hidden
import Rowbind.Proofs.Scanner.Closing

/-!
# Hidden fields neither leak nor change

What is bound of a record is settled by its visible fields, so two records that agree on them are
bound alike, wherever they stand in the argument. And a scan stores along the paths of a field map,
which are visible, so it leaves every hidden cell that a record had, also where it fails half way
(`hidden_fields`).

The induction on the writing side is on the columns of a row (`keepsHidden_storeRecord`) and, for a
list, on the rows; what a scanner does about them is to pass the record on.
-/

namespace Rowbind

variable {c : Catalog} {tag : String} {t : TypeId}

/-! ## Binding -/

/-- Records that agree are bound alike, alone and in a batch. -/
theorem Record.Agree.bindNamed {o : Options} {r r' : Record} (h : r.Agree c o.tag r')
    (d : Dialect) (template : String) :
    Rowbind.bindNamed c d template (.record r) o = Rowbind.bindNamed c d template (.record r') o ∧
      ∀ before after, Rowbind.bindNamed c d template (.records (before ++ r :: after)) o =
        Rowbind.bindNamed c d template (.records (before ++ r' :: after)) o := by
  have hsource := h.ofRecord
  constructor
  · simp only [Rowbind.bindNamed, Argument.sources?, Argument.isBatch, hsource]
  · intro before after
    simp only [Rowbind.bindNamed, Argument.sources?, Argument.isBatch, List.map_append,
      List.map_cons, hsource]

/-! ## Storing a row -/

/-- The paths that a row is stored along are paths of the field map. -/
theorem path?_of_columnPaths {m : FieldMap} {ignoreMissing : Bool} {target : String}
    {columns : List String} {paths : List (Option Path)}
    (h : columnPaths m ignoreMissing target columns = .ok paths) {path : Path}
    (hpath : some path ∈ paths) : ∃ key, m.path? key = some path := by
  induction columns generalizing paths with
  | nil =>
    cases h
    cases hpath
  | cons column columns ih =>
    unfold columnPaths at h
    split at h
    · obtain ⟨rest, hrest, rfl⟩ := map_eq_ok.mp h
      rcases List.mem_cons.mp hpath with hfound | hmem
      · cases hfound
        rcases Option.or_eq_some_iff.mp ‹m.column? column = some path› with hkey | ⟨-, hkey⟩
        · exact ⟨column, hkey⟩
        · exact ⟨Text.lowercase column, hkey⟩
      · exact ih hrest hmem
    · split at h
      · obtain ⟨rest, hrest, rfl⟩ := map_eq_ok.mp h
        rcases List.mem_cons.mp hpath with hfound | hmem
        · cases hfound
        · exact ih hrest hmem
      · cases h

/-- **Whether a plan stores along visible paths** of a type. -/
def RowPlan.VisibleIn (c : Catalog) (tag : String) (t : TypeId) (plan : RowPlan) : Prop :=
  ∀ paths, plan = .record paths → ∀ path, some path ∈ paths → VisibleAt c.schema tag t path

/-- **The plan for a record stores along visible paths.** -/
theorem visibleIn_of_plan {o : Options} {columns : List String} {plan : RowPlan}
    (h : RowPlan.of c o columns (.record t) = .ok plan) : plan.VisibleIn c o.tag t := by
  rintro paths rfl path hpath
  obtain ⟨paths', hpaths, heq⟩ := map_eq_ok.mp h
  cases heq
  obtain ⟨key, hkey⟩ := path?_of_columnPaths hpaths hpath
  exact FieldMap.visible_of_path? hkey

/-- **Storing a row along visible paths keeps what is hidden**, up to a failure and past it. The
induction is on the columns. -/
theorem keepsHidden_storeRecord (target : String) (cells : List Cell)
    {row : List ((String × Value) × Option Path)}
    (hrow : ∀ path, some path ∈ row.map Prod.snd → VisibleAt c.schema tag t path) :
    KeepsHidden c.schema tag t cells (storeRecord c target cells row).2 := by
  induction row generalizing cells with
  | nil => exact .refl
  | cons stored row ih =>
    obtain ⟨⟨column, v⟩, _ | path⟩ := stored
    · exact ih cells fun path hpath => hrow path (List.mem_cons_of_mem _ hpath)
    · have hstored : KeepsHidden c.schema tag t cells (scanAt c v cells path).2 :=
        keepsHidden_scanAt (hrow path List.mem_cons_self)
      have hrest := ih (scanAt c v cells path).2
        fun path hpath => hrow path (List.mem_cons_of_mem _ hpath)
      rw [storeRecord]
      generalize scanAt c v cells path = scanned at hstored hrest ⊢
      obtain ⟨_ | (e | _), cells'⟩ := scanned
      · exact hstored
      · exact hstored
      · exact hstored.trans hrest

/-- **Whether a destination is a record still, with its hidden cells as they were.** -/
def Record.KeptBy (c : Catalog) (tag : String) (r : Record) (d : Destination) : Prop :=
  ∃ cells, d = .record ⟨r.type, cells⟩ ∧ KeepsHidden c.schema tag r.type r.cells cells

variable {r : Record}

/-- A record that nothing is stored into. -/
theorem Record.KeptBy.refl : r.KeptBy c tag (.record r) := ⟨r.cells, rfl, .refl⟩

/-- Storing one row keeps a record's hidden cells. -/
theorem keptBy_store {plan : RowPlan} (hplan : plan.VisibleIn c tag r.type)
    (columns : List String) (values : List Value) :
    r.KeptBy c tag (store c plan columns values (.record r)).2 := by
  unfold store
  split
  · exact .refl
  cases plan with
  | scalar => exact .refl
  | map => exact .refl
  | record paths =>
    refine ⟨_, rfl, keepsHidden_storeRecord _ _ fun path hpath => hplan paths rfl path ?_⟩
    obtain ⟨e, he, hpath⟩ := List.mem_map.mp hpath
    obtain ⟨e₁, e₂⟩ := e
    cases hpath
    exact (List.of_mem_zip he).2

/-! ## Scanning -/

namespace Scanner

variable {ρ : Type} [RowSource ρ]

/-- Scanning the only row keeps the record's hidden cells. -/
theorem keptBy_fillOne {plan : RowPlan} (hplan : plan.VisibleIn c tag r.type)
    (columns : List String) (rows : ρ) :
    r.KeptBy c tag (fillOne c plan columns rows (.record r)).2.2 := by
  unfold fillOne
  split
  · exact .refl
  · exact .refl
  · split
    · exact .refl
    · rename_i values rows₂ ht
      have hstored := keptBy_store (c := c) hplan columns values
      generalize store c plan columns values (.record r) = stored at hstored ⊢
      obtain ⟨e | _, d⟩ := stored
      · exact hstored
      · simp only
        split <;> exact hstored

/-- Scanning into a list keeps its elements, and in each new one the hidden cells that a new element
has. The induction is on the rows taken. -/
theorem keptBy_fillList {plan : RowPlan} (hplan : plan.VisibleIn c tag r.type)
    (columns : List String) (rows : ρ) (items : List Destination) :
    ∃ new, (fillList c plan columns (.record r) rows items).2.2 = items ++ new ∧
      ∀ item ∈ new, r.KeptBy c tag item := by
  fun_induction fillList c plan columns (.record r) rows items with
  | case5 rows items rows₁ ha values rows₂ ht item hs ih =>
    obtain ⟨new, hnew, hkept⟩ := ih
    have hitem := keptBy_store (c := c) hplan columns values
    rw [hs] at hitem
    exact ⟨item :: new, by rw [hnew, List.append_assoc, List.singleton_append],
      List.forall_mem_cons.mpr ⟨hitem, hkept⟩⟩
  | _ => exact ⟨[], (List.append_nil _).symm, fun _ h => absurd h List.not_mem_nil⟩

/-- Scanning all rows into a record keeps its hidden cells. -/
theorem keptBy_scanRows (s : Scanner ρ) (r : Record) :
    r.KeptBy c s.options.tag (scanRows c (s, .record r)).2.2 := by
  obtain ⟨rows, read, hread⟩ := frame_columnNames s
  unfold scanRows
  simp only
  generalize s.columnNames = answer at hread ⊢
  obtain ⟨e | columns, s₁⟩ := answer
  · exact .refl
  obtain rfl : s₁ = { s with rows := rows, columns := read } := hread
  simp only
  split
  · exact .refl
  split
  · exact .refl
  · rename_i plan hplan
    exact keptBy_fillOne (visibleIn_of_plan hplan) columns rows

/-- Scanning all rows into a list of records keeps its elements, and the hidden cells that a new one
has. -/
theorem keptBy_scanRows_list (s : Scanner ρ) (r : Record) (items : List Destination) :
    ∃ new, (scanRows c (s, .list (.record r.type) (.record r) items)).2.2 =
        .list (.record r.type) (.record r) (items ++ new) ∧
      ∀ item ∈ new, r.KeptBy c s.options.tag item := by
  have hnone : ∃ new, items = items ++ new ∧ ∀ item ∈ new, r.KeptBy c s.options.tag item :=
    ⟨[], (List.append_nil _).symm, nofun⟩
  obtain ⟨rows, read, hread⟩ := frame_columnNames s
  unfold scanRows
  simp only
  generalize s.columnNames = answer at hread ⊢
  obtain ⟨e | columns, s₁⟩ := answer
  · simpa only [Destination.list.injEq, true_and] using hnone
  obtain rfl : s₁ = { s with rows := rows, columns := read } := hread
  simp only
  split
  · simpa only [Destination.list.injEq, true_and] using hnone
  split
  · simpa only [Destination.list.injEq, true_and] using hnone
  · rename_i plan hplan
    obtain ⟨new, hnew, hkept⟩ := keptBy_fillList (visibleIn_of_plan hplan) columns rows items
    exact ⟨new, by rw [hnew], hkept⟩

/-- **What the automatic scan leaves of a destination** is what scanning all rows leaves of it, or
the destination itself where the scan is refused. -/
theorem scan_destination (c : Catalog) (s : Scanner ρ) (d : Destination) :
    (scan c (s, d)).2.2 = (scanRows c ({ s with mode := .automatic }, d)).2.2 ∨
      (scan c (s, d)).2.2 = d := by
  by_cases hfresh : s.mode = .fresh
  · exact .inl (by rw [scan_of_fresh c hfresh d])
  · exact .inr (by rw [scan_of_not_fresh c hfresh d])

/-- Scanning the current row keeps the record's hidden cells. -/
theorem keptBy_scanRow (s : Scanner ρ) (r : Record) :
    r.KeptBy c s.options.tag (scanRow c (s, .record r)).2.2 := by
  have hstores := storesRow c s (.record r)
  generalize scanRow c (s, .record r) = result at hstores ⊢
  cases hstores with
  | stored _ _ _ hplan _ => exact keptBy_store (visibleIn_of_plan hplan) _ _
  | _ => exact .refl

end Scanner

/-- **Hidden fields neither leak nor change.** Records that agree on their visible fields are bound
alike by every template in every dialect, alone or at one place of a batch. And however a scanner
stores rows into a record, or into a list of records, whether it succeeds or fails, every hidden
cell that the record had is there still, as it was. -/
theorem hidden_fields (c : Catalog) :
    (∀ (o : Options) (r r' : Record), r.Agree c o.tag r' → ∀ (d : Dialect) (template : String),
      bindNamed c d template (.record r) o = bindNamed c d template (.record r') o ∧
      ∀ before after, bindNamed c d template (.records (before ++ r :: after)) o =
        bindNamed c d template (.records (before ++ r' :: after)) o) ∧
    ∀ (ρ : Type) [RowSource ρ] (s : Scanner ρ) (r : Record),
      r.KeptBy c s.options.tag (Scanner.scan c (s, .record r)).2.2 ∧
      r.KeptBy c s.options.tag (Scanner.scanRow c (s, .record r)).2.2 ∧
      ∀ items, ∃ new, (Scanner.scan c (s, .list (.record r.type) (.record r) items)).2.2 =
          .list (.record r.type) (.record r) (items ++ new) ∧
        ∀ item ∈ new, r.KeptBy c s.options.tag item := by
  refine ⟨fun o r r' h d template => h.bindNamed d template, fun ρ _ s r => ⟨?_, ?_, ?_⟩⟩
  · rcases Scanner.scan_destination c s (.record r) with hscan | hscan
    · rw [hscan]
      exact Scanner.keptBy_scanRows { s with mode := .automatic } r
    · rw [hscan]
      exact .refl
  · exact Scanner.keptBy_scanRow s r
  · intro items
    rcases Scanner.scan_destination c s (.list (.record r.type) (.record r) items) with
      hscan | hscan
    · rw [hscan]
      exact Scanner.keptBy_scanRows_list { s with mode := .automatic } r items
    · rw [hscan]
      exact ⟨[], by rw [List.append_nil], nofun⟩

/-- A session with a token that is skipped, and a client whose record is hidden. -/
def sessionTypes : Array Declaration :=
  #[⟨"Session", [⟨"id", [], .scalar .text⟩, ⟨"token", [], .skip⟩,
      ⟨"client", [("db", "-")], .record ⟨1⟩ true false false⟩]⟩,
    ⟨"Client", [⟨"address", [], .scalar .text⟩]⟩]

/-- A session, with what it hides. -/
def session (token address : String) : Record where
  type := ⟨0⟩
  cells := [.scalar ⟨.text, "s1"⟩, .hidden (.text token), .record [.scalar ⟨.text, address⟩]]

/-- What a program declares that has sessions. -/
def sessionCatalog : Catalog := Catalog.ofDeclarations sessionTypes fun _ name => name

/-- A session shows its id, and nothing else. -/
theorem eq_id_of_visibleAt_session {path : Path}
    (h : VisibleAt sessionCatalog.schema "db" ⟨0⟩ path) : path = [0] := by
  cases h with
  | @field _ i f hf hvisible =>
    rcases i with _ | _ | _ | i
    · rfl
    · cases hf
      exact absurd (.inl rfl) hvisible
    · cases hf
      exact absurd (.inr rfl) hvisible
    · cases hf
  | @within _ u i f embedded path hf hvisible hkind h =>
    rcases i with _ | _ | _ | i
    · cases hf
      cases hkind
    · cases hf
      cases hkind
    · cases hf
      exact absurd (.inr rfl) hvisible
    · cases hf

/-- Two sessions that differ in their tokens and their clients: a template that asks for a client's
address does not tell them from each other, and a row scanned into one of them leaves its token and
its client. -/
theorem hidden_fields_of_session :
    let c := sessionCatalog
    let template := "UPDATE sessions SET address = :address WHERE id = :id"
    let a := session "secret" "10.0.0.1"
    let b := session "" ""
    let rows : BufferedRows := { columns := ["id", "address"], rows := [[.text "s2", .text ""]] }
    fieldAt a.cells [2, 0] = some (.value (.text "10.0.0.1")) ∧
      fieldAt b.cells [2, 0] = some (.value (.text "")) ∧
      bindNamed c .question template (.record a) {} =
        bindNamed c .question template (.record b) {} ∧
      ∃ cells, (Scanner.scan c ({ rows := rows, options := {}, single := true },
          .record a)).2.2 = .record ⟨⟨0⟩, cells⟩ ∧
        cellAt cells [1] = some (.hidden (.text "secret")) ∧
        cellAt cells [2] = some (.record [.scalar ⟨.text, "10.0.0.1"⟩]) := by
  intro c template a b rows
  have hagree : a.Agree c "db" b := by
    refine ⟨rfl, fun path hpath => ?_⟩
    rw [eq_id_of_visibleAt_session hpath]
    rfl
  obtain ⟨hbound, hkept⟩ := hidden_fields c
  obtain ⟨cells, hscan, hcells⟩ :=
    (hkept BufferedRows { rows := rows, options := {}, single := true } a).1
  refine ⟨rfl, rfl, (hbound {} a b hagree .question template).1, cells, hscan, ?_, ?_⟩
  · exact hcells [1] _ (.field rfl (.inl rfl) []) rfl
  · exact hcells [2] _ (.field rfl (.inr rfl) []) rfl

end Rowbind
