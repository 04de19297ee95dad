import Rowbind.Binding.Query
import Rowbind.MySql.Column
import Rowbind.Proofs.Binding.Alignment
import Rowbind.Proofs.Binding.Resolution
import Rowbind.Record.Declaration

/-!
# What is bound can be bound

A list or a map may be given anywhere among the arguments, and lists and maps inside it. None is
left in a bound query. A parameter's value becomes its share of the values, in which there is
neither (`bindable_of_resolveFrom`); that holds of records and maps alike, nested or in a batch,
since all of them are nothing but sources of values. Among positional values a map is refused
wherever it stands, a list gives its elements or is refused for one of them, and where nothing is
flattened there was no list (`bindable_of_bindPositional`).

So the parameters of a query that was bound take its values, all of them and as they are
(`Bound.compile_bindable`).
-/

namespace Rowbind

/-- What can be bound is neither a list nor a map. -/
theorem Value.isBindable_iff {v : Value} :
    v.isBindable = true ↔ (∀ items, v ≠ .list items) ∧ ∀ m, v ≠ .map m := by
  cases v <;> simp [isBindable]

/-- **Parameters take values** exactly if all of them can be bound, and take them as they are. -/
theorem MySql.bindAll_eq_ok_iff {values bound : List Value} :
    bindAll values = .ok bound ↔ (∀ v ∈ values, v.isBindable = true) ∧ bound = values := by
  induction values generalizing bound with
  | nil =>
    constructor
    · intro h
      cases h
      exact ⟨fun _ hmem => absurd hmem List.not_mem_nil, rfl⟩
    · rintro ⟨-, rfl⟩
      rfl
  | cons v values ih =>
    rw [bindAll, List.forall_mem_cons]
    split
    · rename_i hv
      simp only [map_eq_ok, ih, hv, true_and]
      constructor
      · rintro ⟨_, ⟨hvalues, rfl⟩, rfl⟩
        exact ⟨hvalues, rfl⟩
      · rintro ⟨hvalues, rfl⟩
        exact ⟨_, ⟨hvalues, rfl⟩, rfl⟩
    · rename_i hv
      simp [hv]

/-! ## Named arguments -/

/-- **Each occurrence is bound as values that can be bound**, whatever its source is. -/
theorem bindable_of_resolveFrom {o : Options} {sources : List Source} {share position : Nat}
    {names : List String} {shares : List (List Value)}
    (h : resolveFrom o sources share position names = .ok shares) :
    ∀ values ∈ shares, ∀ v ∈ values, v.isBindable = true := by
  induction names generalizing position shares with
  | nil =>
    cases h
    exact fun _ hmem => absurd hmem List.not_mem_nil
  | cons name names ih =>
    obtain ⟨v, -, h⟩ := bind_eq_ok.mp h
    obtain ⟨own, hown, h⟩ := bind_eq_ok.mp h
    obtain ⟨rest, hrest, h⟩ := bind_eq_ok.mp h
    cases h
    exact List.forall_mem_cons.mpr ⟨(expand_spec hown).2, ih hrest⟩

theorem bindable_of_bindSources {d : Dialect} {template : String} {o : Options}
    {sources : List Source} {b : Bound} (h : bindSources d template o sources = .ok b) :
    ∀ v ∈ b.values, v.isBindable = true := by
  rw [bindSources_eq] at h
  obtain ⟨shares, hshares, h⟩ := bind_eq_ok.mp h
  obtain ⟨rendered, -, h⟩ := bind_eq_ok.mp h
  cases h
  intro v hv
  obtain ⟨values, hvalues, hv⟩ := List.mem_flatten.mp hv
  exact bindable_of_resolveFrom hshares values hvalues v hv

/-- One record or map and a batch of them are bound from sources, the one with the template as it is
and the other with its group repeated. -/
theorem bindable_of_bindNamed {c : Catalog} {d : Dialect} {template : String}
    {argument : Argument} {o : Options} {b : Bound}
    (h : bindNamed c d template argument o = .ok b) : ∀ v ∈ b.values, v.isBindable = true := by
  unfold bindNamed at h
  split at h
  · cases h
  · split at h
    · split at h
      · cases h
      · obtain ⟨repeated, -, h⟩ := bind_eq_ok.mp h
        exact bindable_of_bindSources h
    · exact bindable_of_bindSources h

/-! ## Positional values -/

/-- Where nothing is refused, there is neither an empty list nor a map. -/
theorem not_refused_of_firstRefused? {values : List Value} {position : Nat}
    (h : firstRefused? position values = none) : ∀ v ∈ values, v.isRefused = false := by
  induction values generalizing position with
  | nil => exact fun _ hmem => absurd hmem List.not_mem_nil
  | cons v values ih =>
    refine List.forall_mem_cons.mpr ?_
    cases v with
    | list items =>
      cases items with
      | nil => cases h
      | cons item items => exact ⟨rfl, ih h⟩
    | map m => cases h
    | _ => exact ⟨rfl, ih h⟩

/-- A value that is neither refused nor a list can be bound. -/
theorem Value.isBindable_of_not_refused {v : Value} (h : v.isRefused = false)
    (hlist : isList v = false) : v.isBindable = true := by
  cases v with
  | list items => cases hlist
  | map m => cases h
  | _ => rfl

/-- **What values are flattened to can be bound**, if no map is among them: each is an element of a
list that can be bound, or a value that is neither. -/
theorem bindable_of_flatten {values flat : List Value} (hvalues : ∀ v ∈ values, v.isRefused = false)
    (h : flatten values = .ok flat) : ∀ v ∈ flat, v.isBindable = true := by
  obtain ⟨hitems, rfl⟩ := flatten_eq_ok_iff.mp h
  intro x hx
  obtain ⟨v, hv, hx⟩ := List.mem_flatMap.mp hx
  cases v with
  | list items => exact hitems items hv x hx
  | map m => exact absurd (hvalues _ hv) Bool.true_eq_false.mp
  | _ =>
    rw [List.mem_singleton.mp hx]
    rfl

theorem bindable_of_bindPositional {d : Dialect} {template : String} {values : List Value}
    {b : Bound} (h : bindPositional d template values = .ok b) :
    ∀ v ∈ b.values, v.isBindable = true := by
  cases hrefused : firstRefused? 0 values with
  | some e =>
    simp only [bindPositional, hrefused] at h
    cases h
  | none =>
    have hvalues := not_refused_of_firstRefused? hrefused
    by_cases htouched : Untouched d template values
    · rw [bindPositional_untouched d template hvalues htouched] at h
      cases h
      exact fun v hv => Value.isBindable_of_not_refused (hvalues v hv) (htouched.1 v hv)
    · obtain ⟨rendered, flat, -, hflat, -, rfl⟩ :=
        (bindPositional_eq_ok_iff d template hvalues htouched b).mp h
      exact bindable_of_flatten hvalues hflat

/-! ## Any arguments -/

/-- The first argument decides which of the ways a query is bound. -/
theorem bindable_of_compile {c : Catalog} {d : Dialect} {template : String}
    {arguments : List Argument} {o : Options} {b : Bound}
    (h : Bound.compile c d template arguments o = .ok b) : ∀ v ∈ b.values, v.isBindable = true := by
  unfold Bound.compile at h
  split at h
  · split at h
    · split at h
      · cases h
      · exact bindable_of_bindNamed h
    · obtain ⟨values, -, h⟩ := bind_eq_ok.mp h
      exact bindable_of_bindPositional h
  · exact bindable_of_bindPositional h

/-- **No value of a bound query is a list or a map**, at any position, and so the parameters of the
query take all of its values as they are. -/
theorem Bound.compile_bindable {c : Catalog} {d : Dialect} {template : String}
    {arguments : List Argument} {o : Options} {b : Bound}
    (h : compile c d template arguments o = .ok b) :
    (∀ (k : Nat) (v : Value), b.values[k]? = some v →
        (∀ items, v ≠ .list items) ∧ ∀ m, v ≠ .map m) ∧
      MySql.bindAll b.values = .ok b.values := by
  have hbindable := bindable_of_compile h
  refine ⟨fun k v hv => ?_, MySql.bindAll_eq_ok_iff.mpr ⟨hbindable, rfl⟩⟩
  exact Value.isBindable_iff.mp (hbindable v (List.mem_of_getElem? hv))

/-- A batch of two maps, one with a list inside a map: its elements and no list are bound. -/
theorem Bound.compile_bindable_of_nested_list :
    let c := Catalog.ofDeclarations #[] fun _ name => name
    let batch := Argument.maps
      [[("at", .map [("lat", .list [.int 1, .int 2])]), ("n", .null)],
        [("at", .map [("lat", .int 3)]), ("n", .int 4)]]
    let values : List Value := [.int 1, .int 2, .null, .int 3, .int 4]
    Bound.compile c .question "INSERT INTO t VALUES (:at.lat, :n)" [batch] {} =
        .ok ⟨"INSERT INTO t VALUES (?,?, ?),(?, ?)", values⟩ ∧
      MySql.bindAll values = .ok values := by
  intro c batch values
  have hsources : batch.sources? c {} =
      some [.ofMap [("at", .map [("lat", .list [.int 1, .int 2])]), ("n", .null)],
        .ofMap [("at", .map [("lat", .int 3)]), ("n", .int 4)]] := rfl
  have hrepeated : Template.repeatValuesGroup "INSERT INTO t VALUES (:at.lat, :n)" 2 =
      .ok "INSERT INTO t VALUES (:at.lat, :n),(:at.lat, :n)" := by decide +kernel
  have hnames : Template.parameterNames "INSERT INTO t VALUES (:at.lat, :n),(:at.lat, :n)".toList =
      ["at.lat", "n", "at.lat", "n"] := by decide +kernel
  have hrendered : Template.renderNamed "INSERT INTO t VALUES (:at.lat, :n),(:at.lat, :n)"
      .question (.ofArray #[2, 1, 1, 1]) =
        .ok ⟨"INSERT INTO t VALUES (?,?, ?),(?, ?)", ["at.lat", "n", "at.lat", "n"], 5⟩ := by
    decide +kernel
  have hshare : ["at.lat", "n", "at.lat", "n"].length / 2 = 2 := rfl
  have h : Bound.compile c .question "INSERT INTO t VALUES (:at.lat, :n)" [batch] {} =
      .ok ⟨"INSERT INTO t VALUES (?,?, ?),(?, ?)", values⟩ := by
    show bindNamed c .question _ batch {} = _
    rw [bindNamed_of_repeated .question hsources rfl (List.cons_ne_nil _ _) hrepeated]
    exact bindSources_of_shares [[.int 1, .int 2], [.null], [.int 3], [.int 4]] hnames hshare rfl
      hrendered
  exact ⟨h, (Bound.compile_bindable h).2⟩

end Rowbind
