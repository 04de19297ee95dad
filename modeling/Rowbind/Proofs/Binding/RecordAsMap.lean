import Rowbind.Proofs.Binding.Flattening
import Rowbind.Proofs.Scanner.Conforming

/-!
# A record as the map of its fields

A record's fields can be written down as a map: every key of the record type's field map with what
the record reads under it, and null where an optional record on the way is not set
(`Record.toMap`). Where the record conforms and holds no map, it binds as that map does, whatever
the template and the options, and so does a batch of such records (`bindNamed_toMap`).

A binding asks its argument for nothing but names, so it comes to showing that the record and the
map answer alike (`Record.ofRecord_eq_ofMap`). A dotted name is one key to a record. A map would walk
along it first; but a walk goes nowhere in a map that holds no map.
-/

namespace Rowbind

namespace Record

variable (c : Catalog) (o : Options) (r : Record)

/-- What a record has along a path: a value, or null where there is none to read. -/
def valueAt (path : Path) : Value :=
  match fieldAt r.cells path with
  | some (.value v) => v
  | _ => .null

/-- **A record's fields by their keys**, null where an optional record is not set. -/
def toMap : ValueMap :=
  (FieldMap.of c r.type o.paramRule).paths.toList.map fun (key, path) => (key, r.valueAt path)

/-- **Whether no field that a parameter can call holds a map.** -/
def HoldsNoMap : Prop :=
  ∀ key path v, (FieldMap.of c r.type o.paramRule).path? key = some path →
    fieldAt r.cells path = some (.value v) → v.isMap = false

variable {c o r}

theorem nodup_toMap : ((r.toMap c o).map Prod.fst).Nodup := by
  rw [toMap, List.map_map]
  show ((FieldMap.of c r.type o.paramRule).paths.toList.map Prod.fst).Nodup
  rw [Std.HashMap.map_fst_toList_eq_keys]
  exact FieldMap.nodup_keys _

/-- **The map has the keys of the field map**, each with the field's value. -/
theorem lookup_toMap (name : String) : (r.toMap c o).lookup name =
    ((FieldMap.of c r.type o.paramRule).path? name).map r.valueAt := by
  ext v
  rw [ValueMap.lookup_eq_some_iff nodup_toMap, toMap, List.mem_map, Option.map_eq_some_iff]
  constructor
  · rintro ⟨⟨key, path⟩, hmem, ⟨⟩⟩
    exact ⟨path, Std.HashMap.mem_toList_iff_getElem?_eq_some.mp hmem, rfl⟩
  · rintro ⟨path, hpath, rfl⟩
    exact ⟨(name, path), Std.HashMap.mem_toList_iff_getElem?_eq_some.mpr hpath, rfl⟩

/-- A record's fields hold no map where the record holds none. -/
theorem HoldsNoMap.toMap (h : r.HoldsNoMap c o) : ∀ e ∈ r.toMap c o, e.2.isMap = false := by
  intro e he
  obtain ⟨⟨key, path⟩, hmem, rfl⟩ := List.mem_map.mp he
  have hpath := Std.HashMap.mem_toList_iff_getElem?_eq_some.mp hmem
  show (r.valueAt path).isMap = false
  unfold valueAt
  split
  · exact h key path _ hpath ‹_›
  · rfl

/-- **A record answers as the map of its fields.** No key of the field map leads to a record, or to
no field at all: that is what it takes that the record conforms. -/
theorem ofRecord_eq_ofMap (hr : r.Conforms c) (hmaps : r.HoldsNoMap c o) :
    Source.ofRecord c o r = Source.ofMap (r.toMap c o) := by
  obtain ⟨ready, -, hcells⟩ := hr
  funext name
  rw [Source.ofMap_of_not_map hmaps.toMap, lookup_toMap]
  simp only [Source.ofRecord]
  cases hpath : (FieldMap.of c r.type o.paramRule).path? name with
  | none => rfl
  | some path =>
    rcases hcells.reads (FieldMap.scalarAt_of_path? hpath).2.2 with habsent | ⟨v, hv⟩
    · simp [valueAt, habsent]
    · simp [valueAt, hv]

end Record

variable (c : Catalog) (d : Dialect) (template : String) (o : Options)

/-- Arguments of one kind bind alike where their sources do. -/
theorem bindNamed_of_sources {a b : Argument} {sources : List Source}
    (ha : a.sources? c o = some sources) (hb : b.sources? c o = some sources)
    (hbatch : a.isBatch = b.isBatch) : bindNamed c d template a o = bindNamed c d template b o := by
  simp only [bindNamed, ha, hb, hbatch]

/-- **A record binds as the map of its fields.** Take a record that conforms to its type, of which no
mapped field holds a map, and the map that has each key of the type's field map with the field's
value, null where an optional record on the way is not set. Both bind to the same text and values, or
fail with the same error, for every template, dialect and options. And a batch of such records binds
as the batch of their maps. -/
theorem bindNamed_toMap :
    (∀ r : Record, r.Conforms c → r.HoldsNoMap c o →
      bindNamed c d template (.record r) o = bindNamed c d template (.map (r.toMap c o)) o) ∧
    ∀ rs : List Record, (∀ r ∈ rs, r.Conforms c ∧ r.HoldsNoMap c o) →
      bindNamed c d template (.records rs) o =
        bindNamed c d template (.maps (rs.map (Record.toMap c o))) o := by
  constructor
  · intro r hr hmaps
    refine bindNamed_of_sources c d template o rfl ?_ rfl
    rw [Argument.sources?, Record.ofRecord_eq_ofMap hr hmaps]
  · intro rs hrs
    refine bindNamed_of_sources c d template o rfl ?_ rfl
    have hsources : rs.map (Source.ofRecord c o) = rs.map (Source.ofMap ∘ Record.toMap c o) :=
      List.map_congr_left fun r hr => Record.ofRecord_eq_ofMap (hrs r hr).1 (hrs r hr).2
    rw [Argument.sources?, List.map_map, hsources]

/-- An account whose home is set and a new one, whose home is not: its latitude is null in its map. -/
theorem bindNamed_toMap_of_accounts :
    let o : Options := { nameMapper := .identity, paramSeparator := "_" }
    let new := Record.new accountCatalog ⟨0⟩
    fieldAt new.cells [2, 0] = some .absent ∧
      (new.toMap accountCatalog o).lookup "home_lat" = some .null ∧
      bindNamed accountCatalog .dollar "id = :id OR lat = :home_lat" (.record new) o =
        bindNamed accountCatalog .dollar "id = :id OR lat = :home_lat"
          (.map (new.toMap accountCatalog o)) o ∧
      bindNamed accountCatalog .question "INSERT INTO t VALUES (:id, :home_lat)"
          (.records [account, new]) o =
        bindNamed accountCatalog .question "INSERT INTO t VALUES (:id, :home_lat)"
          (.maps ([account, new].map (Record.toMap accountCatalog o))) o := by
  intro o new
  have hmap : FieldMap.of accountCatalog ⟨0⟩ o.paramRule = FieldMap.build accountWalk ⟨0⟩ := rfl
  have hpaths (key : String) (path : Path)
      (h : (FieldMap.of accountCatalog ⟨0⟩ o.paramRule).path? key = some path) :
      path = [0] ∨ path = [1, 0] ∨ path = [2, 0] := by
    rw [hmap] at h
    have hmem := FieldMap.mem_entries_of_path? h
    rw [entries_accountWalk] at hmem
    simp only [List.mem_cons, Prod.mk.injEq, List.not_mem_nil, or_false] at hmem
    grind
  have hready : ∀ t, t = (⟨2⟩ : TypeId) →
      CellsConform accountCatalog (· = ⟨2⟩) (accountCatalog.recordType t).fresh t := by
    rintro _ rfl
    exact .cons (.scalar _) .nil
  have haccount : account.Conforms accountCatalog ∧ account.HoldsNoMap accountCatalog o := by
    refine ⟨⟨(· = ⟨2⟩), hready, .cons (.scalar _) (.cons (.record (.cons (.scalar _) .nil))
      (.cons (.record (.cons (.scalar _) .nil)) (.cons (.hidden _) .nil)))⟩, ?_⟩
    intro key path v hpath hv
    rcases hpaths key path hpath with rfl | rfl | rfl <;> cases hv <;> rfl
  have hnew : new.Conforms accountCatalog ∧ new.HoldsNoMap accountCatalog o := by
    refine ⟨⟨(· = ⟨2⟩), hready, .cons (.scalar _) (.cons (.record (.cons (.scalar _) .nil))
      (.cons (.absent rfl) (.cons (.hidden _) .nil)))⟩, ?_⟩
    intro key path v hpath hv
    rcases hpaths key path hpath with rfl | rfl | rfl <;> cases hv <;> rfl
  have hlat : (new.toMap accountCatalog o).lookup "home_lat" = some .null := by
    rw [Record.lookup_toMap, show new.type = ⟨0⟩ from rfl, hmap, path?_account]
    rfl
  refine ⟨rfl, hlat, (bindNamed_toMap _ _ _ o).1 new hnew.1 hnew.2, ?_⟩
  exact (bindNamed_toMap _ _ _ o).2 [account, new] (by simp [haccount, hnew])

end Rowbind
