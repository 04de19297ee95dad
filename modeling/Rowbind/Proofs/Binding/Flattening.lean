import Mathlib.Data.List.Nodup
import Rowbind.Proofs.Binding.Single

/-!
# Nested maps and flat ones

A map can hold maps, and a parameter with dots in its name walks into them. The same names can be
written down flat: one name for each path to a value that is no map, its keys joined with dots
(`ValueMap.flatten`). Where no key has a dot, both bind alike (`bindNamed_flatten`).

A name then comes apart in one way, into the keys that were joined (`Source.segments_intercalate`),
so a flat name is found exactly where a walk along its keys ends at a value that is no map
(`ValueMap.lookup_flatten`). The other half of what a nested map answers never counts: it has no
dotted key to fall back on, and a map at the end of a walk cannot be bound.
-/

namespace Rowbind

/-- Whether a value is a map. -/
def Value.isMap : Value → Bool
  | .map _ => true
  | _ => false

/-! ## Names and their segments -/

namespace Source

/-- **The names between a name's dots.** -/
def segments (name : String) : List String := (parts name.toList).map String.ofList

theorem parts_eq_splitOn (cs : List Char) : parts cs = cs.splitOn '.' := by
  induction cs with
  | nil => rfl
  | cons c cs ih =>
    rw [parts, ih, List.splitOn, List.splitOn, List.splitOnP_cons_eq_if_modifyHead]
    by_cases hdot : c = '.'
    · simp [hdot]
    · rw [if_neg hdot, if_neg (by simpa using hdot)]
      cases hparts : cs.splitOnP (· == '.') with
      | nil => exact absurd hparts (List.splitOnP_ne_nil _ _)
      | cons part rest => rfl

/-- A name is its segments, joined. -/
theorem intercalate_segments (name : String) : ".".intercalate (segments name) = name := by
  apply String.toList_injective
  rw [String.toList_intercalate, segments, List.map_map, parts_eq_splitOn]
  simp [Function.comp_def, List.intercalate_splitOn]

/-- **Joined names come apart again**, if none of them has a dot. -/
theorem segments_intercalate {path : List String} (hne : path ≠ [])
    (hdots : ∀ key ∈ path, '.' ∉ key.toList) : segments (".".intercalate path) = path := by
  have hsplit : (['.'].intercalate (path.map String.toList)).splitOn '.' =
      path.map String.toList := by
    refine List.splitOn_intercalate '.' ?_ (by simpa using hne)
    simpa using hdots
  rw [segments, parts_eq_splitOn, String.toList_intercalate]
  simp [hsplit]

/-- A name without a dot is its only segment. -/
theorem segments_of_undotted {name : String} (h : '.' ∉ name.toList) : segments name = [name] := by
  have hsegments := segments_intercalate (List.cons_ne_nil name []) (by simpa using h)
  rwa [String.intercalate_singleton] at hsegments

end Source

/-! ## Maps -/

/-- The value at the end of a walk that goes on from a value. -/
def Source.descend (v : Value) : List String → Option Value
  | [] => some v
  | name :: names =>
    match v with
    | .map m => walk m (name :: names)
    | _ => none

/-- **A walk takes one step and goes on.** -/
theorem Source.walk_cons (m : ValueMap) (name : String) (names : List String) :
    walk m (name :: names) = (m.lookup name).bind fun v => descend v names := by
  cases names with
  | nil => cases hlookup : m.lookup name <;> simp [walk, descend, hlookup]
  | cons next names =>
    rw [walk]
    · cases m.lookup name with
      | none => rfl
      | some v => cases v <;> rfl
    · exact List.cons_ne_nil _ _

/-- Nothing is found beyond a value that is no map. -/
theorem Source.descend_of_not_map {v : Value} {name : String} {names : List String}
    (h : v.isMap = false) : descend v (name :: names) = none := by
  cases v with
  | map m => cases h
  | _ => rfl

namespace ValueMap

variable {m : ValueMap} {name : String} {v : Value}

theorem mem_of_lookup (h : m.lookup name = some v) : (name, v) ∈ m := by
  induction m with
  | nil => cases h
  | cons e m ih =>
    obtain ⟨key, u⟩ := e
    rw [lookup] at h
    split at h
    · cases h
      subst name
      exact List.mem_cons_self
    · exact List.mem_cons_of_mem _ (ih h)

theorem exists_lookup_of_mem (h : (name, v) ∈ m) : ∃ u, m.lookup name = some u := by
  induction m with
  | nil => cases h
  | cons e m ih =>
    obtain ⟨key, u⟩ := e
    by_cases hname : key = name
    · exact ⟨u, by rw [lookup, if_pos hname]⟩
    · have hmem : (name, v) ∈ m := by
        refine (List.mem_cons.mp h).resolve_left ?_
        rintro ⟨⟩
        exact hname rfl
      rw [lookup, if_neg hname]
      exact ih hmem

/-- **A map that has each of its names once** answers with what it has under a name. -/
theorem lookup_eq_some_iff (hkeys : (m.map Prod.fst).Nodup) :
    m.lookup name = some v ↔ (name, v) ∈ m := by
  refine ⟨mem_of_lookup, fun hmem => ?_⟩
  obtain ⟨u, hu⟩ := exists_lookup_of_mem hmem
  cases List.inj_on_of_nodup_map hkeys (mem_of_lookup hu) hmem rfl
  exact hu

/-- **Maps whose keys have no dot**, level by level, and which have each of them once, as maps do. -/
inductive Undotted : ValueMap → Prop
  | intro {m : ValueMap} (hkeys : (m.map Prod.fst).Nodup) (hdots : ∀ e ∈ m, '.' ∉ e.1.toList)
      (hinner : ∀ key inner, (key, .map inner) ∈ m → Undotted inner) : Undotted m

end ValueMap

mutual

/-- The values in a value that are no maps, each with the keys on the way to it. -/
def Value.leaves : Value → List (List String × Value)
  | .map m => ValueMap.leaves m
  | v => [([], v)]

/-- **The values in a map that are no maps**, each with the keys on the way to it. -/
def ValueMap.leaves : List (String × Value) → List (List String × Value)
  | [] => []
  | (key, v) :: m => (Value.leaves v).map (fun leaf => (key :: leaf.1, leaf.2)) ++ ValueMap.leaves m

end

theorem Value.leaves_of_not_map {v : Value} (h : v.isMap = false) : v.leaves = [([], v)] := by
  cases v with
  | map m => cases h
  | _ => rfl

namespace ValueMap

variable {m : ValueMap} {name : String} {v : Value} {path : List String}

/-- **A nested map written down flat**: each value that is no map, under the keys on the way to it,
joined with dots. -/
def flatten (m : ValueMap) : ValueMap :=
  (leaves m).map fun leaf => (".".intercalate leaf.1, leaf.2)

theorem mem_leaves : (path, v) ∈ leaves m ↔
    ∃ key u rest, (key, u) ∈ m ∧ path = key :: rest ∧ (rest, v) ∈ u.leaves := by
  induction m with
  | nil => simp [leaves]
  | cons e m ih =>
    obtain ⟨key, u⟩ := e
    simp only [leaves, List.mem_append, ih, List.mem_map, Prod.mk.injEq, Prod.exists,
      List.mem_cons]
    constructor
    · rintro (⟨rest, _, hleaf, rfl, rfl⟩ | ⟨other, w, rest, hmem, hpath, hleaf⟩)
      · exact ⟨key, u, rest, .inl ⟨rfl, rfl⟩, rfl, hleaf⟩
      · exact ⟨other, w, rest, .inr hmem, hpath, hleaf⟩
    · rintro ⟨other, w, rest, ⟨rfl, rfl⟩ | hmem, hpath, hleaf⟩
      · exact .inl ⟨rest, v, hleaf, hpath.symm, rfl⟩
      · exact .inr ⟨other, w, rest, hmem, hpath, hleaf⟩

/-- The leaves of a value are where walks end that go on from it, if that is so of the map that it
may be. -/
theorem mem_value_leaves_iff {u : Value} (hmaps : ∀ inner, u = .map inner →
      ((path, v) ∈ leaves inner ↔ Source.walk inner path = some v ∧ v.isMap = false)) :
    (path, v) ∈ u.leaves ↔ Source.descend u path = some v ∧ v.isMap = false := by
  cases hmap : u.isMap with
  | true =>
    cases u with
    | map inner =>
      rw [Value.leaves, hmaps inner rfl]
      cases path with
      | nil =>
        -- a walk that ends here ends in a map
        simp only [Source.walk, Source.descend, Option.some.injEq, reduceCtorEq, false_and,
          false_iff, not_and]
        rintro rfl
        exact nofun
      | cons => rfl
    | _ => cases hmap
  | false =>
    rw [Value.leaves_of_not_map hmap, List.mem_singleton, Prod.mk.injEq]
    cases path with
    | nil =>
      simp only [Source.descend, Option.some.injEq, true_and]
      grind
    | cons key rest => simp [Source.descend_of_not_map hmap]

/-- **The leaves of a map are where walks end**, other than in a map. The induction is on the path
that is walked. -/
theorem mem_leaves_iff_walk (hm : Undotted m) :
    (path, v) ∈ leaves m ↔ Source.walk m path = some v ∧ v.isMap = false := by
  induction path generalizing m with
  | nil => simp [mem_leaves, Source.walk]
  | cons key rest ih =>
    obtain ⟨hkeys, -, hinner⟩ := hm
    have hrest (u : Value) (hu : (key, u) ∈ m) :
        (rest, v) ∈ u.leaves ↔ Source.descend u rest = some v ∧ v.isMap = false :=
      mem_value_leaves_iff fun inner heq => ih (hinner key inner (heq ▸ hu))
    rw [mem_leaves, Source.walk_cons, Option.bind_eq_some_iff]
    simp only [lookup_eq_some_iff hkeys]
    constructor
    · rintro ⟨_, u, _, hu, ⟨⟩, hleaf⟩
      obtain ⟨hdescend, hv⟩ := (hrest u hu).mp hleaf
      exact ⟨⟨u, hu, hdescend⟩, hv⟩
    · rintro ⟨⟨u, hu, hdescend⟩, hv⟩
      exact ⟨key, u, rest, hu, rfl, (hrest u hu).mpr ⟨hdescend, hv⟩⟩

/-- The keys on the way to a leaf have no dot, and there are some. -/
theorem undotted_of_mem_leaves (hm : Undotted m) (h : (path, v) ∈ leaves m) :
    path ≠ [] ∧ ∀ key ∈ path, '.' ∉ key.toList := by
  induction path generalizing m with
  | nil => simp [mem_leaves] at h
  | cons key rest ih =>
    obtain ⟨-, hdots, hinner⟩ := hm
    obtain ⟨_, u, _, hu, ⟨⟩, hleaf⟩ := mem_leaves.mp h
    refine ⟨List.cons_ne_nil _ _, List.forall_mem_cons.mpr ⟨hdots _ hu, ?_⟩⟩
    cases u with
    | map inner => exact (ih (hinner key inner hu) hleaf).2
    | _ =>
      rw [Value.leaves_of_not_map rfl, List.mem_singleton] at hleaf
      cases hleaf
      exact nofun

/-- **A flat name is found where a walk along its keys ends**, other than in a map. -/
theorem lookup_flatten (hm : Undotted m) : m.flatten.lookup name = some v ↔
    Source.walk m (Source.segments name) = some v ∧ v.isMap = false := by
  have hfound {v : Value} (h : (name, v) ∈ m.flatten) :
      Source.walk m (Source.segments name) = some v ∧ v.isMap = false := by
    obtain ⟨⟨path, u⟩, hleaf, heq⟩ := List.mem_map.mp h
    cases heq
    obtain ⟨hne, hdots⟩ := undotted_of_mem_leaves hm hleaf
    rw [Source.segments_intercalate hne hdots]
    exact (mem_leaves_iff_walk hm).mp hleaf
  constructor
  · exact fun h => hfound (mem_of_lookup h)
  · intro h
    have hmem : (name, v) ∈ m.flatten := by
      refine List.mem_map.mpr ⟨(Source.segments name, v), (mem_leaves_iff_walk hm).mpr h, ?_⟩
      rw [Source.intercalate_segments]
    -- another value under the name would be where the same walk ends
    obtain ⟨u, hu⟩ := exists_lookup_of_mem hmem
    rw [hu, ← (hfound (mem_of_lookup hu)).1, h.1]

end ValueMap

/-! ## What maps answer -/

namespace Source

variable {m : ValueMap} {name : String} {v : Value}

/-- A map answers for a name of several segments as it is walked, or else as for any other name. -/
theorem ofMap_eq (m : ValueMap) (name : String) : ofMap m name =
    if 1 < (segments name).length then (walk m (segments name)).or (m.lookup name)
    else m.lookup name := rfl

/-- **A map in which there is no map answers for its names as they stand.** -/
theorem ofMap_of_not_map (h : ∀ e ∈ m, e.2.isMap = false) : ofMap m name = m.lookup name := by
  rw [ofMap_eq]
  cases segments name with
  | nil => rfl
  | cons first rest =>
    cases rest with
    | nil => rfl
    | cons next rest =>
      have hwalk : walk m (first :: next :: rest) = none := by
        rw [walk_cons]
        cases hfirst : m.lookup first with
        | none => rfl
        | some u => exact descend_of_not_map (h _ (ValueMap.mem_of_lookup hfirst))
      rw [hwalk, Option.none_or, ite_self]

/-- **A map whose keys have no dot answers as it is walked.** -/
theorem ofMap_of_undotted (hm : m.Undotted) : ofMap m name = walk m (segments name) := by
  rw [ofMap_eq]
  by_cases hdot : '.' ∈ name.toList
  · have hlookup : m.lookup name = none := by
      obtain ⟨-, hdots, -⟩ := hm
      refine Option.eq_none_iff_forall_ne_some.mpr fun v hv => ?_
      exact hdots _ (ValueMap.mem_of_lookup hv) hdot
    rw [hlookup, Option.or_none]
    cases hsegments : segments name with
    | nil => rfl
    | cons first rest =>
      cases rest with
      | nil =>
        have hname := intercalate_segments name
        rw [hsegments, String.intercalate_singleton] at hname
        rw [hname, walk, hlookup]
        rfl
      | cons next rest => rfl
  · rw [segments_of_undotted hdot]
    rfl

/-- **A map and its flat form answer alike**, but for the maps in it. -/
theorem ofMap_flatten (hm : m.Undotted) :
    ofMap m.flatten name = some v ↔ ofMap m name = some v ∧ v.isMap = false := by
  have hflat : ∀ e ∈ m.flatten, e.2.isMap = false := by
    rintro e he
    obtain ⟨⟨path, u⟩, hleaf, rfl⟩ := List.mem_map.mp he
    exact ((ValueMap.mem_leaves_iff_walk hm).mp hleaf).2
  rw [ofMap_of_not_map hflat, ofMap_of_undotted hm, ValueMap.lookup_flatten hm]

end Source

/-! ## Binding them -/

section Binding

variable (c : Catalog) (d : Dialect) (template : String) {o : Options}

/-- **Sources that answer alike but for maps let parameters stand for the same values**, if a name
that is missing is not null. -/
theorem standsFor_iff {source source' : Source} {name : String} {share : List Value}
    (hstrict : o.missingParamsAsNull = false)
    (hsource : ∀ v, source' name = some v ↔ source name = some v ∧ v.isMap = false) :
    StandsFor o source' name share ↔ StandsFor o source name share := by
  constructor
  · rintro (⟨hv, hbindable⟩ | ⟨hitems, hne, hbindable⟩ | ⟨-, hnull⟩)
    · exact .value ((hsource _).mp hv).1 hbindable
    · exact .list ((hsource _).mp hitems).1 hne hbindable
    · cases hstrict.symm.trans hnull
  · rintro (⟨hv, hbindable⟩ | ⟨hitems, hne, hbindable⟩ | ⟨-, hnull⟩)
    · refine .value ((hsource _).mpr ⟨hv, ?_⟩) hbindable
      rename_i v
      cases v with
      | map m => cases hbindable
      | _ => rfl
    · exact .list ((hsource _).mpr ⟨hitems, rfl⟩) hne hbindable
    · cases hstrict.symm.trans hnull

/-- **A nested map binds as its flat form does.** Take a map whose keys have no dot at any level,
and its flat form, which has every value in it that is no map under the keys on the way to it,
joined with dots. Where a name that is missing is not null, one of them is bound exactly if the
other is, and then both to the same text and the same values. -/
theorem bindNamed_flatten (hstrict : o.missingParamsAsNull = false) {m : ValueMap}
    (hm : m.Undotted) (b : Bound) :
    bindNamed c d template (.map m) o = .ok b ↔
      bindNamed c d template (.map m.flatten) o = .ok b := by
  have hshares (shares : List (List Value)) :
      resolveAll o (.ofMap m.flatten) (Template.parameterNames template.toList) = .ok shares ↔
        resolveAll o (.ofMap m) (Template.parameterNames template.toList) = .ok shares := by
    have hstands (name : String) (share : List Value) :
        StandsFor o (.ofMap m.flatten) name share ↔ StandsFor o (.ofMap m) name share :=
      standsFor_iff hstrict fun _ => Source.ofMap_flatten hm
    rw [resolveAll_eq_ok_iff, resolveAll_eq_ok_iff]
    exact ⟨.imp fun name share => (hstands name share).mp,
      .imp fun name share => (hstands name share).mpr⟩
  rw [bindNamed_single c d template o rfl rfl, bindNamed_single c d template o rfl rfl, bind_eq_ok,
    bind_eq_ok]
  exact exists_congr fun shares => and_congr (hshares shares).symm Iff.rfl

/-- A user with an address: both forms are bound where the address's city is asked for, and neither
where the address is. -/
theorem bindNamed_flatten_of_user :
    let c := Catalog.ofDeclarations #[] fun _ name => name
    let m : ValueMap :=
      [("user", .map [("id", .int 5), ("home", .map [("city", .text "Oslo")])]), ("n", .null)]
    m.Undotted ∧ m.flatten =
        [("user.id", .int 5), ("user.home.city", .text "Oslo"), ("n", .null)] ∧
      bindNamed c .dollar "a = :user.home.city AND b = :n" (.map m) {} =
        .ok ⟨"a = $1 AND b = $2", [.text "Oslo", .null]⟩ ∧
      bindNamed c .dollar "a = :user.home.city AND b = :n" (.map m.flatten) {} =
        .ok ⟨"a = $1 AND b = $2", [.text "Oslo", .null]⟩ ∧
      ∀ b, bindNamed c .dollar "a = :user.home" (.map m.flatten) {} ≠ .ok b := by
  intro c m
  have hhome : ValueMap.Undotted [("city", .text "Oslo")] :=
    .intro (by decide) (by decide) (by simp)
  have huser : ValueMap.Undotted [("id", .int 5), ("home", .map [("city", .text "Oslo")])] :=
    .intro (by decide) (by simp) (by simpa using hhome)
  have hm : m.Undotted := .intro (by decide) (by simp [m]) (by simp [m, huser])
  have hnames : Template.parameterNames "a = :user.home.city AND b = :n".toList =
      ["user.home.city", "n"] := by decide +kernel
  have hrendered : Template.renderNamed "a = :user.home.city AND b = :n" .dollar
      (.ofArray #[1, 1]) = .ok ⟨"a = $1 AND b = $2", ["user.home.city", "n"], 2⟩ := by
    decide +kernel
  have hsources : (Argument.map m).sources? c {} = some [.ofMap m] := rfl
  have hshare : ["user.home.city", "n"].length / 1 = 2 := rfl
  have hcity : bindNamed c .dollar "a = :user.home.city AND b = :n" (.map m) {} =
      .ok ⟨"a = $1 AND b = $2", [.text "Oslo", .null]⟩ := by
    rw [bindNamed_of_alone .dollar hsources rfl]
    exact bindSources_of_shares [[.text "Oslo"], [.null]] hnames hshare rfl hrendered
  have hname : Template.parameterNames "a = :user.home".toList = ["user.home"] := by
    decide +kernel
  have hrefused : bindNamed c .dollar "a = :user.home" (.map m) {} =
      .error (.unsupportedArgument (.mapForParameter "user.home")) := by
    rw [bindNamed_single_eq_error_iff c .dollar _ {} rfl rfl, hname]
    rfl
  have hleaves : ValueMap.leaves m = [(["user", "id"], .int 5),
      (["user", "home", "city"], .text "Oslo"), (["n"], .null)] := rfl
  have hid : ".".intercalate ["user", "id"] = "user.id" := by decide +kernel
  have hfield : ".".intercalate ["user", "home", "city"] = "user.home.city" := by decide +kernel
  have hn : ".".intercalate ["n"] = "n" := by decide +kernel
  have hflat : m.flatten =
      [("user.id", .int 5), ("user.home.city", .text "Oslo"), ("n", .null)] := by
    simp only [ValueMap.flatten, hleaves, List.map_cons, List.map_nil, hid, hfield, hn]
  refine ⟨hm, hflat, hcity, (bindNamed_flatten c _ _ rfl hm _).mp hcity, fun b hb => ?_⟩
  cases hrefused.symm.trans ((bindNamed_flatten c _ _ rfl hm b).mpr hb)

end Binding

end Rowbind
