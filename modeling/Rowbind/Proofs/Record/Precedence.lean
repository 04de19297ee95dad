import Mathlib.Logic.Function.Iterate
import Rowbind.Proofs.Record.Derivation

/-!
# Which field a key leads to

A field map is what a **queue** of records leaves behind: the record in front is served, its scalars
have their keys written unless another path has them, and its nested records go to the back, down to
the greatest depth. Served a whole level, the queue holds the next one (`serve_level`), so it ends,
with the map (`serve_build`).

Since the first write stands, a key has the path of the first derivation that the walk meets
(`lookup_eq_some_iff`), and the walk meets every derivation of its depth, in their order. So a key
is in the map when it has a derivation, and then leads where its earliest one does
(`build_earliest`).
-/

namespace Rowbind.FieldMap

/-! ## The queue -/

/-- **The queue of a walk**: the records that wait, and the map so far. -/
structure Queue where
  waiting : List Visit
  paths : Std.HashMap String Path

/-- The queue at the start: the root waits. -/
def Queue.start (root : TypeId) : Queue := ⟨[⟨root, [], ""⟩], ∅⟩

/-- **What a field of the record in front does to the queue**: a nested record goes to the back, an
embedded one first without its key, unless it is too deep; a scalar's key is written. -/
def Queue.take (v : Visit) (q : Queue) : Field × Path × String → Queue
  | (f, path, key) =>
    match f.kind with
    | .record embedded t =>
      if maxDepth ≤ path.length then q
      else
        let bare := if embedded then q.waiting ++ [⟨t, path, v.qualifier⟩] else q.waiting
        { q with waiting := bare ++ [⟨t, path, key⟩] }
    | _ => { q with paths := keepFirst q.paths (key, path) }

/-- **The record in front is served**, field by field. -/
def Walk.serve (w : Walk) (q : Queue) : Queue :=
  match q.waiting with
  | [] => q
  | v :: rest => (w.fields v).foldl (Queue.take v) { q with waiting := rest }

section Serving

variable (w : Walk)

/-- The records that a field of a visited one leads into. -/
def Visit.into (v : Visit) : Field × Path × String → List Visit
  | (f, path, key) =>
    match f.kind with
    | .record embedded t =>
      (if embedded then [⟨t, path, v.qualifier⟩] else []) ++ [⟨t, path, key⟩]
    | _ => []

/-- The entry of a field, where it is a scalar. -/
def scalarEntry? : Field × Path × String → Option (String × Path)
  | (f, path, key) =>
    match f.kind with
    | .record .. => none
    | _ => some (key, path)

theorem nested_eq (v : Visit) : w.nested v = (w.fields v).flatMap v.into := rfl

/-- The nested records of a visited one, unless they are too deep. -/
def Walk.nestedWithin (w : Walk) (v : Visit) : List Visit :=
  if v.path.length + 1 < maxDepth then w.nested v else []

theorem length_of_mem_fields {v : Visit} {x : Field × Path × String} (h : x ∈ w.fields v) :
    x.2.1.length = v.path.length + 1 := by
  rw [Walk.fields, List.mem_filterMap] at h
  obtain ⟨⟨f, i⟩, -, hsome⟩ := h
  obtain ⟨key, -, rfl⟩ := Option.map_eq_some_iff.mp hsome
  exact List.length_append

theorem length_of_mem_nested {v v' : Visit} (h : v' ∈ w.nested v) :
    v'.path.length = v.path.length + 1 := by
  rw [nested_eq, List.mem_flatMap] at h
  obtain ⟨⟨f, path, key⟩, hmem, hv'⟩ := h
  have hlength := length_of_mem_fields w hmem
  cases hkind : f.kind with
  | record embedded t =>
    simp only [Visit.into, hkind] at hv'
    rcases List.mem_append.mp hv' with hv' | hv'
    · cases embedded with
      | false => exact absurd hv' List.not_mem_nil
      | true => rwa [List.mem_singleton.mp hv']
    · rwa [List.mem_singleton.mp hv']
  | _ =>
    simp only [Visit.into, hkind] at hv'
    exact absurd hv' List.not_mem_nil

/-- Field by field is first the scalars and then the nested records: they touch different things. -/
theorem foldl_take (v : Visit) (fs : List (Field × Path × String))
    (hfs : ∀ x ∈ fs, x.2.1.length = v.path.length + 1) (q : Queue) :
    fs.foldl (Queue.take v) q =
      ⟨q.waiting ++ (if v.path.length + 1 < maxDepth then fs.flatMap v.into else []),
        (fs.filterMap scalarEntry?).foldl keepFirst q.paths⟩ := by
  induction fs generalizing q with
  | nil => simp only [List.foldl_nil, List.flatMap_nil, ite_self, List.append_nil,
      List.filterMap_nil]
  | cons x fs ih =>
    obtain ⟨f, path, key⟩ := x
    have hpath : path.length = v.path.length + 1 := hfs _ List.mem_cons_self
    rw [List.foldl_cons, ih fun x hx => hfs x (List.mem_cons_of_mem _ hx)]
    cases hkind : f.kind with
    | record embedded t =>
      by_cases hdeep : v.path.length + 1 < maxDepth
      · have hpath : ¬ maxDepth ≤ path.length := by omega
        cases embedded <;> simp [Queue.take, Visit.into, scalarEntry?, hkind, hpath, hdeep]
      · have hpath : maxDepth ≤ path.length := by omega
        simp [Queue.take, scalarEntry?, hkind, hpath, hdeep]
    | _ => simp [Queue.take, Visit.into, scalarEntry?, hkind]

/-- A served record leaves its nested records at the back, and its scalars' keys. -/
theorem serve_cons (v : Visit) (rest : List Visit) (m : Std.HashMap String Path) :
    w.serve ⟨v :: rest, m⟩ = ⟨rest ++ w.nestedWithin v, (w.scalars v).foldl keepFirst m⟩ :=
  foldl_take v _ (fun _ => length_of_mem_fields w) _

/-- **A level served** leaves the next one, and its scalars' keys. -/
theorem serve_level (vs rest : List Visit) (m : Std.HashMap String Path) :
    w.serve^[vs.length] ⟨vs ++ rest, m⟩ =
      ⟨rest ++ vs.flatMap w.nestedWithin, (vs.flatMap w.scalars).foldl keepFirst m⟩ := by
  induction vs generalizing rest m with
  | nil => simp only [List.flatMap_nil, List.append_nil, List.foldl_nil]; rfl
  | cons v vs ih =>
    rw [List.length_cons, Function.iterate_succ_apply, List.cons_append, serve_cons,
      List.append_assoc, ih, List.flatMap_cons, List.flatMap_cons, List.foldl_append,
      List.append_assoc]

/-- The queue that holds a level comes to an end, with the keys of all the levels below. -/
theorem serve_levels (levels : Nat) (vs : List Visit) (m : Std.HashMap String Path)
    (hvs : ∀ v ∈ vs, v.path.length + levels + 1 = maxDepth) :
    ∃ n, w.serve^[n] ⟨vs, m⟩ = ⟨[], (w.entries (levels + 1) vs).foldl keepFirst m⟩ := by
  induction levels generalizing vs m with
  | zero =>
    have hnone : vs.flatMap w.nestedWithin = [] := by
      refine List.flatMap_eq_nil_iff.mpr fun v hv => if_neg ?_
      have := hvs v hv
      omega
    have hserve := serve_level w vs [] m
    rw [List.append_nil, List.nil_append, hnone] at hserve
    refine ⟨vs.length, ?_⟩
    rw [hserve, Walk.entries, Walk.entries, List.append_nil]
  | succ levels ih =>
    have hnested : vs.flatMap w.nestedWithin = vs.flatMap w.nested := by
      refine List.flatMap_congr fun v hv => if_pos ?_
      have := hvs v hv
      omega
    have hbelow : ∀ v' ∈ vs.flatMap w.nested, v'.path.length + levels + 1 = maxDepth := by
      intro v' hv'
      obtain ⟨v, hv, hmem⟩ := List.mem_flatMap.mp hv'
      have hlength := length_of_mem_nested w hmem
      have := hvs v hv
      omega
    have hserve := serve_level w vs [] m
    rw [List.append_nil, List.nil_append, hnested] at hserve
    obtain ⟨n, hn⟩ := ih (vs.flatMap w.nested) ((vs.flatMap w.scalars).foldl keepFirst m) hbelow
    have hentries : w.entries (levels + 1 + 1) vs =
        vs.flatMap w.scalars ++ w.entries (levels + 1) (vs.flatMap w.nested) := rfl
    refine ⟨n + vs.length, ?_⟩
    rw [Function.iterate_add_apply, hserve, hn, hentries, List.foldl_append]

/-- **The queue comes to an end, with the field map.** -/
theorem serve_build (root : TypeId) :
    ∃ n, w.serve^[n] (Queue.start root) = ⟨[], (build w root).paths⟩ :=
  serve_levels w 15 [⟨root, [], ""⟩] ∅ fun v hv => by rw [List.mem_singleton.mp hv]; rfl

end Serving

/-! ## The first write stands -/

theorem getElem?_foldl_keepFirst (es : List (String × Path)) (m : Std.HashMap String Path)
    (key : String) : (es.foldl keepFirst m)[key]? = m[key]?.or (es.lookup key) := by
  induction es generalizing m with
  | nil => rw [List.foldl_nil, List.lookup_nil, Option.or_none]
  | cons e es ih =>
    obtain ⟨own, path⟩ := e
    rw [List.foldl_cons, ih, keepFirst, Std.HashMap.getElem?_insertIfNew, List.lookup_cons]
    by_cases hown : own = key
    · subst hown
      cases hm : m[own]? with
      | none =>
        have hnew : own ∉ m := by rw [Std.HashMap.mem_iff_isSome_getElem?, hm]; exact nofun
        simp [hnew]
      | some path' =>
        have hold : own ∈ m := by rw [Std.HashMap.mem_iff_isSome_getElem?, hm]; rfl
        simp [hold]
    · have hne : (key == own) = false := beq_false_of_ne (Ne.symm hown)
      simp [hown, hne]

/-- **The first entry of a key is that of its earliest derivation**, in a list that is in order. -/
theorem lookup_eq_some_iff {ds : List (List Turn × String)}
    (hds : ds.Pairwise fun a b => Earlier a.1 b.1) (key : String) (path : Path) :
    (ds.map entryOf).lookup key = some path ↔
      ∃ turns, (turns, key) ∈ ds ∧ path = pathOf turns ∧
        ∀ turns', (turns', key) ∈ ds → turns' = turns ∨ Earlier turns turns' := by
  induction ds with
  | nil => simp only [List.map_nil, List.lookup_nil, reduceCtorEq, List.not_mem_nil, false_and,
      exists_false]
  | cons d ds ih =>
    obtain ⟨hfirst, hrest⟩ := List.pairwise_cons.mp hds
    obtain ⟨turns₀, own⟩ := d
    rw [List.map_cons, entryOf, List.lookup_cons]
    by_cases hown : own = key
    · subst hown
      rw [beq_self_eq_true]
      constructor
      · rintro ⟨⟩
        refine ⟨turns₀, List.mem_cons_self, rfl, fun turns' h => ?_⟩
        rcases List.mem_cons.mp h with heq | h
        · exact .inl (Prod.mk.inj heq).1
        · exact .inr (hfirst _ h)
      · rintro ⟨turns, hmem, rfl, hleast⟩
        rcases hleast turns₀ List.mem_cons_self with rfl | hearlier
        · rfl
        · rcases List.mem_cons.mp hmem with heq | hmem
          · rw [(Prod.mk.inj heq).1]
          · exact absurd hearlier (Earlier.asymm (hfirst _ hmem))
    · have hmem : ∀ turns, (turns, key) ∈ (turns₀, own) :: ds ↔ (turns, key) ∈ ds := by
        intro turns
        refine ⟨fun h => ?_, List.mem_cons_of_mem _⟩
        rcases List.mem_cons.mp h with heq | h
        · exact absurd (Prod.mk.inj heq).2.symm hown
        · exact h
      rw [beq_false_of_ne (Ne.symm hown)]
      simp only [hmem]
      exact ih hrest

/-- A key is found when it has an entry. -/
theorem lookup_ne_none_iff (es : List (String × Path)) (key : String) :
    es.lookup key ≠ none ↔ key ∈ es.map Prod.fst := by
  rw [Ne, List.lookup_eq_none_iff, List.mem_map]
  constructor
  · intro h
    by_contra hnone
    exact h fun e he => bne_iff_ne.mpr fun heq => hnone ⟨e, he, heq.symm⟩
  · rintro ⟨e, he, rfl⟩ h
    exact bne_iff_ne.mp (h e he) rfl

/-! ## Keys and their paths -/

/-- **Whether turns are a derivation of a key that a field map sees**: one that is no deeper than
the walk goes. -/
def Walk.Reaches (w : Walk) (root : TypeId) (turns : List Turn) (key : String) : Prop :=
  w.Derives root turns key ∧ turns.length ≤ maxDepth

/-- The derivations that the walk from a root meets, in their order. -/
def Walk.met (w : Walk) (root : TypeId) : List (List Turn × String) :=
  w.ended maxDepth [⟨[], root, ""⟩]

variable {w : Walk} {root : TypeId} {key : String} {path : Path}

theorem mem_met {turns : List Turn} : (turns, key) ∈ w.met root ↔ w.Reaches root turns key := by
  rw [Walk.met, mem_ended maxDepth (isLevel_root w root), Walk.Reaches, Nat.zero_add]
  refine and_congr_right fun hderives => and_iff_right ?_
  cases hderives with
  | scalar => simp

theorem pairwise_met (w : Walk) (root : TypeId) :
    (w.met root).Pairwise fun a b => Earlier a.1 b.1 :=
  pairwise_ended maxDepth (isLevel_root w root) (List.pairwise_singleton _ _)

/-- The path of a key is that of the first entry that has it. -/
theorem path?_eq_lookup (w : Walk) (root : TypeId) (key : String) :
    (build w root).path? key = (w.entries maxDepth [⟨root, [], ""⟩]).lookup key := by
  rw [path?, build, getElem?_foldl_keepFirst, Std.HashMap.getElem?_empty, Option.none_or]

theorem mem_entries_of_path? (h : (build w root).path? key = some path) :
    (key, path) ∈ w.entries maxDepth [⟨root, [], ""⟩] := by
  rw [path?_eq_lookup, List.lookup_eq_some_iff] at h
  obtain ⟨before, after, hsplit, -⟩ := h
  rw [hsplit]
  exact List.mem_append_right before List.mem_cons_self

/-- A key is in the map when it has an entry. -/
theorem path?_ne_none_iff : (build w root).path? key ≠ none ↔
    key ∈ (w.entries maxDepth [⟨root, [], ""⟩]).map Prod.fst := by
  rw [path?_eq_lookup, lookup_ne_none_iff]

theorem path?_build (w : Walk) (root : TypeId) (key : String) :
    (build w root).path? key = ((w.met root).map entryOf).lookup key := by
  have hentries : w.entries maxDepth [⟨root, [], ""⟩] = (w.met root).map entryOf :=
    entries_eq w maxDepth [⟨[], root, ""⟩]
  rw [path?_eq_lookup, hentries]

/-- A key leads along a path when its earliest derivation does. -/
theorem path?_eq_some_iff : (build w root).path? key = some path ↔
    ∃ turns, w.Reaches root turns key ∧ path = pathOf turns ∧
      ∀ turns', w.Reaches root turns' key → turns' = turns ∨ Earlier turns turns' := by
  rw [path?_build, lookup_eq_some_iff (pairwise_met w root)]
  simp only [mem_met]

/-- **A field map has exactly the keys that have a derivation, and prefers the earliest.** The queue
of records comes to an end with the map, whether or not the types lead back to themselves; a key is
in it when turns derive it that are no more than the walk is deep; and the key then leads where its
earliest derivation does: none is shorter, and of the equally long ones it is the first. -/
theorem build_earliest (w : Walk) (root : TypeId) :
    (∃ n, w.serve^[n] (Queue.start root) = ⟨[], (build w root).paths⟩) ∧
    ∀ key,
      ((build w root).path? key ≠ none ↔ ∃ turns, w.Reaches root turns key) ∧
      ∀ path, (build w root).path? key = some path ↔
        ∃ turns, w.Reaches root turns key ∧ path = pathOf turns ∧
          ∀ turns', w.Reaches root turns' key → turns' = turns ∨ Earlier turns turns' := by
  refine ⟨serve_build w root, fun key => ⟨?_, fun path => path?_eq_some_iff⟩⟩
  rw [path?_build, lookup_ne_none_iff, List.map_map, List.mem_map]
  constructor
  · rintro ⟨⟨turns, own⟩, hmem, rfl⟩
    exact ⟨turns, mem_met.mp hmem⟩
  · rintro ⟨turns, hreaches⟩
    exact ⟨(turns, key), mem_met.mpr hreaches, rfl⟩

end Rowbind.FieldMap
