import Mathlib.Data.List.Forall2
import Mathlib.Data.List.Nodup
import Rowbind.Record.Declaration
import Rowbind.Record.FieldMapCache

/-!
# What a shared field map is

Field maps are shared by everything that binds or scans, under any mix of rules, so it must not
matter to a request which requests went before. It does not: an answer is the map built for the
request, whether it was built just now or long ago (`FieldMapCache.requestAll_spec`).

The cache is kept sound: no key is in it twice, and each has the map built for it
(`FieldMapCache.Sound`). An answer is an entry of it, under the request's own key
(`FieldMapCache.Holds`), and since entries are only ever added behind the others, it stays that
entry. So two answers are in one place exactly if they are the entry of one key.
-/

namespace Rowbind

namespace FieldMapCache

/-- **Answers requests one after another**, and gives the cache that they leave. -/
def requestAll (c : Catalog) : List FieldMapKey → FieldMapCache →
    List (Nat × FieldMap) × FieldMapCache
  | [], cache => ([], cache)
  | key :: keys, cache =>
    let (answer, cache) := cache.request c key
    let (answers, cache) := requestAll c keys cache
    (answer :: answers, cache)

/-- **A cache that can be trusted**: it has a key once, with the map built for that key. -/
structure Sound (c : Catalog) (cache : FieldMapCache) : Prop where
  nodup : (cache.built.map Prod.fst).Nodup
  fresh : ∀ key map, (key, map) ∈ cache.built → map = FieldMap.of c key.type key.rule

/-- The answer is the cache's entry of a key. -/
def Holds (cache : FieldMapCache) (key : FieldMapKey) (answer : Nat × FieldMap) : Prop :=
  cache.built[answer.1]? = some (key, answer.2)

theorem sound_empty (c : Catalog) : empty.Sound c where
  nodup := List.nodup_nil
  fresh _ _ hmem := absurd hmem List.not_mem_nil

variable {c : Catalog} {cache : FieldMapCache}

/-- A new key's map, added behind the others, leaves the cache as sound as it was. -/
theorem Sound.add (h : cache.Sound c) {key : FieldMapKey}
    (hnew : key ∉ cache.built.map Prod.fst) :
    Sound c ⟨cache.built ++ [(key, FieldMap.of c key.type key.rule)]⟩ where
  nodup := by
    rw [List.map_append, List.nodup_append]
    refine ⟨h.nodup, List.nodup_singleton _, fun k hk k' hk' heq => hnew ?_⟩
    rw [heq, List.mem_singleton.mp hk'] at hk
    exact hk
  fresh key' map hmem := by
    rcases List.mem_append.mp hmem with hmem | hmem
    · exact h.fresh key' map hmem
    · cases List.mem_singleton.mp hmem
      rfl

/-- A sound cache has for a key the map that would be built for it. -/
theorem Sound.eq_of_holds (h : cache.Sound c) {key : FieldMapKey} {answer : Nat × FieldMap}
    (hat : cache.Holds key answer) : answer.2 = FieldMap.of c key.type key.rule :=
  h.fresh key answer.2 (List.mem_of_getElem? hat)

/-- **Answers share a place** in a sound cache exactly if they are the entry of one key. -/
theorem Sound.place_eq_iff (h : cache.Sound c) {key key' : FieldMapKey}
    {answer answer' : Nat × FieldMap} (hat : cache.Holds key answer)
    (hat' : cache.Holds key' answer') : answer.1 = answer'.1 ↔ key = key' := by
  have hkey : (cache.built.map Prod.fst)[answer.1]? = some key := by
    rw [List.getElem?_map, hat, Option.map_some]
  have hkey' : (cache.built.map Prod.fst)[answer'.1]? = some key' := by
    rw [List.getElem?_map, hat', Option.map_some]
  rw [← List.getElem?_inj (List.getElem?_eq_some_iff.mp hkey).1 h.nodup, hkey, hkey',
    Option.some_inj]

/-- An entry of a cache is one of every cache that begins as it does. -/
theorem Holds.mono {key : FieldMapKey} {answer : Nat × FieldMap} (hat : cache.Holds key answer)
    {after : FieldMapCache} (hbegins : cache.built <+: after.built) : after.Holds key answer := by
  obtain ⟨added, hadded⟩ := hbegins
  show after.built[answer.1]? = _
  rw [← hadded, List.getElem?_append_left (List.getElem?_eq_some_iff.mp hat).1]
  exact hat

/-! ## One request -/

/-- A key that is found has its entry in the place where it is found. -/
theorem place?_cases (cache : FieldMapCache) (key : FieldMapKey) :
    (∃ place map, cache.place? key = some place ∧ cache.built.lookup key = some map ∧
        cache.Holds key (place, map)) ∨
      cache.place? key = none ∧ key ∉ cache.built.map Prod.fst := by
  obtain ⟨built⟩ := cache
  simp only [place?, Holds]
  induction built with
  | nil => exact .inr ⟨rfl, List.not_mem_nil⟩
  | cons e built ih =>
    obtain ⟨k, m⟩ := e
    -- behind an entry of another key, places are one further on
    by_cases hk : k = key
    · subst hk
      exact .inl ⟨0, m, by simp [List.findIdx?_cons], by simp, rfl⟩
    · have hk' : (key == k) = false := beq_eq_false_iff_ne.mpr (Ne.symm hk)
      rcases ih with ⟨place, map, hplace, hlookup, hat⟩ | ⟨hplace, hnot⟩
      · exact .inl ⟨place + 1, map, by simp [List.findIdx?_cons, hk, hplace],
          by simp [List.lookup_cons, hk', hlookup], by simpa using hat⟩
      · exact .inr ⟨by simp [List.findIdx?_cons, hk, hplace], by simpa [Ne.symm hk] using hnot⟩

/-- **A request finds its key's entry, or adds it** behind the others. -/
theorem request_cases (c : Catalog) (cache : FieldMapCache) (key : FieldMapKey) :
    (∃ answer, cache.Holds key answer ∧ cache.request c key = (answer, cache)) ∨
      key ∉ cache.built.map Prod.fst ∧
        cache.request c key =
          ((cache.built.length, FieldMap.of c key.type key.rule),
            ⟨cache.built ++ [(key, FieldMap.of c key.type key.rule)]⟩) := by
  rcases cache.place?_cases key with ⟨place, map, hplace, hlookup, hat⟩ | ⟨hplace, hnot⟩
  · exact .inl ⟨(place, map), hat, by simp only [request, hplace, hlookup]⟩
  · exact .inr ⟨hnot, by simp only [request, hplace]⟩

/-- **What one request does** to a sound cache: it is sound still, it begins with the entries that
it had, and the answer is its entry of the key. -/
theorem Sound.request (h : cache.Sound c) (key : FieldMapKey) :
    (cache.request c key).2.Sound c ∧ cache.built <+: (cache.request c key).2.built ∧
      (cache.request c key).2.Holds key (cache.request c key).1 := by
  rcases cache.request_cases c key with ⟨answer, hat, hrequest⟩ | ⟨hnew, hrequest⟩
  · rw [hrequest]
    exact ⟨h, List.prefix_refl _, hat⟩
  · rw [hrequest]
    exact ⟨h.add hnew, List.prefix_append _ _, List.getElem?_concat_length⟩

/-! ## A run of requests -/

theorem requestAll_append (c : Catalog) (earlier later : List FieldMapKey)
    (cache : FieldMapCache) :
    (cache.requestAll c (earlier ++ later)).2 =
      ((cache.requestAll c earlier).2.requestAll c later).2 := by
  induction earlier generalizing cache with
  | nil => rfl
  | cons key earlier ih => exact ih _

/-- **What a run of requests does** to a sound cache. Every answer is the entry of its request's key
at the end of the run, not only when it was given. -/
theorem Sound.requestAll (keys : List FieldMapKey) (h : cache.Sound c) :
    (cache.requestAll c keys).2.Sound c ∧ cache.built <+: (cache.requestAll c keys).2.built ∧
      List.Forall₂ (cache.requestAll c keys).2.Holds keys (cache.requestAll c keys).1 := by
  induction keys generalizing cache with
  | nil => exact ⟨h, List.prefix_refl _, .nil⟩
  | cons key keys ih =>
    obtain ⟨hsound, hbefore, hanswer⟩ := h.request key
    obtain ⟨hsound', hafter, hanswers⟩ := ih hsound
    exact ⟨hsound', hbefore.trans hafter, .cons (hanswer.mono hafter) hanswers⟩

/-- **A shared field map is the one built for the request**, whatever was requested before and after
it. Requests share a map exactly if they are for one type by one rule, and an entry never changes
once it is built. -/
theorem requestAll_spec (c : Catalog) (keys : List FieldMapKey) :
    let answers := (empty.requestAll c keys).1
    let cache := (empty.requestAll c keys).2
    answers.map Prod.snd = keys.map (fun key =>
        FieldMap.build ⟨c.schema, key.rule.tag, c.rename key.rule.mapper, key.rule.separator⟩
          key.type) ∧
      (∀ key answer key' answer', (key, answer) ∈ keys.zip answers →
        (key', answer') ∈ keys.zip answers →
        (answer.1 = answer'.1 ↔ key.type = key'.type ∧ key.rule.tag = key'.rule.tag ∧
          key.rule.mapper = key'.rule.mapper ∧ key.rule.separator = key'.rule.separator)) ∧
      (∀ key answer, (key, answer) ∈ keys.zip answers →
        cache.built[answer.1]? = some (key, answer.2)) ∧
      ∀ later, cache.built <+: (empty.requestAll c (keys ++ later)).2.built := by
  obtain ⟨hsound, -, hanswers⟩ := (sound_empty c).requestAll keys
  have hholds : ∀ key answer, (key, answer) ∈ keys.zip (empty.requestAll c keys).1 →
      (empty.requestAll c keys).2.Holds key answer :=
    fun _ _ => (List.forall₂_iff_zip.mp hanswers).2
  refine ⟨?_, fun key answer key' answer' hmem hmem' => ?_, hholds, fun later => ?_⟩
  · rw [← List.forall₂_eq_eq_eq, List.forall₂_map_left_iff, List.forall₂_map_right_iff]
    exact (hanswers.imp fun _ _ hat => hsound.eq_of_holds hat).flip
  · rw [hsound.place_eq_iff (hholds key answer hmem) (hholds key' answer' hmem')]
    obtain ⟨type, tag, mapper, separator⟩ := key
    obtain ⟨type', tag', mapper', separator'⟩ := key'
    simp
  · rw [requestAll_append]
    exact (hsound.requestAll later).2.1

/-- One type by two separators, and by the first again: the third request shares the map of the
first, and neither that of the second. -/
theorem requestAll_spec_of_three :
    let c := Catalog.ofDeclarations #[] fun _ name => name
    let column : FieldMapKey := ⟨⟨0⟩, "db", .snakeCase, "_"⟩
    let parameter : FieldMapKey := ⟨⟨0⟩, "db", .snakeCase, "."⟩
    let first := (0, FieldMap.of c column.type column.rule)
    let second := (1, FieldMap.of c parameter.type parameter.rule)
    (empty.requestAll c [column, parameter, column]).1 = [first, second, first] ∧
      first.1 ≠ second.1 := by
  intro c column parameter first second
  have hanswers : (empty.requestAll c [column, parameter, column]).1 = [first, second, first] := rfl
  obtain ⟨-, hshared, -⟩ := requestAll_spec c [column, parameter, column]
  rw [hanswers] at hshared
  have hiff := hshared column first parameter second (by simp) (by simp)
  exact ⟨hanswers, fun h => absurd (hiff.mp h).2.2.2 (by decide)⟩

end FieldMapCache

end Rowbind
