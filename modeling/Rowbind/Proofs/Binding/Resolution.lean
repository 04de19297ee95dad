import Mathlib.Algebra.GroupWithZero.Nat
import Rowbind.Binding.Named
import Rowbind.Proofs.Outcome
import Rowbind.Proofs.Template.Wording

/-!
# What parameters are bound as

Binding a named argument is two things in a row. Its parameters are **resolved**: every occurrence
gets its share of the values, one value or the elements of a list, and never none (`expand_spec`).
Then the template is written with as many placeholders for each occurrence as its share has values
(`boundAs`). The second thing cannot fail: no occurrence becomes no placeholder, and the
placeholders written are as many as the values (`boundAs_eq`). So a binding succeeds exactly when
its parameters resolve, and otherwise fails as they do (`bindSources_eq`).

With one source every occurrence is resolved from it (`resolveFrom_single`), so one record or one
map is bound by resolving the template's names from it (`bindNamed_single`). With several, each
resolves its own stretch of the occurrences (`resolveFrom_replicate`).
-/

namespace Rowbind

/-- **The values of each parameter of a source**, in order. -/
def resolveAll (o : Options) (source : Source) (names : List String) :
    Except Error (List (List Value)) :=
  names.mapM fun name => do expand name (← resolve o source name)

/-- **A template and values**, where each occurrence stands for its share of the values. -/
def boundAs (d : Dialect) (template : String) (shares : List (List Value)) :
    Except Error Bound := do
  let rendered ← Template.renderNamed template d (.ofArray (shares.map List.length).toArray)
  return ⟨rendered.sql, shares.flatten⟩

/-! ## Shares -/

/-- A parameter is bound as at least one value, and as values that can be bound. -/
theorem expand_spec {name : String} {v : Value} {share : List Value}
    (h : expand name v = .ok share) : share ≠ [] ∧ ∀ x ∈ share, x.isBindable = true := by
  cases v with
  | list items =>
    cases items with
    | nil => cases h
    | cons a items =>
      cases hfind : (a :: items).find? (!·.isBindable) with
      | some v =>
        simp only [expand, hfind] at h
        cases h
      | none =>
        simp only [expand, hfind] at h
        cases h
        refine ⟨List.cons_ne_nil _ _, ?_⟩
        intro x hx
        simpa using List.find?_eq_none.mp hfind x hx
  | map m => cases h
  | _ =>
    cases h
    exact ⟨List.cons_ne_nil _ _, fun x hx => by rw [List.mem_singleton.mp hx]; rfl⟩

/-- Every occurrence has a share, and none is empty. -/
theorem resolveFrom_spec {o : Options} {sources : List Source} {share position : Nat}
    {names : List String} {shares : List (List Value)}
    (h : resolveFrom o sources share position names = .ok shares) :
    shares.length = names.length ∧ ∀ values ∈ shares, values ≠ [] := by
  induction names generalizing position shares with
  | nil =>
    cases h
    exact ⟨rfl, fun _ hmem => absurd hmem List.not_mem_nil⟩
  | cons name names ih =>
    obtain ⟨v, -, h⟩ := bind_eq_ok.mp h
    obtain ⟨own, hown, h⟩ := bind_eq_ok.mp h
    obtain ⟨rest, hrest, h⟩ := bind_eq_ok.mp h
    cases h
    obtain ⟨hlength, hne⟩ := ih hrest
    refine ⟨by rw [List.length_cons, List.length_cons, hlength], ?_⟩
    intro values hmem
    rcases List.mem_cons.mp hmem with rfl | hmem
    · exact (expand_spec hown).1
    · exact hne values hmem

/-! ## Occurrences and their sources -/

/-- Occurrences one after another are resolved one after another. -/
theorem resolveFrom_append (o : Options) (sources : List Source) (share position : Nat)
    (names names' : List String) :
    resolveFrom o sources share position (names ++ names') = do
      let first ← resolveFrom o sources share position names
      let rest ← resolveFrom o sources share (position + names.length) names'
      return first ++ rest := by
  induction names generalizing position with
  | nil =>
    rw [List.nil_append, resolveFrom, ok_bind, List.length_nil, Nat.add_zero]
    cases resolveFrom o sources share position names' <;> rfl
  | cons name names ih =>
    have hnext : position + (name :: names).length = position + 1 + names.length := by
      rw [List.length_cons]
      omega
    rw [List.cons_append, resolveFrom, resolveFrom, ih, hnext]
    simp only [bind_assoc, pure_bind]
    rfl

/-- Occurrences of one source are resolved from it. -/
theorem resolveFrom_of_source {o : Options} {sources : List Source} {share position : Nat}
    {source : Source} {names : List String}
    (h : ∀ k < names.length, sourceOf sources share (position + k) = source) :
    resolveFrom o sources share position names = resolveAll o source names := by
  induction names generalizing position with
  | nil => rfl
  | cons name names ih =>
    have hhead : sourceOf sources share position = source := h 0 (Nat.zero_lt_succ _)
    have htail : resolveFrom o sources share (position + 1) names = resolveAll o source names :=
      ih fun k hk => by
        rw [Nat.add_assoc, Nat.add_comm 1 k]
        exact h (k + 1) (Nat.succ_lt_succ hk)
    rw [resolveFrom, hhead, htail]
    simp only [resolveAll, List.mapM_cons, bind_assoc]

/-- With one source, every occurrence is resolved from it. -/
theorem resolveFrom_single (o : Options) (source : Source) (names : List String) :
    resolveFrom o [source] (names.length / [source].length) 0 names =
      resolveAll o source names := by
  apply resolveFrom_of_source
  intro k hk
  have hzero : (0 + k) / max (names.length / [source].length) 1 = 0 := by
    rw [List.length_singleton, Nat.div_one]
    exact Nat.div_eq_of_lt (by omega)
  unfold sourceOf
  rw [hzero]
  rfl

/-- Every parameter of a source has a share, and none is empty. -/
theorem resolveAll_spec {o : Options} {source : Source} {names : List String}
    {shares : List (List Value)} (h : resolveAll o source names = .ok shares) :
    shares.length = names.length ∧ ∀ values ∈ shares, values ≠ [] :=
  resolveFrom_spec ((resolveFrom_single o source names).trans h)

/-- An occurrence in a source's stretch falls to that source. -/
theorem sourceOf_stretch (before after : List Source) (source : Source) {share k : Nat}
    (hk : k < share) :
    sourceOf (before ++ source :: after) share (before.length * share + k) = source := by
  have hplace : (before.length * share + k) / max share 1 = before.length := by
    rw [Nat.max_eq_left (by omega), Nat.mul_comm, Nat.mul_add_div (by omega),
      Nat.div_eq_of_lt hk, Nat.add_zero]
  unfold sourceOf
  rw [hplace, List.getElem?_append_right (Nat.le_refl _), Nat.sub_self]
  rfl

/-- **Each source resolves its own stretch of the occurrences.** The induction is on the sources
that are left; those before have had their stretches. -/
theorem resolveFrom_replicate (o : Options) (names : List String) (sources before : List Source) :
    resolveFrom o (before ++ sources) names.length (before.length * names.length)
        (List.replicate sources.length names).flatten =
      List.flatten <$> sources.mapM (resolveAll o · names) := by
  induction sources generalizing before with
  | nil => rfl
  | cons source sources ih =>
    have hown : resolveFrom o (before ++ source :: sources) names.length
        (before.length * names.length) names = resolveAll o source names :=
      resolveFrom_of_source fun k hk => sourceOf_stretch before sources source hk
    have hrest := ih (before ++ [source])
    rw [List.append_assoc, List.singleton_append, List.length_append, List.length_singleton,
      Nat.add_mul, Nat.one_mul] at hrest
    rw [List.length_cons, List.replicate_succ, List.flatten_cons, resolveFrom_append, hown, hrest,
      List.mapM_cons]
    simp only [map_eq_pure_bind, bind_assoc, pure_bind, List.flatten_cons]

/-! ## Writing the template -/

namespace Template

/-- Given counts are the counts of the first occurrences. -/
theorem map_ofArray (counts : List Nat) :
    (List.range counts.length).map (Repeats.ofArray counts.toArray) = counts := by
  refine List.ext_getElem (by rw [List.length_map, List.length_range]) ?_
  intro k h h'
  rw [List.getElem_map, List.getElem_range, Repeats.ofArray]
  simp [h']

end Template

/-- **Values are bound as they are shared out**: with a share for each occurrence, none of them
empty, writing the template succeeds, and has a placeholder for each value. -/
theorem boundAs_eq (d : Dialect) (template : String) {shares : List (List Value)}
    (hlength : shares.length = (Template.parameterNames template.toList).length)
    (hshares : ∀ share ∈ shares, share ≠ []) :
    ∃ rendered, Template.renderNamed template d (.ofArray (shares.map List.length).toArray) =
        .ok rendered ∧ rendered.placeholders = shares.flatten.length ∧
      boundAs d template shares = .ok ⟨rendered.sql, shares.flatten⟩ := by
  let repeats := Repeats.ofArray (shares.map List.length).toArray
  let os := Template.occurrences (Template.tokens .named template.toList)
  have hcounts : (List.range os.length).map repeats = shares.map List.length := by
    have hos : os.length = (shares.map List.length).length := by
      rw [List.length_map, hlength, Template.parameterNames, List.length_map]
    rw [hos]
    exact Template.map_ofArray _
  have hfilled : ∀ k < os.length, repeats k ≠ 0 := by
    intro k hk hzero
    have hmem : repeats k ∈ shares.map List.length := by
      rw [← hcounts]
      exact List.mem_map_of_mem (List.mem_range.mpr hk)
    obtain ⟨share, hshare, hempty⟩ := List.mem_map.mp hmem
    exact hshares share hshare (List.eq_nil_of_length_eq_zero (hempty.trans hzero))
  have hrender := Template.render_of_filled .named template d repeats hfilled
  refine ⟨_, hrender, ?_, ?_⟩
  · show ((List.range os.length).map repeats).sum = _
    rw [hcounts, List.length_flatten]
  · rw [boundAs, Template.renderNamed, hrender]
    rfl

/-- **A binding resolves, then writes.** Once every occurrence has its share, nothing can go wrong;
in particular the placeholders are never miscounted. -/
theorem bindSources_eq (d : Dialect) (template : String) (o : Options) (sources : List Source) :
    bindSources d template o sources =
      resolveFrom o sources ((Template.parameterNames template.toList).length / sources.length) 0
        (Template.parameterNames template.toList) >>= boundAs d template := by
  unfold bindSources
  cases hresolve : resolveFrom o sources
      ((Template.parameterNames template.toList).length / sources.length) 0
      (Template.parameterNames template.toList) with
  | error e => simp only [hresolve, error_bind]
  | ok shares =>
    obtain ⟨hlength, hshares⟩ := resolveFrom_spec hresolve
    obtain ⟨rendered, hrender, hcount, hbound⟩ := boundAs_eq d template hlength hshares
    simp only [hresolve, ok_bind, hrender, hbound]
    rw [if_neg (not_not.mpr hcount)]
    rfl

/-- A template whose parameters have these shares is bound as it is written with them. -/
theorem bindSources_of_shares {d : Dialect} {template sql : String} {o : Options}
    {sources : List Source} {names written : List String} {share count : Nat}
    (shares : List (List Value)) (hnames : Template.parameterNames template.toList = names)
    (hshare : names.length / sources.length = share)
    (hshares : resolveFrom o sources share 0 names = .ok shares)
    (hrendered : Template.renderNamed template d (.ofArray (shares.map List.length).toArray) =
      .ok ⟨sql, written, count⟩) :
    bindSources d template o sources = .ok ⟨sql, shares.flatten⟩ := by
  rw [bindSources_eq, hnames, hshare, hshares, ok_bind, boundAs, hrendered]
  rfl

section Sources

variable {c : Catalog} {o : Options} {argument : Argument} {sources : List Source}
  (d : Dialect) {template : String} (hsources : argument.sources? c o = some sources)
include hsources

/-- One record or one map is bound to the template as it stands. -/
theorem bindNamed_of_alone (hsingle : argument.isBatch = false) :
    bindNamed c d template argument o = bindSources d template o sources := by
  rw [bindNamed, hsources]
  simp only [hsingle]
  rfl

/-- A batch is bound to the template repeated for its elements. -/
theorem bindNamed_of_repeated (hbatch : argument.isBatch = true) (hne : sources ≠ [])
    {text : String} (htext : Template.repeatValuesGroup template sources.length = .ok text) :
    bindNamed c d template argument o = bindSources d text o sources := by
  rw [bindNamed, hsources]
  simp only [hbatch, if_true, if_neg (mt List.isEmpty_iff.mp hne), htext]
  rfl

end Sources

/-- What the names of a record or a map stand for. -/
def Argument.source (c : Catalog) (o : Options) : Argument → Source
  | record r => .ofRecord c o r
  | map m => .ofMap m
  | _ => fun _ => none

/-- **One record or one map** is bound by resolving the template's parameters from it. -/
theorem bindNamed_single (c : Catalog) (d : Dialect) (template : String) (o : Options)
    {argument : Argument} (hnamed : argument.isNamed = true) (hsingle : argument.isBatch = false) :
    bindNamed c d template argument o =
      resolveAll o (argument.source c o) (Template.parameterNames template.toList) >>=
        boundAs d template := by
  have hsource : argument.sources? c o = some [argument.source c o] := by
    cases argument with
    | record r => rfl
    | map m => rfl
    | value v => cases hnamed
    | records rs => cases hsingle
    | maps ms => cases hsingle
  rw [bindNamed_of_alone d hsource hsingle, bindSources_eq, resolveFrom_single]

/-- One record or one map is refused exactly as its parameters are: once they are resolved, it would
have been bound. -/
theorem bindNamed_single_eq_error_iff (c : Catalog) (d : Dialect) (template : String) (o : Options)
    {argument : Argument} (hnamed : argument.isNamed = true) (hsingle : argument.isBatch = false)
    {e : Error} :
    bindNamed c d template argument o = .error e ↔
      resolveAll o (argument.source c o) (Template.parameterNames template.toList) = .error e := by
  rw [bindNamed_single c d template o hnamed hsingle]
  cases hresolve : resolveAll o (argument.source c o)
      (Template.parameterNames template.toList) with
  | error e' => rw [error_bind, Except.error.injEq, Except.error.injEq]
  | ok shares =>
    obtain ⟨hlength, hshares⟩ := resolveAll_spec hresolve
    obtain ⟨_, -, -, hbound⟩ := boundAs_eq d template hlength hshares
    rw [ok_bind, hbound]
    exact ⟨nofun, nofun⟩

end Rowbind
