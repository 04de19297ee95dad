import Rowbind.Proofs.Binding.Resolution
import Rowbind.Proofs.Template.RepeatedGroup
import Rowbind.Record.Declaration

/-!
# Binding a batch

A batch is bound as its elements are, one after another: the values are those of the elements in
order, and the text is the template with its group repeated, rewritten with the elements' shares in
order. The first element that cannot be bound alone decides the error, and a template without a
group to repeat is refused before any element is looked at (`bindNamed_batch`).

The step from the batch to its elements is that the repeated group's occurrences fall to the
elements in equal stretches (`parameterNames_repeatValuesGroup`, `resolveFrom_replicate`). How many
values an element's lists take has no part in it: shares are counted by occurrence.
-/

namespace Rowbind

namespace Argument

/-- **The elements of a batch**, each an argument of its own. -/
def elements : Argument → List Argument
  | records rs => rs.map record
  | maps ms => ms.map map
  | argument => [argument]

theorem sources?_elements (c : Catalog) (o : Options) {batch : Argument}
    (h : batch.isBatch = true) :
    batch.sources? c o = some (batch.elements.map (source c o)) := by
  cases batch with
  | records rs => simp only [sources?, elements, List.map_map]; rfl
  | maps ms => simp only [sources?, elements, List.map_map]; rfl
  | _ => cases h

/-- An element is one record or one map. -/
theorem single_of_mem_elements {batch e : Argument} (h : batch.isBatch = true)
    (he : e ∈ batch.elements) : e.isNamed = true ∧ e.isBatch = false := by
  cases batch with
  | records rs =>
    obtain ⟨r, -, rfl⟩ := List.mem_map.mp he
    exact ⟨rfl, rfl⟩
  | maps ms =>
    obtain ⟨m, -, rfl⟩ := List.mem_map.mp he
    exact ⟨rfl, rfl⟩
  | _ => cases h

end Argument

section Batch

variable (c : Catalog) (d : Dialect) (template : String) (o : Options)

/-- An element is bound by resolving the template's parameters from it. -/
theorem bindNamed_element {batch e : Argument} (hbatch : batch.isBatch = true)
    (he : e ∈ batch.elements) :
    bindNamed c d template e o =
      resolveAll o (e.source c o) (Template.parameterNames template.toList) >>=
        boundAs d template := by
  obtain ⟨hnamed, hsingle⟩ := Argument.single_of_mem_elements hbatch he
  exact bindNamed_single c d template o hnamed hsingle

/-- A batch is bound by resolving the template's parameters from each element in turn. -/
theorem bindNamed_elements {batch : Argument} {text : String} (hbatch : batch.isBatch = true)
    (hne : batch.elements ≠ [])
    (htext : Template.repeatValuesGroup template batch.elements.length = .ok text) :
    bindNamed c d template batch o =
      (List.flatten <$> batch.elements.mapM fun e =>
        resolveAll o (e.source c o) (Template.parameterNames template.toList)) >>=
        boundAs d text := by
  obtain ⟨n, hn⟩ : ∃ n, batch.elements.length = n + 1 :=
    Nat.exists_eq_succ_of_ne_zero fun h => hne (List.eq_nil_of_length_eq_zero h)
  have hnames : Template.parameterNames text.toList =
      (List.replicate batch.elements.length (Template.parameterNames template.toList)).flatten := by
    rw [hn] at htext ⊢
    exact Template.parameterNames_repeatValuesGroup htext
  have hshare : (Template.parameterNames text.toList).length / batch.elements.length =
      (Template.parameterNames template.toList).length := by
    rw [hnames, List.length_flatten, List.map_replicate, List.sum_replicate_nat, hn,
      Nat.mul_div_cancel_left _ (Nat.succ_pos n)]
  have hresolve := resolveFrom_replicate o (Template.parameterNames template.toList)
    (batch.elements.map (Argument.source c o)) []
  rw [List.nil_append, List.length_nil, Nat.zero_mul, List.length_map, List.mapM_map] at hresolve
  rw [bindNamed_of_repeated d (Argument.sources?_elements c o hbatch) hbatch
    (mt List.map_eq_nil_iff.mp hne) (by rwa [List.length_map]), bindSources_eq, List.length_map,
    hshare, hnames, hresolve]
  rfl

/-- A batch whose template has no group to repeat is refused. -/
theorem bindNamed_refused {batch : Argument} {count : Nat} {fault : TemplateFault}
    (hbatch : batch.isBatch = true) (hne : batch.elements ≠ [])
    (h : Template.repeatValuesGroup template count = .error fault) :
    bindNamed c d template batch o = .error (.invalidTemplate fault) := by
  rw [bindNamed, Argument.sources?_elements c o hbatch]
  simp only [hbatch, if_true, List.isEmpty_map, List.length_map,
    Template.repeatValuesGroup_error h]
  rw [if_neg (by rwa [List.isEmpty_iff])]
  rfl

section Repeated

variable {batch : Argument} {text : String} (hbatch : batch.isBatch = true)
  (hne : batch.elements ≠ [])
  (htext : Template.repeatValuesGroup template batch.elements.length = .ok text)
include hbatch hne htext

omit hne htext in
/-- Elements that are bound alone have their shares. -/
theorem shares_of_elements {es : List Argument} {bounds : List Bound}
    (hes : ∀ e ∈ es, e ∈ batch.elements)
    (h : List.Forall₂ (fun e b => bindNamed c d template e o = .ok b) es bounds) :
    ∃ shares,
      es.mapM (fun e =>
        resolveAll o (e.source c o) (Template.parameterNames template.toList)) = .ok shares ∧
      List.Forall₂ (fun b share => boundAs d template share = .ok b ∧
        share.length = (Template.parameterNames template.toList).length) bounds shares ∧
      ∀ values ∈ shares.flatten, values ≠ [] := by
  induction h with
  | nil => exact ⟨[], rfl, .nil, fun _ hmem => absurd hmem List.not_mem_nil⟩
  | cons hbound _ ih =>
    obtain ⟨shares, hshares, hrest, hne⟩ := ih fun e he => hes e (List.mem_cons_of_mem _ he)
    rw [bindNamed_element c d template o hbatch (hes _ List.mem_cons_self)] at hbound
    obtain ⟨share, hshare, hbound⟩ := bind_eq_ok.mp hbound
    obtain ⟨hlength, hown⟩ := resolveAll_spec hshare
    refine ⟨share :: shares, ?_, .cons ⟨hbound, hlength⟩ hrest, fun values hmem => ?_⟩
    · rw [List.mapM_cons, hshare, ok_bind, hshares, ok_bind]
      rfl
    · rw [List.flatten_cons] at hmem
      rcases List.mem_append.mp hmem with hmem | hmem
      · exact hown values hmem
      · exact hne values hmem

omit hbatch hne htext in
/-- Shares of one length are that many times their number. -/
theorem length_shares {bounds : List Bound} {shares : List (List (List Value))} {count : Nat}
    (h : List.Forall₂ (fun b share => boundAs d template share = .ok b ∧ share.length = count)
      bounds shares) : shares.flatten.length = bounds.length * count := by
  induction h with
  | nil => rw [List.flatten_nil, List.length_nil, List.length_nil, Nat.zero_mul]
  | cons hshare _ ih =>
    rw [List.flatten_cons, List.length_append, ih, hshare.2, List.length_cons, Nat.succ_mul,
      Nat.add_comm]

omit hbatch hne htext in
/-- The values bound are those of the shares. -/
theorem values_shares {bounds : List Bound} {shares : List (List (List Value))} {count : Nat}
    (h : List.Forall₂ (fun b share => boundAs d template share = .ok b ∧ share.length = count)
      bounds shares) : bounds.map Bound.values = shares.map List.flatten := by
  induction h with
  | nil => rfl
  | cons hshare _ ih =>
    obtain ⟨rendered, -, hbound⟩ := bind_eq_ok.mp hshare.1
    cases hbound
    rw [List.map_cons, List.map_cons, ih]

/-- A batch whose elements are bound alone is bound with all their shares. -/
theorem bindNamed_of_elements {bounds : List Bound}
    (h : List.Forall₂ (fun e b => bindNamed c d template e o = .ok b) batch.elements bounds) :
    ∃ (shares : List (List (List Value))) (b : Bound),
      List.Forall₂ (fun b share => boundAs d template share = .ok b ∧
        share.length = (Template.parameterNames template.toList).length) bounds shares ∧
      bindNamed c d template batch o = .ok b ∧
      boundAs d text shares.flatten = .ok b ∧
      b.values = (bounds.map Bound.values).flatten := by
  obtain ⟨shares, hresolved, hshares, hnonempty⟩ :=
    shares_of_elements c d template o hbatch (fun _ he => he) h
  obtain ⟨n, hn⟩ : ∃ n, batch.elements.length = n + 1 :=
    Nat.exists_eq_succ_of_ne_zero fun h => hne (List.eq_nil_of_length_eq_zero h)
  have hcount : shares.flatten.length = (Template.parameterNames text.toList).length := by
    rw [hn] at htext
    rw [length_shares d template hshares, ← h.length_eq, hn,
      Template.parameterNames_repeatValuesGroup htext, List.length_flatten, List.map_replicate,
      List.sum_replicate_nat]
  obtain ⟨rendered, -, -, hbound⟩ := boundAs_eq d text hcount hnonempty
  refine ⟨shares, ⟨rendered.sql, shares.flatten.flatten⟩, hshares, ?_, hbound, ?_⟩
  · rw [bindNamed_elements c d template o hbatch hne htext, hresolved]
    exact hbound
  · rw [values_shares d template hshares]
    exact List.flatten_flatten

/-- A batch fails as its first failing element does. -/
theorem bindNamed_of_first_error {before after : List Argument} {e : Argument} {err : Error}
    (hsplit : batch.elements = before ++ e :: after)
    (hbefore : ∀ x ∈ before, ∃ b, bindNamed c d template x o = .ok b)
    (he : bindNamed c d template e o = .error err) :
    bindNamed c d template batch o = .error err := by
  have hmem : ∀ x ∈ before ++ [e], x ∈ batch.elements := by
    intro x hx
    rw [hsplit]
    rcases List.mem_append.mp hx with hx | hx
    · exact List.mem_append_left _ hx
    · rw [List.mem_singleton.mp hx]
      exact List.mem_append_right _ List.mem_cons_self
  have hresolved : ∀ x ∈ before, ∃ shares, resolveAll o (x.source c o)
      (Template.parameterNames template.toList) = .ok shares := by
    intro x hx
    obtain ⟨b, hb⟩ := hbefore x hx
    rw [bindNamed_element c d template o hbatch (hmem x (List.mem_append_left _ hx))] at hb
    obtain ⟨shares, hshares, -⟩ := bind_eq_ok.mp hb
    exact ⟨shares, hshares⟩
  have hfailed : resolveAll o (e.source c o) (Template.parameterNames template.toList) =
      .error err := by
    obtain ⟨hnamed, hsingle⟩ := Argument.single_of_mem_elements hbatch (hmem e (by simp))
    exact (bindNamed_single_eq_error_iff c d template o hnamed hsingle).mp he
  rw [bindNamed_elements c d template o hbatch hne htext, hsplit,
    mapM_eq_error hresolved hfailed]
  rfl

/-- A batch of one element is bound as the element is. -/
theorem bindNamed_of_one {e : Argument} (hone : batch.elements = [e]) :
    bindNamed c d template batch o = bindNamed c d template e o := by
  rw [bindNamed_elements c d template o hbatch hne htext,
    bindNamed_element c d template o hbatch (by rw [hone]; exact List.mem_cons_self), hone]
  have hsame : text = template := by
    obtain ⟨cut, -, hparts, -, htext, -, -⟩ := Template.repeatValuesGroup_parts htext
    rw [hone, List.length_singleton, Template.repeated, ← hparts] at htext
    exact String.toList_injective htext
  rw [hsame, List.mapM_cons]
  cases resolveAll o (e.source c o) (Template.parameterNames template.toList) with
  | error err => rfl
  | ok shares =>
    show boundAs d template [shares].flatten = boundAs d template shares
    rw [List.flatten_singleton]

end Repeated

/-- **A batch is bound as its elements are, one after another.** -/
theorem bindNamed_batch {batch : Argument} (hbatch : batch.isBatch = true)
    (hne : batch.elements ≠ []) :
    -- a template with no group to repeat is refused, whatever the elements are
    (∀ count fault, Template.repeatValuesGroup template count = .error fault →
      bindNamed c d template batch o = .error (.invalidTemplate fault)) ∧
    ∀ text, Template.repeatValuesGroup template batch.elements.length = .ok text →
      -- the text is the template with its group written once for each element
      (∃ cut, Template.valuesGroup template.toList = .ok cut ∧
        template.toList = cut.before ++ cut.group ++ cut.after ∧
        text.toList = cut.before ++ (cut.group ++
          (List.replicate (batch.elements.length - 1) (',' :: cut.group)).flatten) ++ cut.after) ∧
      -- where every element is bound alone, with some share of values for each parameter, the
      -- batch is bound with all the shares in order
      (∀ bounds,
        List.Forall₂ (fun e b => bindNamed c d template e o = .ok b) batch.elements bounds →
        ∃ (shares : List (List (List Value))) (b : Bound),
          List.Forall₂ (fun b share => boundAs d template share = .ok b ∧
            share.length = (Template.parameterNames template.toList).length) bounds shares ∧
          bindNamed c d template batch o = .ok b ∧
          boundAs d text shares.flatten = .ok b ∧
          b.values = (bounds.map Bound.values).flatten) ∧
      -- the first element that cannot be bound alone decides the error
      (∀ before e after err, batch.elements = before ++ e :: after →
        (∀ x ∈ before, ∃ b, bindNamed c d template x o = .ok b) →
        bindNamed c d template e o = .error err →
        bindNamed c d template batch o = .error err) ∧
      -- one element alone is bound as the batch of it
      ∀ e, batch.elements = [e] → bindNamed c d template batch o = bindNamed c d template e o := by
  constructor
  · intro count fault h
    exact bindNamed_refused c d template o hbatch hne h
  · intro text htext
    refine ⟨?_, ?_, ?_, ?_⟩
    · obtain ⟨n, hn⟩ : ∃ n, batch.elements.length = n + 1 :=
        Nat.exists_eq_succ_of_ne_zero fun h => hne (List.eq_nil_of_length_eq_zero h)
      obtain ⟨cut, hcut, hparts, -, htext, -, -⟩ := Template.repeatValuesGroup_parts htext
      refine ⟨cut, hcut, hparts, ?_⟩
      rw [htext, hn, Template.repeated_succ, Nat.add_sub_cancel]
    · intro bounds h
      exact bindNamed_of_elements c d template o hbatch hne htext h
    · intro before e after err hsplit hbefore he
      exact bindNamed_of_first_error c d template o hbatch hne htext hsplit hbefore he
    · intro e hone
      exact bindNamed_of_one c d template o hbatch hne htext hone

/-- Two maps, the second with a list: the list takes a second placeholder in the second group, and
nothing of the first. -/
theorem bindNamed_batch_of_two :
    let c := Catalog.ofDeclarations #[] fun _ name => name
    let batch := Argument.maps
      [[("a", .int 1), ("b", .null)], [("a", .list [.int 2, .int 3]), ("b", .int 4)]]
    batch.isBatch = true ∧ batch.elements ≠ [] ∧
      ∃ b, bindNamed c .dollar "INSERT INTO t VALUES (:a, :b)" batch {} = .ok b ∧
        b.values = [.int 1, .null, .int 2, .int 3, .int 4] := by
  intro c batch
  have hbatch : batch.isBatch = true := rfl
  have hne : batch.elements ≠ [] := List.cons_ne_nil _ _
  have htext : Template.repeatValuesGroup "INSERT INTO t VALUES (:a, :b)" batch.elements.length =
      .ok "INSERT INTO t VALUES (:a, :b),(:a, :b)" := by decide +kernel
  obtain ⟨-, hvalues, -⟩ :=
    (bindNamed_batch c .dollar "INSERT INTO t VALUES (:a, :b)" {} hbatch hne).2 _ htext
  have hnames : Template.parameterNames "INSERT INTO t VALUES (:a, :b)".toList = ["a", "b"] := by
    decide +kernel
  have hfirst : Template.renderNamed "INSERT INTO t VALUES (:a, :b)" .dollar (.ofArray #[1, 1]) =
      .ok ⟨"INSERT INTO t VALUES ($1, $2)", ["a", "b"], 2⟩ := by decide +kernel
  have hsecond : Template.renderNamed "INSERT INTO t VALUES (:a, :b)" .dollar (.ofArray #[2, 1]) =
      .ok ⟨"INSERT INTO t VALUES ($1,$2, $3)", ["a", "b"], 3⟩ := by decide +kernel
  obtain ⟨-, b, -, hbound, -, hall⟩ := hvalues
    [⟨"INSERT INTO t VALUES ($1, $2)", [.int 1, .null]⟩,
      ⟨"INSERT INTO t VALUES ($1,$2, $3)", [.int 2, .int 3, .int 4]⟩]
    (.cons ((bindNamed_of_alone .dollar rfl rfl).trans
        (bindSources_of_shares [[.int 1], [.null]] hnames rfl rfl hfirst))
      (.cons ((bindNamed_of_alone .dollar rfl rfl).trans
        (bindSources_of_shares [[.int 2, .int 3], [.int 4]] hnames rfl rfl hsecond)) .nil))
  exact ⟨hbatch, hne, b, hbound, hall⟩

end Batch

end Rowbind
