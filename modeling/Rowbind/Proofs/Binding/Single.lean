import Rowbind.Proofs.Binding.Resolution
import Rowbind.Record.Declaration

/-!
# Binding one record or one map

A parameter of one record or map stands for the values it is bound as (`StandsFor`), or cannot be
bound for a reason (`CannotStand`); it is never both, and always one of them
(`resolve_expand_eq_ok_iff`, `resolve_expand_eq_error_iff`). An argument is bound exactly when all
of its template's parameters stand for values, and then to these values in order and to the template
with as many placeholders for each occurrence as its list is long (`bindNamed_resolved`).

Lists are counted by occurrence, not by name, so that a name that occurs twice has its list twice.
-/

namespace Rowbind

section Parameter

variable (o : Options) (source : Source) (name : String)

/-- **What a parameter is bound as**: its value, the elements of its list, or null where nothing is
known of it and options say so. -/
inductive StandsFor : List Value → Prop
  | value {v : Value} (hsource : source name = some v) (hv : v.isBindable = true) : StandsFor [v]
  | list {items : List Value} (hsource : source name = some (.list items)) (hne : items ≠ [])
      (hitems : ∀ v ∈ items, v.isBindable = true) : StandsFor items
  | missing (hsource : source name = none) (hnull : o.missingParamsAsNull = true) :
      StandsFor [.null]

/-- **Why a parameter cannot be bound.** -/
inductive CannotStand : Error → Prop
  | unresolved (hsource : source name = none) (hnull : o.missingParamsAsNull = false) :
      CannotStand (.unresolved name)
  | emptyList (hsource : source name = some (.list [])) :
      CannotStand (.emptyList (.parameter name))
  | map {m : ValueMap} (hsource : source name = some (.map m)) :
      CannotStand (.unsupportedArgument (.mapForParameter name))
  /-- The first element that is a list or a map is named. -/
  | nested {before after : List Value} {v : Value}
      (hsource : source name = some (.list (before ++ v :: after)))
      (hbefore : ∀ x ∈ before, x.isBindable = true) (hv : v.isBindable = false) :
      CannotStand (.unsupportedArgument (.nestedInParameter v.typeName name))

/-- How many placeholders each occurrence becomes: one for each element of its list, and one for
anything else. -/
def listCounts (names : List String) : Repeats := fun k =>
  match names[k]?.bind source with
  | some (.list items) => items.length
  | _ => 1

end Parameter

section Parameter

variable {o : Options} {source : Source} {name : String}

/-- A value is bound as itself. -/
theorem expand_value {v : Value} (hv : v.isBindable = true) : expand name v = .ok [v] := by
  cases v with
  | list items => cases hv
  | map m => cases hv
  | _ => rfl

/-- A list is bound as its elements. -/
theorem expand_list {items : List Value} (hne : items ≠ [])
    (hitems : ∀ v ∈ items, v.isBindable = true) : expand name (.list items) = .ok items := by
  have hfind : items.find? (!·.isBindable) = none :=
    List.find?_eq_none.mpr fun v hv => by simp [hitems v hv]
  cases items with
  | nil => exact absurd rfl hne
  | cons v items => simp only [expand, hfind]

/-- A list in which a list or a map comes first is refused for it. -/
theorem expand_nested {before after : List Value} {v : Value}
    (hbefore : ∀ x ∈ before, x.isBindable = true) (hv : v.isBindable = false) :
    expand name (.list (before ++ v :: after)) =
      .error (.unsupportedArgument (.nestedInParameter v.typeName name)) := by
  have hfind : (before ++ v :: after).find? (!·.isBindable) = some v := by
    rw [List.find?_append, List.find?_eq_none.mpr fun x hx => by simp [hbefore x hx]]
    simp [hv]
  cases hitems : before ++ v :: after with
  | nil => exact absurd hitems (by simp)
  | cons x items =>
    rw [hitems] at hfind
    simp only [expand, hfind]

/-- A parameter that stands for values is bound as them. -/
theorem StandsFor.resolve_expand {share : List Value} (h : StandsFor o source name share) :
    (resolve o source name >>= expand name) = .ok share := by
  cases h with
  | value hsource hv => simp only [resolve, hsource, ok_bind, expand_value hv]
  | list hsource hne hitems => simp only [resolve, hsource, ok_bind, expand_list hne hitems]
  | missing hsource hnull =>
    simp only [resolve, hsource, hnull, if_true, ok_bind]
    rfl

/-- A parameter that cannot be bound is refused for what is wrong with it. -/
theorem CannotStand.resolve_expand {e : Error} (h : CannotStand o source name e) :
    (resolve o source name >>= expand name) = .error e := by
  cases h with
  | unresolved hsource hnull =>
    simp only [resolve, hsource, hnull, Bool.false_eq_true, if_false, error_bind]
  | emptyList hsource =>
    simp only [resolve, hsource, ok_bind]
    rfl
  | map hsource =>
    simp only [resolve, hsource, ok_bind]
    rfl
  | nested hsource hbefore hv => simp only [resolve, hsource, ok_bind, expand_nested hbefore hv]

/-- What is wrong with a parameter is never that of a template. -/
theorem CannotStand.of_parameter {e : Error} (h : CannotStand o source name e) :
    (∀ placeholders values, e ≠ .countMismatch placeholders values) ∧
      ∀ fault, e ≠ .invalidTemplate fault := by
  cases h <;> simp

variable (o source name) in
/-- Every parameter stands for values or cannot be bound. -/
theorem standsFor_or_cannotStand :
    (∃ share, StandsFor o source name share) ∨ ∃ e, CannotStand o source name e := by
  cases hsource : source name with
  | none =>
    cases hnull : o.missingParamsAsNull with
    | true => exact .inl ⟨_, .missing hsource hnull⟩
    | false => exact .inr ⟨_, .unresolved hsource hnull⟩
  | some v =>
    cases v with
    | map m => exact .inr ⟨_, .map hsource⟩
    | list items =>
      by_cases hempty : items = []
      · subst hempty
        exact .inr ⟨_, .emptyList hsource⟩
      · cases hfind : items.find? (!·.isBindable) with
        | none =>
          exact .inl ⟨items, .list hsource hempty fun v hv => by
            simpa using List.find?_eq_none.mp hfind v hv⟩
        | some v =>
          obtain ⟨hv, before, after, rfl, hbefore⟩ := List.find?_eq_some_iff_append.mp hfind
          exact .inr ⟨_, .nested hsource (fun x hx => by simpa using hbefore x hx)
            (by simpa using hv)⟩
    | _ => exact .inl ⟨_, .value hsource rfl⟩

/-- **A parameter is bound as what it stands for.** -/
theorem resolve_expand_eq_ok_iff {share : List Value} :
    (resolve o source name >>= expand name) = .ok share ↔ StandsFor o source name share := by
  refine ⟨fun h => ?_, StandsFor.resolve_expand⟩
  obtain ⟨share', hshare⟩ | ⟨e, he⟩ := standsFor_or_cannotStand o source name
  · rw [hshare.resolve_expand] at h
    exact Except.ok.inj h ▸ hshare
  · rw [he.resolve_expand] at h
    cases h

/-- **A parameter is refused for what is wrong with it.** -/
theorem resolve_expand_eq_error_iff {e : Error} :
    (resolve o source name >>= expand name) = .error e ↔ CannotStand o source name e := by
  refine ⟨fun h => ?_, CannotStand.resolve_expand⟩
  obtain ⟨share, hshare⟩ | ⟨e', he⟩ := standsFor_or_cannotStand o source name
  · rw [hshare.resolve_expand] at h
    cases h
  · rw [he.resolve_expand] at h
    exact Except.error.inj h ▸ he

/-- A parameter has as many values as its list has elements, and one where it has no list. -/
theorem StandsFor.length {share : List Value} (h : StandsFor o source name share) :
    share.length = match source name with
      | some (.list items) => items.length
      | _ => 1 := by
  cases h with
  | list hsource => rw [hsource]
  | missing hsource => rw [hsource]; rfl
  | @value v hsource hv =>
    rw [hsource]
    cases v with
    | list items => cases hv
    | _ => rfl

end Parameter

section Parameters

variable {o : Options} {source : Source} {names : List String}

/-- Parameters that all stand for values have their shares. -/
theorem resolveAll_eq_ok_iff {shares : List (List Value)} :
    resolveAll o source names = .ok shares ↔ List.Forall₂ (StandsFor o source) names shares := by
  rw [resolveAll, mapM_eq_ok_iff]
  simp only [resolve_expand_eq_ok_iff]

theorem exists_resolveAll_eq_ok_iff :
    (∃ shares, resolveAll o source names = .ok shares) ↔
      ∀ name ∈ names, ∃ share, StandsFor o source name share := by
  rw [resolveAll, exists_mapM_eq_ok_iff]
  simp only [resolve_expand_eq_ok_iff]

/-- Shares are as long as the lists of the occurrences. -/
theorem ofArray_shares {shares : List (List Value)}
    (h : List.Forall₂ (StandsFor o source) names shares) :
    Repeats.ofArray (shares.map List.length).toArray = listCounts source names := by
  funext k
  cases hname : names[k]? with
  | none =>
    have hk : shares.length ≤ k := h.length_eq ▸ List.getElem?_eq_none_iff.mp hname
    simp [Repeats.ofArray, listCounts, hname, hk]
  | some name =>
    obtain ⟨hk, rfl⟩ := List.getElem?_eq_some_iff.mp hname
    have hk' : k < shares.length := h.length_eq ▸ hk
    have hshare : StandsFor o source names[k] shares[k] := h.get hk hk'
    simpa [Repeats.ofArray, listCounts, hname, hk'] using hshare.length

end Parameters

section Single

variable (c : Catalog) (d : Dialect) (template : String) (o : Options) {argument : Argument}
  (hnamed : argument.isNamed = true) (hsingle : argument.isBatch = false)
include hnamed hsingle

/-- An argument whose parameters all stand for values is bound to them, in order. -/
theorem bindNamed_of_standsFor {shares : List (List Value)}
    (h : List.Forall₂ (StandsFor o (argument.source c o))
      (Template.parameterNames template.toList) shares) :
    ∃ rendered, Template.renderNamed template d
        (listCounts (argument.source c o) (Template.parameterNames template.toList)) =
          .ok rendered ∧
      bindNamed c d template argument o = .ok ⟨rendered.sql, shares.flatten⟩ := by
  have hresolve := resolveAll_eq_ok_iff.mpr h
  obtain ⟨hlength, hne⟩ := resolveAll_spec hresolve
  obtain ⟨rendered, hrender, -, hbound⟩ := boundAs_eq d template hlength hne
  rw [ofArray_shares h] at hrender
  refine ⟨rendered, hrender, ?_⟩
  rw [bindNamed_single c d template o hnamed hsingle, hresolve, ok_bind, hbound]

/-- **One record or one map is bound exactly when each parameter of the template stands for
values**, and then to them; the leftmost parameter that does not decides the error. -/
theorem bindNamed_resolved :
    ((∃ b, bindNamed c d template argument o = .ok b) ↔
      ∀ name ∈ Template.parameterNames template.toList,
        ∃ share, StandsFor o (argument.source c o) name share) ∧
    -- the values are those of the parameters in order, and each occurrence has a placeholder for
    -- each of its own
    (∀ shares, List.Forall₂ (StandsFor o (argument.source c o))
        (Template.parameterNames template.toList) shares →
      ∃ rendered, Template.renderNamed template d
          (listCounts (argument.source c o) (Template.parameterNames template.toList)) =
            .ok rendered ∧
        bindNamed c d template argument o = .ok ⟨rendered.sql, shares.flatten⟩) ∧
    -- the error is that of the leftmost parameter that cannot be bound
    (∀ e, bindNamed c d template argument o = .error e ↔
      ∃ before name after, Template.parameterNames template.toList = before ++ name :: after ∧
        (∀ x ∈ before, ∃ share, StandsFor o (argument.source c o) x share) ∧
        CannotStand o (argument.source c o) name e) ∧
    -- so placeholders are never miscounted, and no occurrence is ever written no times
    ∀ e, bindNamed c d template argument o = .error e →
      (∀ placeholders values, e ≠ .countMismatch placeholders values) ∧
        ∀ fault, e ≠ .invalidTemplate fault := by
  have herror : ∀ e, bindNamed c d template argument o = .error e ↔
      ∃ before name after, Template.parameterNames template.toList = before ++ name :: after ∧
        (∀ x ∈ before, ∃ share, StandsFor o (argument.source c o) x share) ∧
        CannotStand o (argument.source c o) name e := by
    intro e
    rw [bindNamed_single_eq_error_iff c d template o hnamed hsingle, resolveAll, mapM_eq_error_iff]
    simp only [resolve_expand_eq_ok_iff, resolve_expand_eq_error_iff]
  refine ⟨?_, fun shares => bindNamed_of_standsFor c d template o hnamed hsingle, herror, ?_⟩
  · rw [← exists_resolveAll_eq_ok_iff]
    constructor
    · rintro ⟨b, hb⟩
      rw [bindNamed_single c d template o hnamed hsingle] at hb
      obtain ⟨shares, hshares, -⟩ := bind_eq_ok.mp hb
      exact ⟨shares, hshares⟩
    · rintro ⟨shares, hshares⟩
      obtain ⟨rendered, -, hbound⟩ := bindNamed_of_standsFor c d template o hnamed hsingle
        (resolveAll_eq_ok_iff.mp hshares)
      exact ⟨_, hbound⟩
  · intro e he
    obtain ⟨before, name, after, -, -, hname⟩ := (herror e).mp he
    exact hname.of_parameter

end Single

/-- A list, a name that occurs twice and a name that is missing: the list has its placeholders where
it occurs, both times, and the missing name is null. -/
theorem bindNamed_resolved_of_map :
    let c := Catalog.ofDeclarations #[] fun _ name => name
    let argument := Argument.map [("b", .list [.int 5, .int 6]), ("a", .int 1)]
    let template := "a = :a AND b IN (:b) OR c = :c OR b IN (:b)"
    argument.isNamed = true ∧ argument.isBatch = false ∧
      bindNamed c .dollar template argument { missingParamsAsNull := true } =
        .ok ⟨"a = $1 AND b IN ($2,$3) OR c = $4 OR b IN ($5,$6)",
          [.int 1, .int 5, .int 6, .null, .int 5, .int 6]⟩ ∧
      bindNamed c .dollar template argument {} = .error (.unresolved "c") := by
  intro c argument template
  have hnames : Template.parameterNames template.toList = ["a", "b", "c", "b"] := by
    decide +kernel
  have ha (o : Options) : StandsFor o (argument.source c o) "a" [.int 1] := .value rfl rfl
  have hb (o : Options) : StandsFor o (argument.source c o) "b" [.int 5, .int 6] :=
    .list rfl (List.cons_ne_nil _ _) (by simp [Value.isBindable])
  refine ⟨rfl, rfl, ?_, ?_⟩
  · let o : Options := { missingParamsAsNull := true }
    have hall : List.Forall₂ (StandsFor o (argument.source c o))
        (Template.parameterNames template.toList)
        [[.int 1], [.int 5, .int 6], [.null], [.int 5, .int 6]] := by
      rw [hnames]
      exact .cons (ha o) (.cons (hb o) (.cons (.missing rfl rfl) (.cons (hb o) .nil)))
    obtain ⟨rendered, hrender, hbound⟩ :=
      (bindNamed_resolved c .dollar template o rfl rfl).2.1 _ hall
    have htext : Template.renderNamed template .dollar (listCounts (argument.source c o)
        (Template.parameterNames template.toList)) =
        .ok ⟨"a = $1 AND b IN ($2,$3) OR c = $4 OR b IN ($5,$6)", ["a", "b", "c", "b"], 6⟩ := by
      decide +kernel
    rw [hbound, Except.ok.inj (hrender.symm.trans htext)]
    rfl
  · refine ((bindNamed_resolved c .dollar template {} rfl rfl).2.2.1 _).mpr
      ⟨["a", "b"], "c", ["b"], hnames, ?_, .unresolved rfl rfl⟩
    intro x hx
    simp only [List.mem_cons, List.not_mem_nil, or_false] at hx
    rcases hx with rfl | rfl
    · exact ⟨_, ha {}⟩
    · exact ⟨_, hb {}⟩

end Rowbind
