import Rowbind.Proofs.Binding.Resolution
import Rowbind.Proofs.Template.Balance
import Rowbind.Proofs.Template.RepeatedGroup
import Rowbind.Record.Declaration

/-!
# The arithmetic of a batch

Binding a batch counts: the depth of parentheses on the way to the end of its group, the parameters
outside the group, the share of the occurrences that falls to each element, and for each occurrence
the place of its element. None of it can leave the natural numbers or the batch.

The first two are the search for the group's end and the group's place in its template
(`Rowbind.Proofs.Template.Balance`). The last two are that a repeated group's occurrences are as
many times its own as there are elements, so that the shares come out even and the last of them ends
with the last occurrence.

A source that is looked up out of range would stand for nothing and not be missed (`sourceOf`). So
binding is done once more with all of this checked, `none` being a fault (`bindChecked?`), and comes
to what it comes to unchecked: whether the argument is bound or refused, everything that was counted
and looked up on the way was in range (`bindChecked?_eq`).
-/

namespace Rowbind

/-- **What a named argument comes to be bound with**: the template or, for a batch, the template
repeated for its elements, and the argument's sources. -/
inductive BindsWith (c : Catalog) (o : Options) (template : String) (argument : Argument) :
    String → List Source → Prop
  | alone {sources : List Source} (hsources : argument.sources? c o = some sources)
      (hsingle : argument.isBatch = false) : BindsWith c o template argument template sources
  | repeated {text : String} {sources : List Source}
      (hsources : argument.sources? c o = some sources) (hbatch : argument.isBatch = true)
      (hne : sources ≠ []) (htext : Template.repeatValuesGroup template sources.length = .ok text) :
      BindsWith c o template argument text sources

/-- The place of an occurrence among sources that have equal shares is one of theirs. -/
theorem place_lt {names sources k : Nat} (hdvd : sources ∣ names) (hk : k < names) :
    k / max (names / sources) 1 < sources := by
  obtain ⟨share, rfl⟩ := hdvd
  have hsources : 0 < sources := Nat.pos_of_ne_zero (by rintro rfl; simp at hk)
  have hshare : 0 < share := Nat.pos_of_ne_zero (by rintro rfl; simp at hk)
  rw [Nat.mul_div_cancel_left _ hsources, Nat.max_eq_left hshare]
  exact Nat.div_lt_of_lt_mul (by rwa [Nat.mul_comm])

namespace BindsWith

variable {c : Catalog} {o : Options} {template : String} {argument : Argument} {text : String}
  {sources : List Source} (h : BindsWith c o template argument text sources)
include h

/-- Binding it is binding its sources to that text. -/
theorem bindNamed_eq (d : Dialect) :
    bindNamed c d template argument o = bindSources d text o sources := by
  cases h with
  | alone hsources hsingle => exact bindNamed_of_alone d hsources hsingle
  | repeated hsources hbatch hne htext => exact bindNamed_of_repeated d hsources hbatch hne htext

omit h in
/-- One record or one map is one source. -/
theorem length_sources (hsources : argument.sources? c o = some sources)
    (hsingle : argument.isBatch = false) : sources.length = 1 := by
  cases argument with
  | value v => cases hsources
  | record r =>
    cases hsources
    rfl
  | map m =>
    cases hsources
    rfl
  | records rs => cases hsingle
  | maps ms => cases hsingle

theorem length_sources_pos : 0 < sources.length := by
  cases h with
  | alone hsources hsingle =>
    rw [length_sources hsources hsingle]
    exact Nat.one_pos
  | repeated _ _ hne _ => exact List.length_pos_of_ne_nil hne

/-- **The occurrences are shared out evenly.** -/
theorem dvd_length_names :
    sources.length ∣ (Template.parameterNames text.toList).length := by
  have hpos := h.length_sources_pos
  cases h with
  | alone hsources hsingle =>
    rw [length_sources hsources hsingle]
    exact Nat.one_dvd _
  | repeated _ _ _ htext =>
    obtain ⟨count, hcount⟩ := Nat.exists_eq_succ_of_ne_zero hpos.ne'
    rw [hcount] at htext ⊢
    rw [Template.parameterNames_repeatValuesGroup htext, List.length_flatten, List.map_replicate,
      List.sum_replicate_nat]
    exact Nat.dvd_mul_right _ _

end BindsWith

/-! ## Binding with its counts checked -/

/-- **A number divided by another**, `none` where that is zero. -/
def divChecked? (m n : Nat) : Option Nat :=
  if n = 0 then none else some (m / n)

/-- **The values of each occurrence with the place of its source checked**: `none` where there is no
source in it. -/
def resolveChecked? (o : Options) (sources : List Source) (share position : Nat) :
    List String → Option (Except Error (List (List Value)))
  | [] => some (.ok [])
  | name :: names => do
    let source ← sources[position / max share 1]?
    match resolve o source name >>= expand name with
    | .error e => return .error e
    | .ok values =>
      return (← resolveChecked? o sources share (position + 1) names).map (values :: ·)

/-- Binds the parameters of a template with the share of each source checked, and their places. -/
def bindSourcesChecked? (d : Dialect) (template : String) (o : Options) (sources : List Source) :
    Option (Except Error Bound) := do
  let names := Template.parameterNames template.toList
  let share ← divChecked? names.length sources.length
  return (← resolveChecked? o sources share 0 names) >>= boundAs d template

/-- **Binds a named argument with every count and every place checked.** -/
def bindChecked? (c : Catalog) (d : Dialect) (template : String) (argument : Argument)
    (o : Options) : Option (Except Error Bound) :=
  match argument.sources? c o with
  | none => some (.error (.unsupportedArgument (.positionalForNamed argument.kind)))
  | some sources =>
    if argument.isBatch then
      if sources.isEmpty then some (.error (.emptyList .batch))
      else do
        match ← Template.repeatChecked? template sources.length with
        | .error fault => return .error (.invalidTemplate fault)
        | .ok repeated => bindSourcesChecked? d repeated o sources
    else bindSourcesChecked? d template o sources

/-- Occurrences whose places are in range are resolved without a fault. -/
theorem resolveChecked?_eq {o : Options} {sources : List Source} {share position : Nat}
    {names : List String}
    (h : ∀ k < position + names.length, k / max share 1 < sources.length) :
    resolveChecked? o sources share position names =
      some (resolveFrom o sources share position names) := by
  induction names generalizing position with
  | nil => rfl
  | cons name names ih =>
    have hplace : position / max share 1 < sources.length :=
      h position (Nat.lt_add_of_pos_right (Nat.succ_pos _))
    have hsource : sources[position / max share 1]? = some (sourceOf sources share position) := by
      rw [sourceOf, List.getElem?_eq_getElem hplace, Option.getD_some]
    have hrest : resolveChecked? o sources share (position + 1) names =
        some (resolveFrom o sources share (position + 1) names) :=
      ih fun k hk => h k (by rw [List.length_cons]; omega)
    rw [resolveChecked?, hsource, resolveFrom]
    simp only [Option.bind_eq_bind, Option.bind_some, hrest]
    cases resolve o (sourceOf sources share position) name with
    | error e => rfl
    | ok v =>
      simp only [ok_bind]
      cases expand name v with
      | error e => rfl
      | ok values =>
        simp only [ok_bind]
        cases resolveFrom o sources share (position + 1) names <;> rfl

/-- **What an argument comes to be bound with is bound without a fault.** -/
theorem BindsWith.bindSourcesChecked?_eq {c : Catalog} {o : Options} {template : String}
    {argument : Argument} {text : String} {sources : List Source}
    (h : BindsWith c o template argument text sources) (d : Dialect) :
    bindSourcesChecked? d text o sources = some (bindNamed c d template argument o) := by
  have hshare : divChecked? (Template.parameterNames text.toList).length sources.length =
      some ((Template.parameterNames text.toList).length / sources.length) :=
    if_neg h.length_sources_pos.ne'
  have hplaces : ∀ k < 0 + (Template.parameterNames text.toList).length,
      k / max ((Template.parameterNames text.toList).length / sources.length) 1 < sources.length :=
    fun k hk => place_lt h.dvd_length_names (by rwa [Nat.zero_add] at hk)
  rw [h.bindNamed_eq, bindSources_eq, bindSourcesChecked?]
  simp only [hshare, resolveChecked?_eq hplaces, Option.bind_eq_bind, Option.bind_some]
  rfl

/-- **A named argument is bound, or refused, without a fault.** -/
theorem bindChecked?_eq (c : Catalog) (d : Dialect) (template : String) (argument : Argument)
    (o : Options) :
    bindChecked? c d template argument o = some (bindNamed c d template argument o) := by
  unfold bindChecked?
  cases hsources : argument.sources? c o with
  | none =>
    rw [bindNamed, hsources]
    rfl
  | some sources =>
    cases hbatch : argument.isBatch with
    | false => exact (BindsWith.alone hsources hbatch).bindSourcesChecked?_eq d
    | true =>
      cases sources with
      | nil =>
        rw [bindNamed, hsources]
        simp only [hbatch]
        rfl
      | cons source sources =>
        simp only [Template.repeatChecked?_eq, Option.bind_eq_bind, Option.bind_some]
        cases hrepeated : Template.repeatValuesGroup template (source :: sources).length with
        | error fault =>
          rw [bindNamed, hsources]
          simp only [hbatch, if_true, hrepeated]
          rfl
        | ok text =>
          have hwith : BindsWith c o template argument text (source :: sources) :=
            .repeated hsources hbatch (List.cons_ne_nil _ _) hrepeated
          exact hwith.bindSourcesChecked?_eq d

/-- **No count of a batch leaves its range.** -/
theorem batch_in_range (c : Catalog) (o : Options) (template : String) :
    -- the end of the group is searched for from an opening parenthesis on
    (∀ rest, Template.findGroup? false template.toList = some rest →
      -- where the depth is never lowered from zero, but stays positive up to the end
      Template.closingChecked? 0 rest = some (Template.matchingParen? rest) ∧
      (∀ k, (∀ j ≤ k, Template.openAfter (rest.take (j + 1)) ≠ 0) →
        0 < Template.openAfter (rest.take (k + 1))) ∧
      -- the end is the first position at which the text is balanced, if there is one
      (∀ k, Template.matchingParen? rest = some k ↔ Template.ClosesAt 0 rest k) ∧
      (Template.matchingParen? rest = none ↔
        ∀ k < rest.length, Template.openAfter (rest.take (k + 1)) ≠ 0)) ∧
    -- there are no more parameters in the group than in the template
    (∀ cut, Template.valuesGroup template.toList = .ok cut →
      (Template.parameterNames cut.group).length ≤
        (Template.parameterNames template.toList).length) ∧
    ∀ argument,
      -- whatever an argument comes to be bound with, all occurrences find a source of their own
      (∀ text sources, BindsWith c o template argument text sources →
        let names := (Template.parameterNames text.toList).length
        let share := names / sources.length
        (∀ d, bindNamed c d template argument o = bindSources d text o sources) ∧
        0 < sources.length ∧ sources.length ∣ names ∧
          ∀ k < names, k / max share 1 < sources.length) ∧
      -- and with every count and place checked it is bound, or refused, as without
      ∀ d, bindChecked? c d template argument o = some (bindNamed c d template argument o) := by
  refine ⟨fun rest hrest => ?_, fun cut hcut => Template.length_parameterNames_group hcut,
    fun argument => ⟨fun text sources h => ?_, fun d => bindChecked?_eq c d template argument o⟩⟩
  · obtain ⟨cs, rfl⟩ : ∃ cs, rest = '(' :: cs :=
      List.head?_eq_some_iff.mp (Template.findGroup?_spec hrest).2
    exact ⟨Template.closingChecked?_open cs, fun _ => Template.openAfter_take_pos cs,
      fun _ => Template.matchingParen?_eq_some_iff, Template.matchingParen?_eq_none_iff⟩
  · exact ⟨h.bindNamed_eq, h.length_sources_pos, h.dvd_length_names,
      fun k hk => place_lt h.dvd_length_names hk⟩

/-- A batch of two, and a group with parentheses of its own. The group ends at its eleventh
character, not at the first closing parenthesis nor at the one behind it, and of the four
occurrences two fall to each element. -/
theorem batch_in_range_of_two :
    let c := Catalog.ofDeclarations #[] fun _ name => name
    let template := "INSERT INTO t VALUES (:a, f(:b)) -- )"
    let rest := "(:a, f(:b)) -- )".toList
    let cut : Template.ValuesGroup :=
      ⟨"INSERT INTO t VALUES ".toList, "(:a, f(:b))".toList, " -- )".toList⟩
    let text := "INSERT INTO t VALUES (:a, f(:b)),(:a, f(:b)) -- )"
    let first : ValueMap := [("a", .int 1), ("b", .int 2)]
    let second : ValueMap := [("a", .int 3), ("b", .int 4)]
    let batch := Argument.maps [first, second]
    Template.findGroup? false template.toList = some rest ∧
      Template.closingChecked? 0 rest = some (some 10) ∧ Template.ClosesAt 0 rest 10 ∧
      Template.valuesGroup template.toList = .ok cut ∧
      (Template.parameterNames cut.group).length ≤
        (Template.parameterNames template.toList).length ∧
      BindsWith c {} template batch text [.ofMap first, .ofMap second] ∧
      (Template.parameterNames text.toList).length = 4 ∧
      (∀ k < 4, k / max (4 / 2) 1 < 2) ∧
      (List.range 4).map (· / max (4 / 2) 1) = [0, 0, 1, 1] ∧
      bindChecked? c .question template batch {} =
        some (.ok ⟨"INSERT INTO t VALUES (?, f(?)),(?, f(?)) -- )",
          [.int 1, .int 2, .int 3, .int 4]⟩) := by
  intro c template rest cut text first second batch
  obtain ⟨hsearch, hgroup, hbinds⟩ := batch_in_range c {} template
  have hrest : Template.findGroup? false template.toList = some rest := by decide
  have hclose : Template.matchingParen? rest = some 10 := by decide
  have hend := hsearch rest hrest
  have hcut : Template.valuesGroup template.toList = .ok cut := by decide +kernel
  have hwith : BindsWith c {} template batch text [.ofMap first, .ofMap second] :=
    .repeated rfl rfl (List.cons_ne_nil _ _) (by decide +kernel)
  have hnames : Template.parameterNames text.toList = ["a", "b", "a", "b"] := by decide +kernel
  obtain ⟨hbound, -, -, hplaces⟩ := (hbinds batch).1 text _ hwith
  have hrender : Template.renderNamed text .question (.ofArray #[1, 1, 1, 1]) =
      .ok ⟨"INSERT INTO t VALUES (?, f(?)),(?, f(?)) -- )", ["a", "b", "a", "b"], 4⟩ := by
    decide +kernel
  refine ⟨hrest, hclose ▸ hend.1, (hend.2.2.1 10).mp hclose, hcut, hgroup cut hcut, hwith,
    by rw [hnames]; rfl, ?_, rfl, ?_⟩
  · rw [hnames] at hplaces
    exact hplaces
  · rw [(hbinds batch).2, hbound]
    have hshare : ["a", "b", "a", "b"].length / 2 = 2 := rfl
    exact congrArg some (bindSources_of_shares [[.int 1], [.int 2], [.int 3], [.int 4]] hnames
      hshare rfl hrender)

end Rowbind
