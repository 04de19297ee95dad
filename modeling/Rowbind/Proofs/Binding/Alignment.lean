import Mathlib.Order.Monotone.Basic
import Rowbind.Binding.Positional
import Rowbind.Proofs.Outcome
import Rowbind.Proofs.Template.Division
import Rowbind.Proofs.Template.Wording

/-!
# Which placeholder a positional value stands at

Positional values are counted by argument and placeholders by occurrence, and the only check is that
there are as many of the one as of the other in the end. That check is enough. Every argument takes
at least one placeholder, so the placeholders before an occurrence grow with every occurrence, and
the two numbers can agree only where there are as many occurrences as arguments
(`placeholdersBefore_eq_iff`). Then the occurrence at a position is the argument's at that position,
and its placeholders are numbered as the argument's parts are in the flattened values
(`bindPositional_aligned`).
-/

namespace Rowbind

/-- **What a positional value is bound as**: the elements of a list, or itself. -/
def Value.parts : Value → List Value
  | .list items => items
  | v => [v]

/-- **Whether a value can be neither bound nor expanded** as a positional argument. -/
def Value.isRefused : Value → Bool
  | .list [] | .map _ => true
  | _ => false

/-- How many placeholders each occurrence becomes, by the argument at its position. -/
def argumentCounts (values : List Value) : Repeats :=
  .ofArray (values.map placeholdersOf).toArray

/-- **The positions of an argument's parts** among the parts of all arguments, counted from one. -/
def partPositions (values : List Value) (k : Nat) : List Nat :=
  List.range' (((values.take k).flatMap Value.parts).length + 1)
    ((values[k]?).elim 0 (·.parts.length))

/-! ## Counting -/

/-- A value takes a placeholder for each of its parts. -/
theorem placeholdersOf_eq (v : Value) : placeholdersOf v = v.parts.length := by
  cases v <;> rfl

/-- A value that is not refused has parts. -/
theorem Value.parts_ne_nil {v : Value} (h : v.isRefused = false) : v.parts ≠ [] := by
  cases v with
  | list items =>
    cases items with
    | nil => cases h
    | cons v items => exact List.cons_ne_nil _ _
  | _ => exact List.cons_ne_nil _ _

theorem argumentCounts_eq (values : List Value) (k : Nat) :
    argumentCounts values k = (values[k]?).elim 1 (·.parts.length) := by
  cases hv : values[k]? with
  | none => simp [argumentCounts, Repeats.ofArray, hv]
  | some v => simp [argumentCounts, Repeats.ofArray, hv, placeholdersOf_eq]

section Counting

variable {values : List Value} (hvalues : ∀ v ∈ values, v.isRefused = false)
include hvalues

theorem argumentCounts_ne_zero (k : Nat) : argumentCounts values k ≠ 0 := by
  rw [argumentCounts_eq]
  cases hv : values[k]? with
  | none => exact Nat.one_ne_zero
  | some v =>
    have hparts := Value.parts_ne_nil (hvalues v (List.mem_of_getElem? hv))
    exact fun hzero => hparts (List.eq_nil_of_length_eq_zero hzero)

omit hvalues in
/-- Before an argument's placeholders come those of the parts before it. -/
theorem placeholdersBefore_eq {k : Nat} (hk : k ≤ values.length) :
    Template.placeholdersBefore (argumentCounts values) k =
      ((values.take k).flatMap Value.parts).length := by
  induction k with
  | zero => rfl
  | succ k ih =>
    have hv : values[k]? = some values[k] := List.getElem?_eq_getElem hk
    rw [Template.placeholdersBefore_succ, ih (Nat.le_of_succ_le hk), argumentCounts_eq,
      List.take_succ_eq_append_getElem hk, List.flatMap_append, List.length_append, hv]
    simp

/-- **As many placeholders as parts** are as many occurrences as arguments. -/
theorem placeholdersBefore_eq_iff (n : Nat) :
    Template.placeholdersBefore (argumentCounts values) n =
        (values.flatMap Value.parts).length ↔ n = values.length := by
  have hmono : StrictMono (Template.placeholdersBefore (argumentCounts values)) := by
    refine strictMono_nat_of_lt_succ fun k => ?_
    rw [Template.placeholdersBefore_succ]
    exact Nat.lt_add_of_pos_right (Nat.pos_of_ne_zero (argumentCounts_ne_zero hvalues k))
  have hall := placeholdersBefore_eq (Nat.le_refl values.length)
  rw [List.take_length] at hall
  rw [← hall]
  exact hmono.injective.eq_iff

end Counting

/-- **An argument's parts are at their positions.** -/
theorem partPositions_spec {values : List Value} {k : Nat} {v : Value} (hv : values[k]? = some v) :
    (partPositions values k).map (fun p => (values.flatMap Value.parts)[p - 1]?) =
      v.parts.map some := by
  let before := (values.take k).flatMap Value.parts
  let after := (values.drop (k + 1)).flatMap Value.parts
  have hflat : values.flatMap Value.parts = before ++ (v.parts ++ after) := by
    obtain ⟨hk, rfl⟩ := List.getElem?_eq_some_iff.mp hv
    conv_lhs => rw [← List.take_append_drop k values, List.drop_eq_getElem_cons hk]
    rw [List.flatMap_append, List.flatMap_cons]
  have hlength : (partPositions values k).length = v.parts.length := by
    rw [partPositions, List.length_range', hv]
    rfl
  refine List.ext_getElem (by rw [List.length_map, List.length_map, hlength]) ?_
  intro i hi hi'
  rw [List.length_map] at hi'
  have hposition : before.length + 1 + 1 * i - 1 = before.length + i := by omega
  simp only [List.getElem_map, partPositions, List.getElem_range']
  rw [hposition, hflat, List.getElem?_append_right (Nat.le_add_right _ _),
    Nat.add_sub_cancel_left, List.getElem?_append_left hi', List.getElem?_eq_getElem hi']

/-! ## Refusing and flattening -/

/-- Values that are not refused are passed over. -/
theorem firstRefused?_append {before : List Value} (h : ∀ v ∈ before, v.isRefused = false)
    (position : Nat) (after : List Value) :
    firstRefused? position (before ++ after) = firstRefused? (position + before.length) after := by
  induction before generalizing position with
  | nil => rfl
  | cons v before ih =>
    have hv := h v List.mem_cons_self
    have hnext : firstRefused? position (v :: (before ++ after)) =
        firstRefused? (position + 1) (before ++ after) := by
      cases v with
      | list items =>
        cases items with
        | nil => cases hv
        | cons v items => rfl
      | map m => cases hv
      | _ => rfl
    rw [List.cons_append, hnext, ih fun a ha => h a (List.mem_cons_of_mem _ ha), List.length_cons,
      Nat.add_right_comm, Nat.add_assoc]

theorem firstRefused?_eq_none {values : List Value} (h : ∀ v ∈ values, v.isRefused = false) :
    firstRefused? 0 values = none := by
  have hnone := firstRefused?_append h 0 []
  rw [List.append_nil] at hnone
  rw [hnone]
  rfl

/-- A value at the head is flattened to its parts, where every element of a list can be bound. -/
theorem flatten_cons_eq_ok_iff {v : Value} {values flat : List Value} :
    flatten (v :: values) = .ok flat ↔
      (∀ items, v = .list items → ∀ x ∈ items, x.isBindable = true) ∧
        ∃ rest, flatten values = .ok rest ∧ v.parts ++ rest = flat := by
  cases v with
  | list items =>
    cases hfind : items.find? (!·.isBindable) with
    | some x =>
      simp only [flatten, hfind]
      refine iff_of_false (by simp) fun h => ?_
      have hx : x.isBindable = false := by simpa using List.find?_some hfind
      exact Bool.false_ne_true
        (hx.symm.trans (h.1 items rfl x (List.mem_of_find?_eq_some hfind)))
    | none =>
      simp only [flatten, hfind, map_eq_ok]
      refine (and_iff_right ?_).symm
      rintro _ ⟨⟩ x hx
      simpa using List.find?_eq_none.mp hfind x hx
  | _ => simp [flatten, map_eq_ok, Value.parts]

/-- **Values are flattened to their parts** when every element of a list can be bound. -/
theorem flatten_eq_ok_iff {values flat : List Value} :
    flatten values = .ok flat ↔
      (∀ items, Value.list items ∈ values → ∀ v ∈ items, v.isBindable = true) ∧
        flat = values.flatMap Value.parts := by
  induction values generalizing flat with
  | nil =>
    refine ⟨?_, fun h => h.2 ▸ rfl⟩
    rintro ⟨⟩
    exact ⟨fun _ h => absurd h List.not_mem_nil, rfl⟩
  | cons v values ih =>
    rw [flatten_cons_eq_ok_iff, List.flatMap_cons]
    constructor
    · rintro ⟨hv, rest, hrest, rfl⟩
      obtain ⟨hvalues, rfl⟩ := ih.mp hrest
      refine ⟨fun items hmem => ?_, rfl⟩
      rcases List.mem_cons.mp hmem with heq | hmem
      · exact hv items heq.symm
      · exact hvalues items hmem
    · rintro ⟨hall, rfl⟩
      refine ⟨fun items hv => hall items (hv ▸ List.mem_cons_self), _, ih.mpr ⟨?_, rfl⟩, rfl⟩
      exact fun items hmem => hall items (List.mem_cons_of_mem _ hmem)

/-! ## Binding -/

/-- **Whether there is nothing to expand and nothing to replace**: no list among the values, and no
question mark that the dialect writes otherwise. -/
def Untouched (d : Dialect) (template : String) (values : List Value) : Prop :=
  (∀ v ∈ values, isList v = false) ∧ (d.isQuestion = true ∨ '?' ∉ template.toList)

section Binding

variable (d : Dialect) (template : String) (values : List Value)

/-- The leftmost value that can be neither bound nor expanded is refused. -/
theorem bindPositional_refused {before after : List Value} {v : Value} {e : Error}
    (hbefore : ∀ x ∈ before, x.isRefused = false)
    (hv : firstRefused? before.length (v :: after) = some e) :
    bindPositional d template (before ++ v :: after) = .error e := by
  unfold bindPositional
  rw [firstRefused?_append hbefore, Nat.zero_add, hv]
  rfl

section Expandable

variable {values} (hvalues : ∀ v ∈ values, v.isRefused = false)
include hvalues

/-- Where there is nothing to do, nothing is done. -/
theorem bindPositional_untouched (h : Untouched d template values) :
    bindPositional d template values = .ok ⟨template, values⟩ := by
  unfold bindPositional
  rw [firstRefused?_eq_none hvalues]
  simp only
  rw [if_pos]
  · rfl
  · simpa [Untouched, or_iff_not_imp_left] using h

/-- Otherwise the template is rendered and the values are flattened, and their numbers agree. -/
theorem bindPositional_eq_ok_iff (h : ¬ Untouched d template values) (b : Bound) :
    bindPositional d template values = .ok b ↔
      ∃ rendered flat, Template.renderPositional template d (argumentCounts values) = .ok rendered ∧
        flatten values = .ok flat ∧ rendered.placeholders = flat.length ∧
        b = ⟨rendered.sql, flat⟩ := by
  unfold bindPositional
  rw [firstRefused?_eq_none hvalues]
  simp only
  rw [if_neg]
  · constructor
    · intro hbound
      obtain ⟨rendered, hrendered, hbound⟩ := bind_eq_ok.mp hbound
      obtain ⟨flat, hflat, hbound⟩ := bind_eq_ok.mp hbound
      split at hbound
      · cases hbound
      · rename_i hcount
        cases hbound
        exact ⟨rendered, flat, hrendered, hflat, Decidable.not_not.mp hcount, rfl⟩
    · rintro ⟨rendered, flat, hrendered, hflat, hcount, rfl⟩
      refine bind_eq_ok.mpr ⟨rendered, hrendered, bind_eq_ok.mpr ⟨flat, hflat, ?_⟩⟩
      rw [if_neg (not_not.mpr hcount)]
      rfl
  · simpa [Untouched, or_iff_not_imp_left] using h

/-- **What is bound** where there is something to expand or to replace: every occurrence is taken by
one argument, or nothing is bound. -/
theorem bindPositional_rendered (h : ¬ Untouched d template values) (b : Bound) :
    bindPositional d template values = .ok b ↔
      let ts := Template.tokens (.positional d) template.toList
      let os := Template.occurrences ts
      (∀ items, .list items ∈ values → ∀ v ∈ items, v.isBindable = true) ∧
        os.length = values.length ∧ b.values = values.flatMap Value.parts ∧
        b.sql = String.ofList (Template.fill ts (Template.rows d (argumentCounts values) os)) := by
  have hrender := Template.render_of_filled (.positional d) template d (argumentCounts values)
    fun k _ => argumentCounts_ne_zero hvalues k
  rw [bindPositional_eq_ok_iff d template hvalues h]
  simp only [Template.renderPositional, hrender, flatten_eq_ok_iff]
  constructor
  · rintro ⟨_, flat, ⟨⟩, ⟨hbindable, rfl⟩, hcount, rfl⟩
    exact ⟨hbindable, (placeholdersBefore_eq_iff hvalues _).mp hcount, rfl, rfl⟩
  · rintro ⟨hbindable, hcount, hflat, hsql⟩
    exact ⟨_, _, rfl, ⟨hbindable, rfl⟩, (placeholdersBefore_eq_iff hvalues _).mpr hcount,
      congrArg₂ Bound.mk hsql hflat⟩

end Expandable

end Binding

namespace Template

/-- The row of an occurrence is numbered by the positions of its argument's parts. -/
theorem getElem?_rows (d : Dialect) {values : List Value} {os : List Occurrence} {k : Nat}
    {o : Occurrence} {v : Value} (ho : os[k]? = some o) (hv : values[k]? = some v) :
    (rows d (argumentCounts values) os)[k]? =
      some ([','].intercalate ((partPositions values k).map (d.placeholder · o.name))) := by
  have hk : k ≤ values.length := Nat.le_of_lt (List.getElem?_eq_some_iff.mp hv).1
  rw [rows, List.getElem?_mapIdx, ho, Option.map_some, row, placeholdersBefore_eq hk,
    argumentCounts_eq, partPositions, hv]
  rfl

/-- **Positional values are bound where they stand.** An empty list or a map is refused, the
leftmost one; values that need no expansion and a template that needs no replacement are left as
they are; and otherwise the values are bound in order, each argument to the placeholders of the
occurrence at its position, or else their numbers differ or an element cannot be bound. -/
theorem bindPositional_aligned (d : Dialect) (template : String) (values : List Value) :
    -- the leftmost empty list or map decides the error
    (∀ before v after, values = before ++ v :: after → (∀ x ∈ before, x.isRefused = false) →
      (v = .list [] →
        bindPositional d template values = .error (.emptyList (.position before.length))) ∧
      ∀ m, v = .map m → bindPositional d template values =
        .error (.unsupportedArgument (.mapAtPosition before.length))) ∧
    ((∀ v ∈ values, v.isRefused = false) →
      (Untouched d template values → bindPositional d template values = .ok ⟨template, values⟩) ∧
      (¬ Untouched d template values →
        ∃ ts, (∀ us, Divides (.positional d) template.toList us ↔ us = ts) ∧
          -- the numbers agree after expansion, and the elements can be bound
          ((∃ b, bindPositional d template values = .ok b) ↔
            (∀ items, .list items ∈ values → ∀ v ∈ items, v.isBindable = true) ∧
              (values.flatMap Value.parts).length =
                ((List.range (occurrences ts).length).map (argumentCounts values)).sum) ∧
          ∀ b, bindPositional d template values = .ok b →
            b.values = values.flatMap Value.parts ∧ (occurrences ts).length = values.length ∧
              ∃ texts, b.sql = String.ofList (fill ts texts) ∧ texts.length = values.length ∧
                -- the placeholders of an occurrence have its argument's positions as ordinals
                ∀ k o v, (occurrences ts)[k]? = some o → values[k]? = some v →
                  texts[k]? = some
                    ([','].intercalate ((partPositions values k).map (d.placeholder · o.name))) ∧
                  (partPositions values k).map (fun p => b.values[p - 1]?) =
                    v.parts.map some)) := by
  refine ⟨?_, fun hvalues => ⟨bindPositional_untouched d template hvalues, fun h => ?_⟩⟩
  · rintro before v after rfl hbefore
    constructor
    · rintro rfl
      exact bindPositional_refused d template hbefore rfl
    · rintro m rfl
      exact bindPositional_refused d template hbefore rfl
  · have hbound := bindPositional_rendered d template hvalues h
    refine ⟨tokens (.positional d) template.toList, fun us => divides_iff, ⟨?_, ?_⟩, ?_⟩
    · rintro ⟨b, hb⟩
      obtain ⟨hbindable, hcount, -, -⟩ := (hbound b).mp hb
      exact ⟨hbindable, ((placeholdersBefore_eq_iff hvalues _).mpr hcount).symm⟩
    · rintro ⟨hbindable, hcount⟩
      have hlength := (placeholdersBefore_eq_iff hvalues _).mp hcount.symm
      exact ⟨⟨_, _⟩, (hbound _).mpr ⟨hbindable, hlength, rfl, rfl⟩⟩
    · intro b hb
      obtain ⟨-, hlength, hflat, hsql⟩ := (hbound b).mp hb
      refine ⟨hflat, hlength, _, hsql, by rw [rows, List.length_mapIdx, hlength], ?_⟩
      intro k o v ho hv
      exact ⟨getElem?_rows d ho hv, hflat ▸ partPositions_spec hv⟩

/-- Bytes at a question mark and a list at an ordinal: the list's placeholder is written as the
second and the third, where its elements are. -/
theorem bindPositional_aligned_of_two :
    let template := "a = ?  AND b IN ($9)"
    let values : List Value := [.bytes .empty, .list [.int 5, .int 6]]
    (∀ v ∈ values, v.isRefused = false) ∧ ¬ Untouched .dollar template values ∧
      ∃ b, bindPositional .dollar template values = .ok b ∧
        b.values = [.bytes .empty, .int 5, .int 6] ∧
        ∃ ts texts, Divides (.positional .dollar) template.toList ts ∧
          b.sql = String.ofList (fill ts texts) ∧ texts[1]? = some ['$', '2', ',', '$', '3'] := by
  intro template values
  have hvalues : ∀ v ∈ values, v.isRefused = false := by
    intro v hv
    simp only [values, List.mem_cons, List.not_mem_nil, or_false] at hv
    rcases hv with rfl | rfl <;> rfl
  have htouched : ¬ Untouched .dollar template values := fun h =>
    absurd (h.1 (.list [.int 5, .int 6]) (List.mem_cons_of_mem _ List.mem_cons_self)) (by decide)
  obtain ⟨ts, hdivides, hsucceeds, hbound⟩ :=
    ((bindPositional_aligned .dollar template values).2 hvalues).2 htouched
  obtain rfl : tokens (.positional .dollar) template.toList = ts :=
    (hdivides _).mp (divides_tokens _ _)
  have hbindable : ∀ items, .list items ∈ values → ∀ v ∈ items, v.isBindable = true := by
    intro items hitems v hv
    simp only [values, List.mem_cons, List.not_mem_nil, or_false] at hitems
    rcases hitems with hitems | hitems
    · cases hitems
    · rw [Value.list.inj hitems] at hv
      simp only [List.mem_cons, List.not_mem_nil, or_false] at hv
      rcases hv with rfl | rfl <;> rfl
  obtain ⟨b, hb⟩ := hsucceeds.mpr ⟨hbindable, by decide +kernel⟩
  obtain ⟨hflat, -, texts, hsql, -, htexts⟩ := hbound b hb
  refine ⟨hvalues, htouched, b, hb, hflat, _, texts, divides_tokens _ _, hsql, ?_⟩
  have hsecond : (occurrences (tokens (.positional .dollar) template.toList))[1]? =
      some ⟨['$', '9'], ['9']⟩ := by decide +kernel
  exact (htexts 1 _ (.list [.int 5, .int 6]) hsecond rfl).1.trans (by decide)

end Template

end Rowbind
