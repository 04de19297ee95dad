import Mathlib.Algebra.BigOperators.Group.List.Basic
import Mathlib.Algebra.GroupWithZero.Nat
import Rowbind.Proofs.Template.Reading
import Rowbind.Template.Rendering
import Std.Data.HashMap

/-!
# The wording of a rendering

What a rendering writes can be said without going through the tokens one by one. Every occurrence
has a **row** of placeholders, which hangs on its position alone: as many as it is to become,
numbered on from the placeholders of the occurrences before it, with commas between them. The text
is the template's tokens with the rows in the places of the occurrences (`write_eq_fill`).

So dialect and counts have their part in the rows, and in nothing else: a rendering succeeds when
no row is empty, and else reports the first occurrence whose row is (`render_of_filled`,
`render_eq_error_iff`).
-/

namespace Rowbind

/-- **The counts that a map gives**, one where it gives none. -/
def Repeats.ofMap (counts : Std.HashMap Nat Nat) : Repeats := fun k => counts.getD k 1

namespace Template

/-- Placeholders with consecutive ordinals, joined by commas. -/
def row (d : Dialect) (name : List Char) (first count : Nat) : List Char :=
  [','].intercalate ((List.range' first count).map (d.placeholder · name))

/-- How many placeholders come before those of an occurrence. -/
def placeholdersBefore (repeats : Repeats) (k : Nat) : Nat :=
  ((List.range k).map repeats).sum

/-- **The row of each occurrence.** -/
def rows (d : Dialect) (repeats : Repeats) (os : List Occurrence) : List (List Char) :=
  os.mapIdx fun k o => row d o.name (placeholdersBefore repeats k + 1) (repeats k)

/-- **Tokens with texts in the places of their occurrences.** -/
def fill : List Token → List (List Char) → List Char
  | [], _ => []
  | .literal c :: ts, texts => c :: fill ts texts
  | .placeholder _ :: ts, text :: texts => text ++ fill ts texts
  | .placeholder _ :: ts, [] => fill ts []

theorem placeholdersBefore_zero (repeats : Repeats) : placeholdersBefore repeats 0 = 0 := rfl

theorem placeholdersBefore_succ (repeats : Repeats) (k : Nat) :
    placeholdersBefore repeats (k + 1) = placeholdersBefore repeats k + repeats k := by
  rw [placeholdersBefore, List.range_succ, List.map_append, List.sum_append, List.map_singleton,
    List.sum_singleton]
  rfl

/-- Placeholders in a row are joined by commas. -/
theorem placeholderRow_eq (d : Dialect) (name : List Char) (first count : Nat) :
    placeholderRow d name first count = row d name first count := by
  induction first, count using placeholderRow.induct with
  | case1 first => rfl
  | case2 first => exact (List.append_nil _).symm
  | case3 first count hcount ih =>
    rw [placeholderRow, ih]
    · obtain ⟨n, rfl⟩ := Nat.exists_eq_succ_of_ne_zero hcount
      rfl
    · exact hcount

/-- **The text written is the tokens with their rows.** The induction is on the tokens; the rows of
those that are left count on from the placeholders written. -/
theorem write_eq_fill (d : Dialect) (repeats : Repeats) (k : Nat) (ts : List Token) :
    write d repeats k (placeholdersBefore repeats k) ts =
      fill ts ((occurrences ts).mapIdx fun j o =>
        row d o.name (placeholdersBefore repeats (k + j) + 1) (repeats (k + j))) := by
  induction ts generalizing k with
  | nil => rfl
  | cons t ts ih =>
    cases t with
    | literal c => exact congrArg (c :: ·) (ih k)
    | placeholder o =>
      rw [write, occurrences, List.mapIdx_cons, fill, placeholderRow_eq,
        ← placeholdersBefore_succ, ih (k + 1)]
      simp only [Nat.add_zero, Nat.add_right_comm k 1, Nat.add_assoc k]

/-- The placeholders of all occurrences. -/
theorem total_eq (repeats : Repeats) (k : Nat) (os : List Occurrence) :
    placeholdersBefore repeats k + total repeats k os =
      placeholdersBefore repeats (k + os.length) := by
  induction os generalizing k with
  | nil => rfl
  | cons o os ih =>
    have hlength : k + (o :: os).length = k + 1 + os.length := by rw [List.length_cons]; omega
    rw [total, ← Nat.add_assoc, ← placeholdersBefore_succ, ih, hlength]

/-- **The first occurrence that would become no placeholder.** -/
theorem firstEmpty?_eq_some_iff {repeats : Repeats} {k n : Nat} {os : List Occurrence}
    {o : Occurrence} :
    firstEmpty? repeats k os = some (n, o) ↔
      ∃ j, n = k + j ∧ os[j]? = some o ∧ repeats (k + j) = 0 ∧ ∀ i < j, repeats (k + i) ≠ 0 := by
  induction os generalizing k with
  | nil => simp [firstEmpty?]
  | cons a os ih =>
    by_cases hzero : repeats k = 0
    · rw [firstEmpty?, if_pos hzero]
      constructor
      · rintro ⟨rfl, rfl⟩
        exact ⟨0, rfl, rfl, hzero, fun i hi => absurd hi (Nat.not_lt_zero i)⟩
      · rintro ⟨j, rfl, ho, -, hbefore⟩
        obtain rfl : j = 0 := by
          by_contra hj
          exact hbefore 0 (Nat.pos_of_ne_zero hj) hzero
        exact congrArg (fun x => some (k, x)) (Option.some.inj ho)
    · have hshift : ∀ j, k + 1 + j = k + (j + 1) := by intro j; omega
      rw [firstEmpty?, if_neg hzero, ih]
      simp only [hshift]
      constructor
      · rintro ⟨j, rfl, ho, hempty, hbefore⟩
        refine ⟨j + 1, rfl, ho, hempty, fun i hi => ?_⟩
        cases i with
        | zero => exact hzero
        | succ i => exact hbefore i (Nat.lt_of_succ_lt_succ hi)
      · rintro ⟨j, rfl, ho, hempty, hbefore⟩
        cases j with
        | zero => exact absurd hempty hzero
        | succ j => exact ⟨j, rfl, ho, hempty, fun i hi => hbefore (i + 1) (Nat.succ_lt_succ hi)⟩

/-- No occurrence is reported when each becomes some placeholder. -/
theorem firstEmpty?_eq_none {repeats : Repeats} {os : List Occurrence}
    (h : ∀ k < os.length, repeats k ≠ 0) : firstEmpty? repeats 0 os = none := by
  cases hfirst : firstEmpty? repeats 0 os with
  | none => rfl
  | some found =>
    obtain ⟨k, -, ho, hzero, -⟩ := firstEmpty?_eq_some_iff.mp hfirst
    rw [Nat.zero_add] at hzero
    exact absurd hzero (h k (List.getElem?_eq_some_iff.mp ho).1)

section Render

variable (reading : Convention) (template : String) (d : Dialect) (repeats : Repeats)

/-- **A rendering fails exactly where an occurrence would become no placeholder**, and reports the
first one that would. -/
theorem render_eq_error_iff (e : Error) :
    render reading template d repeats = .error e ↔
      ∃ k o, (occurrences (tokens reading template.toList))[k]? = some o ∧ repeats k = 0 ∧
        (∀ j < k, repeats j ≠ 0) ∧
        e = .invalidTemplate (.emptyExpansion k (String.ofList o.written)) := by
  have hfirst := fun n o => @firstEmpty?_eq_some_iff repeats 0 n
    (occurrences (tokens reading template.toList)) o
  simp only [Nat.zero_add] at hfirst
  unfold render renderTokens
  simp only
  split
  · rename_i n o hsome
    obtain ⟨k, rfl, ho, hzero, hbefore⟩ := (hfirst n o).mp hsome
    constructor
    · rintro ⟨⟩
      exact ⟨n, o, ho, hzero, hbefore, rfl⟩
    · rintro ⟨k, o', ho', hzero', hbefore', rfl⟩
      have hsome' := (hfirst k o').mpr ⟨k, rfl, ho', hzero', hbefore'⟩
      obtain ⟨rfl, rfl⟩ := Prod.mk.inj (Option.some.inj (hsome.symm.trans hsome'))
      rfl
  · rename_i hnone
    refine ⟨nofun, ?_⟩
    rintro ⟨k, o, ho, hzero, hbefore, -⟩
    have hsome := (hfirst k o).mpr ⟨k, rfl, ho, hzero, hbefore⟩
    rw [hnone] at hsome
    cases hsome

/-- A rendering writes its tokens when every occurrence becomes some placeholder. -/
theorem render_of_written
    (h : ∀ k < (occurrences (tokens reading template.toList)).length, repeats k ≠ 0) :
    render reading template d repeats = .ok {
      sql := String.ofList (write d repeats 0 0 (tokens reading template.toList))
      names := (occurrences (tokens reading template.toList)).map fun o => String.ofList o.name
      placeholders := total repeats 0 (occurrences (tokens reading template.toList)) } := by
  unfold render renderTokens
  simp only [firstEmpty?_eq_none h]

/-- **What a rendering gives** when every occurrence becomes some placeholder. -/
theorem render_of_filled
    (h : ∀ k < (occurrences (tokens reading template.toList)).length, repeats k ≠ 0) :
    render reading template d repeats = .ok {
      sql := String.ofList (fill (tokens reading template.toList)
        (rows d repeats (occurrences (tokens reading template.toList))))
      names := (occurrences (tokens reading template.toList)).map fun o => String.ofList o.name
      placeholders :=
        placeholdersBefore repeats (occurrences (tokens reading template.toList)).length } := by
  have hwrite := write_eq_fill d repeats 0 (tokens reading template.toList)
  have htotal := total_eq repeats 0 (occurrences (tokens reading template.toList))
  simp only [Nat.zero_add, placeholdersBefore_zero] at hwrite htotal
  rw [render_of_written reading template d repeats h, hwrite, htotal]
  rfl

end Render

end Template

end Rowbind
