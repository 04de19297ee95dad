import Mathlib.Data.Nat.Find
import Rowbind.Proofs.Template.Positions
import Rowbind.Proofs.Template.RepeatedGroup

/-!
# Where a group's parentheses are balanced

`openAfter` counts the parentheses that are open at the end of a text. `ClosesAt` is the first
position behind which none is, and that is what the search for a group's end finds: where there is
such a position the search ends at it, and where there is none the search fails
(`matchingParen?_eq_some_iff`, `matchingParen?_eq_none_iff`).

The search lowers its depth at every closing parenthesis, and a depth cannot be lowered below zero.
`closingChecked?` is the search that stops where that would be asked for. Begun at an opening
parenthesis it never stops: behind that parenthesis the depth is at least one, and the search ends
as soon as the depth comes to zero (`closingChecked?_open`). So the search's own answer to a closing
parenthesis at depth zero, which it takes for the last one, is never used.

Nor does the count of a template's parameters outside its group go below zero: the group is a piece
of the template's reading, and has no more parameters than the template
(`length_parameterNames_group`). So a template is repeated without a fault: neither these counts nor
the pieces that it is cut into leave their range (`repeatChecked?_eq`).
-/

namespace Rowbind.Template

/-! ## Open parentheses -/

/-- **How many parentheses are open at the end of a text**: the opening ones less the closing. -/
def openAfter (cs : List Char) : Int :=
  cs.count '(' - cs.count ')'

theorem openAfter_cons (c : Char) (cs : List Char) :
    openAfter (c :: cs) = openAfter [c] + openAfter cs := by
  simp only [openAfter, List.count_cons, List.count_nil]
  omega

theorem openAfter_open : openAfter ['('] = 1 := rfl

theorem openAfter_close : openAfter [')'] = -1 := rfl

theorem openAfter_other {c : Char} (hopen : c ≠ '(') (hclose : c ≠ ')') : openAfter [c] = 0 := by
  simp [openAfter, hopen, hclose]

/-- A character closes one parenthesis at most. -/
theorem neg_one_le_openAfter (c : Char) : -1 ≤ openAfter [c] := by
  simp only [openAfter, List.count_cons, List.count_nil]
  split <;> split <;> omega

theorem openAfter_append (cs ds : List Char) :
    openAfter (cs ++ ds) = openAfter cs + openAfter ds := by
  simp only [openAfter, List.count_append]
  omega

/-- **Behind an opening parenthesis the depth is positive as long as it has not been zero.** -/
theorem openAfter_take_pos (cs : List Char) {k : Nat}
    (h : ∀ j ≤ k, openAfter (('(' :: cs).take (j + 1)) ≠ 0) :
    0 < openAfter (('(' :: cs).take (k + 1)) := by
  induction k with
  | zero => exact Int.one_pos
  | succ k ih =>
    have hbefore := ih fun j hj => h j (Nat.le_succ_of_le hj)
    have hhere := h (k + 1) (Nat.le_refl _)
    rw [List.take_add_one, openAfter_append] at hhere ⊢
    generalize ('(' :: cs)[k + 1]? = next at hhere ⊢
    cases next with
    | none =>
      rw [Option.toList_none]
      exact Int.add_pos_of_pos_of_nonneg hbefore (Int.le_refl 0)
    | some c =>
      have hstep := neg_one_le_openAfter c
      simp only [Option.toList_some] at hhere ⊢
      omega

/-- **Whether a text, behind which `depth` parentheses are open, closes the last of them at a
position**, and not before. -/
structure ClosesAt (depth : Int) (cs : List Char) (k : Nat) : Prop where
  inside : k < cs.length
  balanced : depth + openAfter (cs.take (k + 1)) = 0
  first : ∀ j < k, depth + openAfter (cs.take (j + 1)) ≠ 0

namespace ClosesAt

variable {depth : Int} {c : Char} {cs : List Char} {k : Nat}

/-- The first character closes the last parenthesis. -/
theorem zero_iff : ClosesAt depth (c :: cs) 0 ↔ depth + openAfter [c] = 0 :=
  ⟨fun h => h.balanced, fun h => ⟨Nat.succ_pos _, h, fun _ hj => absurd hj (Nat.not_lt_zero _)⟩⟩

/-- A later character does when the first one leaves parentheses open that the rest closes. -/
theorem succ_iff : ClosesAt depth (c :: cs) (k + 1) ↔
    depth + openAfter [c] ≠ 0 ∧ ClosesAt (depth + openAfter [c]) cs k := by
  have hstep : ∀ j, depth + openAfter ((c :: cs).take (j + 1 + 1)) =
      depth + openAfter [c] + openAfter (cs.take (j + 1)) := by
    intro j
    rw [List.take_succ_cons, openAfter_cons, Int.add_assoc]
  constructor
  · intro h
    refine ⟨h.first 0 (Nat.succ_pos k), Nat.lt_of_succ_lt_succ h.inside, ?_, fun j hj => ?_⟩
    · rw [← hstep]
      exact h.balanced
    · rw [← hstep]
      exact h.first (j + 1) (Nat.succ_lt_succ hj)
  · rintro ⟨hfirst, h⟩
    refine ⟨Nat.succ_lt_succ h.inside, (hstep k).trans h.balanced, fun j hj => ?_⟩
    cases j with
    | zero => exact hfirst
    | succ j =>
      rw [hstep]
      exact h.first j (Nat.lt_of_succ_lt_succ hj)

/-- A text closes nothing exactly when it is nowhere balanced. -/
theorem not_exists_iff : (∀ k, ¬ ClosesAt depth cs k) ↔
    ∀ k < cs.length, depth + openAfter (cs.take (k + 1)) ≠ 0 := by
  classical
  constructor
  · intro hnone k hk hbalanced
    have hsome : ∃ k, k < cs.length ∧ depth + openAfter (cs.take (k + 1)) = 0 := ⟨k, hk, hbalanced⟩
    obtain ⟨hlt, heq⟩ := Nat.find_spec hsome
    exact hnone _ ⟨hlt, heq, fun j hj h => Nat.find_min hsome hj ⟨hj.trans hlt, h⟩⟩
  · intro hnever k h
    exact hnever k h.inside h.balanced

end ClosesAt

/-! ## The search for the end -/

/-- A step of the search among open parentheses. -/
theorem closing?_cons {depth : Nat} (hdepth : 0 < depth) (c : Char) (cs : List Char) :
    closing? depth (c :: cs) =
      if (depth : Int) + openAfter [c] = 0 then some 0
      else (closing? ((depth : Int) + openAfter [c]).toNat cs).map (· + 1) := by
  by_cases hopen : c = '('
  · subst hopen
    have hne : ¬ (depth : Int) + 1 = 0 := by omega
    have hnext : ((depth : Int) + 1).toNat = depth + 1 := by omega
    rw [closing?, if_pos rfl, openAfter_open, if_neg hne, hnext]
  · by_cases hclose : c = ')'
    · subst hclose
      have hnext : ((depth : Int) + -1).toNat = depth - 1 := by omega
      have hlast : (depth : Int) + -1 = 0 ↔ depth ≤ 1 := by omega
      rw [closing?, if_neg hopen, if_pos rfl, openAfter_close, hnext]
      simp only [hlast]
    · have hne : ¬ (depth : Int) + 0 = 0 := by omega
      rw [closing?, if_neg hopen, if_neg hclose, openAfter_other hopen hclose, if_neg hne,
        Int.add_zero, Int.toNat_natCast]

/-- **The search ends where the last of the open parentheses is closed.** A step that leaves some of
them open leaves a positive depth, since it lowers the depth by one at most. -/
theorem closing?_eq_some_iff {depth : Nat} (hdepth : 0 < depth) {cs : List Char} {k : Nat} :
    closing? depth cs = some k ↔ ClosesAt depth cs k := by
  induction cs generalizing depth k with
  | nil => exact ⟨nofun, fun h => absurd h.inside (Nat.not_lt_zero k)⟩
  | cons c cs ih =>
    have hstep := neg_one_le_openAfter c
    rw [closing?_cons hdepth]
    split
    · rename_i hzero
      cases k with
      | zero => exact ⟨fun _ => ClosesAt.zero_iff.mpr hzero, fun _ => rfl⟩
      | succ k =>
        exact ⟨nofun, fun h => absurd hzero (ClosesAt.succ_iff.mp h).1⟩
    · rename_i hopen
      have hpos : 0 < ((depth : Int) + openAfter [c]).toNat := by omega
      have hcast : (((depth : Int) + openAfter [c]).toNat : Int) = depth + openAfter [c] := by omega
      cases k with
      | zero =>
        constructor
        · intro h
          obtain ⟨j, -, hj⟩ := Option.map_eq_some_iff.mp h
          exact absurd hj (Nat.succ_ne_zero j)
        · exact fun h => absurd (ClosesAt.zero_iff.mp h) hopen
      | succ k =>
        rw [ClosesAt.succ_iff, ← hcast, ← ih hpos]
        constructor
        · intro h
          obtain ⟨j, hj, hjk⟩ := Option.map_eq_some_iff.mp h
          exact ⟨hcast ▸ hopen, Nat.succ.inj hjk ▸ hj⟩
        · exact fun h => Option.map_eq_some_iff.mpr ⟨k, h.2, rfl⟩

/-- The search from an opening parenthesis is the search behind it. -/
theorem matchingParen?_open (cs : List Char) :
    matchingParen? ('(' :: cs) = (closing? 1 cs).map (· + 1) := rfl

/-- **The group ends at the first position where it is balanced.** -/
theorem matchingParen?_eq_some_iff {cs : List Char} {k : Nat} :
    matchingParen? ('(' :: cs) = some k ↔ ClosesAt 0 ('(' :: cs) k := by
  rw [matchingParen?_open]
  cases k with
  | zero =>
    constructor
    · intro h
      obtain ⟨j, -, hj⟩ := Option.map_eq_some_iff.mp h
      exact absurd hj (Nat.succ_ne_zero j)
    · exact fun h => absurd (ClosesAt.zero_iff.mp h) (by decide)
  | succ k =>
    rw [ClosesAt.succ_iff, openAfter_open, Int.zero_add, ← Int.natCast_one,
      ← closing?_eq_some_iff Nat.one_pos]
    constructor
    · intro h
      obtain ⟨j, hj, hjk⟩ := Option.map_eq_some_iff.mp h
      exact ⟨by decide, Nat.succ.inj hjk ▸ hj⟩
    · exact fun h => Option.map_eq_some_iff.mpr ⟨k, h.2, rfl⟩

/-- **The group does not end if it is nowhere balanced**, and only then. -/
theorem matchingParen?_eq_none_iff {cs : List Char} :
    matchingParen? ('(' :: cs) = none ↔
      ∀ k < cs.length + 1, openAfter (('(' :: cs).take (k + 1)) ≠ 0 := by
  simp only [Option.eq_none_iff_forall_ne_some, ne_eq, matchingParen?_eq_some_iff,
    ClosesAt.not_exists_iff, List.length_cons, Int.zero_add]

/-! ## The depth -/

/-- **The search with its depth checked**: `none` where a closing parenthesis would lower a depth of
zero, and otherwise what the search finds. -/
def closingChecked? (depth : Nat) : List Char → Option (Option Nat)
  | [] => some none
  | c :: cs =>
    if c = '(' then (closingChecked? (depth + 1) cs).map (·.map (· + 1))
    else if c = ')' then
      match depth with
      | 0 => none
      | 1 => some (some 0)
      | depth + 2 => (closingChecked? (depth + 1) cs).map (·.map (· + 1))
    else (closingChecked? depth cs).map (·.map (· + 1))

/-- Among open parentheses the depth is never lowered from zero. -/
theorem closingChecked?_eq {depth : Nat} (hdepth : 0 < depth) (cs : List Char) :
    closingChecked? depth cs = some (closing? depth cs) := by
  induction cs generalizing depth with
  | nil => rfl
  | cons c cs ih =>
    unfold closingChecked? closing?
    split
    · rw [ih (Nat.succ_pos depth), Option.map_some]
    · split
      · obtain _ | _ | depth := depth
        · exact absurd hdepth (Nat.lt_irrefl 0)
        · rfl
        · rw [if_neg (by omega)]
          exact congrArg (Option.map _) (ih (Nat.succ_pos depth))
      · rw [ih hdepth, Option.map_some]

/-- **From an opening parenthesis on, the depth is never lowered from zero.** -/
theorem closingChecked?_open (cs : List Char) :
    closingChecked? 0 ('(' :: cs) = some (matchingParen? ('(' :: cs)) := by
  rw [closingChecked?, if_pos rfl, closingChecked?_eq Nat.one_pos, Option.map_some,
    matchingParen?_open]

/-! ## The parameters of a group -/

/-- A template's group has no more parameters than the template. -/
theorem length_parameterNames_group {template : List Char} {cut : ValuesGroup}
    (h : valuesGroup template = .ok cut) :
    (parameterNames cut.group).length ≤ (parameterNames template).length := by
  obtain ⟨hparts, hgroup⟩ := valuesGroup_parts h
  rw [hparts, parameterNames_parenthesised hgroup, List.length_append, List.length_append]
  omega

/-! ## Repeating the group -/

/-- **One number less another**, `none` where that would be below zero. -/
def subChecked? (m n : Nat) : Option Nat :=
  if n ≤ m then some (m - n) else none

theorem subChecked?_eq {m n : Nat} (h : n ≤ m) : subChecked? m n = some (m - n) := if_pos h

/-- **The template of a batch with its counts and positions checked**: `none` where a depth or a
number would go below zero, or a piece would be cut that is not in the template. -/
def repeatChecked? (template : String) (count : Nat) : Option (Except TemplateFault String) := do
  let cs := template.toList
  match findGroup? false cs with
  | none => return .error .noValuesGroup
  | some rest =>
    let start ← subChecked? cs.length rest.length
    match ← closingChecked? 0 rest with
    | none => return .error .unbalancedValuesGroup
    | some close =>
      let group ← slice? cs start (start + (close + 1))
      let inside := (parameterNames group).length
      let all := (parameterNames cs).length
      if all ≠ inside then
        return .error (.outsideValuesGroup (← subChecked? all inside))
      else
        let before ← slice? cs 0 start
        let after ← slice? cs (start + (close + 1)) cs.length
        return .ok (String.ofList (before ++ repeated group count ++ after))

/-- A piece of a text is cut from where it begins to where it ends. -/
theorem slice?_append (before piece after : List Char) :
    slice? (before ++ piece ++ after) before.length (before.length + piece.length) =
      some piece := by
  refine slice?_prefix ?_ ⟨after, ?_⟩
  · simp only [List.length_append]
    omega
  · rw [List.append_assoc, List.drop_left]

/-- The pieces of a text in three. -/
theorem slices_of_parts {cs before group after : List Char} (h : cs = before ++ group ++ after) :
    slice? cs 0 before.length = some before ∧
      slice? cs before.length (before.length + group.length) = some group ∧
      slice? cs (before.length + group.length) cs.length = some after := by
  subst h
  refine ⟨?_, slice?_append before group after, ?_⟩
  · have hbefore := slice?_append [] before (group ++ after)
    rwa [List.nil_append, List.length_nil, Nat.zero_add, ← List.append_assoc] at hbefore
  · have hafter := slice?_append (before ++ group) after []
    rwa [List.append_nil, ← List.length_append, List.length_append] at hafter

/-- **A template is repeated without a fault.** -/
theorem repeatChecked?_eq (template : String) (count : Nat) :
    repeatChecked? template count = some (repeatValuesGroup template count) := by
  unfold repeatChecked? repeatValuesGroup
  generalize template.toList = cs
  cases hfound : findGroup? false cs with
  | none => simp only [valuesGroup, hfound]; rfl
  | some rest =>
    obtain ⟨⟨before, rfl⟩, hhead⟩ := findGroup?_spec hfound
    obtain ⟨tail, rfl⟩ := List.head?_eq_some_iff.mp hhead
    have hstart : subChecked? (before ++ '(' :: tail).length ('(' :: tail).length =
        some before.length := by
      rw [List.length_append, subChecked?_eq (Nat.le_add_left _ _), Nat.add_sub_cancel]
    cases hclose : matchingParen? ('(' :: tail) with
    | none => simp only [valuesGroup, hfound, hstart, closingChecked?_open, hclose]; rfl
    | some close =>
      have hcut : valuesGroup (before ++ '(' :: tail) = .ok {
          before := before
          group := ('(' :: tail).take (close + 1)
          after := ('(' :: tail).drop (close + 1) } := by
        simp only [valuesGroup, hfound, hclose, List.length_append, Nat.add_sub_cancel,
          List.take_left']
      have hlength : (('(' :: tail).take (close + 1)).length = close + 1 :=
        List.length_take_of_le (List.getElem?_eq_some_iff.mp (closing?_spec hclose)).1
      generalize ('(' :: tail).take (close + 1) = group at hcut hlength
      generalize ('(' :: tail).drop (close + 1) = after at hcut
      have hparts : before ++ '(' :: tail = before ++ group ++ after := (valuesGroup_parts hcut).1
      obtain ⟨hbefore, hgroup, hafter⟩ := slices_of_parts hparts
      rw [hlength] at hgroup hafter
      have hinside := subChecked?_eq (length_parameterNames_group hcut)
      simp only [hcut, hfound, hstart, closingChecked?_open, hclose, hbefore, hgroup, hafter,
        ok_bind, Option.bind_eq_bind, Option.bind_some]
      split
      · simp only [hinside]
        rfl
      · rfl

end Rowbind.Template
