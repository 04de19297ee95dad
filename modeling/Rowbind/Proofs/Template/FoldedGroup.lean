import Rowbind.Proofs.Template.Folding
import Rowbind.Proofs.Template.RepeatedGroup

/-!
# The group of a folded template

A batch works on the text of its template and not on its tokens: the group of values is found, cut
out and repeated with all its blanks. Still it is the same in a template and in its folding. No
blank is a letter of `VALUES` or part of a word, a run of blanks before the parenthesis is passed
over whatever its length, and the parentheses that end the group are counted by themselves. So the
cut of a folded template is the folded cut (`valuesGroup_foldBlanks`), and the batch's template is
folded as it would have been (`repeatValuesGroup_foldText`): the group is in parentheses, so no run
of blanks reaches over its ends.
-/

namespace Rowbind.Template

open Text

/-! ## Finding the group -/

/-- A blank is no part of a word. -/
theorem isWordCharacter_of_blank {c : Char} (h : isBlank c = true) : isWordCharacter c = false :=
  of_blank (by decide +kernel) h

/-- The letters of `VALUES`. -/
def groupLetters : List Char := ['V', 'A', 'L', 'U', 'E', 'S']

/-- A blank is no letter of the word before a group. -/
theorem isLetter_of_blank {letter c : Char} (hletter : letter ∈ groupLetters)
    (h : isBlank c = true) : isLetter letter c = false := by
  have hnone : groupLetters.any (isLetter · c) = false :=
    of_blank (p := fun c => groupLetters.any (isLetter · c)) (by decide +kernel) h
  exact Bool.eq_false_iff.mpr (List.any_eq_false.mp hnone letter hletter)

/-- **What follows a word in a folded text** is what follows it in the text, folded. -/
theorem afterWord?_foldBlanks {word : List Char} (hword : ∀ w ∈ word, w ∈ groupLetters)
    (cs : List Char) :
    afterWord? word (foldBlanks cs) = (afterWord? word cs).map foldBlanks := by
  induction word generalizing cs with
  | nil => rfl
  | cons w word ih =>
    have hw := hword w List.mem_cons_self
    cases cs with
    | nil => rfl
    | cons c cs =>
      by_cases hc : isBlank c = true
      · rw [foldBlanks_blank hc, afterWord?, afterWord?, isLetter_of_blank hw hc,
          isLetter_of_blank hw (by decide : isBlank ' ' = true)]
        rfl
      · rw [foldBlanks_cons (Bool.not_eq_true _ ▸ hc), afterWord?, afterWord?]
        split
        · exact ih (fun a ha => hword a (List.mem_cons_of_mem _ ha)) cs
        · rfl

/-- A group at the head of a folded text is the one at the head of the text. -/
theorem groupAt?_foldBlanks (cs : List Char) :
    groupAt? (foldBlanks cs) = (groupAt? cs).map foldBlanks := by
  have hword : ∀ w ∈ ['V', 'A', 'L', 'U', 'E', 'S'], w ∈ groupLetters := fun _ hw => hw
  unfold groupAt?
  rw [afterWord?_foldBlanks hword]
  cases afterWord? ['V', 'A', 'L', 'U', 'E', 'S'] cs with
  | none => rfl
  | some after =>
    simp only [Option.map_some, dropWhile_foldBlanks]
    have hhead := head?_dropWhile_any isBlank after
    cases hrest : after.dropWhile isBlank with
    | nil => rfl
    | cons c rest =>
      rw [hrest] at hhead
      rw [foldBlanks_cons hhead]
      by_cases hc : c = '('
      · subst hc
        exact congrArg some (foldBlanks_cons (by decide)).symm
      · split
        · rename_i heq
          cases heq
          exact absurd rfl hc
        · split
          · rename_i heq
            cases heq
            exact absurd rfl hc
          · rfl

/-- No group is at a blank. -/
theorem groupAt?_blank {c : Char} (hc : isBlank c = true) (cs : List Char) :
    groupAt? (c :: cs) = none := by
  unfold groupAt?
  rw [afterWord?, isLetter_of_blank (by decide) hc]
  rfl

/-- A blank is passed over where a group is looked for. -/
theorem findGroup?_blank {c : Char} (hc : isBlank c = true) (inWord : Bool) (cs : List Char) :
    findGroup? inWord (c :: cs) = findGroup? false cs := by
  rw [findGroup?, groupAt?_blank hc, ite_self, isWordCharacter_of_blank hc]

/-- **The first group of a folded template** is the first group of the template, folded. The
induction is on the template; behind a blank there is no word that goes on. -/
theorem findGroup?_foldFrom (inWord behindBlank : Bool) (cs : List Char)
    (hbehind : behindBlank = true → inWord = false) :
    findGroup? inWord (foldFrom behindBlank cs) = (findGroup? inWord cs).map foldBlanks := by
  induction cs generalizing inWord behindBlank with
  | nil => rfl
  | cons c cs ih =>
    by_cases hc : isBlank c = true
    · have hrest := ih false true fun _ => rfl
      cases behindBlank with
      | true =>
        rw [foldFrom_blank hc, hbehind rfl, findGroup?_blank hc]
        exact hrest
      | false =>
        rw [← foldBlanks, foldBlanks_blank hc, findGroup?_blank (by decide), findGroup?_blank hc]
        exact hrest
    · have hfold : foldFrom behindBlank (c :: cs) = c :: foldBlanks cs :=
        foldFrom_cons (Bool.not_eq_true _ ▸ hc) behindBlank
      have hgroup := groupAt?_foldBlanks (c :: cs)
      rw [foldBlanks_cons (Bool.not_eq_true _ ▸ hc)] at hgroup
      rw [hfold, findGroup?, findGroup?, hgroup]
      cases inWord with
      | true => exact ih _ false fun h => absurd h Bool.false_ne_true
      | false =>
        cases groupAt? (c :: cs) with
        | none => exact ih _ false fun h => absurd h Bool.false_ne_true
        | some rest => rfl

theorem findGroup?_foldBlanks (cs : List Char) :
    findGroup? false (foldBlanks cs) = (findGroup? false cs).map foldBlanks :=
  findGroup?_foldFrom false false cs nofun

/-! ## Cutting the group out -/

/-- A blank is passed over where parentheses are counted. -/
theorem closing?_blank {c : Char} (hc : isBlank c = true) (depth : Nat) (cs : List Char) :
    closing? depth (c :: cs) = (closing? depth cs).map (· + 1) := by
  have hopen : c ≠ '(' := by
    rintro rfl
    exact absurd hc (by decide)
  have hclose : c ≠ ')' := by
    rintro rfl
    exact absurd hc (by decide)
  rw [closing?, if_neg hopen, if_neg hclose]

/-- **Parentheses are closed by the same one** in a text and its folding: the text before it is
folded. -/
theorem closing?_foldFrom (depth : Nat) (behindBlank : Bool) (cs : List Char) :
    closing? depth (foldFrom behindBlank cs) =
      (closing? depth cs).map fun k => (foldFrom behindBlank (cs.take k)).length := by
  induction cs generalizing depth behindBlank with
  | nil => rfl
  | cons c cs ih =>
    by_cases hc : isBlank c = true
    · rw [closing?_blank hc, Option.map_map]
      cases behindBlank with
      | true =>
        rw [foldFrom_blank hc, ih]
        congr 1
        funext k
        rw [Function.comp_apply, List.take_succ_cons, foldFrom_blank hc]
      | false =>
        rw [← foldBlanks, foldBlanks_blank hc, closing?_blank (by decide), ih,
          Option.map_map]
        congr 1
        funext k
        rw [Function.comp_apply, Function.comp_apply, List.take_succ_cons, ← foldBlanks,
          foldBlanks_blank hc, List.length_cons]
    · have hfold : ∀ rest, foldFrom behindBlank (c :: rest) = c :: foldBlanks rest :=
        fun _ => foldFrom_cons (Bool.not_eq_true _ ▸ hc) behindBlank
      have hstep : ∀ depth, (closing? depth (foldBlanks cs)).map (· + 1) =
          ((closing? depth cs).map (· + 1)).map
            fun k => (foldFrom behindBlank ((c :: cs).take k)).length := by
        intro depth
        rw [foldBlanks, ih, Option.map_map, Option.map_map]
        congr 1
        funext k
        rw [Function.comp_apply, Function.comp_apply, List.take_succ_cons, hfold,
          List.length_cons, foldBlanks]
      rw [hfold, closing?, closing?]
      split
      · exact hstep (depth + 1)
      · split
        · split
          · rfl
          · exact hstep (depth - 1)
        · exact hstep depth

/-- A cut with its parts folded. -/
def ValuesGroup.folded (cut : ValuesGroup) : ValuesGroup where
  before := foldBlanks cut.before
  group := foldBlanks cut.group
  after := foldBlanks cut.after

/-- A folded text that is cut at a parenthesis is the fold of its parts. -/
theorem foldBlanks_take_drop {cs : List Char} {k : Nat} (hk : cs[k]? = some ')') :
    foldBlanks cs = foldBlanks (cs.take k) ++ ')' :: foldBlanks (cs.drop (k + 1)) := by
  obtain ⟨hlt, hget⟩ := List.getElem?_eq_some_iff.mp hk
  rw [← foldBlanks_append_cons (by decide), ← hget, ← List.drop_eq_getElem_cons hlt,
    List.take_append_drop]

/-- **A folded template is cut as the template is.** -/
theorem valuesGroup_foldBlanks (template : List Char) :
    valuesGroup (foldBlanks template) = (valuesGroup template).map ValuesGroup.folded := by
  unfold valuesGroup
  rw [findGroup?_foldBlanks]
  cases hfound : findGroup? false template with
  | none => rfl
  | some rest =>
    obtain ⟨⟨before, rfl⟩, hhead⟩ := findGroup?_spec hfound
    have hclosing : closing? 0 (foldBlanks rest) =
        (closing? 0 rest).map fun k => (foldBlanks (rest.take k)).length :=
      closing?_foldFrom 0 false rest
    simp only [Option.map_some, matchingParen?, hclosing]
    cases hclose : closing? 0 rest with
    | none => rfl
    | some close =>
      have hparen := closing?_spec hclose
      have hbefore : foldBlanks (before ++ rest) = foldBlanks before ++ foldBlanks rest := by
        obtain ⟨tail, rfl⟩ := List.head?_eq_some_iff.mp hhead
        rw [foldBlanks_append_cons (by decide), foldBlanks_cons (by decide)]
      have hgroup : foldBlanks (rest.take (close + 1)) = foldBlanks (rest.take close) ++ [')'] := by
        rw [List.take_add_one, hparen]
        exact foldBlanks_append_cons (by decide) _ []
      have hcut := foldBlanks_take_drop hparen
      simp only [Option.map_some, Except.map, ValuesGroup.folded, Except.ok.injEq,
        ValuesGroup.mk.injEq]
      refine ⟨?_, ?_, ?_⟩
      · rw [hbefore, List.length_append, List.length_append, Nat.add_sub_cancel,
          Nat.add_sub_cancel, List.take_left, List.take_left]
      · rw [hgroup, hcut, List.take_length_add_append, List.take_succ_cons, List.take_zero]
      · rw [hcut, List.drop_length_add_append, List.drop_succ_cons, List.drop_zero]

/-! ## Repeating it -/

/-- A text is folded before, in and after a group in parentheses by itself. -/
theorem foldBlanks_parenthesised {group : List Char} (h : Parenthesised group)
    (pre post : List Char) :
    foldBlanks (pre ++ group ++ post) = foldBlanks pre ++ foldBlanks group ++ foldBlanks post := by
  obtain ⟨inner, rfl⟩ := h
  have hgroup : foldBlanks ('(' :: (inner ++ [')'])) = '(' :: (foldBlanks inner ++ [')']) := by
    rw [foldBlanks_cons (by decide), foldBlanks_append_cons (by decide)]
    rfl
  rw [append_parenthesised, hgroup, foldBlanks_append_cons (by decide),
    foldBlanks_append_cons (by decide)]
  exact (append_parenthesised _ _ _).symm

/-- A group in parentheses is repeated folded. -/
theorem foldBlanks_repeated {group : List Char} (h : Parenthesised group) (count : Nat) :
    foldBlanks (repeated group count) = repeated (foldBlanks group) count := by
  induction count using repeated.induct with
  | case1 => rfl
  | case2 => rfl
  | case3 count hcount ih =>
    rw [repeated, repeated, ← ih, ← List.nil_append (group ++ _), ← List.append_assoc,
      foldBlanks_parenthesised h, foldBlanks_cons (by decide : isBlank ',' = false)]
    · rfl
    · exact hcount
    · exact hcount

/-- **The batch's template of a folded template** is the folding of the batch's template. -/
theorem repeatValuesGroup_foldText (template : String) (count : Nat) :
    repeatValuesGroup (foldText template) (count + 1) =
      (repeatValuesGroup template (count + 1)).map foldText := by
  unfold repeatValuesGroup
  rw [foldText, String.toList_ofList, valuesGroup_foldBlanks]
  cases hcut : valuesGroup template.toList with
  | error fault => rfl
  | ok cut =>
    obtain ⟨-, hgroup⟩ := valuesGroup_parts hcut
    simp only [Except.map, ok_bind, ValuesGroup.folded, parameterNames_foldBlanks]
    split
    · rfl
    · refine congrArg Except.ok ?_
      rw [foldText, String.toList_ofList,
        foldBlanks_parenthesised (parenthesised_repeated hgroup count), foldBlanks_repeated hgroup]

end Rowbind.Template
