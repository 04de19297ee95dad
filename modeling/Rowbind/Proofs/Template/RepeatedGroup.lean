import Rowbind.Proofs.Outcome
import Rowbind.Proofs.Template.Reading
import Rowbind.Template.ValuesGroup

/-!
# The parameters of a repeated group

What a template's cut at its group of values is worth: the three parts are the template again, and
the group is in parentheses (`valuesGroup_parts`). Since parentheses stand alone, the parameters of
the template are those before the group, inside it and after it, in that order, and a template whose
parameters are as many as its group's has none outside.

So a batch's template has the names of the template itself, once for each element
(`parameterNames_repeatValuesGroup`): the occurrences fall to the elements in equal shares.
-/

namespace Rowbind.Template

/-! ## Parameters of adjacent texts -/

theorem occurrences_append (ts us : List Token) :
    occurrences (ts ++ us) = occurrences ts ++ occurrences us := by
  induction ts with
  | nil => rfl
  | cons t ts ih => cases t with
    | literal c => exact ih
    | placeholder o => exact congrArg (o :: ·) ih

theorem parameterNames_nil : parameterNames [] = [] := by
  unfold parameterNames
  rw [tokens_nil]
  rfl

/-- The parameters of a text are those of its parts, where a character that stands alone divides
it. -/
theorem parameterNames_append_cons {c : Char} (h : standsAlone c = true) (pre post : List Char) :
    parameterNames (pre ++ c :: post) = parameterNames pre ++ parameterNames post := by
  unfold parameterNames
  rw [tokens_append_cons h, occurrences_append, List.map_append]
  rfl

/-- A character that stands alone is no parameter. -/
theorem parameterNames_cons {c : Char} (h : standsAlone c = true) (post : List Char) :
    parameterNames (c :: post) = parameterNames post := by
  rw [← List.nil_append (c :: post), parameterNames_append_cons h, parameterNames_nil,
    List.nil_append]

/-! ## The group -/

/-- **Whether a text is in parentheses**: it begins with an opening one and ends with a closing
one. -/
def Parenthesised (group : List Char) : Prop :=
  ∃ inner, group = '(' :: (inner ++ [')'])

/-- Behind a text in parentheses, what follows goes on from its last one. -/
theorem append_parenthesised (pre inner post : List Char) :
    pre ++ '(' :: (inner ++ [')']) ++ post = pre ++ '(' :: (inner ++ ')' :: post) := by
  simp only [List.append_assoc, List.cons_append, List.nil_append]

section Parenthesised

variable {group : List Char} (h : Parenthesised group)
include h

/-- A text in parentheses keeps its parameters apart from those before and after it. -/
theorem parameterNames_parenthesised (pre post : List Char) :
    parameterNames (pre ++ group ++ post) =
      parameterNames pre ++ parameterNames group ++ parameterNames post := by
  obtain ⟨inner, rfl⟩ := h
  have hclose : ∀ tail, parameterNames ('(' :: (inner ++ ')' :: tail)) =
      parameterNames inner ++ parameterNames tail := by
    intro tail
    rw [parameterNames_cons standsAlone_open, parameterNames_append_cons standsAlone_close]
  have hinner := hclose []
  rw [parameterNames_nil, List.append_nil] at hinner
  rw [append_parenthesised, parameterNames_append_cons standsAlone_open, hinner,
    parameterNames_append_cons standsAlone_close, List.append_assoc]

/-- A repeated group has the group's parameters as often as it is repeated. -/
theorem parameterNames_repeated (count : Nat) :
    parameterNames (repeated group count) =
      (List.replicate count (parameterNames group)).flatten := by
  induction count using repeated.induct with
  | case1 => exact parameterNames_nil
  | case2 => rw [repeated, List.replicate_one, List.flatten_singleton]
  | case3 count hcount ih =>
    have hgroup := parameterNames_parenthesised h [] (',' :: repeated group count)
    rw [parameterNames_cons standsAlone_comma, ih, parameterNames_nil] at hgroup
    rw [repeated, List.replicate_succ, List.flatten_cons]
    · exact hgroup
    · exact hcount

/-- A repeated group is in parentheses itself. -/
theorem parenthesised_repeated (count : Nat) : Parenthesised (repeated group (count + 1)) := by
  induction count with
  | zero => exact h
  | succ count ih =>
    obtain ⟨inner, hinner⟩ := h
    obtain ⟨rest, hrest⟩ := ih
    refine ⟨inner ++ ')' :: ',' :: '(' :: rest, ?_⟩
    rw [repeated, hrest, hinner]
    · simp only [List.cons_append, List.append_assoc, List.nil_append]
    · exact Nat.succ_ne_zero count

end Parenthesised

/-! ## Cutting a template -/

/-- What follows a word in a text ends the text. -/
theorem afterWord?_suffix {word cs rest : List Char} (h : afterWord? word cs = some rest) :
    rest <:+ cs := by
  induction word generalizing cs with
  | nil =>
    cases h
    exact List.suffix_rfl
  | cons w ws ih =>
    cases cs with
    | nil => cases h
    | cons c cs =>
      unfold afterWord? at h
      split at h
      · exact (ih h).trans (List.suffix_cons c cs)
      · cases h

/-- A group at the head of a text ends the text, from its parenthesis on. -/
theorem groupAt?_spec {cs rest : List Char} (h : groupAt? cs = some rest) :
    rest <:+ cs ∧ rest.head? = some '(' := by
  unfold groupAt? at h
  split at h
  · rename_i tail hword
    cases h
    obtain ⟨after, hafter, hblanks⟩ := Option.map_eq_some_iff.mp hword
    refine ⟨?_, rfl⟩
    rw [← hblanks]
    exact (List.dropWhile_suffix _).trans (afterWord?_suffix hafter)
  · cases h

/-- The first group ends the template, from its parenthesis on. -/
theorem findGroup?_spec {template rest : List Char} {inWord : Bool}
    (h : findGroup? inWord template = some rest) :
    rest <:+ template ∧ rest.head? = some '(' := by
  induction template generalizing inWord with
  | nil => cases h
  | cons c cs ih =>
    unfold findGroup? at h
    split at h
    · rename_i found hfound
      cases h
      split at hfound
      · cases hfound
      · exact groupAt?_spec hfound
    · obtain ⟨hsuffix, hhead⟩ := ih h
      exact ⟨hsuffix.trans (List.suffix_cons c cs), hhead⟩

/-- Parentheses are closed by one of the text's own. -/
theorem closing?_spec {cs : List Char} {depth close : Nat} (h : closing? depth cs = some close) :
    cs[close]? = some ')' := by
  induction cs generalizing depth close with
  | nil => cases h
  | cons c cs ih =>
    unfold closing? at h
    split at h
    · obtain ⟨k, hk, rfl⟩ := Option.map_eq_some_iff.mp h
      exact ih hk
    · split at h
      · rename_i hc
        split at h
        · cases h
          rw [hc]
          rfl
        · obtain ⟨k, hk, rfl⟩ := Option.map_eq_some_iff.mp h
          exact ih hk
      · obtain ⟨k, hk, rfl⟩ := Option.map_eq_some_iff.mp h
        exact ih hk

/-- A text from an opening parenthesis to a closing one is in parentheses. -/
theorem parenthesised_take {rest : List Char} {close : Nat} (hopen : rest.head? = some '(')
    (hclose : rest[close]? = some ')') : Parenthesised (rest.take (close + 1)) := by
  obtain ⟨tail, rfl⟩ : ∃ tail, rest = '(' :: tail := by
    cases rest with
    | nil => cases hopen
    | cons c tail => cases hopen; exact ⟨tail, rfl⟩
  cases close with
  | zero => cases hclose
  | succ k =>
    refine ⟨tail.take k, ?_⟩
    rw [List.getElem?_cons_succ] at hclose
    rw [List.take_succ_cons, List.take_add_one, hclose]
    rfl

/-- **A template is the three parts of its cut, and the group is in parentheses.** -/
theorem valuesGroup_parts {template : List Char} {cut : ValuesGroup}
    (h : valuesGroup template = .ok cut) :
    template = cut.before ++ cut.group ++ cut.after ∧ Parenthesised cut.group := by
  unfold valuesGroup at h
  split at h
  · cases h
  · rename_i rest hfound
    obtain ⟨hsuffix, hhead⟩ := findGroup?_spec hfound
    split at h
    · cases h
    · rename_i close hclose
      cases h
      refine ⟨?_, parenthesised_take hhead (closing?_spec hclose)⟩
      rw [List.append_assoc, List.take_append_drop]
      exact (List.suffix_iff_eq_append.mp hsuffix).symm

/-! ## The template of a batch -/

/-- A group repeated at least once, with a comma before every further one. -/
theorem repeated_succ (group : List Char) (count : Nat) :
    repeated group (count + 1) = group ++ (List.replicate count (',' :: group)).flatten := by
  induction count with
  | zero => rw [repeated, List.replicate_zero, List.flatten_nil, List.append_nil]
  | succ count ih =>
    rw [repeated, ih, List.replicate_succ, List.flatten_cons, List.cons_append]
    exact Nat.succ_ne_zero count

/-- A template is refused for what it is, whatever the number of elements. -/
theorem repeatValuesGroup_error {template : String} {count : Nat} {fault : TemplateFault}
    (h : repeatValuesGroup template count = .error fault) (count' : Nat) :
    repeatValuesGroup template count' = .error fault := by
  unfold repeatValuesGroup at h ⊢
  cases hcut : valuesGroup template.toList with
  | error f =>
    rw [hcut] at h
    exact h
  | ok cut =>
    rw [hcut] at h
    simp only [ok_bind] at h ⊢
    split at h
    · rename_i hne
      rw [if_pos hne]
      exact h
    · cases h

/-- **The template of a batch**: the text around the group once, the group as often as there are
elements, and the template's parameters once for each. -/
theorem repeatValuesGroup_parts {template text : String} {count : Nat}
    (h : repeatValuesGroup template count = .ok text) :
    ∃ cut, valuesGroup template.toList = .ok cut ∧
      template.toList = cut.before ++ cut.group ++ cut.after ∧ Parenthesised cut.group ∧
      text.toList = cut.before ++ repeated cut.group count ++ cut.after ∧
      parameterNames cut.before = [] ∧ parameterNames cut.after = [] := by
  unfold repeatValuesGroup at h
  obtain ⟨cut, hcut, h⟩ := bind_eq_ok.mp h
  obtain ⟨hparts, hgroup⟩ := valuesGroup_parts hcut
  simp only at h
  split at h
  · cases h
  · rename_i hcount
    cases h
    have hnames := congrArg List.length (parameterNames_parenthesised hgroup cut.before cut.after)
    rw [← hparts, Decidable.not_not.mp hcount, List.length_append, List.length_append] at hnames
    refine ⟨cut, hcut, hparts, hgroup, String.toList_ofList, ?_, ?_⟩
    · exact List.eq_nil_of_length_eq_zero (by omega)
    · exact List.eq_nil_of_length_eq_zero (by omega)

/-- **The parameters of a batch's template** are the template's own, once for each element. -/
theorem parameterNames_repeatValuesGroup {template text : String} {count : Nat}
    (h : repeatValuesGroup template (count + 1) = .ok text) :
    parameterNames text.toList =
      (List.replicate (count + 1) (parameterNames template.toList)).flatten := by
  obtain ⟨cut, -, hparts, hgroup, htext, hbefore, hafter⟩ := repeatValuesGroup_parts h
  have htemplate : parameterNames template.toList = parameterNames cut.group := by
    rw [hparts, parameterNames_parenthesised hgroup, hbefore, hafter, List.nil_append,
      List.append_nil]
  rw [htext, parameterNames_parenthesised (parenthesised_repeated hgroup count), hbefore, hafter,
    List.nil_append, List.append_nil, parameterNames_repeated hgroup, htemplate]

end Rowbind.Template
