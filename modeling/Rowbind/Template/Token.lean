import Rowbind.Template.Convention

/-!
# A template's tokens

A template is a list of **tokens**: pieces of literal text and occurrences of placeholders. The
tokens are what the template says in whatever dialect it is to be written; every rendering is a
printer over them (`Rowbind.Template.Rendering`).

Reading the tokens settles two things once and for all. A run of blanks is one space, so that
templates that differ in layout alone have the same tokens. Two colons are one literal colon,
wherever a colon could begin a parameter.

`countPlaceholders` is a reading of its own, which keeps no text and folds no blanks.
-/

namespace Rowbind

open Text

/-- **A piece of a template.** -/
inductive Token
  | literal (c : Char)
  | placeholder (occurrence : Occurrence)
  deriving DecidableEq, Repr

namespace Template

/-- **The tokens of a text.** Each step leaves a shorter rest: a literal takes one character, a run
of blanks all of it, and a placeholder at least its sign. -/
def tokens (reading : Convention) : List Char → List Token
  | [] => []
  | c :: cs =>
    if isBlank c then
      .literal ' ' :: tokens reading (cs.dropWhile isBlank)
    else if reading.readsColon && c == ':' && cs.head? == some ':' then
      .literal ':' :: tokens reading (cs.drop 1)
    else
      match occurrence? reading (c :: cs) with
      | some o => .placeholder o :: tokens reading (cs.drop (o.written.length - 1))
      | none => .literal c :: tokens reading cs
termination_by cs => cs.length
decreasing_by
  · have := (List.dropWhile_suffix (l := cs) isBlank).length_le
    simp only [List.length_cons]; omega
  · simp only [List.length_drop, List.length_cons]; omega
  · simp only [List.length_drop, List.length_cons]; omega
  · simp only [List.length_cons]; omega

/-- The occurrences among tokens, left to right. -/
def occurrences : List Token → List Occurrence
  | [] => []
  | .literal _ :: ts => occurrences ts
  | .placeholder o :: ts => o :: occurrences ts

/-- The placeholders of a text in a dialect's own form, question marks included. -/
def countFrom (d : Dialect) : List Char → Nat
  | [] => 0
  | c :: cs =>
    if d == .named && c == ':' && cs.head? == some ':' then countFrom d (cs.drop 1)
    else
      match occurrence? (.positional d) (c :: cs) with
      | some o => countFrom d (cs.drop (o.written.length - 1)) + 1
      | none => countFrom d cs
termination_by cs => cs.length
decreasing_by
  · simp only [List.length_drop, List.length_cons]; omega
  · simp only [List.length_drop, List.length_cons]; omega
  · simp only [List.length_cons]; omega

/-- **How many placeholders a query has** in a dialect's own form. -/
def countPlaceholders (query : String) (d : Dialect) : Nat :=
  countFrom d query.toList

end Template

end Rowbind
