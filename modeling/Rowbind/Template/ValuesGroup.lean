import Rowbind.Template.Rendering
import Rowbind.Text.WordCharacter

/-!
# The group of values that a batch repeats

A batch is written by one statement: the parenthesised group after the first `VALUES` of its
template is repeated, once for each element. `VALUES` is found in any case, at the beginning of a
word, with nothing but blanks before its parenthesis. The long s of old print is an `s` in either
case.

The group ends where its parentheses are balanced again (`closing?`). Every parameter of the
template has to stand inside it, since a parameter outside would belong to no element.
-/

namespace Rowbind.Template

open Text

/-- Whether a character is the letter, given in upper case, in any case. -/
def isLetter (letter c : Char) : Bool :=
  c == letter || c == letter.toLower || (letter == 'S' && c == '\u017f')

/-- What follows a word, its letters read in any case, at the head of a text. -/
def afterWord? : List Char → List Char → Option (List Char)
  | [], cs => some cs
  | _ :: _, [] => none
  | w :: ws, c :: cs => if isLetter w c then afterWord? ws cs else none

/-- **The text from the parenthesis on**, where `VALUES`, blanks and a parenthesis stand at the
head. -/
def groupAt? (cs : List Char) : Option (List Char) :=
  match (afterWord? ['V', 'A', 'L', 'U', 'E', 'S'] cs).map (·.dropWhile isBlank) with
  | some ('(' :: rest) => some ('(' :: rest)
  | _ => none

/-- The text from the first group on, after a character that is part of a word or is not. -/
def findGroup? (inWord : Bool) : List Char → Option (List Char)
  | [] => none
  | c :: cs =>
    match if inWord then none else groupAt? (c :: cs) with
    | some rest => some rest
    | none => findGroup? (isWordCharacter c) cs

/-- **Where `depth` open parentheses are closed**: the position of the last closing one. -/
def closing? (depth : Nat) : List Char → Option Nat
  | [] => none
  | c :: cs =>
    if c = '(' then (closing? (depth + 1) cs).map (· + 1)
    else if c = ')' then
      (if depth ≤ 1 then some 0 else (closing? (depth - 1) cs).map (· + 1))
    else (closing? depth cs).map (· + 1)

/-- The position of the parenthesis that closes the one at the head of a text. -/
def matchingParen? (cs : List Char) : Option Nat :=
  closing? 0 cs

/-- **A template cut at its group of values.** -/
structure ValuesGroup where
  before : List Char
  group : List Char
  after : List Char
  deriving DecidableEq, Repr

/-- Cuts a template at its group of values. -/
def valuesGroup (template : List Char) : Except TemplateFault ValuesGroup :=
  match findGroup? false template with
  | none => .error .noValuesGroup
  | some rest =>
    match matchingParen? rest with
    | none => .error .unbalancedValuesGroup
    | some close =>
      .ok {
        before := template.take (template.length - rest.length)
        group := rest.take (close + 1)
        after := rest.drop (close + 1) }

/-- A text written `count` times, separated by commas. -/
def repeated (text : List Char) : Nat → List Char
  | 0 => []
  | 1 => text
  | count + 1 => text ++ ',' :: repeated text count

/-- **The template of a batch** of `count` elements. -/
def repeatValuesGroup (template : String) (count : Nat) : Except TemplateFault String := do
  let cut ← valuesGroup template.toList
  let inside := (parameterNames cut.group).length
  let all := (parameterNames template.toList).length
  if all ≠ inside then
    throw (.outsideValuesGroup (all - inside))
  return String.ofList (cut.before ++ repeated cut.group count ++ cut.after)

end Rowbind.Template
