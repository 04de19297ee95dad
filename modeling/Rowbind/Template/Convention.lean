import Rowbind.Dialect
import Rowbind.Text.Blank
import Rowbind.Text.Numeric

/-!
# Reading a placeholder

A template is read by a **convention**: either its parameters are named with a colon, or its
placeholders are positional and stand in a dialect's own form, with the question mark understood in
every dialect. `occurrence?` decides whether a placeholder begins at the head of a text, and which
characters it takes.

A name is the longest run of letters, numbers, underscores and dots that begins with a letter or an
underscore, less the dots at its end: those belong to the text that follows. An ordinal is the
longest run of ASCII digits.

No SQL is understood: a placeholder inside a string literal or a comment is one like any other.
-/

namespace Rowbind

open Text

/-- **How a template's placeholders are read.** -/
inductive Convention
  /-- Named parameters, each a colon and a name. -/
  | named
  /-- Question marks, and the dialect's own form. -/
  | positional (dialect : Dialect)
  deriving DecidableEq, Repr

namespace Convention

/-- Whether a colon and a name make a placeholder. Where they do, two colons stand for one. -/
def readsColon : Convention → Bool
  | named | positional .named => true
  | positional _ => false

/-- Whether a question mark makes a placeholder. -/
def readsQuestion : Convention → Bool
  | named => false
  | positional _ => true

end Convention

/-- **An occurrence of a placeholder**: the characters it takes, and what they name. A question
mark names nothing; an ordinal names its digits. -/
structure Occurrence where
  written : List Char
  name : List Char
  deriving DecidableEq, Repr

/-- Whether a name may begin with the character. -/
def beginsName (c : Char) : Bool :=
  isAlphabetic c || c == '_'

/-- Whether a name may go on with the character. -/
def continuesName (c : Char) : Bool :=
  isAlphanumeric c || c == '_' || c == '.'

/-- A run of characters less the dots at its end. -/
def dropTrailingDots (cs : List Char) : List Char :=
  (cs.reverse.dropWhile (· == '.')).reverse

/-- **The name at the head of a text**, empty where none begins. -/
def nameAt (cs : List Char) : List Char :=
  if cs.head?.any beginsName then dropTrailingDots (cs.takeWhile continuesName) else []

/-- The ASCII digits at the head of a text. -/
def digitsAt (cs : List Char) : List Char :=
  cs.takeWhile Char.isDigit

/-- The occurrence of a sign and the name after it, which must not be missing. -/
def signed? (sign name : List Char) : Option Occurrence :=
  if name.isEmpty then none else some ⟨sign ++ name, name⟩

/-- **The placeholder at the head of a text.** -/
def occurrence? (reading : Convention) : List Char → Option Occurrence
  | '?' :: _ => if reading.readsQuestion then some ⟨['?'], []⟩ else none
  | ':' :: cs => if reading.readsColon then signed? [':'] (nameAt cs) else none
  | '$' :: cs => if reading = .positional .dollar then signed? ['$'] (digitsAt cs) else none
  | '@' :: p :: cs =>
    if reading = .positional .atSign ∧ (p = 'p' ∨ p = 'P') then signed? ['@', p] (digitsAt cs)
    else none
  | _ => none

end Rowbind
