import Rowbind.Error
import Rowbind.Template.Token

/-!
# Rendering a template

A rendering reads a template by one convention and writes it in a dialect. Each occurrence of a
placeholder is written as many times as asked, separated by commas, and the ordinals run on from
left to right. The literal text is the template's tokens as they are.

What can go wrong is one thing: an occurrence that is to be written no times at all. The first such
occurrence is reported, and nothing is written.
-/

namespace Rowbind

/-- **How many placeholders each occurrence becomes**, by its position from zero. -/
abbrev Repeats := Nat → Nat

/-- Every occurrence becomes one placeholder. -/
def Repeats.once : Repeats := fun _ => 1

/-- The given counts in order, and one for each occurrence beyond them. -/
def Repeats.ofArray (counts : Array Nat) : Repeats := fun k => counts.getD k 1

/-- **What a rendering gives**: the text, the name of each occurrence in order, and the number of
placeholders in the text. -/
structure Rendered where
  sql : String
  names : List String
  placeholders : Nat
  deriving DecidableEq, Repr

namespace Template

/-- `count` placeholders in a row, numbered from `first`, separated by commas. -/
def placeholderRow (d : Dialect) (name : List Char) (first : Nat) : Nat → List Char
  | 0 => []
  | 1 => d.placeholder first name
  | count + 1 => d.placeholder first name ++ ',' :: placeholderRow d name (first + 1) count

/-- **The text of tokens in a dialect.** `k` is the position of the next occurrence, and `written`
the number of placeholders before it. -/
def write (d : Dialect) (repeats : Repeats) (k written : Nat) : List Token → List Char
  | [] => []
  | .literal c :: ts => c :: write d repeats k written ts
  | .placeholder o :: ts =>
    placeholderRow d o.name (written + 1) (repeats k) ++
      write d repeats (k + 1) (written + repeats k) ts

/-- The number of placeholders that occurrences become, the first of them at position `k`. -/
def total (repeats : Repeats) (k : Nat) : List Occurrence → Nat
  | [] => 0
  | _ :: os => repeats k + total repeats (k + 1) os

/-- The first occurrence that would become no placeholder, with its position. -/
def firstEmpty? (repeats : Repeats) (k : Nat) : List Occurrence → Option (Nat × Occurrence)
  | [] => none
  | o :: os => if repeats k = 0 then some (k, o) else firstEmpty? repeats (k + 1) os

/-- No occurrence would become no placeholder when neither the first one would nor a later one. -/
theorem firstEmpty?_cons_eq_none {repeats : Repeats} {k : Nat} {o : Occurrence}
    {os : List Occurrence} :
    firstEmpty? repeats k (o :: os) = none ↔
      repeats k ≠ 0 ∧ firstEmpty? repeats (k + 1) os = none := by
  by_cases hzero : repeats k = 0
  · simp [firstEmpty?, hzero]
  · simp [firstEmpty?, hzero]

/-- **Writes tokens in a dialect**, each occurrence as often as asked. -/
def renderTokens (d : Dialect) (repeats : Repeats) (ts : List Token) : Except Error Rendered :=
  let os := occurrences ts
  match firstEmpty? repeats 0 os with
  | some (k, o) => .error (.invalidTemplate (.emptyExpansion k (String.ofList o.written)))
  | none =>
    .ok {
      sql := String.ofList (write d repeats 0 0 ts)
      names := os.map fun o => String.ofList o.name
      placeholders := total repeats 0 os }

/-- **Renders a template**, read by a convention, for a dialect. -/
def render (reading : Convention) (template : String) (d : Dialect) (repeats : Repeats) :
    Except Error Rendered :=
  renderTokens d repeats (tokens reading template.toList)

/-- Renders a template with named parameters. -/
def renderNamed (template : String) (d : Dialect) (repeats : Repeats) : Except Error Rendered :=
  render .named template d repeats

/-- Renders a template with placeholders in the dialect's own form, numbering them anew. -/
def renderPositional (template : String) (d : Dialect) (repeats : Repeats) :
    Except Error Rendered :=
  render (.positional d) template d repeats

/-- **Renders a query with question marks** for a dialect. A dialect that writes question marks
takes the query as it is, blanks included. -/
def rebind (d : Dialect) (query : String) : Except Error String :=
  if d.isQuestion then .ok query
  else (render (.positional .question) query d .once).map (·.sql)

/-- The names of a template's parameters, left to right, duplicates kept. -/
def parameterNames (template : List Char) : List String :=
  (occurrences (tokens .named template)).map fun o => String.ofList o.name

end Template

end Rowbind
