import Rowbind.Binding.Named

/-!
# Binding positional values

A positional list stands for its elements: its placeholder becomes as many placeholders, and the
values are flattened to match. Bytes are one value and never expand. A query with no list and no
question mark to replace is left as it is, layout and all, and its values are not counted.

Empty lists and maps among the arguments are refused first, the leftmost one; then a list or a map
inside a list; last a number of values that does not match the placeholders.
-/

namespace Rowbind

/-- The first argument that can be neither bound nor expanded, the first of them at a position. -/
def firstRefused? (position : Nat) : List Value → Option Error
  | [] => none
  | .list [] :: _ => some (.emptyList (.position position))
  | .map _ :: _ => some (.unsupportedArgument (.mapAtPosition position))
  | _ :: vs => firstRefused? (position + 1) vs

/-- How many placeholders a value takes. -/
def placeholdersOf : Value → Nat
  | .list items => items.length
  | _ => 1

/-- **The values in a row**, each list giving its elements. -/
def flatten : List Value → Except Error (List Value)
  | [] => .ok []
  | .list items :: vs =>
    match items.find? (!·.isBindable) with
    | some v => .error (.unsupportedArgument (.nestedInList v.typeName))
    | none => (flatten vs).map (items ++ ·)
  | v :: vs => (flatten vs).map (v :: ·)

def isList : Value → Bool
  | .list _ => true
  | _ => false

/-- **Binds positional values.** -/
def bindPositional (d : Dialect) (template : String) (values : List Value) :
    Except Error Bound := do
  if let some e := firstRefused? 0 values then
    throw e
  let rebinds := !d.isQuestion && template.toList.contains '?'
  if !values.any isList && !rebinds then
    return ⟨template, values⟩
  let counts := (values.map placeholdersOf).toArray
  let rendered ← Template.renderPositional template d (.ofArray counts)
  let flat ← flatten values
  if rendered.placeholders ≠ flat.length then
    throw (.countMismatch rendered.placeholders flat.length)
  return ⟨rendered.sql, flat⟩

end Rowbind
