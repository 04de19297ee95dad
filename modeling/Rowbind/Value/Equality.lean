import Rowbind.Value

/-!
# Equality of values

Two values are equal when they are of one kind and hold the same. Numbers are compared as numbers
(`Binary64.equal`), so a value that holds what is not a number equals no value, itself included.
Maps are compared by their names, whatever the order in which those were put in.
-/

namespace Rowbind.Value

mutual

/-- **Whether two values are equal.** -/
def equal : Value → Value → Bool
  | null, null => true
  | bool a, bool b => a == b
  | int a, int b => a == b
  | float a, float b => a.equal b
  | text a, text b => a == b
  | bytes a, bytes b => a == b
  | time a, time b => a == b
  | list a, list b => equalItems a b
  | map a, map b => a.length == b.length && entriesWithin a b
  | _, _ => false

/-- Whether two lists hold equal values in the same places. -/
def equalItems : List Value → List Value → Bool
  | [], [] => true
  | v :: vs, w :: ws => equal v w && equalItems vs ws
  | _, _ => false

/-- Whether every name of the first map has an equal value in the second. -/
def entriesWithin : List (String × Value) → ValueMap → Bool
  | [], _ => true
  | (name, v) :: es, m =>
    (match ValueMap.lookup name m with
      | some w => equal v w
      | none => false) && entriesWithin es m

end

end Rowbind.Value
