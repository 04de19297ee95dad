import Rowbind.Number.Binary
import Rowbind.Time.Instant

/-!
# Values

A **value** is what a query's parameter carries to the database and what a column carries back.
Seven kinds can be bound as they stand. A list exists only to be expanded into as many parameters
as it has elements, and a map only to be looked into: neither can be bound (`Value.isBindable`).

A map keeps each of its names once. `ValueMap.insert` puts a value in the place of an earlier one of
the name, and `ValueMap.lookup` finds it; no answer depends on the order of the names.
-/

namespace Rowbind

/-- **What a parameter or a column holds.** -/
inductive Value where
  | null
  | bool (b : Bool)
  | int (i : Int64)
  | float (x : Binary64)
  | text (s : String)
  | bytes (b : ByteArray)
  | time (t : Instant)
  | list (items : List Value)
  | map (entries : List (String × Value))
  deriving Inhabited

/-- **Values by name**: a named argument, or a row as a destination. -/
abbrev ValueMap := List (String × Value)

namespace ValueMap

/-- The value of a name. -/
def lookup (name : String) : ValueMap → Option Value
  | [] => none
  | (n, v) :: m => if n = name then some v else lookup name m

/-- **Puts a value under a name**, in place of an earlier one. -/
def insert (name : String) (value : Value) : ValueMap → ValueMap
  | [] => [(name, value)]
  | (n, v) :: m => if n = name then (n, value) :: m else (n, v) :: insert name value m

theorem lookup_insert_self (name : String) (value : Value) (m : ValueMap) :
    lookup name (insert name value m) = some value := by
  induction m with
  | nil => simp [insert, lookup]
  | cons e m ih => grind [insert, lookup]

theorem lookup_insert_of_ne {name other : String} (h : name ≠ other) (value : Value)
    (m : ValueMap) : lookup other (insert name value m) = lookup other m := by
  induction m with
  | nil => simp [insert, lookup, h]
  | cons e m ih => grind [insert, lookup]

end ValueMap

namespace Value

/-- **The name of a value's type**, as messages give it. -/
def typeName : Value → String
  | null => "NULL"
  | bool _ => "bool"
  | int _ => "integer"
  | float _ => "float"
  | text _ => "text"
  | bytes _ => "bytes"
  | time _ => "time"
  | list _ => "list"
  | map _ => "map"

def isNull : Value → Bool
  | null => true
  | _ => false

/-- **Whether a value can be bound as it stands.** -/
def isBindable : Value → Bool
  | list _ | map _ => false
  | _ => true

/-- Bytes become text where they are the UTF-8 form of one; any other value stays as it is. -/
def bytesToText : Value → Value
  | bytes b => (String.fromUTF8? b).elim (bytes b) text
  | v => v

end Value

end Rowbind
