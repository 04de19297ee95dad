import Rowbind.Record.Cell

/-!
# Destinations

What rows are stored into: a scalar takes a row of one column, a record the columns that call its
fields, a map every column under its name, and a list a new element for each row.

A list says beforehand of what shape its elements are, and has a new element ready. The two agree
for every list that is made of a destination (`Destination.listOf`); where they do not, a row's plan
is made for one shape and meets another.
-/

namespace Rowbind

/-- **The shape of a destination.** -/
inductive Shape
  | scalar
  | record (type : TypeId)
  | map
  | list
  deriving DecidableEq, Repr

/-- **What rows are stored into.** -/
inductive Destination where
  | scalar (slot : Slot)
  | record (r : Record)
  | map (m : ValueMap)
  /-- Elements, the shape that they are said to have, and a new element. -/
  | list (element : Shape) (fresh : Destination) (items : List Destination)

instance : Inhabited Destination := ⟨.map []⟩

namespace Destination

/-- The shape of a destination. -/
def shape : Destination → Shape
  | scalar _ => .scalar
  | record r => .record r.type
  | map _ => .map
  | list .. => .list

/-- The shape that a list's elements are said to have. -/
def elementShape? : Destination → Option Shape
  | list element _ _ => some element
  | _ => none

/-- **The empty list of a destination's like.** -/
def listOf (fresh : Destination) : Destination := list fresh.shape fresh []

end Destination

end Rowbind
