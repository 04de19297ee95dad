import Rowbind.Record.Schema
import Rowbind.Scalar

/-!
# Records

A **record** is a value of a record type: a list of cells, one for each field. A cell holds a
scalar, or the cells of a nested record, or nothing where an optional record is not set; what a
skipped field holds is out of reach.

A **path** is a list of positions that leads from a record to a cell. `fieldAt` reads along a path
and changes nothing: an optional record that is not set reads as absent, whatever path leads on
from it. `scanAt` writes along a path, and sets every optional record on its way.

Which cells a new record has is known to the **catalog**, the record types and name mappers that a
program has declared.
-/

namespace Rowbind

/-- **What a field of a record holds.** -/
inductive Cell where
  | scalar (slot : Slot)
  /-- A nested record. -/
  | record (cells : List Cell)
  /-- An optional record of the type, not set. -/
  | absent (type : TypeId)
  /-- What a skipped field holds. -/
  | hidden (content : Value)

/-- **A record type**: its description, and the cells of a new record. -/
structure RecordType where
  schema : Schema
  fresh : List Cell

/-- **What a program has declared**: its record types, and its own name mappers. -/
structure Catalog where
  recordType : TypeId → RecordType
  mapper : MapperId → String → String

namespace Catalog

/-- The description of a record type. -/
def schema (c : Catalog) (t : TypeId) : Schema := (c.recordType t).schema

/-- The name of a record type. -/
def typeName (c : Catalog) (t : TypeId) : String := (c.schema t).name

/-- What a name mapper makes of a name. -/
def rename (c : Catalog) (m : NameMapper) : String → String := m.apply c.mapper

end Catalog

/-- **A record**: its type, and its cells. -/
structure Record where
  type : TypeId
  cells : List Cell

/-- A new record of a type. -/
def Record.new (c : Catalog) (t : TypeId) : Record := ⟨t, (c.recordType t).fresh⟩

/-- A way through a record, by the positions of cells. -/
abbrev Path := List Nat

/-- **What reading a field finds.** -/
inductive FieldView where
  | value (v : Value)
  | record (cells : List Cell)
  | absent

/-- What is seen of a cell. -/
def Cell.view? : Cell → Option FieldView
  | .scalar s => some (.value s.toValue)
  | .record cells => some (.record cells)
  | .absent _ => some .absent
  | .hidden _ => none

/-- **Reads the field at the end of a path.** -/
def fieldAt (cells : List Cell) : Path → Option FieldView
  | [] => none
  | i :: path =>
    match (cells[i]?).bind Cell.view? with
    | none => none
    | some v =>
      if path.isEmpty then some v
      else
        match v with
        | .record inner => fieldAt inner path
        | .absent => some .absent
        | .value _ => none

/-- **Stores a value into the scalar at the end of a path.** The answer is `none` where no scalar
stands there; an optional record on the way is set even then, up to where the path is lost. -/
def scanAt (c : Catalog) (v : Value) (cells : List Cell) :
    Path → Option (Except Error Unit) × List Cell
  | [] => (none, cells)
  | i :: path =>
    let into (inner : List Cell) :=
      let (answer, inner') := scanAt c v inner path
      (answer, cells.set i (.record inner'))
    match cells[i]? with
    | none => (none, cells)
    | some (.hidden _) => (none, cells)
    | some (.record inner) => into inner
    | some (.absent t) => into (c.recordType t).fresh
    | some (.scalar slot) =>
      if path.isEmpty then
        let (answer, slot') := slot.scan v
        (some answer, cells.set i (.scalar slot'))
      else (none, cells)

end Rowbind
