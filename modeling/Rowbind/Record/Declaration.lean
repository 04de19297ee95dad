import Rowbind.Record.Cell

/-!
# Declaring record types

A **declaration** lists the fields of a record type with what they hold. It gives both halves of a
record type: the description, which says what columns and parameters may call a field, and the
cells of a new record, in which scalars hold what they hold at first, optional records are not set,
and other records are new themselves.

The two halves may disagree: a field that holds a record can be described as a scalar. Such a field
has a key, and no column can be stored under it.

Records that hold each other without end have no new record. Declarations are read to the depth of
their own number, beyond which nothing but such a cycle can lead.
-/

namespace Rowbind

/-- **What a declared field holds.** -/
inductive FieldContent
  | scalar (type : ScalarType)
  | skip
  | record (type : TypeId) (embedded optional describedAsScalar : Bool)
  deriving DecidableEq, Repr

/-- **A declared field.** -/
structure FieldDeclaration where
  name : String
  tags : List (String × String)
  content : FieldContent
  deriving DecidableEq, Repr

/-- **A declared record type.** -/
structure Declaration where
  name : String
  fields : List FieldDeclaration
  deriving DecidableEq, Repr

/-- The kind that a field is described to be of. -/
def FieldContent.kind : FieldContent → FieldKind
  | scalar _ => .scalar
  | skip => .skip
  | record t embedded _ asScalar => if asScalar then .scalar else .record embedded t

/-- The description of a declared type. -/
def Declaration.schema (d : Declaration) : Schema where
  name := d.name
  fields := d.fields.map fun f => ⟨f.name, f.tags, f.content.kind⟩

/-- The cells of a new record, nested no deeper than `depth`. -/
def freshCells (types : Array Declaration) : (depth : Nat) → TypeId → List Cell
  | 0, _ => []
  | depth + 1, t =>
    ((types[t.number]?).elim [] (·.fields)).map fun f =>
      match f.content with
      | .scalar s => .scalar (.blank s)
      | .skip => .hidden .null
      | .record inner _ isOptional _ =>
        if isOptional then .absent inner else .record (freshCells types depth inner)

/-- **The catalog of declared types**, each identified by its position. -/
def Catalog.ofDeclarations (types : Array Declaration) (mapper : MapperId → String → String) :
    Catalog where
  recordType t :=
    { schema := (types[t.number]?).elim ⟨"", []⟩ Declaration.schema
      fresh := freshCells types types.size t }
  mapper := mapper

end Rowbind
