import Rowbind.Record.Cell
import Std.Data.HashMap

/-!
# The map from keys to fields

A **field map** gives, for every key by which a column or a parameter may call a field of a record
type, the path to that field. A nested record's fields are called by the keys along the way, joined
by a separator; where an embedded record stands on the way, its key may be left out.

Two fields can have one key. The outermost wins, and of two equally deep the one met first when the
type is walked level by level, field by field, an embedded record being entered without its key
before it is entered with it. The walk goes `maxDepth` fields deep, so it ends in a type that leads
back to itself.

`entries` lists the keys in the order in which the walk meets them; the map keeps the first path of
each.
-/

namespace Rowbind

/-- The greatest number of fields on a path. -/
def maxDepth : Nat := 16

/-- **How keys are made**: the tag that names fields, the mapper for those it does not name, and
the text that joins keys. -/
structure KeyRule where
  tag : String
  mapper : NameMapper
  separator : String
  deriving DecidableEq, Repr, Hashable

namespace FieldMap

/-- What the walk through a schema depends on. -/
structure Walk where
  schema : TypeId → Schema
  tag : String
  rename : String → String
  separator : String

/-- **A record on the walk**: its type, the path to it, and the joined keys on the way. -/
structure Visit where
  type : TypeId
  path : Path
  qualifier : String
  deriving DecidableEq, Repr

/-- A key behind the keys on the way to its record, alone where there are none. -/
def Walk.qualify (w : Walk) (qualifier key : String) : String :=
  if qualifier = "" then key else qualifier ++ w.separator ++ key

/-- The fields of a visited record that have a key, each with its path and its joined key. -/
def Walk.fields (w : Walk) (v : Visit) : List (Field × Path × String) :=
  (w.schema v.type).fields.zipIdx.filterMap fun (f, i) =>
    (f.key? w.tag w.rename).map fun key => (f, v.path ++ [i], w.qualify v.qualifier key)

/-- The keys of a visited record's scalars. -/
def Walk.scalars (w : Walk) (v : Visit) : List (String × Path) :=
  (w.fields v).filterMap fun (f, path, key) =>
    match f.kind with
    | .record .. => none
    | _ => some (key, path)

/-- The records nested in a visited one, an embedded one without its key before with it. -/
def Walk.nested (w : Walk) (v : Visit) : List Visit :=
  (w.fields v).flatMap fun (f, path, key) =>
    match f.kind with
    | .record embedded t =>
      (if embedded then [⟨t, path, v.qualifier⟩] else []) ++ [⟨t, path, key⟩]
    | _ => []

/-- **The keys met on so many levels**, the given records being the first level. -/
def Walk.entries (w : Walk) : (levels : Nat) → List Visit → List (String × Path)
  | 0, _ => []
  | levels + 1, visits =>
    visits.flatMap w.scalars ++ w.entries levels (visits.flatMap w.nested)

/-- The map with a key's path, if it has none yet. -/
def keepFirst (m : Std.HashMap String Path) (e : String × Path) : Std.HashMap String Path :=
  m.insertIfNew e.1 e.2

end FieldMap

/-- **The paths of a record type's fields**, by their keys. -/
structure FieldMap where
  typeName : String
  paths : Std.HashMap String Path

namespace FieldMap

/-- **The field map of a record type.** -/
def build (w : Walk) (root : TypeId) : FieldMap where
  typeName := (w.schema root).name
  paths := (w.entries maxDepth [⟨root, [], ""⟩]).foldl keepFirst ∅

/-- The field map of a catalog's record type. -/
def of (c : Catalog) (root : TypeId) (rule : KeyRule) : FieldMap :=
  build ⟨c.schema, rule.tag, c.rename rule.mapper, rule.separator⟩ root

/-- The path of a key. -/
def path? (m : FieldMap) (key : String) : Option Path := m.paths[key]?

/-- The number of keys. -/
def size (m : FieldMap) : Nat := m.paths.size

/-- Whether two maps are of one type name and lead the same keys along the same paths. -/
def equal (m n : FieldMap) : Bool :=
  m.typeName == n.typeName && m.size == n.size &&
    m.paths.all fun key path => n.path? key == some path

end FieldMap

end Rowbind
