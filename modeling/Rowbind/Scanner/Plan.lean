import Rowbind.Destination
import Rowbind.Options

/-!
# How a row reaches its destination

Columns are usable when there are some and no two have one name. A **plan** is made once for all
rows: a scalar takes the only column, a map all of them, and a record has a path for each column, or
none where the column is to be passed over.

A column finds its field by its name, and failing that by its name in lower case.

`store` puts one row into a destination by a plan. Columns are stored from left to right, and what
was stored before a failure stays stored.
-/

namespace Rowbind

/-- The first name that stands for a second time, after some names. -/
def firstRepeated? (before : List String) : List String → Option String
  | [] => none
  | name :: names =>
    if before.contains name then some name else firstRepeated? (name :: before) names

/-- **What is wrong with a column list**, if anything. -/
def columnFault? (columns : List String) : Option ColumnFault :=
  if columns.isEmpty then some .noColumns
  else (firstRepeated? [] columns).map .duplicate

/-- **How a row reaches its destination.** -/
inductive RowPlan
  | scalar
  | map
  /-- A path for each column, none where it is passed over. -/
  | record (paths : List (Option Path))
  deriving DecidableEq, Repr

/-- The path of a column's field. -/
def FieldMap.column? (m : FieldMap) (column : String) : Option Path :=
  (m.path? column).or (m.path? (Text.lowercase column))

/-- A path for each column of a record type. -/
def columnPaths (m : FieldMap) (ignoreMissing : Bool) (target : String) :
    List String → Except Error (List (Option Path))
  | [] => .ok []
  | column :: columns =>
    match m.column? column with
    | some path => (columnPaths m ignoreMissing target columns).map (some path :: ·)
    | none =>
      if ignoreMissing then (columnPaths m ignoreMissing target columns).map (none :: ·)
      else .error (.unmappedColumn column target)

/-- **The plan for destinations of a shape.** -/
def RowPlan.of (c : Catalog) (o : Options) (columns : List String) :
    Shape → Except Error RowPlan
  | .scalar =>
    if columns.length = 1 then .ok .scalar
    else .error (.invalidColumns (.notSingle columns.length))
  | .map => .ok .map
  | .record t =>
    (columnPaths (FieldMap.of c t o.columnRule) o.ignoreMissingFields (c.typeName t) columns).map
      .record
  | .list => .error (.usage .listOfLists)

/-- Puts every column's value into a map under the column's name. -/
def storeMap (m : ValueMap) : List (String × Value) → ValueMap
  | [] => m
  | (column, v) :: rest => storeMap (m.insert column v.bytesToText) rest

/-- Stores the columns of a record, in order. -/
def storeRecord (c : Catalog) (target : String) (cells : List Cell) :
    List ((String × Value) × Option Path) → Except Error Unit × List Cell
  | [] => (.ok (), cells)
  | (_, none) :: rest => storeRecord c target cells rest
  | ((column, v), some path) :: rest =>
    match scanAt c v cells path with
    | (some (.ok ()), cells') => storeRecord c target cells' rest
    | (some (.error e), cells') => (.error e, cells')
    | (none, cells') => (.error (.unmappedColumn column target), cells')

/-- **Stores one row by a plan.** -/
def store (c : Catalog) (plan : RowPlan) (columns : List String) (values : List Value) :
    Step Destination Unit := fun d =>
  if values.length ≠ columns.length then
    (.error (.invalidColumns (.rowWidth values.length columns.length)), d)
  else
    match plan, d with
    | .scalar, .scalar slot =>
      let (answer, slot') := slot.scan (values.headD .null)
      (answer, .scalar slot')
    | .map, .map m => (.ok (), .map (storeMap m (columns.zip values)))
    | .record paths, .record r =>
      let (answer, cells) :=
        storeRecord c (c.typeName r.type) r.cells ((columns.zip values).zip paths)
      (answer, .record { r with cells := cells })
    | _, d => (.error (.usage .shapeMismatch), d)

end Rowbind
