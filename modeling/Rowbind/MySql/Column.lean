import Rowbind.Error
import Rowbind.Value

/-!
# Columns of a MySQL result

The server names the type of every column and sends cells to match. `Decoding.of` says by the name
alone how a column's cells are read, and `Cell.decode` reads one: null is null in every column, a
zero date is null as well, numbers of all widths become 64-bit ones if they fit, dates become the
instant at which the day begins, times of day become text.

A cell that its column's type cannot hold is a fault of the connection: bytes that are no UTF-8 in a
text column, or a time of twenty-four hours and more.
-/

namespace Rowbind.MySql

/-- **How the cells of a column are read.** -/
inductive Decoding
  | flag
  | unsigned
  | signed
  | single
  | double
  | dateTime
  | date
  | timeOfDay
  | binary
  | text
  deriving DecidableEq, Repr

/-- Whether a word stands somewhere in a text. -/
def mentions (word : List Char) : List Char → Bool
  | [] => word.isEmpty
  | c :: cs => word.isPrefixOf (c :: cs) || mentions word cs

/-- **How cells are read, by the name of the column's type.** Whatever is not known is text. -/
def Decoding.of (typeName : String) : Decoding :=
  let name := typeName.toUpper
  if name = "BOOLEAN" then .flag
  else if "UNSIGNED".toList.isSuffixOf name.toList then .unsigned
  else if ["TINYINT", "SMALLINT", "MEDIUMINT", "INT", "BIGINT", "YEAR"].contains name then .signed
  else if name = "FLOAT" then .single
  else if name = "DOUBLE" then .double
  else if name = "DATETIME" ∨ name = "TIMESTAMP" then .dateTime
  else if name = "DATE" then .date
  else if name = "TIME" then .timeOfDay
  else if mentions "BLOB".toList name.toList ∨ mentions "BINARY".toList name.toList ∨
      name = "BIT" ∨ name = "GEOMETRY" then .binary
  else .text

/-- **A cell as the server sends it.** -/
inductive Cell where
  | null
  /-- A whole number of any width, with or without a sign. -/
  | int (i : Int)
  | float (x : Binary64)
  | time (t : Instant)
  /-- The date of no day. -/
  | zeroDate
  | clock (hours minutes seconds micros : Nat)
  | text (s : String)
  | bytes (b : ByteArray)

/-- What the connection reports of a cell that is not of its column's type. -/
def undecodable {α : Type} : Except Error α := .error (.database .other)

/-- A whole number as a value, if 64 bits hold it. -/
def decodeInt (i : Int) : Except Error Value :=
  if i ≤ Int64.maxValue.toInt then .ok (.int (Int64.ofInt i))
  else .error (.conversion "i64" "out-of-range unsigned integer")

/-- **The value of a cell.** -/
def Cell.decode (d : Decoding) : Cell → Except Error Value
  | .null | .zeroDate => .ok .null
  | .int i =>
    match d with
    | .flag => .ok (.bool (i != 0))
    | .unsigned | .signed => decodeInt i
    | _ => undecodable
  | .float x =>
    match d with
    | .single => .ok (.float x.narrow.widen)
    | .double => .ok (.float x)
    | _ => undecodable
  | .time t =>
    match d with
    | .dateTime => .ok (.time t)
    | .date => .ok (.time t.day.midnight)
    | _ => undecodable
  | .clock h m s micros =>
    if d = .timeOfDay ∧ h < 24 then .ok (.text (ClockTime.text ⟨h, m, s, micros * 1000⟩))
    else undecodable
  | .text s =>
    match d with
    | .text => .ok (.text s)
    | .binary => .ok (.bytes s.toUTF8)
    | _ => undecodable
  | .bytes b =>
    match d with
    | .text => (String.fromUTF8? b).elim undecodable fun s => .ok (.text s)
    | .binary => .ok (.bytes b)
    | _ => undecodable

/-- **A column**: its name, and the name of its type. -/
structure Column where
  name : String
  typeName : String
  deriving DecidableEq, Repr

/-- The values of a row's cells, the first that cannot be read deciding. -/
def decodeRow : List Column → List Cell → Except Error (List Value)
  | column :: columns, cell :: cells => do
    let v ← cell.decode (.of column.typeName)
    return v :: (← decodeRow columns cells)
  | _, _ => .ok []

/-- The values of all rows. -/
def decodeRows (columns : List Column) : List (List Cell) → Except Error (List (List Value))
  | [] => .ok []
  | row :: rows => do
    let values ← decodeRow columns row
    return values :: (← decodeRows columns rows)

/-- **The values that a statement's parameters take.** Lists and maps have no parameter type. -/
def bindAll : List Value → Except Error (List Value)
  | [] => .ok []
  | v :: vs =>
    if v.isBindable then (bindAll vs).map (v :: ·)
    else .error (.unsupportedArgument (.noParameterType v.typeName))

end Rowbind.MySql
