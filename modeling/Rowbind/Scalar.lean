import Rowbind.Step
import Rowbind.Value

/-!
# Scalars

A **scalar** is what one column is stored into: a field of a record, or a destination by itself. Its
type says what it holds (`ScalarType.Content`), which values it takes (`ScalarType.scan`) and what
it gives back as a value (`ScalarType.toValue`).

What a scalar takes, in one line each: a truth value takes whole numbers, zero being false; a whole
number takes truth values, and only numbers in its range; a floating-point number takes whole
numbers; text takes bytes that are UTF-8; bytes take text. An optional scalar takes null besides
what it holds, and nothing but a value or an optional takes null. A boxed scalar is the scalar it
holds.

Scanning depends on the value and the type alone. What the scalar held before has no part in it, and
is kept when scanning fails (`Slot.scan`).
-/

namespace Rowbind

/-- The number of bits of a whole number. -/
inductive Width
  | w8 | w16 | w32 | w64
  deriving DecidableEq, Repr

def Width.bits : Width → Nat
  | w8 => 8
  | w16 => 16
  | w32 => 32
  | w64 => 64

/-- The number of values that so many bits have. -/
def Width.count : Width → Nat
  | w8 => 256
  | w16 => 65536
  | w32 => 4294967296
  | w64 => 18446744073709551616

/-- **A range of whole numbers**: those of so many bits, with or without a sign. -/
structure IntFormat where
  signed : Bool
  width : Width
  deriving DecidableEq, Repr

namespace IntFormat

def least (f : IntFormat) : Int :=
  if f.signed then -(f.width.count / 2) else 0

def greatest (f : IntFormat) : Int :=
  if f.signed then f.width.count / 2 - 1 else f.width.count - 1

/-- Whether a number is in the range. -/
def Holds (f : IntFormat) (i : Int) : Prop := f.least ≤ i ∧ i ≤ f.greatest

instance (f : IntFormat) (i : Int) : Decidable (f.Holds i) := inferInstanceAs (Decidable (_ ∧ _))

/-- The name of the range, as messages give it. -/
def name (f : IntFormat) : String :=
  (if f.signed then "i" else "u") ++ toString f.width.bits

/-- A bit, as a number of any range. -/
theorem holds_bit (f : IntFormat) (b : Bool) : f.Holds (if b then 1 else 0) := by
  rcases f with ⟨_ | _, _ | _ | _ | _⟩ <;> cases b <;> decide

end IntFormat

/-- **The types of scalars.** -/
inductive ScalarType
  /-- Any value, kept as it is. -/
  | value
  | bool
  | int (format : IntFormat)
  | binary32
  | binary64
  | text
  | bytes
  | instant
  /-- A date and time with no zone, read as if in the zone of instants. -/
  | localTime
  | day
  /-- Null, or what the type holds. -/
  | optional (inner : ScalarType)
  /-- The type itself, held at one remove. -/
  | boxed (inner : ScalarType)
  deriving DecidableEq, Repr

namespace ScalarType

/-- **What a scalar holds.** -/
@[reducible] def Content : ScalarType → Type
  | value => Value
  | bool => Bool
  | int f => { i : Int // f.Holds i }
  | binary32 => Binary32
  | binary64 => Binary64
  | text => String
  | bytes => ByteArray
  | instant => Instant
  | localTime => Instant
  | day => Day
  | optional t => Option t.Content
  | boxed t => t.Content

/-- The name of a type, as messages give it. -/
def name : ScalarType → String
  | value => "Value"
  | bool => "bool"
  | int f => f.name
  | binary32 => "f32"
  | binary64 => "f64"
  | text => "String"
  | bytes => "Vec<u8>"
  | instant => "DateTime<Utc>"
  | localTime => "NaiveDateTime"
  | day => "NaiveDate"
  | optional t => t.name
  | boxed t => t.name

/-- **What a scalar holds at first.** -/
def blank : (t : ScalarType) → t.Content
  | value => .null
  | bool => false
  | int f => ⟨0, f.holds_bit false⟩
  | binary32 => ⟨0⟩
  | binary64 => ⟨0⟩
  | text => ""
  | bytes => .empty
  | instant => .epoch
  | localTime => .epoch
  | day => ⟨0⟩
  | optional _ => none
  | boxed t => t.blank

/-- A value of another kind than the type takes. -/
def mismatch {α : Type} (t : ScalarType) (v : Value) : Except Error α :=
  .error (.conversion t.name v.typeName)

/-- **What a scalar of the type holds after it took a value.** -/
def scan : (t : ScalarType) → Value → Except Error t.Content
  | value, v => .ok v
  | bool, .bool b => .ok b
  | bool, .int i => .ok (i != 0)
  | int f, .int i =>
    if h : f.Holds i.toInt then .ok ⟨i.toInt, h⟩
    else .error (.conversion f.name "out-of-range integer")
  | int f, .bool b => .ok ⟨if b then 1 else 0, f.holds_bit b⟩
  | binary32, .float x => .ok x.narrow
  | binary32, .int i => .ok (.ofInt i.toInt)
  | binary64, .float x => .ok x
  | binary64, .int i => .ok (.ofInt i.toInt)
  | text, .text s => .ok s
  | text, .bytes b =>
    match String.fromUTF8? b with
    | some s => .ok s
    | none => .error (.conversion text.name "non-UTF-8 bytes")
  | bytes, .bytes b => .ok b
  | bytes, .text s => .ok s.toUTF8
  | instant, .time t => .ok t
  | localTime, .time t => .ok t
  | day, .time t => .ok t.day
  | optional _, .null => .ok none
  | optional t, v => (t.scan v).map some
  | boxed t, v => t.scan v
  | t, v => t.mismatch v

/-- **The value of what a scalar holds.** A whole number is a 64-bit value; the one range that goes
beyond it, that of 64 bits without a sign, is taken modulo it. -/
def toValue : (t : ScalarType) → t.Content → Value
  | value, v => v
  | bool, b => .bool b
  | int _, i => .int (Int64.ofInt i.1)
  | binary32, x => .float x.widen
  | binary64, x => .float x
  | text, s => .text s
  | bytes, b => .bytes b
  | instant, t => .time t
  | localTime, t => .time t
  | day, d => .time d.midnight
  | optional t, c =>
    match c with
    | some c => t.toValue c
    | none => .null
  | boxed t, c => t.toValue c

end ScalarType

/-- **A scalar**: a type, and what it holds. -/
structure Slot where
  type : ScalarType
  content : type.Content

namespace Slot

/-- A scalar of the type, with what it holds at first. -/
def blank (t : ScalarType) : Slot := ⟨t, t.blank⟩

/-- The value of what a scalar holds. -/
def toValue (s : Slot) : Value := s.type.toValue s.content

/-- **Stores a value.** A scalar that cannot take it stays as it was. -/
def scan (v : Value) : Step Slot Unit := fun s =>
  match s.type.scan v with
  | .ok c => (.ok (), ⟨s.type, c⟩)
  | .error e => (.error e, s)

end Slot

end Rowbind
