import Rowbind.Value

/-!
# Values of other types

`ToValue` says which value stands for what a program holds: a truth value, a whole number that fits
64 bits, a floating-point number, a text, bytes, a point in time or a day, and null for what is
missing. A sequence becomes a list, element by element. Bytes are one value and no list, so they
never expand.
-/

namespace Rowbind

/-- **A type whose elements have a value.** -/
class ToValue (α : Type) where
  toValue : α → Value

export ToValue (toValue)

instance : ToValue Value := ⟨id⟩
instance : ToValue Bool := ⟨.bool⟩
instance : ToValue Int8 := ⟨fun i => .int i.toInt64⟩
instance : ToValue Int16 := ⟨fun i => .int i.toInt64⟩
instance : ToValue Int32 := ⟨fun i => .int i.toInt64⟩
instance : ToValue Int64 := ⟨.int⟩
instance : ToValue UInt16 := ⟨fun i => .int i.toUInt64.toInt64⟩
instance : ToValue UInt32 := ⟨fun i => .int i.toUInt64.toInt64⟩
instance : ToValue Binary32 := ⟨fun x => .float x.widen⟩
instance : ToValue Binary64 := ⟨.float⟩
instance : ToValue String := ⟨.text⟩
instance : ToValue ByteArray := ⟨.bytes⟩
instance : ToValue Instant := ⟨.time⟩
instance : ToValue Day := ⟨fun d => .time d.midnight⟩
instance : ToValue ValueMap := ⟨.map⟩

/-- What is missing is null. -/
instance {α : Type} [ToValue α] : ToValue (Option α) := ⟨fun x => x.elim .null toValue⟩

/-- A sequence is the list of its elements' values. -/
instance {α : Type} [ToValue α] : ToValue (List α) := ⟨fun xs => .list (xs.map toValue)⟩

end Rowbind
