import Rowbind.Dialect
import Rowbind.Record.FieldMap

/-!
# Options

What a program settles once for all its queries: the dialect, unless the driver's name is to decide;
how fields are called; what to do with a column that has no field and with a parameter that has no
value; and how many prepared statements to keep, none at zero.

Nested keys are joined by one separator to match columns, and by another to match parameters.
-/

namespace Rowbind

/-- **What is settled for all queries.** -/
structure Options where
  /-- None: the driver's name decides. -/
  dialect : Option Dialect := none
  /-- The tag that calls a field. -/
  tag : String := "db"
  nameMapper : NameMapper := .snakeCase
  /-- Columns without a field are passed over. -/
  ignoreMissingFields : Bool := false
  /-- Parameters without a value are null. -/
  missingParamsAsNull : Bool := false
  /-- How many prepared statements are kept. -/
  statementCacheCapacity : Nat := 0
  columnSeparator : String := "_"
  paramSeparator : String := "."
  deriving DecidableEq, Repr

namespace Options

/-- How columns call fields. -/
def columnRule (o : Options) : KeyRule := ⟨o.tag, o.nameMapper, o.columnSeparator⟩

/-- How parameters call fields. -/
def paramRule (o : Options) : KeyRule := ⟨o.tag, o.nameMapper, o.paramSeparator⟩

end Options

end Rowbind
