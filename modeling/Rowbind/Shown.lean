import Rowbind.Binding.Argument
import Rowbind.Destination
import Rowbind.Number.Shortest
import Rowbind.Text.Quoted
import Rowbind.Time.Calendar

/-!
# How things are shown

A programmer who looks at a value, an argument or a record type sees what it is: the name of the
case, and what it holds in parentheses. Records and batches are shown by their type or their size
only.
-/

namespace Rowbind

/-- How a name mapper is shown. -/
def NameMapper.shown : NameMapper → String
  | snakeCase => "SnakeCase"
  | lowercase => "Lowercase"
  | identity => "Identity"
  | custom _ => "Custom(..)"

/-- How a record type is shown. -/
def Catalog.shown (c : Catalog) (t : TypeId) : String := "RecordType(" ++ c.typeName t ++ ")"

/-- How the kind of a field is shown. -/
def FieldKind.shown (c : Catalog) : FieldKind → String
  | scalar => "Scalar"
  | skip => "Skip"
  | record embedded t =>
    "Record \x7b embedded: " ++ toString embedded ++ ", schema: " ++ Text.quoted (c.typeName t) ++
      " \x7d"

/-- How the shape of a destination is shown. -/
def Shape.shown (c : Catalog) : Shape → String
  | scalar => "Scalar"
  | record t => "Record(" ++ c.shown t ++ ")"
  | map => "Map"
  | list => "List"

namespace Value

/-- Texts with commas between them. -/
def commaList (items : List String) : String := String.intercalate ", " items

mutual

/-- **How a value is shown.** -/
def shown : Value → String
  | null => "Null"
  | bool b => "Bool(" ++ toString b ++ ")"
  | int i => "Int(" ++ toString i.toInt ++ ")"
  | float x => "Float(" ++ x.text ++ ")"
  | text s => "Text(" ++ Text.quoted s ++ ")"
  | bytes b => "Bytes([" ++ commaList (b.toList.map toString) ++ "])"
  | time t => "Time(" ++ t.text ++ ")"
  | list items => "List([" ++ commaList (shownItems items) ++ "])"
  | map entries => "Map(\x7b" ++ commaList (shownEntries entries) ++ "\x7d)"

/-- How the items of a list are shown. -/
def shownItems : List Value → List String
  | [] => []
  | v :: vs => shown v :: shownItems vs

/-- How the entries of a map are shown. -/
def shownEntries : List (String × Value) → List String
  | [] => []
  | (name, v) :: es => (Text.quoted name ++ ": " ++ shown v) :: shownEntries es

end

end Value

/-- **How an argument is shown.** -/
def Argument.shown (c : Catalog) : Argument → String
  | value v => "Value(" ++ v.shown ++ ")"
  | record r => "Record(" ++ c.typeName r.type ++ ")"
  | map m => (Value.map m).shown
  | records rs => "Records(len = " ++ toString rs.length ++ ")"
  | maps ms => "Maps(len = " ++ toString ms.length ++ ")"

end Rowbind
