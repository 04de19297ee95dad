/-!
# What can go wrong

Every operation of the library that can fail fails with an `Error`. An error is a **cause**: its
constructor says what was found, and `Error.message?` alone gives the wording. Causes that share
the first words of their message are grouped under one constructor with a fault of its own.

Two families have no wording here: what a configuration's text got wrong, and what a database
reports about itself. `message?` answers `none` for them.
-/

namespace Rowbind

/-- **Why a template cannot be rendered.** -/
inductive TemplateFault
  /-- The occurrence at this position, counted from zero, was to become no placeholder at all. -/
  | emptyExpansion (occurrence : Nat) (written : String)
  /-- A batch needs a group of values to repeat. -/
  | noValuesGroup
  /-- The group of values has no closing parenthesis. -/
  | unbalancedValuesGroup
  /-- Parameters outside the group would have no element to read from. -/
  | outsideValuesGroup (count : Nat)
  deriving DecidableEq, Repr

/-- **Where an empty list was met.** -/
inductive ListOrigin
  | parameter (name : String)
  | batch
  /-- A positional argument, counted from zero. -/
  | position (index : Nat)
  deriving DecidableEq, Repr

/-- **Why an argument cannot be bound.** The `found` of a fault is the name of a value's type or of
an argument's kind. -/
inductive ArgumentFault
  /-- A named template was given a positional value. -/
  | positionalForNamed (found : String)
  /-- A list for a parameter holds a list or a map. -/
  | nestedInParameter (found name : String)
  /-- A parameter resolves to a map. -/
  | mapForParameter (name : String)
  /-- A positional argument, counted from zero, is a map. -/
  | mapAtPosition (index : Nat)
  /-- A positional list holds a list or a map. -/
  | nestedInList (found : String)
  /-- A named argument follows positional ones. -/
  | namedAmongPositional (found : String)
  /-- The server has no parameter of this type. -/
  | noParameterType (found : String)
  deriving DecidableEq, Repr

/-- **Why a result's columns are unusable.** -/
inductive ColumnFault
  | noColumns
  | duplicate (name : String)
  /-- A scalar destination takes one column. -/
  | notSingle (count : Nat)
  /-- A row is longer or shorter than the column list. -/
  | rowWidth (values columns : Nat)
  deriving DecidableEq, Repr

/-- **Which rule of use was broken.** -/
inductive UsageFault
  | alreadyConsumed
  | automaticAfterManual
  | manualAfterAutomatic
  | singleRowIntoList
  | manyRowsIntoOne
  | rowBeforeAdvance
  | noCurrentRow
  | oneRowIntoList
  | listOfLists
  | shapeMismatch
  | rowsClosed
  | transactionFinished
  deriving DecidableEq, Repr

/-- **What a database reports.** Only a missing row is told apart from the rest. -/
inductive DatabaseFault
  | rowNotFound
  | other
  deriving DecidableEq, Repr

/-- **The ways an operation fails.** -/
inductive Error
  | invalidTemplate (fault : TemplateFault)
  /-- A named template takes one argument. -/
  | tooManyArguments (count : Nat)
  /-- A parameter has no counterpart in the argument. -/
  | unresolved (name : String)
  | emptyList (origin : ListOrigin)
  | countMismatch (placeholders values : Nat)
  | unsupportedArgument (fault : ArgumentFault)
  | invalidColumns (fault : ColumnFault)
  /-- A result column has no field in the destination. -/
  | unmappedColumn (column target : String)
  | usage (fault : UsageFault)
  /-- Exactly one row was asked for and there was none. -/
  | notFound
  /-- Exactly one row was asked for and there were more. -/
  | tooManyRows
  /-- A column's value does not fit its destination. -/
  | conversion (expected found : String)
  | configuration
  | database (fault : DatabaseFault)
  /-- Whatever else a driver reports, in its own words. -/
  | driver (text : String)
  deriving DecidableEq, Repr

def TemplateFault.message : TemplateFault → String
  | .emptyExpansion k written =>
    "placeholder #" ++ toString (k + 1) ++ " ('" ++ written ++ "') cannot expand to zero values"
  | .noValuesGroup => "batch argument needs a VALUES (...) group"
  | .unbalancedValuesGroup => "unbalanced parentheses in VALUES group"
  | .outsideValuesGroup n =>
    "batch template has " ++ toString n ++ " parameter(s) outside its VALUES group"

def ListOrigin.message : ListOrigin → String
  | .parameter name => name
  | .batch => "batch argument"
  | .position k => "argument #" ++ toString (k + 1)

def ArgumentFault.message : ArgumentFault → String
  | .positionalForNamed found => "named template needs a record or map argument, got " ++ found
  | .nestedInParameter found name => found ++ " inside the list for ':" ++ name ++ "'"
  | .mapForParameter name => "map value for ':" ++ name ++ "'"
  | .mapAtPosition k => "map as positional argument #" ++ toString (k + 1)
  | .nestedInList found => found ++ " inside an IN list"
  | .namedAmongPositional found => found ++ " mixed with positional arguments"
  | .noParameterType found => found ++ " cannot be bound to a MySQL parameter"

def ColumnFault.message : ColumnFault → String
  | .noColumns => "result has no columns"
  | .duplicate name => "duplicate column '" ++ name ++ "'"
  | .notSingle n => "scalar destination needs exactly one column, got " ++ toString n
  | .rowWidth values columns =>
    "row has " ++ toString values ++ " value(s) for " ++ toString columns ++ " column(s)"

def UsageFault.message : UsageFault → String
  | .alreadyConsumed => "scanner has already been consumed"
  | .automaticAfterManual => "cannot scan automatically after manual iteration"
  | .manualAfterAutomatic => "cannot iterate manually after an automatic scan"
  | .singleRowIntoList => "single-row scan needs a non-list destination"
  | .manyRowsIntoOne => "multi-row scan needs a list destination"
  | .rowBeforeAdvance => "scan_row requires next() first"
  | .noCurrentRow => "no current row"
  | .oneRowIntoList => "scan_row needs a non-list destination"
  | .listOfLists => "lists of lists are not a supported destination"
  | .shapeMismatch => "destination shape does not match the row plan"
  | .rowsClosed => "rows are closed"
  | .transactionFinished => "transaction already finished"

/-- **The wording of an error**, where this library words it. -/
def Error.message? : Error → Option String
  | .invalidTemplate f => some ("Invalid SQL template: " ++ f.message)
  | .tooManyArguments n =>
    some ("Named template expects a single argument, got " ++ toString n)
  | .unresolved name =>
    some ("Named parameter ':" ++ name ++ "' could not be resolved from the argument")
  | .emptyList origin => some ("Cannot expand empty list for '" ++ origin.message ++ "'")
  | .countMismatch p v =>
    some ("Query has " ++ toString p ++ " placeholder(s) but " ++ toString v ++
      " value(s) were supplied")
  | .unsupportedArgument f => some ("Unsupported argument type: " ++ f.message)
  | .invalidColumns f => some ("Invalid result columns: " ++ f.message)
  | .unmappedColumn column target =>
    some ("Missing destination field for column '" ++ column ++ "' in " ++ target)
  | .usage f => some ("Usage error: " ++ f.message)
  | .notFound => some "No rows in result set"
  | .tooManyRows => some "Expected exactly one row, got more"
  | .conversion expected found => some ("Cannot convert " ++ found ++ " into " ++ expected)
  | .configuration => none
  | .database .rowNotFound =>
    some ("Database error: no rows returned by a query that expected to return " ++
      "at least one row")
  | .database .other => none
  | .driver text => some ("Driver error: " ++ text)

/-- **Whether an error says that a single row was missing**, reported here or by the database. -/
def Error.isNotFound : Error → Bool
  | .notFound | .database .rowNotFound => true
  | _ => false

end Rowbind
