import Rowbind.Binding.Argument
import Rowbind.Template.ValuesGroup

/-!
# Binding a named argument

Every parameter of a template is resolved from the argument, left to right, as often as it occurs. A
list stands for its elements and takes one placeholder for each. The first parameter that cannot be
resolved, or resolves to what cannot be bound, decides the error.

A batch repeats the template's group of values once for each element, and the parameters of each
repetition are resolved from its element.
-/

namespace Rowbind

/-- **A query ready to be sent**: text with placeholders, and a value for each. -/
structure Bound where
  sql : String
  values : List Value

/-- The value of a parameter. One that the source does not know is null, if options say so. -/
def resolve (o : Options) (source : Source) (name : String) : Except Error Value :=
  match source name with
  | some v => .ok v
  | none => if o.missingParamsAsNull then .ok .null else .error (.unresolved name)

/-- **The values that a parameter's value is bound as**: itself, or the elements of a list. -/
def expand (name : String) : Value → Except Error (List Value)
  | .list [] => .error (.emptyList (.parameter name))
  | .list items =>
    match items.find? (!·.isBindable) with
    | some v => .error (.unsupportedArgument (.nestedInParameter v.typeName name))
    | none => .ok items
  | .map _ => .error (.unsupportedArgument (.mapForParameter name))
  | v => .ok [v]

/-- The source of the occurrence at a position, `share` of them falling to each source. -/
def sourceOf (sources : List Source) (share position : Nat) : Source :=
  (sources[position / max share 1]?).getD fun _ => none

/-- **The values of each occurrence**, the first of them at a position. -/
def resolveFrom (o : Options) (sources : List Source) (share position : Nat) :
    List String → Except Error (List (List Value))
  | [] => .ok []
  | name :: names => do
    let value ← resolve o (sourceOf sources share position) name
    let values ← expand name value
    return values :: (← resolveFrom o sources share (position + 1) names)

/-- Binds the parameters of a template, each source having the same share of them. -/
def bindSources (d : Dialect) (template : String) (o : Options) (sources : List Source) :
    Except Error Bound := do
  let names := Template.parameterNames template.toList
  let bound ← resolveFrom o sources (names.length / sources.length) 0 names
  let counts := (bound.map List.length).toArray
  let rendered ← Template.renderNamed template d (.ofArray counts)
  let values := bound.flatten
  if rendered.placeholders ≠ values.length then
    throw (.countMismatch rendered.placeholders values.length)
  return ⟨rendered.sql, values⟩

/-- **Binds a named argument.** -/
def bindNamed (c : Catalog) (d : Dialect) (template : String) (argument : Argument)
    (o : Options) : Except Error Bound := do
  match argument.sources? c o with
  | none => throw (.unsupportedArgument (.positionalForNamed argument.kind))
  | some sources =>
    if argument.isBatch then
      if sources.isEmpty then
        throw (.emptyList .batch)
      let repeated ← (Template.repeatValuesGroup template sources.length).mapError .invalidTemplate
      bindSources d repeated o sources
    else bindSources d template o sources

end Rowbind
