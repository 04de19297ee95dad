import Rowbind.Options

/-!
# Arguments

A query takes positional values, or one **named** argument: a record or a map whose names are the
template's parameters, or a batch of them. What a parameter stands for is asked of a `Source`, one
for each record or map of the argument.

A map finds a name with dots in it by walking into nested maps, name by name, and failing that as a
name of its own. A record finds a name by its field map; a field of an optional record that is not
set is null.
-/

namespace Rowbind

/-- **An argument of a query.** -/
inductive Argument where
  | value (v : Value)
  | record (r : Record)
  | map (m : ValueMap)
  | records (rs : List Record)
  | maps (ms : List ValueMap)

namespace Argument

/-- Whether the argument's names are the template's parameters. -/
def isNamed : Argument → Bool
  | value _ => false
  | _ => true

/-- Whether the argument is a batch. -/
def isBatch : Argument → Bool
  | records _ | maps _ => true
  | _ => false

/-- The kind of an argument, as messages give it. -/
def kind : Argument → String
  | value v => v.typeName
  | record _ => "record"
  | map _ => "map"
  | records _ => "list of records"
  | maps _ => "list of maps"

end Argument

/-- **What each name stands for**, where it stands for anything. -/
abbrev Source := String → Option Value

namespace Source

/-- **The parts of a name between its dots.** -/
def parts : List Char → List (List Char)
  | [] => [[]]
  | c :: cs =>
    if c = '.' then [] :: parts cs
    else
      match parts cs with
      | [] => [[c]]
      | part :: rest => (c :: part) :: rest

/-- The value at the end of a walk into nested maps. -/
def walk (m : ValueMap) : List String → Option Value
  | [] => none
  | [name] => m.lookup name
  | name :: names =>
    match m.lookup name with
    | some (.map inner) => walk inner names
    | _ => none

/-- **The names of a map.** -/
def ofMap (m : ValueMap) : Source := fun name =>
  let names := (parts name.toList).map String.ofList
  if 1 < names.length then (walk m names).or (m.lookup name) else m.lookup name

/-- **The names of a record**, as parameters call its fields. -/
def ofRecord (c : Catalog) (o : Options) (r : Record) : Source :=
  let fields := FieldMap.of c r.type o.paramRule
  fun name =>
    match (fields.path? name).bind (fieldAt r.cells) with
    | some (.value v) => some v
    | some .absent => some .null
    | _ => none

end Source

/-- **The sources of a named argument**, none for a positional one. -/
def Argument.sources? (c : Catalog) (o : Options) : Argument → Option (List Source)
  | value _ => none
  | record r => some [.ofRecord c o r]
  | map m => some [.ofMap m]
  | records rs => some (rs.map (.ofRecord c o))
  | maps ms => some (ms.map .ofMap)

end Rowbind
