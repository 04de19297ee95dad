import Rowbind.Options
import Rowbind.Toml.Document

/-!
# Options from a document

A TOML document sets the options that it names and leaves the others as they are by default. Keys
that name no option are passed over, whatever they hold. A dialect or a name mapper is given by a
word, or by a table whose only key is the word and holds nothing.

Whatever is wrong with a document, the error is the same.
-/

namespace Rowbind

open Toml (Node Entries)

/-- A text. -/
def Toml.Node.text? : Node → Option String
  | .text s => some s
  | _ => none

/-- A truth value. -/
def Toml.Node.boolean? : Node → Option Bool
  | .boolean b => some b
  | _ => none

/-- A number that is not negative. -/
def Toml.Node.size? : Node → Option Nat
  | .integer i => if 0 ≤ i then some i.toNat else none
  | _ => none

/-- Whether a node holds nothing. -/
def Toml.Node.isEmpty : Node → Bool
  | .array [] | .table _ [] => true
  | _ => false

/-- One of several words, by itself or as the only key of a table. -/
def Toml.Node.choice? : Node → Option String
  | .text s => some s
  | .table _ [(key, node)] => if node.isEmpty then some key else none
  | _ => none

namespace Options

/-- The setting of an option: as the document has it, or as it is by default. -/
def setting {α : Type} (es : Entries) (key : String) (read : Node → Option α) (absent : α) :
    Option α :=
  match es.lookup key with
  | some node => read node
  | none => some absent

/-- **The options that a document's entries set.** -/
def ofEntries (es : Entries) : Option Options := do
  let blank : Options := {}
  return {
    dialect := ← setting es "dialect" (fun n => (n.choice?.bind Dialect.ofName?).map some)
      blank.dialect
    tag := ← setting es "tag" Node.text? blank.tag
    nameMapper := ← setting es "name_mapper" (·.choice?.bind NameMapper.ofName?) blank.nameMapper
    ignoreMissingFields :=
      ← setting es "ignore_missing_fields" Node.boolean? blank.ignoreMissingFields
    missingParamsAsNull :=
      ← setting es "missing_params_as_null" Node.boolean? blank.missingParamsAsNull
    statementCacheCapacity :=
      ← setting es "statement_cache_capacity" Node.size? blank.statementCacheCapacity
    columnSeparator := ← setting es "column_separator" Node.text? blank.columnSeparator
    paramSeparator := ← setting es "param_separator" Node.text? blank.paramSeparator }

/-- **The options that a document sets.** -/
def ofDocument (text : String) : Except Error Options :=
  match (Toml.document? text).bind ofEntries with
  | some o => .ok o
  | none => .error .configuration

end Options

end Rowbind
