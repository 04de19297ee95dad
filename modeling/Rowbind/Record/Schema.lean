import Rowbind.Text.SnakeCase

/-!
# Record types as the library sees them

A **schema** describes a record: its name and its fields in order. A field has a name, tags, and a
kind. Nested records are named by identity (`TypeId`), not held, so a schema may lead back to
itself; which schema an identity stands for is asked of a catalog.

The **key** of a field is what columns and parameters call it: its tag, or its name as a name mapper
writes it. A field that is skipped, or whose tag is a hyphen, has no key and is hidden from columns
and parameters alike.
-/

namespace Rowbind

/-- **The identity of a record type.** Two types are the same when their identities are. -/
structure TypeId where
  number : Nat
  deriving DecidableEq, Repr, Hashable

/-- **What kind of field it is.** -/
inductive FieldKind
  /-- One column, or one parameter. -/
  | scalar
  /-- Hidden. -/
  | skip
  /-- A record of its own. The fields of an embedded one can also be called as if they were the
  outer record's. -/
  | record (embedded : Bool) (type : TypeId)
  deriving DecidableEq, Repr

/-- **A field of a record type.** -/
structure Field where
  name : String
  /-- Tags by key; of two with one key, the first counts. -/
  tags : List (String × String)
  kind : FieldKind
  deriving DecidableEq, Repr

/-- The tag of a field under a key. -/
def Field.tag? (f : Field) (key : String) : Option String := f.tags.lookup key

/-- **A record type's description.** -/
structure Schema where
  name : String
  fields : List Field
  deriving DecidableEq, Repr

/-- The identity of a name mapper that a program brings along. -/
structure MapperId where
  number : Nat
  deriving DecidableEq, Repr, Hashable

/-- **How a field's name becomes its key** where no tag says it. -/
inductive NameMapper
  | snakeCase
  | lowercase
  | identity
  /-- A mapper that the program brings along. -/
  | custom (id : MapperId)
  deriving DecidableEq, Repr, Hashable

/-- The mapper that a word of configuration means. A mapper of the program's own has none. -/
def NameMapper.ofName? : String → Option NameMapper
  | "snake_case" => some snakeCase
  | "lowercase" => some lowercase
  | "identity" => some identity
  | _ => none

/-- The key of a name, given what the program's own mappers do. -/
def NameMapper.apply (custom : MapperId → String → String) : NameMapper → String → String
  | snakeCase => Text.snakeCase
  | lowercase => Text.lowercase
  | identity => id
  | .custom m => custom m

/-- **The key of a field**, none where the field is hidden. `rename` writes the keys of fields
without a tag. -/
def Field.key? (f : Field) (tag : String) (rename : String → String) : Option String :=
  if f.kind = .skip then none
  else
    match f.tag? tag with
    | some t => if t = "-" then none else if t = "" then some (rename f.name) else some t
    | none => some (rename f.name)

end Rowbind
