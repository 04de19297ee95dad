import Rowbind.Record.FieldMap

/-!
# Field maps built once

Building a field map walks a whole record type, so a map once built is kept and shared. A map is
found again by everything that it depends on: the record type and the rule by which keys are made.

The maps stand in the order in which they were built, and a request answers with its map's place in
that order. Two requests share a map exactly when they are answered with one place.
-/

namespace Rowbind

/-- **What a field map is found by.** -/
structure FieldMapKey where
  type : TypeId
  rule : KeyRule
  deriving DecidableEq, Repr

/-- **The field maps built so far**, the first one first. -/
structure FieldMapCache where
  built : List (FieldMapKey × FieldMap)

namespace FieldMapCache

def empty : FieldMapCache := ⟨[]⟩

/-- The place of a key's map. -/
def place? (cache : FieldMapCache) (key : FieldMapKey) : Option Nat :=
  cache.built.findIdx? (·.1 = key)

/-- **Answers a request**, with the map and its place, and builds the map at the first one. -/
def request (c : Catalog) (key : FieldMapKey) (cache : FieldMapCache) :
    (Nat × FieldMap) × FieldMapCache :=
  match cache.place? key, cache.built.lookup key with
  | some place, some map => ((place, map), cache)
  | _, _ =>
    let map := FieldMap.of c key.type key.rule
    ((cache.built.length, map), ⟨cache.built ++ [(key, map)]⟩)

end FieldMapCache

end Rowbind
