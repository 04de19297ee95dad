/-!
# Tables of TOML

A document is a table, and tables hold tables. The same table can be written in pieces: headers
open it and the tables inside it, and dotted keys put values into tables inside. What may be added
where is decided by a table's **standing**, that is by what made it:

* a header may pass through any table but an inline one, and may open one that was only passed
  through by an earlier header;
* a dotted key may pass through tables that it or an earlier header passed through, but not open
  ones, and may put its value only into a table that dotted keys made;
* an inline table is finished where it ends;
* nothing is put in the place of something else.

In an array of tables, both mean the last element. `Table.descend` is the walk that all of this
shares.
-/

namespace Rowbind.Toml

/-- **What made a table.** -/
inductive Standing
  /-- A header that led on to a table inside. -/
  | implied
  /-- A dotted key. -/
  | dotted
  /-- Its own header. -/
  | declared
  /-- Braces. -/
  | inline
  deriving DecidableEq, Repr

/-- **A value of a document.** Numbers with a fraction and points in time are not computed. -/
inductive Node where
  | text (s : String)
  | integer (i : Int)
  | boolean (b : Bool)
  | float
  | moment
  | array (items : List Node)
  | table (standing : Standing) (entries : List (String × Node))
  /-- An array of tables, opened by headers. -/
  | tables (elements : List (List (String × Node)))

/-- What is held by a table, in the order of writing. -/
abbrev Entries := List (String × Node)

/-- **How a table is reached.** -/
inductive Approach
  | header
  | dottedKey
  deriving DecidableEq, Repr

/-- The standing of a table that is made on the way. -/
def Approach.makes : Approach → Standing
  | header => .implied
  | dottedKey => .dotted

/-- Whether the way may lead through a table. -/
def Approach.admits : Approach → Standing → Bool
  | header, .inline => false
  | header, _ => true
  | dottedKey, .implied | dottedKey, .dotted => true
  | dottedKey, _ => false

namespace Entries

/-- Puts a node in the place of a key's, or at the end. -/
def put (key : String) (node : Node) : Entries → Entries
  | [] => [(key, node)]
  | (k, n) :: es => if k = key then (key, node) :: es else (k, n) :: put key node es

/-- **Changes the table at the end of a way**, making tables where there are none. The change is
told what made that table. -/
def descend (approach : Approach) (change : Standing → Entries → Option Entries) :
    List String → Standing → Entries → Option Entries
  | [], standing, es => change standing es
  | key :: path, _, es =>
    match es.lookup key with
    | none =>
      (descend approach change path approach.makes []).map fun inner =>
        put key (.table approach.makes inner) es
    | some (.table standing inner) =>
      if approach.admits standing then
        (descend approach change path standing inner).map fun inner =>
          put key (.table standing inner) es
      else none
    | some (.tables elements) =>
      match elements.getLast? with
      | some last =>
        (descend approach change path .declared last).map fun last =>
          put key (.tables (elements.dropLast ++ [last])) es
      | none => none
    | some _ => none

/-- **Puts a value under a key**, behind a way of dotted keys. -/
def addPair (path : List String) (key : String) (value : Node) (es : Entries) : Option Entries :=
  descend .dottedKey (fun standing es =>
    if !path.isEmpty && standing ≠ .dotted then none
    else if (es.lookup key).isSome then none
    else some (put key value es)) path .declared es

/-- **Opens a table.** -/
def openTable (path : List String) (key : String) (es : Entries) : Option Entries :=
  descend .header (fun _ es =>
    match es.lookup key with
    | none => some (put key (.table .declared []) es)
    | some (.table .implied inner) => some (put key (.table .declared inner) es)
    | some _ => none) path .declared es

/-- **Opens a new element of an array of tables.** -/
def openElement (path : List String) (key : String) (es : Entries) : Option Entries :=
  descend .header (fun _ es =>
    match es.lookup key with
    | none => some (put key (.tables [[]]) es)
    | some (.tables elements) => some (put key (.tables (elements ++ [[]])) es)
    | some _ => none) path .declared es

end Entries

/-- **The inline table of some pairs**, each with its way of dotted keys. -/
def Node.ofPairs (pairs : List (List String × String × Node)) : Option Node :=
  (pairs.foldlM (fun es (path, key, value) => Entries.addPair path key value es) []).map
    (.table .inline ·)

end Rowbind.Toml
