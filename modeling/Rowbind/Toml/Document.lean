import Rowbind.Toml.Value

/-!
# Documents of TOML

A document is a sequence of lines. A header opens a table, or a new element of an array of tables,
and the pairs that follow belong to it; pairs before the first header belong to the document itself.
A line holds one of these at most, and may end in a comment.

`Toml.document?` reads a text and says what the document holds, as long as everything in it is well
formed and nothing is defined twice.
-/

namespace Rowbind.Toml

/-- **What a line says.** -/
inductive Line where
  | blank
  | pair (path : List String) (key : String) (value : Node)
  | table (path : List String) (key : String)
  | element (path : List String) (key : String)

/-- What follows the rest of a line, where it holds no more than a comment. -/
def lineEnd? (cs : List Char) : Option (List Char) :=
  let rest :=
    match skipGaps cs with
    | '#' :: cs => cs.dropWhile isPlain
    | cs => cs
  match rest with
  | [] => some []
  | rest => afterNewline? rest

/-- **A line**, its end included. There is none at the end of the text. -/
def line? : Reader Line
  | [] => none
  | cs => do
    let (line, rest) ←
      match skipGaps cs with
      | '[' :: '[' :: cs => do
        let ((path, name), rest) ← key? cs
        let (_, rest) ← behind ']' (behind ']' fun cs => some ((), cs)) rest
        some (Line.element path name, rest)
      | '[' :: cs => do
        let ((path, name), rest) ← key? cs
        let (_, rest) ← behind ']' (fun cs => some ((), cs)) rest
        some (Line.table path name, rest)
      | [] => some (Line.blank, [])
      | c :: cs =>
        if c = '#' ∨ c = '\n' ∨ c = '\r' then some (Line.blank, c :: cs)
        else do
          let ((path, name, v), rest) ← pair? (value? maxNesting) (c :: cs)
          some (Line.pair path name v, rest)
    return (line, ← lineEnd? rest)

/-- **A document on its way**: what it holds, and the table that pairs go to. -/
structure Draft where
  entries : Entries
  current : List String

/-- The draft after one more line. -/
def Draft.add (d : Draft) : Line → Option Draft
  | .blank => some d
  | .pair path key v =>
    (Entries.descend .header (fun _ es => es.addPair path key v) d.current .declared
      d.entries).map fun es => { d with entries := es }
  | .table path key => (d.entries.openTable path key).map (⟨·, path ++ [key]⟩)
  | .element path key => (d.entries.openElement path key).map (⟨·, path ++ [key]⟩)

/-- **What a document holds.** A mark of the byte order at its beginning does not count. -/
def document? (text : String) : Option Entries :=
  let cs :=
    match text.toList with
    | '\uFEFF' :: cs => cs
    | cs => cs
  match many line? cs with
  | (lines, []) => (lines.foldlM Draft.add ⟨[], []⟩).map (·.entries)
  | _ => none

end Rowbind.Toml
