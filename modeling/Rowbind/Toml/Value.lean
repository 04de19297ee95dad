import Rowbind.Toml.Quoted
import Rowbind.Toml.Table

/-!
# Keys and values of TOML

A value is quoted, a bare word, an array or an inline table. Arrays may run over several lines, with
comments, and may end in a comma; inline tables may not. Values nest no deeper than `maxNesting`,
and a key has no more parts than that.

A **reader** takes what it reads off the head of a text. `many` repeats one as long as it makes
progress, so it ends whatever the reader.
-/

namespace Rowbind.Toml

/-- **A reader**: what was read off the head of a text, and the rest. -/
abbrev Reader (α : Type) := List Char → Option (α × List Char)

/-- As many as can be read, and the rest. -/
def many {α : Type} (item : Reader α) (cs : List Char) : List α × List Char :=
  match item cs with
  | none => ([], cs)
  | some (a, rest) =>
    if rest.length < cs.length then
      let (as, rest) := many item rest
      (a :: as, rest)
    else ([], cs)
termination_by cs.length

/-- A reader behind a character. -/
def behind {α : Type} (c : Char) (item : Reader α) : Reader α
  | [] => none
  | d :: cs => if d = c then item cs else none

/-- As many as can be read, commas between them. -/
def separated {α : Type} (item : Reader α) (cs : List Char) : List α × List Char :=
  match item cs with
  | none => ([], cs)
  | some (a, rest) =>
    let (as, rest) := many (behind ',' item) rest
    (a :: as, rest)

/-- The text after spaces and tabs. -/
def skipGaps (cs : List Char) : List Char := cs.dropWhile isGap

/-- **The text after blanks, line ends and comments.** A comment ends with its line; what may not
stand in a comment is left at the head. -/
def skipTrivia (inComment : Bool) : List Char → List Char
  | [] => []
  | '\n' :: cs => skipTrivia false cs
  | '\r' :: '\n' :: cs => skipTrivia false cs
  | c :: cs =>
    if inComment then (if isPlain c then skipTrivia true cs else c :: cs)
    else if isGap c then skipTrivia false cs
    else if c = '#' then skipTrivia true cs
    else c :: cs

/-! ## Keys -/

/-- How deep values may nest, and how many parts a key may have. -/
def maxNesting : Nat := 79

/-- Whether a character may stand in a key without quotes. -/
def isBareKey (c : Char) : Bool := c.isAlphanum || c == '-' || c == '_'

/-- One part of a key, with the spaces around it. -/
def keyPart? : Reader String := fun cs =>
  let cs := skipGaps cs
  let part :=
    if cs.head?.any isBareKey then some (cs.takeWhile isBareKey, cs.dropWhile isBareKey)
    else shortQuoted? cs
  part.map fun (name, rest) => (String.ofList name, skipGaps rest)

/-- **A key**: the way to it, and its own name. -/
def key? : Reader (List String × String) := fun cs => do
  let (first, rest) ← keyPart? cs
  let (others, rest) := many (behind '.' keyPart?) rest
  let parts := first :: others
  if maxNesting < parts.length then none
  return ((parts.dropLast, parts.getLast (List.cons_ne_nil _ _)), rest)

/-! ## Values -/

/-- Whether a character may stand in a bare word. -/
def isWordPart (c : Char) : Bool :=
  c.isAlphanum || c == '_' || c == '+' || c == '-' || c == '.' || c == ':'

/-- **The value of a bare word.** -/
def Node.ofWord? (word : List Char) : Option Node :=
  if word = ['t', 'r', 'u', 'e'] then some (.boolean true)
  else if word = ['f', 'a', 'l', 's', 'e'] then some (.boolean false)
  else
    match integer? word with
    | some i => some (.integer i)
    | none => if isFloat word then some .float else if isMoment word then some .moment else none

/-- A time of day behind a date and a space, which belongs to the date, where one stands there. -/
def timeBehindDate? : List Char → Option (List Char)
  | ' ' :: cs =>
    match cs.takeWhile isWordPart with
    | [] => some (' ' :: cs)
    | time => if isTimeWithOffset time then some (cs.dropWhile isWordPart) else none
  | cs => some cs

/-- A bare word's value. -/
def bare? : Reader Node := fun cs =>
  let word := cs.takeWhile isWordPart
  let rest := cs.dropWhile isWordPart
  if isDate word then (timeBehindDate? rest).map (.moment, ·)
  else (Node.ofWord? word).map (·, rest)

/-- An array's items, after the opening bracket. -/
def array? (item : Reader Node) : Reader Node := fun cs =>
  let (items, rest) := separated (fun cs => do
    let (v, rest) ← item (skipTrivia false cs)
    return (v, skipTrivia false rest)) cs
  let rest :=
    match items, rest with
    | _ :: _, ',' :: rest => rest
    | _, _ => rest
  match skipTrivia false rest with
  | ']' :: rest => some (.array items, rest)
  | _ => none

/-- **A pair of a key and a value.** -/
def pair? (item : Reader Node) : Reader (List String × String × Node) := fun cs => do
  let ((path, name), rest) ← key? cs
  let (v, rest) ← behind '=' (fun cs => item (skipGaps cs)) rest
  return ((path, name, v), skipGaps rest)

/-- An inline table's pairs, after the opening brace. -/
def inlineTable? (item : Reader Node) : Reader Node := fun cs =>
  let (pairs, rest) := separated (pair? item) cs
  match skipGaps rest with
  | '}' :: rest => (Node.ofPairs pairs).map (·, rest)
  | _ => none

/-- **A value**, in which arrays and inline tables nest so deep at most. -/
def value? : (nesting : Nat) → Reader Node
  | nesting, cs =>
    match cs with
    | [] => none
    | c :: rest =>
      if c = '"' ∨ c = '\'' then (quoted? cs).map fun (s, rest) => (.text (String.ofList s), rest)
      else if c = '[' then
        match nesting with
        | 0 => none
        | nesting + 1 => array? (value? nesting) rest
      else if c = '{' then
        match nesting with
        | 0 => none
        | nesting + 1 => inlineTable? (value? nesting) rest
      else bare? cs

end Rowbind.Toml
