import Rowbind.Text.Case
import Rowbind.Text.Lowercase
import Rowbind.Text.Numeric

/-!
# Snake case

`snakeCase` writes a name whose words begin with capitals in lower case, an underscore before each
word: `CreatedAt` becomes `created_at`. A capital begins a word when it follows a small letter or a
number, or when it is the last of a row of capitals and a small letter follows it: `HTTPServer`
becomes `http_server`, and the `H` after an underscore is no new word.

The final sigma of `lowercase` plays no part here: each capital is taken by itself.
-/

namespace Rowbind.Text

/-- **Whether a capital begins a word**, by the character before it and the one after it. -/
def beginsWord (before after : Option Char) : Bool :=
  match before with
  | none => false
  | some p =>
    if p = '_' then false
    else if isLowercase p || isNumeric p then true
    else isUppercase p && after.any isLowercase

/-- The snake case of the characters that follow `before`. -/
def snakeAfter (before : Option Char) : List Char → List Char
  | [] => []
  | c :: cs =>
    let form :=
      if isUppercase c then
        (if beginsWord before cs.head? then '_' :: lower c else lower c)
      else [c]
    form ++ snakeAfter (some c) cs

/-- **The snake case of a name.** -/
def snakeCase (name : String) : String :=
  String.ofList (snakeAfter none name.toList)

end Rowbind.Text
