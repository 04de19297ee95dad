import Rowbind.Toml.Word

/-!
# Quoted texts of TOML

A quoted text stands between double quotes, where a backslash begins an escape, or between single
quotes, where nothing is escaped. Either can be **long**: between three quotes on each side, over as
many lines as it likes, a line feed right after the opening quotes not counting. Up to two quotes
that stand right before the closing three belong to the text.

Every reader here begins after the opening quotes, and answers with the text and what follows the
closing quotes. `escape?` leaves a shorter text behind, which is why reading ends.
-/

namespace Rowbind.Toml

/-- Whether a character may stand in a comment, and in quotes unless it means something there:
whatever is no control character, and the tab. -/
def isPlain (c : Char) : Bool :=
  c == '\t' || (0x20 ≤ c.toNat && c.toNat ≠ 0x7F)

/-- A space or a tab. -/
def isGap (c : Char) : Bool := c == ' ' || c == '\t'

/-- What follows a line's end at the head of a text. -/
def afterNewline? : List Char → Option (List Char)
  | '\n' :: cs => some cs
  | '\r' :: '\n' :: cs => some cs
  | _ => none

/-- What follows a line's end at the head, or the text itself. -/
def skipNewline (cs : List Char) : List Char := (afterNewline? cs).getD cs

/-- What follows all spaces, tabs and line ends at the head. -/
def skipBlanks : List Char → List Char
  | '\r' :: '\n' :: cs => skipBlanks cs
  | c :: cs => if isGap c || c == '\n' then skipBlanks cs else c :: cs
  | [] => []

/-! ## Escapes -/

/-- The character whose code point stands in so many hexadecimal digits at the head. Surrogates
are no characters. -/
def hexEscape? (count : Nat) (cs : List Char) : Option (Char × List Char) :=
  let digits := cs.take count
  let n := ofDigits 16 digits
  if digits.length = count ∧ digits.all (isDigitOf 16) ∧ n.isValidChar then
    some (Char.ofNat n, cs.drop count)
  else none

/-- The character that an escape of one letter stands for. -/
def letterEscape? : Char → Option Char
  | 'b' => some '\x08'
  | 't' => some '\t'
  | 'n' => some '\n'
  | 'f' => some '\x0c'
  | 'r' => some '\r'
  | '"' => some '"'
  | '\\' => some '\\'
  | _ => none

/-- **The character that an escape stands for**, read after its backslash. -/
def escape? : List Char → Option (Char × List Char)
  | [] => none
  | c :: cs =>
    if c = 'u' then hexEscape? 4 cs
    else if c = 'U' then hexEscape? 8 cs
    else (letterEscape? c).map (·, cs)

theorem length_hexEscape {count : Nat} {cs rest : List Char} {c : Char}
    (h : hexEscape? count cs = some (c, rest)) : rest.length ≤ cs.length := by
  unfold hexEscape? at h
  grind

theorem length_escape {cs rest : List Char} {c : Char} (h : escape? cs = some (c, rest)) :
    rest.length < cs.length := by
  cases cs with
  | nil => simp [escape?] at h
  | cons d cs =>
    simp only [escape?] at h
    split at h
    · exact Nat.lt_succ_of_le (length_hexEscape h)
    · split at h
      · exact Nat.lt_succ_of_le (length_hexEscape h)
      · obtain ⟨e, _, he⟩ := Option.map_eq_some_iff.1 h
        simp [(Prod.mk.inj he).2]

theorem length_skipBlanks (cs : List Char) : (skipBlanks cs).length ≤ cs.length := by
  fun_induction skipBlanks cs <;> grind

/-- **The text after a backslash that ends its line**: the line's end and all blanks after it are
left out. -/
def continuation? (cs : List Char) : Option (List Char) :=
  (afterNewline? (cs.dropWhile isGap)).map skipBlanks

theorem length_continuation {cs rest : List Char} (h : continuation? cs = some rest) :
    rest.length ≤ cs.length := by
  obtain ⟨after, hafter, rfl⟩ := Option.map_eq_some_iff.1 h
  have hskip := length_skipBlanks after
  have hgap := (List.dropWhile_suffix isGap (l := cs)).length_le
  have hline : after.length < (cs.dropWhile isGap).length := by
    unfold afterNewline? at hafter
    grind
  omega

/-! ## Readers -/

/-- A character before a text that was read. -/
def prepend (c : Char) (read : List Char × List Char) : List Char × List Char :=
  (c :: read.1, read.2)

/-- **A text in double quotes.** -/
def basicText? (cs : List Char) : Option (List Char × List Char) :=
  match cs with
  | [] => none
  | '"' :: rest => some ([], rest)
  | '\\' :: rest =>
    match _h : escape? rest with
    | some (c, rest) => (basicText? rest).map (prepend c)
    | none => none
  | c :: rest => if isPlain c then (basicText? rest).map (prepend c) else none
termination_by cs.length
decreasing_by
  · have := length_escape _h
    simp
    omega
  · simp

/-- **A text in single quotes.** -/
def literalText? : List Char → Option (List Char × List Char)
  | [] => none
  | '\'' :: rest => some ([], rest)
  | c :: rest => if isPlain c then (literalText? rest).map (prepend c) else none

/-- **The end of a long text**: the quotes that belong to it, and what follows the closing three. -/
def closing? (quote : Char) : List Char → Option (List Char × List Char)
  | a :: b :: c :: rest =>
    if a = quote ∧ b = quote ∧ c = quote then
      match rest with
      | d :: e :: rest =>
        if d = quote ∧ e = quote then some ([quote, quote], rest)
        else if d = quote then some ([quote], e :: rest)
        else some ([], d :: e :: rest)
      | [d] => if d = quote then some ([quote], []) else some ([], [d])
      | [] => some ([], [])
    else none
  | _ => none

/-- **A long text in double quotes.** -/
def longBasicText? (cs : List Char) : Option (List Char × List Char) :=
  match closing? '"' cs with
  | some read => some read
  | none =>
    match cs with
    | [] => none
    | '\\' :: rest =>
      match _h : continuation? rest with
      | some rest => longBasicText? rest
      | none =>
        match _h : escape? rest with
        | some (c, rest) => (longBasicText? rest).map (prepend c)
        | none => none
    | '\n' :: rest => (longBasicText? rest).map (prepend '\n')
    | '\r' :: '\n' :: rest => (longBasicText? rest).map (prepend '\n')
    | c :: rest => if isPlain c then (longBasicText? rest).map (prepend c) else none
termination_by cs.length
decreasing_by
  · have := length_continuation _h
    simp
    omega
  · have := length_escape _h
    simp
    omega
  all_goals grind

/-- **A long text in single quotes.** -/
def longLiteralText? (cs : List Char) : Option (List Char × List Char) :=
  match closing? '\'' cs with
  | some read => some read
  | none =>
    match cs with
    | [] => none
    | '\n' :: rest => (longLiteralText? rest).map (prepend '\n')
    | '\r' :: '\n' :: rest => (longLiteralText? rest).map (prepend '\n')
    | c :: rest => if isPlain c then (longLiteralText? rest).map (prepend c) else none
termination_by cs.length

/-- **A quoted text on one line**, its opening quote at the head. -/
def shortQuoted? : List Char → Option (List Char × List Char)
  | '"' :: cs => basicText? cs
  | '\'' :: cs => literalText? cs
  | _ => none

/-- **A quoted text**, its opening quotes at the head. -/
def quoted? : List Char → Option (List Char × List Char)
  | '"' :: '"' :: '"' :: cs => longBasicText? (skipNewline cs)
  | '\'' :: '\'' :: '\'' :: cs => longLiteralText? (skipNewline cs)
  | cs => shortQuoted? cs

end Rowbind.Toml
