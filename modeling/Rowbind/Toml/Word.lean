/-!
# Bare words of TOML

A value that is not quoted and not bracketed is one **word**: a truth value, a whole number, a
floating-point number, or a point in time. This module says which words are which, each by a
function on the whole word; a word of no kind is no value.

Whole numbers fit 64 bits, and are decimal with an optional sign and no zero in front, or
hexadecimal, octal or binary with no sign. One underscore may stand between any two digits.
Floating-point numbers and points in time are only recognised, not computed: nobody asks for them.
-/

namespace Rowbind.Toml

/-! ## Digits -/

/-- The number that a digit stands for, whatever the base. -/
def digitValue (c : Char) : Nat :=
  if c.isDigit then c.toNat - '0'.toNat
  else if c.isLower then c.toNat - 'a'.toNat + 10
  else c.toNat - 'A'.toNat + 10

/-- Whether a character is a digit of the base, which is at most sixteen. -/
def isDigitOf (base : Nat) (c : Char) : Bool :=
  (c.isDigit || c.isAlpha) && digitValue c < base

/-- **The digits of a number**, less single underscores between them. -/
def digits? (base : Nat) : List Char → Option (List Char)
  | [] => none
  | c :: cs =>
    if !isDigitOf base c then none
    else
      match cs with
      | [] => some [c]
      | '_' :: rest => (digits? base rest).map (c :: ·)
      | d :: rest => (digits? base (d :: rest)).map (c :: ·)

/-- The number that digits stand for. -/
def ofDigits (base : Nat) (digits : List Char) : Nat :=
  digits.foldl (fun n c => n * base + digitValue c) 0

/-- The decimal digits of a number with no zero in front. -/
def decimal? (cs : List Char) : Option (List Char) :=
  (digits? 10 cs).filter fun digits => digits.head? != some '0' || digits.length == 1

/-- What follows a sign, and whether the sign was a minus. -/
def unsigned : List Char → Bool × List Char
  | '-' :: cs => (true, cs)
  | '+' :: cs => (false, cs)
  | cs => (false, cs)

/-! ## Whole numbers -/

/-- A number written in digits of a base. -/
def natural? (base : Nat) (cs : List Char) : Option Int :=
  (digits? base cs).map fun digits => Int.ofNat (ofDigits base digits)

/-- **The whole number that a word stands for.** -/
def integer? (word : List Char) : Option Int :=
  let number :=
    match word with
    | '0' :: 'x' :: cs => natural? 16 cs
    | '0' :: 'o' :: cs => natural? 8 cs
    | '0' :: 'b' :: cs => natural? 2 cs
    | _ =>
      let (negative, cs) := unsigned word
      (decimal? cs).map fun digits =>
        let n := Int.ofNat (ofDigits 10 digits)
        if negative then -n else n
  number.filter fun n => Int64.minValue.toInt ≤ n ∧ n ≤ Int64.maxValue.toInt

/-! ## Floating-point numbers -/

/-- The least number that rounds to infinity in the 64-bit format. -/
def overflow : Nat := 1 <<< 1024 - 1 <<< 970

/-- **Whether `significand * 10 ^ exponent` rounds to infinity.** Numbers far from the limit are
told by the number of their digits. -/
def overflows (significand : Nat) (exponent : Int) : Bool :=
  let magnitude := (Nat.toDigits 10 significand).length + exponent
  if significand = 0 ∨ magnitude < 309 then false
  else if 309 < magnitude then true
  else if exponent < 0 then overflow * Nat.pow 10 (-exponent).toNat ≤ significand
  else overflow ≤ significand * Nat.pow 10 exponent.toNat

/-- Whether a character can stand in a row of digits. -/
def isDigitOrUnderscore (c : Char) : Bool := c.isDigit || c == '_'

/-- The digits after a point at the head, where there is one, and the text after them. -/
def fraction? : List Char → Option (Option (List Char) × List Char)
  | '.' :: cs =>
    (digits? 10 (cs.takeWhile isDigitOrUnderscore)).map fun digits =>
      (some digits, cs.dropWhile isDigitOrUnderscore)
  | cs => some (none, cs)

/-- The exponent that a text is, where it is not empty. -/
def exponent? : List Char → Option (Option Int)
  | [] => some none
  | c :: cs =>
    if c = 'e' ∨ c = 'E' then
      let (negative, cs) := unsigned cs
      (natural? 10 cs).map fun n => some (if negative then -n else n)
    else none

/-- **Whether a word is a floating-point number.** One that has neither a fraction nor an exponent
is not, nor is a positive one beyond all finite numbers. -/
def isFloat (word : List Char) : Bool :=
  let (negative, cs) := unsigned word
  if cs = ['i', 'n', 'f'] ∨ cs = ['n', 'a', 'n'] then true
  else
    let parts := do
      let whole ← decimal? (cs.takeWhile isDigitOrUnderscore)
      let (fraction, rest) ← fraction? (cs.dropWhile isDigitOrUnderscore)
      return (whole, fraction, ← exponent? rest)
    match parts with
    | none | some (_, none, none) => false
    | some (whole, fraction, exponent) =>
      let fraction := fraction.getD []
      negative ||
        !overflows (ofDigits 10 (whole ++ fraction)) (exponent.getD 0 - fraction.length)

/-! ## Points in time -/

/-- The number of two digits, if it lies within bounds. -/
def twoDigits? (least greatest : Nat) (a b : Char) : Option Nat :=
  if a.isDigit && b.isDigit then
    (some (digitValue a * 10 + digitValue b)).filter fun n => least ≤ n ∧ n ≤ greatest
  else none

/-- The number of days of a month. -/
def daysOf (year month : Nat) : Nat :=
  if month = 2 then
    (if year % 4 = 0 ∧ (year % 100 ≠ 0 ∨ year % 400 = 0) then 29 else 28)
  else if month = 4 ∨ month = 6 ∨ month = 9 ∨ month = 11 then 30
  else 31

/-- **What follows a date** at the head of a text. -/
def afterDate? : List Char → Option (List Char)
  | y₁ :: y₂ :: y₃ :: y₄ :: '-' :: m₁ :: m₂ :: '-' :: d₁ :: d₂ :: rest => do
    let century ← twoDigits? 0 99 y₁ y₂
    let year ← twoDigits? 0 99 y₃ y₄
    let month ← twoDigits? 1 12 m₁ m₂
    let _ ← twoDigits? 1 (daysOf (century * 100 + year) month) d₁ d₂
    return rest
  | _ => none

/-- **What follows a time of day** at the head of a text. A second may be a leap second. -/
def afterTime? : List Char → Option (List Char)
  | h₁ :: h₂ :: ':' :: m₁ :: m₂ :: ':' :: s₁ :: s₂ :: rest => do
    let _ ← twoDigits? 0 23 h₁ h₂
    let _ ← twoDigits? 0 59 m₁ m₂
    let _ ← twoDigits? 0 60 s₁ s₂
    match rest with
    | '.' :: cs => if cs.head?.any Char.isDigit then some (cs.dropWhile Char.isDigit) else none
    | _ => some rest
  | _ => none

/-- Whether a text says how far a time is from the zero meridian's, or nothing. -/
def isOffset : List Char → Bool
  | [] | ['Z'] | ['z'] => true
  | [sign, h₁, h₂, ':', m₁, m₂] =>
    (sign == '+' || sign == '-') && (twoDigits? 0 23 h₁ h₂).isSome &&
      (twoDigits? 0 59 m₁ m₂).isSome
  | _ => false

/-- Whether a word is a date. -/
def isDate (word : List Char) : Bool := afterDate? word == some []

/-- Whether a word is a time of day with an offset, or without one. -/
def isTimeWithOffset (word : List Char) : Bool := (afterTime? word).any isOffset

/-- **Whether a word is a point in time**: a date, a time of day, or both with a `T` between. -/
def isMoment (word : List Char) : Bool :=
  isDate word || afterTime? word == some [] ||
    match afterDate? word with
    | some (c :: time) => (c == 'T' || c == 't') && isTimeWithOffset time
    | _ => false

end Rowbind.Toml
