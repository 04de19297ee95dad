import Rowbind.Number.Binary

/-!
# The shortest decimal of a number

A floating-point number stands for an interval: every real number in it is nearer to this number
than to its neighbours, the ends belonging to it exactly when its significand is even. The
**shortest decimal** of a number is the one in its interval with the fewest digits, of those the
nearest, and of two nearest the greater.

The search goes through the decimal grids from the coarsest to the finest. On each, only the two
points on either side of the number can be the nearest. All comparisons are between natural numbers.

`Binary64.text` writes the shortest decimal with a point, or, where it would be very long, with an
exponent.
-/

namespace Rowbind

/-- **A decimal number**, `digits * 10 ^ exponent`. -/
structure Decimal where
  digits : Nat
  exponent : Int
  deriving DecidableEq, Repr

/-- **An interval around a number**, in units of `1 / scale`. -/
structure RoundingInterval where
  low : Nat
  middle : Nat
  high : Nat
  scale : Nat
  /-- The ends belong to the interval. -/
  closed : Bool
  deriving DecidableEq, Repr

namespace RoundingInterval

/-- **The interval of a number** of a format: half a step on either side, and a quarter below where
the steps become smaller. -/
def of (f : Format) (significand : Nat) (exponent : Int) : RoundingInterval :=
  let atPower := significand = 1 <<< f.fractionBits ∧ f.lowest < exponent
  let unit := 1 <<< (exponent - 2).toNat
  { low := (4 * significand - if atPower then 1 else 2) * unit
    middle := 4 * significand * unit
    high := (4 * significand + 2) * unit
    scale := 1 <<< (2 - exponent).toNat
    closed := significand % 2 = 0 }

/-- Whether a number, in the same units as the ends, lies in the interval. -/
def holds (i : RoundingInterval) (n : Nat) : Bool :=
  (i.low < n && n < i.high) || (i.closed && (n == i.low || n == i.high))

/-- The interval in units so small that the grid's points are whole. -/
def refine (i : RoundingInterval) (exponent : Int) : RoundingInterval :=
  let factor := Nat.pow 10 (-exponent).toNat
  { i with
    low := i.low * factor
    middle := i.middle * factor
    high := i.high * factor
    scale := i.scale * Nat.pow 10 exponent.toNat }

/-- **The point of a grid that is nearest to the number**, if it lies in the interval. Of two points
at the same distance the greater one counts. -/
def hit? (i : RoundingInterval) (exponent : Int) : Option Nat :=
  let i := i.refine exponent
  let below := i.middle / i.scale
  let nearer := if 2 * (i.middle % i.scale) < i.scale then below else below + 1
  let farther := if nearer = below then below + 1 else below
  [nearer, farther].find? fun d => i.holds (d * i.scale)

/-- The first grid with a point in the interval, so many of them being tried. -/
def search (i : RoundingInterval) (exponent : Int) : (tries : Nat) → Decimal
  | 0 => ⟨0, 0⟩
  | tries + 1 =>
    match i.hit? exponent with
    | some d => ⟨d, exponent⟩
    | none => i.search (exponent - 1) tries

end RoundingInterval

/-- The exponent of a grid on which no finite number but zero has a point. -/
def coarsestGrid : Int := 309

/-- The number of grids down to one that is finer than every number needs. -/
def gridCount : Nat := 650

/-- **The shortest decimal of a positive number.** -/
def shortest (significand : Nat) (exponent : Int) : Decimal :=
  (RoundingInterval.of binary64 significand exponent).search coarsestGrid gridCount

namespace Decimal

/-- Zeros in a row. -/
def zeros (n : Int) : String := String.ofList (List.replicate n.toNat '0')

/-- A decimal with a point in it, and a digit on either side at least. -/
def positional (d : Decimal) : String :=
  let digits := Nat.toDigits 10 d.digits
  let point := digits.length + d.exponent
  if 0 ≤ d.exponent then String.ofList digits ++ zeros d.exponent ++ ".0"
  else if 0 < point then
    String.ofList (digits.take point.toNat) ++ "." ++ String.ofList (digits.drop point.toNat)
  else "0." ++ zeros (-point) ++ String.ofList digits

/-- A decimal with a single digit before the point, and an exponent. -/
def scientific (d : Decimal) : String :=
  let digits := Nat.toDigits 10 d.digits
  String.ofList (digits.take 1) ++
    (if 1 < digits.length then "." ++ String.ofList (digits.drop 1) else "") ++
    "e" ++ toString (digits.length + d.exponent - 1)

/-- **The text of a positive decimal**: with a point from a ten-thousandth up to what has sixteen
digits before the point, and with an exponent beyond. -/
def text (d : Decimal) : String :=
  let point := (Nat.toDigits 10 d.digits).length + d.exponent
  if -4 < point ∧ point ≤ 16 then d.positional else d.scientific

end Decimal

/-- **The text of a number.** -/
def Binary64.text (x : Binary64) : String :=
  let (negative, magnitude) := binary64.read x.bits.toNat
  let sign := if negative then "-" else ""
  match magnitude with
  | .notANumber => "NaN"
  | .infinite => sign ++ "inf"
  | .finite significand exponent =>
    sign ++ if significand = 0 then "0.0" else (shortest significand exponent).text

end Rowbind
