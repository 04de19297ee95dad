/-!
# Binary floating-point numbers

A number is kept as its bits, in the 64-bit or the 32-bit format of IEEE 754, and every conversion
is arithmetic on natural numbers: `Format.read` takes the bits apart into a significand and an
exponent, and `Format.round` puts the number nearest to such a pair together, a tie going to the
even significand. Narrowing and widening are one after the other.

A number that is not a number stays one under every conversion; which of the many it is, is not
kept.
-/

namespace Rowbind

/-- **A binary interchange format**, by the widths of its parts. -/
structure Format where
  /-- The bits of the significand, the leading one included. -/
  precision : Nat
  exponentBits : Nat
  deriving DecidableEq, Repr

/-- **The magnitude that bits stand for.** A finite one is `significand * 2 ^ exponent`. -/
inductive Magnitude
  | finite (significand : Nat) (exponent : Int)
  | infinite
  | notANumber
  deriving DecidableEq, Repr

namespace Format

/-- The bits of the significand that are stored. -/
def fractionBits (f : Format) : Nat := f.precision - 1

/-- The exponent field of what is not finite. -/
def specialField (f : Format) : Nat := 1 <<< f.exponentBits - 1

/-- The bits of infinity. -/
def infinity (f : Format) : Nat := f.specialField <<< f.fractionBits

/-- The bits of the number that is not a number. -/
def quietNaN (f : Format) : Nat := f.infinity + 1 <<< (f.fractionBits - 1)

/-- The bit of the sign. -/
def signBit (f : Format) : Nat := 1 <<< (f.fractionBits + f.exponentBits)

/-- The exponent of the format's smallest step: that of its least positive number. -/
def lowest (f : Format) : Int := 2 - Int.ofNat (1 <<< (f.exponentBits - 1)) - f.fractionBits

/-- **The sign and the magnitude of bits.** -/
def read (f : Format) (bits : Nat) : Bool × Magnitude :=
  let fraction := bits % 1 <<< f.fractionBits
  let field := (bits >>> f.fractionBits) % 1 <<< f.exponentBits
  (decide (f.signBit ≤ bits),
    if field = f.specialField then
      (if fraction = 0 then .infinite else .notANumber)
    else if field = 0 then .finite fraction f.lowest
    else .finite (fraction + 1 <<< f.fractionBits) (f.lowest + field - 1))

/-- A number divided by a power of two, to the nearest whole number; a tie goes to the even one. -/
def shiftToNearest (n shift : Nat) : Nat :=
  let quotient := n >>> shift
  let remainder := n % 1 <<< shift
  if 1 <<< shift < 2 * remainder ∨ (1 <<< shift = 2 * remainder ∧ quotient % 2 = 1) then
    quotient + 1
  else quotient

/-- **The bits of the magnitude nearest to `significand * 2 ^ exponent`.** The step between
neighbours is `2 ^ step`; a significand that rounds up to the next power of two runs over into the
exponent field, which is where it belongs. -/
def round (f : Format) (significand : Nat) (exponent : Int) : Nat :=
  if significand = 0 then 0
  else
    let step := max (exponent + significand.log2 + 1 - f.precision) f.lowest
    let rounded :=
      if step ≤ exponent then significand <<< (exponent - step).toNat
      else shiftToNearest significand (step - exponent).toNat
    min ((step - f.lowest).toNat <<< f.fractionBits + rounded) f.infinity

/-- **The bits nearest to a signed magnitude.** -/
def pack (f : Format) : Bool × Magnitude → Nat
  | (negative, m) =>
    (if negative then f.signBit else 0) +
      match m with
      | .finite significand exponent => f.round significand exponent
      | .infinite => f.infinity
      | .notANumber => f.quietNaN

/-- The bits nearest to a whole number. -/
def ofInt (f : Format) (i : Int) : Nat :=
  f.pack (decide (i < 0), .finite i.natAbs 0)

end Format

/-- The 32-bit format. -/
def binary32 : Format := ⟨24, 8⟩

/-- The 64-bit format. -/
def binary64 : Format := ⟨53, 11⟩

/-- **A number in the 32-bit format.** -/
structure Binary32 where
  bits : UInt32
  deriving DecidableEq, Repr

/-- **A number in the 64-bit format.** -/
structure Binary64 where
  bits : UInt64
  deriving DecidableEq, Repr

namespace Binary32

/-- The nearest number to a whole one. -/
def ofInt (i : Int) : Binary32 := ⟨UInt32.ofNat (binary32.ofInt i)⟩

/-- **The same number in the 64-bit format**, which holds every number of this one. -/
def widen (x : Binary32) : Binary64 :=
  ⟨UInt64.ofNat (binary64.pack (binary32.read x.bits.toNat))⟩

end Binary32

namespace Binary64

/-- The nearest number to a whole one. -/
def ofInt (i : Int) : Binary64 := ⟨UInt64.ofNat (binary64.ofInt i)⟩

/-- **The nearest number in the 32-bit format.** -/
def narrow (x : Binary64) : Binary32 :=
  ⟨UInt32.ofNat (binary32.pack (binary64.read x.bits.toNat))⟩

/-- Whether this is not a number. -/
def isNaN (x : Binary64) : Bool := (binary64.read x.bits.toNat).2 == .notANumber

/-- Whether this is a zero of either sign. -/
def isZero (x : Binary64) : Bool := x.bits.toNat % binary64.signBit == 0

/-- **Numeric equality**: the two zeros are equal, and what is not a number equals nothing. -/
def equal (x y : Binary64) : Bool :=
  !x.isNaN && !y.isNaN && (x.bits == y.bits || (x.isZero && y.isZero))

end Binary64

end Rowbind
