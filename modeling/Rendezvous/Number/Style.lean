/-
  Styles of writing floating-point numbers.

  * `Decimal.significant` rounds to so many digits, `Decimal.places` to so many
    places after the point, both from the exact value and halves to even;
  * `Style.write` writes a number without its sign.
-/
import Rendezvous.Number.Decimal

namespace Rendezvous

namespace Decimal

/-- Digits without the zeros at their end; one digit is left. -/
def stripZeros (digits : Text) : Text :=
  match (digits.reverse.dropWhile (· = ('0' : CodePoint))).reverse with
  | [] => digits.take 1
  | rest => rest

/-- A number of units to so many significant digits, with the place of its point. -/
def significant (count units : Nat) : Text × Int :=
  if units = 0 then (zeroDigits count, 1)
  else
    let point := pointOf units
    let (n, d) := quotientBy (point - count) units
    let digits := Text.ofNat (Binary64.divideToEven n d)
    if count < digits.length then (digits.take count, point + 1) else (digits, point)

/-- A number of units to so many places: the digits of its whole part, and the others. -/
def places (count units : Nat) : Text × Text :=
  let rounded := Binary64.divideToEven (units * Nat.pow 10 count) Binary64.unitsPerOne
  let digits := Text.ofNatPadded (count + 1) rounded
  digits.splitAt (digits.length - count)

/-- The digits of the shortest decimal for a number of units, with the place of its point. -/
def shortestDigits (units : Nat) : Text × Int :=
  if units = 0 then ("0", 1)
  else
    let d := shortest units
    let digits := Text.ofNat d.significand
    (digits, digits.length + d.exponent)

end Decimal

/-- How the digits of a number are chosen and its point is placed. -/
inductive Style where
  /-- the fewest digits that are read back as the same number -/
  | shortest
  /-- so many places after the point -/
  | fixed (count : Nat)
  /-- one digit before the point and so many after it, and an exponent -/
  | scientific (count : Nat)
  /-- so many digits, with an exponent where the number is very small or has more of them
      before the point; `fraction` asks for a digit after the point -/
  | general (count : Nat) (fraction : Bool)
  deriving DecidableEq, Repr

namespace Style

/-- More digits than any floating-point number has. -/
def enoughDigits : Nat := 800

/-- Digits on both sides of the point; without any after it the point stands only if it is kept. -/
def parted (keepPoint : Bool) (whole fraction : Text) : Text :=
  if fraction.isEmpty && !keepPoint then whole else whole ++ "." ++ fraction

/-- Digits with their point after the first `point` of them. -/
def positional (keepPoint fraction : Bool) (digits : Text) (point : Int) : Text :=
  if point ≤ 0 then parted keepPoint "0" (Decimal.zeroDigits (-point).toNat ++ digits)
  else
    let whole := digits.take point.toNat ++ Decimal.zeroDigits (point.toNat - digits.length)
    let rest := digits.drop point.toNat
    parted keepPoint whole (if rest.isEmpty && fraction then "0" else rest)

/-- Digits with their point after the first, and an exponent of at least two digits. -/
def withExponent (keepPoint : Bool) (digits : Text) (point : Int) : Text :=
  let exponent := point - 1
  parted keepPoint (digits.take 1) (digits.drop 1) ++ (if exponent < 0 then "e-" else "e+") ++
    Text.ofNatPadded 2 exponent.natAbs

/-- Digits with an exponent from 10^`bound` on, and for very small numbers. -/
def either (keepPoint fraction : Bool) (bound : Int) (digits : Text) (point : Int) : Text :=
  if -4 < point && point ≤ bound then positional keepPoint fraction digits point
  else withExponent keepPoint digits point

/-- A number of units in a style.  Where the point is kept, so are the zeros at the end. -/
def write (keepPoint : Bool) (units : Nat) : Style → Text
  | .shortest =>
    let (digits, point) := Decimal.shortestDigits units
    either keepPoint true 16 digits point
  | .fixed count =>
    let (whole, fraction) := Decimal.places count units
    parted keepPoint whole fraction
  | .scientific count =>
    let (digits, point) := Decimal.significant (count + 1) units
    withExponent keepPoint digits point
  | .general count fraction =>
    let shown := if keepPoint then count else min count enoughDigits
    let (digits, point) := Decimal.significant shown units
    either keepPoint fraction (if fraction then count - 1 else count)
      (if keepPoint then digits else Decimal.stripZeros digits) point

end Style

end Rendezvous
