/-
  Decimal notation of floating-point numbers.

  * `Decimal.toBinary` reads `significand * 10 ^ exponent` to the nearest number;
  * `Decimal.shortest` is the decimal with the fewest digits that is read back as
    a given number, and of those the nearest to it;
  * `Binary64.text` writes it: positionally from `0.0001` up to below `10 ^ 16`,
    with an exponent elsewhere, and always with a point or an exponent.
-/
import Rendezvous.Number.Binary64
import Rendezvous.Text.Basic

namespace Rendezvous

/-- The number `significand * 10 ^ exponent`. -/
structure Decimal where
  significand : Nat
  exponent : Int
  deriving DecidableEq, Repr

namespace Decimal

/-- How many decimal digits a number has; none for zero. -/
def digitCount (n : Nat) : Nat := if n = 0 then 0 else (Text.ofNat n).length

/-- A decimal, rounded.  Far outside the range of representable numbers no power
    of ten is computed. -/
def toBinary (negative : Bool) (d : Decimal) : Binary64 :=
  if d.significand = 0 then .finite negative 0
  else
    let magnitude := digitCount d.significand + d.exponent
    if magnitude > 400 then .infinite negative
    else if magnitude < -400 then .finite negative 0
    else if 0 ≤ d.exponent then
      .ofRatio negative (d.significand * Nat.pow 10 d.exponent.toNat) 1
    else .ofRatio negative d.significand (Nat.pow 10 (-d.exponent).toNat)

/-- The decimal with trailing zeros moved into the exponent; `fuel` bounds their number. -/
def trimmed : (fuel : Nat) → Decimal → Decimal
  | 0, d => d
  | fuel + 1, d =>
    if d.significand % 10 = 0 && d.significand ≠ 0 then
      trimmed fuel ⟨d.significand / 10, d.exponent + 1⟩
    else d

/-- The place of the decimal point of a positive number of units: `10 ^ p` is the
    least power of ten above it. -/
def pointOf (units : Nat) : Int :=
  (digitCount (units * Nat.pow 10 400 / Binary64.unitsPerOne) : Int) - 400

/-- The quotient of a positive number of units by `10 ^ e`, as a fraction. -/
def quotientBy (e : Int) (units : Nat) : Nat × Nat :=
  if 0 ≤ e then (units, Binary64.unitsPerOne * Nat.pow 10 e.toNat)
  else (units * Nat.pow 10 (-e).toNat, Binary64.unitsPerOne)

/-- The multiple of `10 ^ e` that is read back as the given number: one of its two
    neighbours, the nearer if both are, the even one if both are equally near. -/
def onGrid? (units : Nat) (e : Int) : Option Decimal :=
  let (n, d) := quotientBy e units
  let low : Decimal := ⟨n / d, e⟩
  let high : Decimal := ⟨n / d + 1, e⟩
  let reads (x : Decimal) : Bool := x.toBinary false = .finite false units
  match reads low, reads high with
  | true, true => some (if Binary64.divideToEven n d = n / d then low else high)
  | true, false => some low
  | false, true => some high
  | false, false => none

/-- The exact value of a number of units. -/
def exact (units : Nat) : Decimal := ⟨units * Nat.pow 5 1074, -1074⟩

/-- The first hit among so many more digits, after `digits` digits have been tried. -/
def search (units : Nat) (point : Int) : (digits fuel : Nat) → Decimal
  | _, 0 => exact units
  | digits, fuel + 1 =>
    match onGrid? units (point - (digits + 1 : Nat)) with
    | some d => d
    | none => search units point (digits + 1) fuel

/-- The shortest decimal that is read back as a positive number of units.
    Seventeen digits tell all numbers apart. -/
def shortest (units : Nat) : Decimal :=
  trimmed 400 (search units (pointOf units) 0 17)

/-- Zeros, so many. -/
def zeroDigits (n : Nat) : Text := List.replicate n ('0' : CodePoint)

/-- Digits with the point after the first `point` of them. -/
def positional (digits : Text) (point : Int) : Text :=
  if point ≤ 0 then "0." ++ zeroDigits (-point).toNat ++ digits
  else if digits.length ≤ point.toNat then
    digits ++ zeroDigits (point.toNat - digits.length) ++ ".0"
  else digits.take point.toNat ++ "." ++ digits.drop point.toNat

/-- Digits with the point after the first of them, and an exponent of at least two digits. -/
def scientific (digits : Text) (point : Int) : Text :=
  let exponent := point - 1
  let fraction : Text := if digits.length ≤ 1 then [] else ('.' : CodePoint) :: digits.drop 1
  digits.take 1 ++ fraction ++ (if exponent < 0 then "e-" else "e+") ++
    Text.ofNatPadded 2 exponent.natAbs

/-- A decimal in its usual notation. -/
def text (d : Decimal) : Text :=
  let digits := Text.ofNat d.significand
  let point := digits.length + d.exponent
  if -4 < point && point ≤ 16 then positional digits point else scientific digits point

end Decimal

/-- The shortest notation that is read back as the same number. -/
def Binary64.text : Binary64 → Text
  | .nan => "nan"
  | .infinite negative => if negative then "-inf" else "inf"
  | .finite negative units =>
    let magnitude : Text := if units = 0 then "0.0" else (Decimal.shortest units).text
    if negative then ('-' : CodePoint) :: magnitude else magnitude

end Rendezvous
