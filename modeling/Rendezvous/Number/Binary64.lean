/-
  Floating-point numbers of 64 bits, in exact arithmetic.

  A finite number is a sign and a multiple of the least positive number,
  `2 ^ -1074`; `units` is that multiple.  Every operation computes its exact
  rational result and rounds once: to the nearest representable number, halves to
  the one with an even significand, and to infinity from the first number on that
  is too large.

  * `Binary64.ofRatio` rounds a quotient;
  * `sub` and `scale` subtract, and multiply by a natural number;
  * `roundHundredths` rounds to two decimal places.
-/

namespace Rendezvous

/-- A floating-point number: `finite s u` is `u * 2 ^ -1074`, negated if `s`. -/
inductive Binary64 where
  | nan
  | infinite (negative : Bool)
  | finite (negative : Bool) (units : Nat)
  deriving DecidableEq, Repr, Inhabited

namespace Binary64

/-- How many units make one. -/
def unitsPerOne : Nat := Nat.pow 2 1074

/-- The first multiple of the unit that is too large to represent. -/
def unitsLimit : Nat := Nat.pow 2 2098

/-- The quotient to the nearest whole number, halves to the even neighbour. -/
def divideToEven (n d : Nat) : Nat :=
  let q := n / d
  let r := n % d
  if 2 * r < d then q else if d < 2 * r then q + 1 else q + q % 2

/-- The distance between representable numbers around `units` units. -/
def spacing (units : Nat) : Nat := Nat.pow 2 (units.log2 - 52)

/-- A nonnegative number of `n / d` units, rounded, with the given sign. -/
def ofUnits (negative : Bool) (n d : Nat) : Binary64 :=
  let step := spacing (n / d)
  let units := divideToEven n (d * step) * step
  if units < unitsLimit then .finite negative units else .infinite negative

/-- The quotient `n / d`, rounded, with the given sign. -/
def ofRatio (negative : Bool) (n d : Nat) : Binary64 := ofUnits negative (n * unitsPerOne) d

/-- An integer, rounded. -/
def ofInt (i : Int) : Binary64 := ofRatio (i < 0) i.natAbs 1

/-- The number zero without a sign. -/
def zero : Binary64 := .finite false 0

/-- Both zeros are zero; what is not a number is not. -/
def isZero : Binary64 → Bool
  | .finite _ units => units == 0
  | _ => false

/-- The other sign. -/
def neg : Binary64 → Binary64
  | .nan => .nan
  | .infinite s => .infinite (!s)
  | .finite s units => .finite (!s) units

/-- The sum.  Numbers of opposite sign and equal size add up to the zero without a sign. -/
def add : Binary64 → Binary64 → Binary64
  | .nan, _ | _, .nan => .nan
  | .infinite s, .infinite t => if s = t then .infinite s else .nan
  | .infinite s, .finite _ _ => .infinite s
  | .finite _ _, .infinite t => .infinite t
  | .finite s a, .finite t b =>
    if s = t then ofUnits s (a + b) 1
    else if b < a then ofUnits s (a - b) 1
    else if a < b then ofUnits t (b - a) 1
    else zero

/-- The difference. -/
def sub (x y : Binary64) : Binary64 := add x y.neg

/-- The product with a positive natural number. -/
def scale (factor : Nat) : Binary64 → Binary64
  | .finite s units => ofUnits s (factor * units) 1
  | x => x

/-- The nearest number with two decimal places: the nearest hundredth first,
    halves to the even one, then the nearest number to that. -/
def roundHundredths : Binary64 → Binary64
  | .finite s units => ofRatio s (divideToEven (100 * units) unitsPerOne) 100
  | x => x

/-- Whether a number lies below a natural one. -/
def isBelow (n : Nat) : Binary64 → Bool
  | .nan => false
  | .infinite negative => negative
  | .finite true units => 0 < units || 0 < n
  | .finite false units => units < n * unitsPerOne

/-- Whether a number lies below another; nothing lies below or above what is not a number. -/
def before : Binary64 → Binary64 → Bool
  | .nan, _ | _, .nan => false
  | .infinite s, .infinite t => s && !t
  | .infinite s, .finite _ _ => s
  | .finite _ _, .infinite t => !t
  | .finite s a, .finite t b =>
    let signed (negative : Bool) (units : Nat) : Int := if negative then -(units : Int) else units
    signed s a < signed t b

/-- Whether a number is whole. -/
def isWhole : Binary64 → Bool
  | .finite _ units => units % unitsPerOne == 0
  | _ => false

/-- The whole part of a finite number. -/
def whole? : Binary64 → Option Int
  | .finite s units =>
    let n : Int := units / unitsPerOne
    some (if s then -n else n)
  | _ => none

end Binary64

end Rendezvous
