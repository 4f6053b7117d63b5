/-
  Numbers that are whole or floating: readings of a stopwatch, and the durations
  between them (`dispatch_handler`, `log_lambda_end`).

  Whole numbers are computed with exactly.  A whole number beside a floating one
  is rounded to a floating one first, which it may be too large for.
-/
import Rendezvous.Number.Binary64

namespace Rendezvous

/-- A whole or a floating number. -/
inductive Number where
  | whole (n : Int)
  | floating (x : Binary64)
  deriving DecidableEq, Repr, Inhabited

namespace Number

/-- A floating number, as a whole one where it is whole. -/
def ofBinary (x : Binary64) : Number :=
  match x.isWhole, x.whole? with
  | true, some n => .whole n
  | _, _ => .floating x

/-- The number as a floating one, if it is not too large. -/
def toBinary? : Number → Option Binary64
  | .whole n =>
    match Binary64.ofInt n with
    | .infinite _ => none
    | x => some x
  | .floating x => some x

/-- The difference, if the numbers can be subtracted. -/
def sub? : Number → Number → Option Number
  | .whole a, .whole b => some (.whole (a - b))
  | a, b =>
    match a.toBinary?, b.toBinary? with
    | some x, some y => some (.floating (x.sub y))
    | _, _ => none

/-- The product with a positive whole number. -/
def scale (factor : Nat) : Number → Number
  | .whole n => .whole (factor * n)
  | .floating x => .floating (x.scale factor)

/-- The number to two decimal places. -/
def roundHundredths : Number → Number
  | .whole n => .whole n
  | .floating x => .floating x.roundHundredths

/-- A whole number without rounding: as many units as it takes. -/
def exactly (n : Int) : Binary64 := .finite (n < 0) (n.natAbs * Binary64.unitsPerOne)

/-- Whether a number lies below another. -/
def before : Number → Number → Bool
  | .whole m, .whole n => m < n
  | .whole m, .floating y => (exactly m).before y
  | .floating x, .whole n => x.before (exactly n)
  | .floating x, .floating y => x.before y

/-- Whether a number lies below a natural one. -/
def isBelow (bound : Nat) : Number → Bool
  | .whole n => n < bound
  | .floating x => x.isBelow bound

/-- The milliseconds from one reading in seconds to another. -/
def millisecondsBetween? (start stop : Number) : Option Number :=
  (stop.sub? start).map (scale 1000)

end Number

end Rendezvous
