/-
  Instants in universal time, as responses, log lines (`_log`) and items show them.

  An instant counts microseconds from the start of 1970.

  * `Instant.isoText` is the form in responses and log lines: the fraction of a
    second is left out when it is zero;
  * `Instant.stampText` is the form in stored items: the fraction always has six
    digits.
-/
import Rendezvous.Text.Basic

namespace Rendezvous

/-- Microseconds from the start of 1970 in universal time. -/
structure Instant where
  micros : Int
  deriving DecidableEq, Repr, Inhabited

/-- A day of the Gregorian calendar. -/
structure Date where
  year : Int
  month : Nat
  day : Nat
  deriving DecidableEq, Repr

/-- The date so many days after the start of 1970.  Years start in March here, so
    that a leap day is the last of its year, and 400 years have 146097 days. -/
def Date.ofDays (days : Int) : Date :=
  let shifted := days + 719468
  let era := Int.fdiv shifted 146097
  let dayOfEra := (Int.fmod shifted 146097).toNat
  let yearOfEra := (dayOfEra - dayOfEra / 1460 + dayOfEra / 36524 - dayOfEra / 146096) / 365
  let dayOfYear := dayOfEra - (365 * yearOfEra + yearOfEra / 4 - yearOfEra / 100)
  let index := (5 * dayOfYear + 2) / 153
  let month := if index < 10 then index + 3 else index - 9
  let year : Int := yearOfEra + era * 400
  ⟨if month ≤ 2 then year + 1 else year, month, dayOfYear - (153 * index + 2) / 5 + 1⟩

namespace Instant

/-- The microseconds in a second. -/
def microsPerSecond : Int := 1000000

/-- The microseconds since the last full second. -/
def fraction (t : Instant) : Nat := (Int.fmod t.micros microsPerSecond).toNat

/-- Date and time of day to the second, parted by `T`. -/
def secondText (t : Instant) : Text :=
  let seconds := Int.fdiv t.micros microsPerSecond
  let date := Date.ofDays (Int.fdiv seconds 86400)
  let second := (Int.fmod seconds 86400).toNat
  Text.ofNatPadded 4 date.year.toNat ++ "-" ++ Text.ofNatPadded 2 date.month ++ "-" ++
    Text.ofNatPadded 2 date.day ++ "T" ++ Text.ofNatPadded 2 (second / 3600) ++ ":" ++
    Text.ofNatPadded 2 (second / 60 % 60) ++ ":" ++ Text.ofNatPadded 2 (second % 60)

/-- The point and six digits of the fraction. -/
def fractionText (t : Instant) : Text := ('.' : CodePoint) :: Text.ofNatPadded 6 t.fraction

/-- The form in responses and log lines. -/
def isoText (t : Instant) : Text :=
  t.secondText ++ (if t.fraction = 0 then [] else t.fractionText) ++ "+00:00"

/-- The form in stored items. -/
def stampText (t : Instant) : Text := t.secondText ++ t.fractionText ++ "+0000"

end Instant

end Rendezvous
