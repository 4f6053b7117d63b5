/-
  Stamps: the instants written on stored items (`created_at`, `updated_at`), as they are
  read.

  A stamp has the form of `Instant.stampText`, and zeros may be missing at its left
  end.  Its parts are read as integers are, so that blanks and digits of any script
  are allowed inside them; together they have to be an instant of the years 1 to
  9999.

  * `Stamp.isInstant` tells stamps from other texts;
  * `Stamp.check` refuses what is no stamp.
-/
import Rendezvous.Failure.Basic
import Rendezvous.Text.Digit

namespace Rendezvous.Stamp

/-- The number of code points of a stamp. -/
def length : Nat := 31

/-- A text with zeros on its left up to the length of a stamp; a sign stays in front. -/
def filled (t : Text) : Text :=
  let zeros : Text := List.replicate (length - t.length) ('0' : CodePoint)
  match t with
  | [] => zeros
  | c :: rest =>
    if (c = '+' || c = '-') && t.length < length then c :: (zeros ++ rest) else zeros ++ t

/-- A part of a stamp. -/
def part (start count : Nat) (t : Text) : Text := (t.drop start).take count

/-- The marks between the numbers of a stamp, each with its place. -/
def marks : List (Nat × Text) :=
  [(4, "-"), (7, "-"), (10, "T"), (13, ":"), (16, ":"), (19, "."), (26, "+0000")]

/-- Whether the marks are in their places. -/
def isMarked (t : Text) : Bool :=
  t.length = length && marks.all fun (start, mark) => part start mark.length t = mark

/-- Whether a year has a leap day. -/
def isLeap (year : Int) : Bool := year % 4 = 0 && (year % 100 ≠ 0 || year % 400 = 0)

/-- The number of days of a month. -/
def daysIn (year month : Int) : Int :=
  if month = 2 then (if isLeap year then 29 else 28)
  else if month = 4 || month = 6 || month = 9 || month = 11 then 30
  else 31

/-- Whether a number lies in a range, its ends included. -/
def within (low high n : Int) : Bool := low ≤ n && n ≤ high

/-- Whether numbers are a date and a time of day with its fraction. -/
def isMoment : List Int → Bool
  | [year, month, day, hour, minute, second, micros] =>
    within 1 9999 year && within 1 12 month && within 1 (daysIn year month) day &&
      within 0 23 hour && within 0 59 minute && within 0 59 second && within 0 999999 micros
  | _ => false

/-- The places of the numbers of a stamp. -/
def numberPlaces : List (Nat × Nat) :=
  [(0, 4), (5, 2), (8, 2), (11, 2), (14, 2), (17, 2), (20, 6)]

/-- Whether a text of full length is a stamp. -/
def isInstant (t : Text) : Bool :=
  isMarked t && ((numberPlaces.mapM fun (start, count) => (part start count t).readInt?).any isMoment)

/-- Refuses a stamp that is none; an item may lack its stamp. -/
def check : Option Text → Except Failure Unit
  | none => .ok ()
  | some t =>
    if isInstant (filled t) then .ok ()
    else
      .error (.badValue ("Datetime string '" ++ filled t ++
        "' does not match format '%Y-%m-%dT%H:%M:%S.%f+0000'"))

end Rendezvous.Stamp
