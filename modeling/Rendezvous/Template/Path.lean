/-
  Paths: what a field of a template shows.

  A path starts with a name and goes on with members, each after a point, and
  items, each between brackets.

  * `Path.ofText` reads a path, up to the first place where it is none;
  * `readDigits` reads a number, which may be written with the digits of any script.
-/
import Rendezvous.Text.Digit

namespace Rendezvous

namespace Template

/-! ## Numbers -/

/-- The greatest number that a template may hold. -/
def maxNumber : Nat := Nat.pow 2 63 - 1

/-- What is said about a greater one. -/
def hugeNumber : Text := "Too many decimal digits in format string"

/-- Reads the digits that follow a number, up to what is no digit; none where the number
    gets too great. -/
def readDigits (n : Nat) : Text → Option (Nat × Text)
  | [] => some (n, [])
  | c :: t =>
    match c.decimalValue? with
    | some d => if maxNumber < 10 * n + d then none else readDigits (10 * n + d) t
    | none => some (n, c :: t)

/-! ## Paths -/

namespace Path

/-- A step from a value to a part of it. -/
inductive Step where
  | member (name : Text)
  | item (name : Text)
  deriving DecidableEq, Repr

/-- Why a path ends too early. -/
inductive Flaw where
  | emptyStep
  | openBracket
  | afterBracket
  deriving DecidableEq, Repr

/-- What is said about a path that ends too early. -/
def Flaw.message : Flaw → Text
  | .emptyStep => "Empty attribute in format string"
  | .openBracket => "Missing ']' in format string"
  | .afterBracket => "Only '.' or '[' may follow ']' in format field specifier"

end Path

/-- A path taken apart: its first name, its steps, and why it ends there, if it should not. -/
structure Path where
  first : Text
  steps : List Path.Step
  flaw : Option Path.Flaw
  deriving DecidableEq, Repr

namespace Path

/-- Where in a path a code point stands.  What was seen of a step is kept with the last
    code point first. -/
inductive Place where
  /-- between steps -/
  | between
  | member (seen : Text)
  | item (seen : Text)

/-- Whether a code point starts a step. -/
def startsStep (c : CodePoint) : Bool := c = '.' || c = '['

/-- The place after a code point between steps. -/
def start (c : CodePoint) : Except Flaw Place :=
  if c = '.' then .ok (.member [])
  else if c = '[' then .ok (.item [])
  else .error .afterBracket

/-- A step that has ended; it may not be empty. -/
def ended (make : Text → Step) (seen : Text) : Except Flaw (List Step) :=
  if seen.isEmpty then .error .emptyStep else .ok [make seen.reverse]

/-- The next place after a code point, and the steps that end there. -/
def step (c : CodePoint) : Place → Except Flaw (List Step × Place)
  | .between => (start c).map fun place => ([], place)
  | .member seen => do
    if startsStep c then return (← ended .member seen, ← start c)
    else return ([], .member (c :: seen))
  | .item seen => do
    if c = ']' then return (← ended .item seen, .between)
    else return ([], .item (c :: seen))

/-- The steps that end with a text. -/
def finish : Place → Except Flaw (List Step)
  | .between => .ok []
  | .member seen => ended .member seen
  | .item _ => .error .openBracket

/-- The steps of a text from a place on, and why they end there, if they should not. -/
def scan (place : Place) : Text → List Step × Option Flaw
  | [] =>
    match finish place with
    | .ok steps => (steps, none)
    | .error flaw => ([], some flaw)
  | c :: t =>
    match step c place with
    | .ok (steps, next) =>
      let (later, flaw) := scan next t
      (steps ++ later, flaw)
    | .error flaw => ([], some flaw)

/-- Reads a path. -/
def ofText (t : Text) : Path :=
  let (steps, flaw) := scan .between (t.dropWhile fun c => !startsStep c)
  ⟨t.takeWhile fun c => !startsStep c, steps, flaw⟩

end Path

end Template

end Rendezvous
