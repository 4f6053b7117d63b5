/-
  Layouts: how a text or a number is written in a field of a template.

  A layout may give, in this order, a filler and an alignment, a sign, marks for
  zeros and for the alternate form, a width, a separator of digits, a precision and
  a letter, as in `*>+z#8,.3f`.  A zero before the width stands for the filler.

  * `Layout.ofText` reads a layout;
  * `Layout.write` writes the parts of a number or a text as the layout says.
-/
import Rendezvous.Failure.Basic
import Rendezvous.Template.Path

namespace Rendezvous

namespace Template

/-- Where the filler goes. -/
inductive Align where
  /-- after the text -/
  | left
  /-- before it -/
  | right
  /-- on both sides -/
  | center
  /-- between the sign and the digits -/
  | inside
  deriving DecidableEq, Repr

/-- The alignment of a mark. -/
def Align.ofMark? (c : CodePoint) : Option Align :=
  if c = '<' then some .left
  else if c = '>' then some .right
  else if c = '^' then some .center
  else if c = '=' then some .inside
  else none

/-- A layout. -/
structure Layout where
  fill : CodePoint
  align : Align
  sign : Option CodePoint
  /-- whether what is rounded to zero loses its sign -/
  plainZero : Bool
  alternate : Bool
  width : Option Nat
  separator : Option CodePoint
  precision : Option Nat
  letter : Option CodePoint
  deriving Repr

namespace Layout

/-! ## Flaws -/

/-- Why a layout cannot be used. -/
inductive Flaw where
  | hugeNumber
  | twoSeparators
  | noPrecision
  /-- a layout of values of a type with something after its letter -/
  | overlong (layout type : Text)
  | separatedLetter (separator letter : CodePoint)
  | unknownLetter (letter : CodePoint) (type : Text)
  | spaceOfText
  | signOfText
  | zeroOfText
  | alternateText
  | insideText
  | precisionOfInteger
  | zeroOfInteger
  | signOfCharacter
  | alternateCharacter
  | hugePrecision
  deriving DecidableEq, Repr

/-- A letter as it is named in a message. -/
def shownLetter (c : CodePoint) : Text :=
  if 0x20 < c.val && c.val < 0x80 then [c] else "\\x" ++ Text.ofNatIn 16 c.val

/-- What is said about a layout that cannot be used. -/
def Flaw.message : Flaw → Text
  | .hugeNumber => Template.hugeNumber
  | .twoSeparators => "Cannot specify both ',' and '_'."
  | .noPrecision => "Format specifier missing precision"
  | .overlong layout type =>
    "Invalid format specifier '" ++ layout ++ "' for object of type '" ++ type ++ "'"
  | .separatedLetter separator letter =>
    "Cannot specify '" ++ [separator] ++ "' with '" ++ shownLetter letter ++ "'."
  | .unknownLetter letter type =>
    "Unknown format code '" ++ shownLetter letter ++ "' for object of type '" ++ type ++ "'"
  | .spaceOfText => "Space not allowed in string format specifier"
  | .signOfText => "Sign not allowed in string format specifier"
  | .zeroOfText => "Negative zero coercion (z) not allowed in string format specifier"
  | .alternateText => "Alternate form (#) not allowed in string format specifier"
  | .insideText => "'=' alignment not allowed in string format specifier"
  | .precisionOfInteger => "Precision not allowed in integer format specifier"
  | .zeroOfInteger => "Negative zero coercion (z) not allowed in integer format specifier"
  | .signOfCharacter => "Sign not allowed with integer format specifier 'c'"
  | .alternateCharacter => "Alternate form (#) not allowed with integer format specifier 'c'"
  | .hugePrecision => "precision too big"

/-- The refusal of a layout. -/
def refuse {α : Type} (flaw : Flaw) : Except Failure α := .error (.badValue flaw.message)

/-! ## Reading -/

/-- The next code point if it is of a kind, and what follows it. -/
def next (isKind : CodePoint → Bool) : Text → Option CodePoint × Text
  | [] => (none, [])
  | c :: t => if isKind c then (some c, t) else (none, c :: t)

/-- The next code point if it is the given one, and what follows it. -/
def nextMark (mark : CodePoint) : Text → Option CodePoint × Text := next (· = mark)

/-- The filler and the alignment at the beginning of a layout, and what follows them. -/
def alignment : Text → Option CodePoint × Option Align × Text
  | [] => (none, none, [])
  | c :: t =>
    match (t.head?).bind Align.ofMark?, Align.ofMark? c with
    | some align, _ => (some c, some align, t.drop 1)
    | none, some align => (none, some align, t)
    | none, none => (none, none, c :: t)

/-- The marks of a sign. -/
def isSign (c : CodePoint) : Bool := c = '+' || c = '-' || c = ' '

/-- A number, if there is one, and what follows it. -/
def number (t : Text) : Except Failure (Option Nat × Text) :=
  match readDigits 0 t with
  | some (n, rest) => .ok (if rest.length < t.length then some n else none, rest)
  | none => refuse .hugeNumber

/-- A separator of digits, if there is one, and what follows it. -/
def separatorOf (t : Text) : Except Failure (Option CodePoint × Text) :=
  let (comma, t) := nextMark ',' t
  let (line, t) := nextMark '_' t
  if line.isSome && (comma.isSome || (nextMark ',' t).1.isSome) then refuse .twoSeparators
  else .ok (comma.or line, t)

/-- A precision after a point, if there is one, and what follows it. -/
def precisionOf (t : Text) : Except Failure (Option Nat × Text) := do
  match nextMark '.' t with
  | (none, t) => return (none, t)
  | (some _, t) =>
    match ← number t with
    | (none, _) => refuse .noPrecision
    | found => return found

/-- The letter at the end of a layout, or the usual one. -/
def letterOf (type whole : Text) (usual : Option CodePoint) :
    Text → Except Failure (Option CodePoint)
  | [] => .ok usual
  | [c] => .ok (some c)
  | _ => refuse (.overlong whole type)

/-- Letters of the bases whose digits come in groups of four. -/
def isBaseLetter (c : CodePoint) : Bool := c = 'b' || c = 'o' || c = 'x' || c = 'X'

/-- Letters of floating-point styles. -/
def isStyleLetter (c : CodePoint) : Bool :=
  c = 'e' || c = 'E' || c = 'f' || c = 'F' || c = 'g' || c = 'G' || c = '%'

/-- Checks that the digits written by a letter can be separated. -/
def checkSeparator : Option CodePoint → Option CodePoint → Except Failure Unit
  | some separator, some letter =>
    if letter = 'd' || isStyleLetter letter || (isBaseLetter letter && separator = '_') then .ok ()
    else refuse (.separatedLetter separator letter)
  | _, _ => .ok ()

/-- Reads the layout of a value of a type, given its usual alignment and letter. -/
def ofText (type : Text) (usualAlign : Align) (usualLetter : Option CodePoint) (whole : Text) :
    Except Failure Layout := do
  let (fill, align, t) := alignment whole
  let (sign, t) := next isSign t
  let (plainZero, t) := nextMark 'z' t
  let (alternate, t) := nextMark '#' t
  let (zero, t) := if fill.isSome then (none, t) else nextMark '0' t
  let (width, t) ← number t
  let (separator, t) ← separatorOf t
  let (precision, t) ← precisionOf t
  let letter ← letterOf type whole usualLetter t
  checkSeparator separator letter
  return {
    fill := (fill.or zero).getD ' '
    align := align.getD (if zero.isSome && usualAlign = .right then .inside else usualAlign)
    sign := sign
    plainZero := plainZero.isSome
    alternate := alternate.isSome
    width := width
    separator := separator
    precision := precision
    letter := letter }

/-! ## Writing -/

/-- The parts of what is written: a sign and what else stands before the digits, the digits
    that may be separated, and the rest. -/
structure Parts where
  start : Text
  digits : Text
  rest : Text

/-- The widths from here on are more than there is room for. -/
def widthLimit : Nat := Nat.pow 2 32

/-- Digits in groups, both with the last ones first.  Zeros fill them up to `least` code
    points, separators among them; `fuel` bounds the number of groups. -/
def groups (size : Nat) : (fuel : Nat) → (digits : Text) → (least : Int) → List Text
  | 0, digits, _ => [digits]
  | fuel + 1, digits, least =>
    let count := min size (max (max digits.length least.toNat) 1)
    let group := digits.take count ++
      List.replicate (count - digits.length) ('0' : CodePoint)
    let rest := digits.drop count
    if rest.isEmpty && least ≤ count then [group]
    else group :: groups size fuel rest (least - count - 1)

/-- Digits filled with zeros up to `least` code points, and separated. -/
def separate (separator : Option CodePoint) (size : Nat) (digits : Text) (least : Int) : Text :=
  match separator with
  | none => List.replicate (least.toNat - digits.length) ('0' : CodePoint) ++ digits
  | some c =>
    (Text.joinWith [c] (groups size (digits.length + least.toNat) digits.reverse least)).reverse

/-- The filler on both sides of a text, or between its start and the rest of it. -/
def place (fill : CodePoint) (align : Align) (room : Nat) (start rest : Text) : Text :=
  let filler (n : Nat) : Text := List.replicate n fill
  match align with
  | .left => start ++ rest ++ filler room
  | .right => filler room ++ start ++ rest
  | .center => filler (room / 2) ++ start ++ rest ++ filler (room - room / 2)
  | .inside => start ++ filler room ++ rest

/-- The size of the groups of digits. -/
def groupSize (l : Layout) : Nat := if l.letter.any isBaseLetter then 4 else 3

/-- The parts of a number or a text as a layout says. -/
def write (l : Layout) (p : Parts) : Except Failure Text :=
  let width := l.width.getD 0
  if widthLimit ≤ width then .error (.defect .noRoom [])
  else
    let fixed := p.start.length + p.rest.length
    let least : Int := if l.fill = '0' && l.align = .inside then width - fixed else 0
    let digits := if p.digits.isEmpty then [] else separate l.separator l.groupSize p.digits least
    .ok (place l.fill l.align (width - (fixed + digits.length)) p.start (digits ++ p.rest))

/-- The sign of a number. -/
def signOf (l : Layout) (negative : Bool) : Text :=
  if negative then "-"
  else
    match l.sign with
    | some c => if c = '-' then [] else [c]
    | none => []

end Layout

end Template

end Rendezvous
