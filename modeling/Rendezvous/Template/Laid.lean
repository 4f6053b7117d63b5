/-
  Values laid out in fields of templates.

  Texts, whole numbers and floating-point numbers have layouts of their own; a
  boolean is laid out as the number that it stands for.  Every other value, and
  every value without a layout, is shown as in a message.

  * `Layout.ofTextValue`, `ofInteger` and `ofBinary` lay a value of one type out;
  * `Value.laidOut` lays any value out.
-/
import Rendezvous.Number.Style
import Rendezvous.Template.Layout
import Rendezvous.Text.Case
import Rendezvous.Value.Access

namespace Rendezvous

/-- What is of a kind has no layouts. -/
def Failure.unlaid (kind : Text) : Failure :=
  .defect .wrongType ("unsupported format string passed to " ++ kind ++ ".__format__")

namespace Template.Layout

/-! ## Texts -/

/-- Checks that a layout asks for nothing that only numbers have. -/
def checkText (l : Layout) : Except Failure Unit :=
  if l.letter ≠ some 's' then refuse (.unknownLetter (l.letter.getD 's') "str")
  else if l.sign = some ' ' then refuse .spaceOfText
  else if l.sign.isSome then refuse .signOfText
  else if l.plainZero then refuse .zeroOfText
  else if l.alternate then refuse .alternateText
  else if l.align = .inside then refuse .insideText
  else .ok ()

/-- A text in a layout; a precision cuts it off. -/
def ofTextValue (layout t : Text) : Except Failure Text := do
  let l ← ofText "str" .left (some 's') layout
  l.checkText
  l.write ⟨[], [], t.take (l.precision.getD t.length)⟩

/-! ## Floating-point numbers -/

/-- The greatest precision of a floating-point number. -/
def maxPrecision : Nat := Nat.pow 2 31 - 1

/-- The style of a letter, which is one of a floating-point style or absent. -/
def styleOf (l : Layout) : Style :=
  match l.letter with
  | none =>
    match l.precision with
    | none => .shortest
    | some count => .general (max 1 count) true
  | some c =>
    let count := l.precision.getD 6
    if c = 'e' || c = 'E' then .scientific count
    else if c = 'f' || c = 'F' || c = '%' then .fixed count
    else .general (max 1 count) false

/-- Whether a letter asks for capitals. -/
def isCapital (c : CodePoint) : Bool := c = 'E' || c = 'F' || c = 'G' || c = 'X'

/-- A text in capitals, if the letter of a layout asks for them. -/
def inCase (l : Layout) (t : Text) : Text := if l.letter.any isCapital then t.upper else t

/-- Whether the digits of a number are all zero. -/
def isZeroText (t : Text) : Bool := t.all fun c => c = '0' || c = '.' || c = 'e' || c = '+'

/-- A floating-point number in a style: whether it is negative, and the rest of it. -/
def magnitude (l : Layout) : Binary64 → Bool × Text
  | .nan => (false, "nan")
  | .infinite negative => (negative, "inf")
  | .finite negative units =>
    let t := l.styleOf.write l.alternate units
    (negative && !(l.plainZero && isZeroText t), t)

/-- A floating-point number in a layout that was read. -/
def writeBinary (l : Layout) (x : Binary64) : Except Failure Text :=
  if l.precision.any (maxPrecision < ·) then refuse .hugePrecision
  else
    let percent := l.letter = some '%'
    let (negative, t) := l.magnitude (if percent then x.scale 100 else x)
    let (digits, rest) := (l.inCase t).span CodePoint.isDigit
    l.write ⟨l.signOf negative, digits, if percent then rest ++ "%" else rest⟩

/-- A floating-point number in a layout. -/
def ofBinary (layout : Text) (x : Binary64) : Except Failure Text := do
  let l ← ofText "float" .right none layout
  match l.letter with
  | none => l.writeBinary x
  | some c =>
    if isStyleLetter c || c = 'n' then l.writeBinary x
    else refuse (.unknownLetter c "float")

/-! ## Whole numbers -/

/-- The base of a letter, and its mark in the alternate form. -/
def baseOf (letter : CodePoint) : Nat × Text :=
  if letter = 'b' then (2, "0b")
  else if letter = 'o' then (8, "0o")
  else if letter = 'x' || letter = 'X' then (16, "0x")
  else (10, [])

/-- The code point of a number. -/
def character (n : Int) : Except Failure CodePoint :=
  if maxNumber < n || n < -maxNumber - 1 then
    .error (.defect .overflow "Python int too large to convert to C long")
  else if 0 ≤ n && n < 0x110000 then .ok (CodePoint.ofNat n.toNat)
  else .error (.defect .overflow "%c arg not in range(0x110000)")

/-- The code point of a number in a layout that was read. -/
def writeCharacter (l : Layout) (n : Int) : Except Failure Text :=
  if l.sign.isSome then refuse .signOfCharacter
  else if l.alternate then refuse .alternateCharacter
  else (character n).bind fun c => l.write ⟨[], [], [c]⟩

/-- The digits of a number in a layout that was read. -/
def writeDigits (l : Layout) (letter : CodePoint) (n : Int) : Except Failure Text :=
  let (base, mark) := baseOf letter
  let start := l.signOf (n < 0) ++ l.inCase (if l.alternate then mark else [])
  l.write ⟨start, l.inCase (Text.ofNatIn base n.natAbs), []⟩

/-- A whole number of a type in a layout. -/
def ofInteger (type layout : Text) (n : Int) : Except Failure Text := do
  let l ← ofText type .right (some 'd') layout
  let letter := l.letter.getD 'd'
  if isStyleLetter letter then
    match Number.toBinary? (.whole n) with
    | some x => l.writeBinary x
    | none => .error (.defect .overflow "int too large to convert to float")
  else if letter = 'd' || letter = 'n' || letter = 'c' || isBaseLetter letter then
    if l.precision.isSome then refuse .precisionOfInteger
    else if l.plainZero then refuse .zeroOfInteger
    else if letter = 'c' then l.writeCharacter n
    else l.writeDigits letter n
  else refuse (.unknownLetter letter type)

end Template.Layout

open Template in
/-- A value in a layout. -/
def Value.laidOut (layout : Text) (v : Value) : Except Failure Text :=
  if layout.isEmpty then .ok v.display
  else
    match v with
    | .str t => Layout.ofTextValue layout t
    | .bool b => Layout.ofInteger v.typeName layout (ofFlag b)
    | .int n => Layout.ofInteger v.typeName layout n
    | .float x => Layout.ofBinary layout x
    | v => .error (.unlaid v.typeName)

end Rendezvous
