/-
  Text as a sequence of code points.

  Text that comes out of an escaped JSON string may hold half of a surrogate
  pair, so a code point is any number below `0x110000` and not only a scalar
  value.  Lengths, order and positions all count code points.

  * `Text.ofString` embeds Lean's string literals;
  * `Text.ofNat` and `Text.ofInt` write numbers in decimal;
  * `Text.joinWith` puts a separator between pieces.
-/

namespace Rendezvous

/-- A Unicode code point; surrogates included. -/
abbrev CodePoint := Fin 0x110000

namespace CodePoint

/-- The code point of a character. -/
def ofChar (c : Char) : CodePoint :=
  ⟨c.val.toNat, by
    have h : c.val.toNat < 0xd800 ∨ 0xdfff < c.val.toNat ∧ c.val.toNat < 0x110000 := c.valid
    omega⟩

instance : Coe Char CodePoint := ⟨ofChar⟩

/-- The code point at a number known to be small enough; zero otherwise. -/
def ofNat (n : Nat) : CodePoint :=
  if h : n < 0x110000 then ⟨n, h⟩ else 0

/-- The code point that opens and closes most quoted text. -/
def quotationMark : CodePoint := 0x22

/-- The single quote. -/
def apostrophe : CodePoint := 0x27

/-- The code point that starts an escape. -/
def backslash : CodePoint := 0x5c

/-- Code points of one byte in UTF-8. -/
def isAscii (c : CodePoint) : Bool := c.val < 0x80

/-- First halves of surrogate pairs. -/
def isHighSurrogate (c : CodePoint) : Bool := 0xd800 ≤ c.val && c.val < 0xdc00

/-- Second halves of surrogate pairs. -/
def isLowSurrogate (c : CodePoint) : Bool := 0xdc00 ≤ c.val && c.val < 0xe000

/-- Either half of a surrogate pair: the code points that are no character. -/
def isSurrogate (c : CodePoint) : Bool := 0xd800 ≤ c.val && c.val < 0xe000

/-- The ten ASCII digits. -/
def isDigit (c : CodePoint) : Bool := 0x30 ≤ c.val && c.val ≤ 0x39

/-- The value of an ASCII hexadecimal digit of either case. -/
def hexValue? (c : CodePoint) : Option Nat :=
  if 0x30 ≤ c.val && c.val ≤ 0x39 then some (c.val - 0x30)
  else if 0x61 ≤ c.val && c.val ≤ 0x66 then some (c.val - 0x57)
  else if 0x41 ≤ c.val && c.val ≤ 0x46 then some (c.val - 0x37)
  else none

/-- The lowercase hexadecimal digit of a value below sixteen. -/
def hexDigit (n : Nat) : CodePoint :=
  if n < 10 then ofNat (0x30 + n) else ofNat (0x57 + n)

/-- The decimal digit of a value below ten. -/
def digit (n : Nat) : CodePoint := ofNat (0x30 + n)

theorem hexValue?_hexDigit {n : Nat} (h : n < 16) : (hexDigit n).hexValue? = some n := by
  have : ∀ m : Fin 16, (hexDigit m.val).hexValue? = some m.val := by decide
  exact this ⟨n, h⟩

end CodePoint

/-- A sequence of code points. -/
abbrev Text := List CodePoint

namespace Text

/-- A string literal as text. -/
def ofString (s : String) : Text := s.toList.map CodePoint.ofChar

instance : Coe String Text := ⟨ofString⟩

/-- The decimal digits of a number, the least significant first; `fuel` bounds
    their number. -/
def digitsRev : (fuel : Nat) → Nat → Text
  | 0, n => [CodePoint.digit (n % 10)]
  | fuel + 1, n =>
    if n < 10 then [CodePoint.digit n] else CodePoint.digit (n % 10) :: digitsRev fuel (n / 10)

/-- A natural number in decimal, without leading zeros. -/
def ofNat (n : Nat) : Text := (digitsRev n n).reverse

/-- An integer in decimal, a minus sign before negative ones. -/
def ofInt : Int → Text
  | .ofNat n => ofNat n
  | .negSucc n => ('-' : CodePoint) :: ofNat (n + 1)

/-- A number in decimal, filled with zeros on the left to at least `width` digits. -/
def ofNatPadded (width n : Nat) : Text :=
  let digits := ofNat n
  List.replicate (width - digits.length) ('0' : CodePoint) ++ digits

/-- The digits of a number in a base up to sixteen, the least significant first; `fuel`
    bounds their number. -/
def digitsRevIn (base : Nat) : (fuel : Nat) → Nat → Text
  | 0, n => [CodePoint.hexDigit (n % base)]
  | fuel + 1, n =>
    if n < base then [CodePoint.hexDigit n]
    else CodePoint.hexDigit (n % base) :: digitsRevIn base fuel (n / base)

/-- A natural number in a base from two to sixteen, without leading zeros. -/
def ofNatIn (base n : Nat) : Text := (digitsRevIn base n.log2 n).reverse

/-- The last `width` hexadecimal digits of a number, zeros included. -/
def hexFixed : (width : Nat) → Nat → Text
  | 0, _ => []
  | width + 1, n => hexFixed width (n / 16) ++ [CodePoint.hexDigit (n % 16)]

/-- Pieces with a separator between neighbours. -/
def joinWith (separator : Text) : List Text → Text
  | [] => []
  | [piece] => piece
  | piece :: pieces => piece ++ separator ++ joinWith separator pieces

/-- The order of texts: by the first code point that differs, a proper beginning first. -/
def before : Text → Text → Bool
  | [], [] => false
  | [], _ :: _ => true
  | _ :: _, [] => false
  | a :: s, b :: t => a.val < b.val || (a.val == b.val && before s t)

/-- Text that starts with `start`. -/
def startsWith (start t : Text) : Bool := start.isPrefixOf t

/-- Text that has `piece` somewhere. -/
def holds (piece : Text) : Text → Bool
  | [] => piece.isEmpty
  | c :: t => startsWith piece (c :: t) || holds piece t

end Text

end Rendezvous
