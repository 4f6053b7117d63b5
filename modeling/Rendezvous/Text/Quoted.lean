/-
  The quoted form of text and bytes, as values are shown inside lists and
  objects and in messages.

  A text stands between single quotes, or between double quotes when it holds a
  single quote and no double one.  Backslash, the quote and what has no
  printable form are escaped; escapes take two, four or eight hexadecimal
  digits.  Bytes are shown as ASCII with a mark in front.
-/
import Rendezvous.Text.PrintTable

namespace Rendezvous

/-- Code points shown as themselves. -/
def CodePoint.isPrintable (c : CodePoint) : Bool :=
  if c.val < 0x80 then 0x20 ≤ c.val && c.val < 0x7f
  else !(Text.unprintableRanges.any fun (a, b) => a ≤ c.val && c.val ≤ b)

namespace Text

/-- The quote put around a text. -/
def quoteFor (t : Text) : CodePoint :=
  if t.contains CodePoint.apostrophe && !t.contains CodePoint.quotationMark then
    CodePoint.quotationMark
  else CodePoint.apostrophe

/-- The escape of a code point by its number. -/
def numberEscape (c : CodePoint) : Text :=
  if c.val < 0x100 then "\\x" ++ hexFixed 2 c.val
  else if c.val < 0x10000 then "\\u" ++ hexFixed 4 c.val
  else "\\U" ++ hexFixed 8 c.val

/-- One code point inside quotes. -/
def quotedPoint (quote c : CodePoint) : Text :=
  if c = quote || c = CodePoint.backslash then [CodePoint.backslash, c]
  else if c = '\t' then "\\t"
  else if c = '\n' then "\\n"
  else if c = '\r' then "\\r"
  else if c.isPrintable then [c]
  else numberEscape c

/-- A text between quotes. -/
def quoted (t : Text) : Text :=
  let quote := quoteFor t
  quote :: t.flatMap (quotedPoint quote) ++ [quote]

/-- A text with all that is not ASCII escaped. -/
def asciiOnly (t : Text) : Text := t.flatMap fun c => if c.isAscii then [c] else numberEscape c

/-- One byte inside quotes: ASCII as in a text, the rest escaped. -/
def quotedByte (quote : CodePoint) (b : UInt8) : Text :=
  if b.toNat < 0x80 then quotedPoint quote (CodePoint.ofNat b.toNat)
  else "\\x" ++ hexFixed 2 b.toNat

/-- Bytes between quotes, with their mark in front. -/
def quotedBytes (bytes : List UInt8) : Text :=
  let quote := quoteFor (bytes.map fun b => CodePoint.ofNat b.toNat)
  ('b' : CodePoint) :: quote :: bytes.flatMap (quotedByte quote) ++ [quote]

end Text

end Rendezvous
