/-
  Decimal digits of all scripts, and integers read from text, as settings that are integers
  are (`get_int_parameter`).

  An integer is an optional sign and decimal digits of any script, single
  underscores between digits allowed, blanks around it ignored.  At most
  `maxDigits` digits are read.
-/
import Rendezvous.Text.Blank

namespace Rendezvous

namespace Text

/-- The digit zero of every script that writes numbers with ten digits in a row. -/
def zeros : List Nat :=
  [0x30, 0x660, 0x6f0, 0x7c0, 0x966, 0x9e6, 0xa66, 0xae6, 0xb66, 0xbe6,
   0xc66, 0xce6, 0xd66, 0xde6, 0xe50, 0xed0, 0xf20, 0x1040, 0x1090, 0x17e0,
   0x1810, 0x1946, 0x19d0, 0x1a80, 0x1a90, 0x1b50, 0x1bb0, 0x1c40, 0x1c50, 0xa620,
   0xa8d0, 0xa900, 0xa9d0, 0xa9f0, 0xaa50, 0xabf0, 0xff10, 0x104a0, 0x10d30, 0x11066,
   0x110f0, 0x11136, 0x111d0, 0x112f0, 0x11450, 0x114d0, 0x11650, 0x116c0, 0x11730, 0x118e0,
   0x11950, 0x11c50, 0x11d50, 0x11da0, 0x16a60, 0x16ac0, 0x16b50, 0x1d7ce, 0x1d7d8, 0x1d7e2,
   0x1d7ec, 0x1d7f6, 0x1e140, 0x1e2f0, 0x1e950, 0x1fbf0]

end Text

namespace CodePoint

/-- The value of a decimal digit of any script. -/
def decimalValue? (c : CodePoint) : Option Nat :=
  (Text.zeros.find? fun start => start ≤ c.val && c.val < start + 10).map (c.val - ·)

/-- The blanks ignored around an integer: the information separators are not among them. -/
def isNumberBlank (c : CodePoint) : Bool := c.isBlank && !(0x1c ≤ c.val && c.val ≤ 0x1f)

end CodePoint

namespace Integer

/-- The greatest number of digits that an integer may be written with. -/
def maxDigits : Nat := 4300

/-- Whether an integer has no more digits than it may be written with. -/
def isWritable (n : Int) : Bool := n.natAbs < Nat.pow 10 maxDigits

/-- What is said about an integer with too many digits; `remark` may tell more of it. -/
def tooLong (remark : Text) : Text :=
  "Exceeds the limit (" ++ Text.ofNat maxDigits ++ " digits) for integer string conversion" ++
    remark ++ "; use sys.set_int_max_str_digits() to increase the limit"

end Integer

namespace Text

/-- The digits of a number whose groups are parted by single underscores. -/
def groupedDigits? : (expectDigit : Bool) → Text → Option (List Nat)
  | expectDigit, [] => if expectDigit then none else some []
  | expectDigit, c :: t =>
    match c.decimalValue? with
    | some d => (groupedDigits? false t).map (d :: ·)
    | none =>
      if c = '_' && !expectDigit then groupedDigits? true t else none

/-- The number with the given decimal digits, the most significant first. -/
def ofDigits (digits : List Nat) : Nat := digits.foldl (fun n d => 10 * n + d) 0

/-- A natural number, if it has digits and no more than allowed. -/
def readNat? (t : Text) : Option Nat :=
  match groupedDigits? true t with
  | some digits => if digits.length ≤ Integer.maxDigits then some (ofDigits digits) else none
  | none => none

/-- An integer with optional sign and blanks around it. -/
def readInt? (t : Text) : Option Int :=
  match dropEnd CodePoint.isNumberBlank (dropStart CodePoint.isNumberBlank t) with
  | [] => none
  | c :: digits =>
    if c = '-' then (readNat? digits).map fun n => -(n : Int)
    else if c = '+' then (readNat? digits).map Int.ofNat
    else (readNat? (c :: digits)).map Int.ofNat

end Text

end Rendezvous
