/-
  The tokens of JSON text.

  Blanks part tokens and are dropped.  A run of code points that are neither
  blank nor punctuation nor a quotation mark is a word: a constant, or a number,
  after which nothing else may stand.  Where no token can be read, `broken` ends
  the list.

  * `Numeral.longest?` reads the longest number that a text starts with;
  * `Token.scan` reads all tokens of a text.
-/
import Rendezvous.Number.Decimal
import Rendezvous.Text.Digit
import Rendezvous.Value.Basic

namespace Rendezvous.Json

/-! ## Numbers -/

/-- A number as written: digits before the point, after it, and in the exponent. -/
structure Numeral where
  negative : Bool
  whole : Text
  fraction : Option Text
  exponent : Option (Bool × Text)
  deriving DecidableEq, Repr

namespace Numeral

/-- The number that ASCII digits spell. -/
def valueOf (digits : Text) : Nat := Text.ofDigits (digits.map fun c => c.val - 0x30)

/-- The longest run of digits at the start of a text, and the rest. -/
def digitRun (t : Text) : Text × Text := t.span CodePoint.isDigit

/-- The digits before the point: a zero alone, or digits that start with another one. -/
def wholePart? : Text → Option (Text × Text)
  | [] => none
  | c :: t =>
    if c = '0' then some ([c], t)
    else if c.isDigit then
      let (digits, rest) := digitRun t
      some (c :: digits, rest)
    else none

/-- A point and the digits after it, if there are any. -/
def fractionPart : Text → Option Text × Text
  | [] => (none, [])
  | c :: t =>
    match digitRun t with
    | ([], _) => (none, c :: t)
    | (digits, rest) => if c = '.' then (some digits, rest) else (none, c :: t)

/-- The sign of an exponent: whether it is negative, and the rest. -/
def exponentSign : Text → Bool × Text
  | [] => (false, [])
  | c :: t => if c = '-' then (true, t) else if c = '+' then (false, t) else (false, c :: t)

/-- The letter of an exponent, its sign and digits, if there are any. -/
def exponentPart : Text → Option (Bool × Text) × Text
  | [] => (none, [])
  | c :: t =>
    if c = 'e' || c = 'E' then
      let (negative, signless) := exponentSign t
      match digitRun signless with
      | ([], _) => (none, c :: t)
      | (digits, rest) => (some (negative, digits), rest)
    else (none, c :: t)

/-- The parts of a number after its sign, and the rest of the text. -/
def unsigned? (negative : Bool) (t : Text) : Option (Numeral × Text) :=
  match wholePart? t with
  | none => none
  | some (whole, t) =>
    let (fraction, t) := fractionPart t
    let (exponent, t) := exponentPart t
    some (⟨negative, whole, fraction, exponent⟩, t)

/-- The longest number at the start of a text, and the rest. -/
def longest? : Text → Option (Numeral × Text)
  | [] => none
  | c :: t => if c = '-' then unsigned? true t else unsigned? false (c :: t)

/-- Whether a number is written without point and exponent. -/
def isWhole (n : Numeral) : Bool := n.fraction.isNone && n.exponent.isNone

/-- The whole number that a numeral spells. -/
def toInt (n : Numeral) : Int :=
  let magnitude : Int := valueOf n.whole
  if n.negative then -magnitude else magnitude

/-- The floating-point number nearest to what a numeral spells. -/
def toBinary (n : Numeral) : Binary64 :=
  let fraction := n.fraction.getD []
  let exponent : Int := match n.exponent with
    | none => 0
    | some (negative, digits) =>
      let magnitude : Int := valueOf digits
      if negative then -magnitude else magnitude
  Decimal.toBinary n.negative ⟨valueOf (n.whole ++ fraction), exponent - fraction.length⟩

end Numeral

/-! ## Tokens -/

/-- A token. -/
inductive Token where
  | openList
  | closeList
  | openObject
  | closeObject
  | comma
  | colon
  | text (t : Text)
  | number (n : Numeral)
  /-- a constant, by its value -/
  | constant (v : Value)
  /-- no token can be read here -/
  | broken
  deriving Repr

namespace Token

/-- The constants. -/
def constants : List (Text × Value) :=
  [("null", .null), ("true", .bool true), ("false", .bool false), ("NaN", .float .nan),
   ("Infinity", .float (.infinite false)), ("-Infinity", .float (.infinite true))]

/-- The tokens of a word. -/
def ofWord (word : Text) : List Token :=
  match constants.lookup word with
  | some v => [.constant v]
  | none =>
    match Numeral.longest? word with
    | some (n, []) => [.number n]
    | some (n, _) => [.number n, .broken]
    | none => [.broken]

/-- The token of a punctuation mark. -/
def mark? (c : CodePoint) : Option Token :=
  if c = '[' then some .openList
  else if c = ']' then some .closeList
  else if c.val = 0x7b then some .openObject
  else if c.val = 0x7d then some .closeObject
  else if c = ',' then some .comma
  else if c = ':' then some .colon
  else none

/-- The blanks between tokens. -/
def isGap (c : CodePoint) : Bool := c = ' ' || c = '\t' || c = '\n' || c = '\r'

/-- What an escape of one letter stands for. -/
def letterEscape? (c : CodePoint) : Option CodePoint :=
  if c = CodePoint.quotationMark || c = CodePoint.backslash || c = '/' then some c
  else if c = 'b' then some (.ofNat 0x08)
  else if c = 'f' then some (.ofNat 0x0c)
  else if c = 'n' then some (.ofNat 0x0a)
  else if c = 'r' then some (.ofNat 0x0d)
  else if c = 't' then some (.ofNat 0x09)
  else none

/-- Where a scan stands: between tokens, in a word, or in a string with what has
    been read of it in reverse.  `half` tells that the last code point was
    escaped and is the first half of a surrogate pair. -/
inductive Scan where
  | gap
  | word (rev : Text)
  | text (rev : Text) (half : Bool)
  | escape (rev : Text) (half : Bool)
  | digits (rev : Text) (half : Bool) (missing value : Nat)

/-- The code point of a surrogate pair. -/
def joinHalves (high low : CodePoint) : CodePoint :=
  CodePoint.ofNat (0x10000 + (high.val - 0xd800) * 0x400 + (low.val - 0xdc00))

/-- A string after an escaped code point: the second half of a pair joins the first. -/
def Scan.afterEscape (rev : Text) (half : Bool) (c : CodePoint) : Scan :=
  if half && c.isLowSurrogate then
    match rev with
    | high :: rev => .text (joinHalves high c :: rev) false
    | [] => .text [c] false
  else .text (c :: rev) c.isHighSurrogate

/-- The tokens of a text, from where a scan stands. -/
def scanFrom : Scan → Text → List Token
  | .gap, [] => []
  | .word rev, [] => ofWord rev.reverse
  | .text _ _, [] | .escape _ _, [] | .digits _ _ _ _, [] => [.broken]
  | .gap, c :: t =>
    if isGap c then scanFrom .gap t
    else if c = CodePoint.quotationMark then scanFrom (.text [] false) t
    else match mark? c with
      | some token => token :: scanFrom .gap t
      | none => scanFrom (.word [c]) t
  | .word rev, c :: t =>
    if isGap c then ofWord rev.reverse ++ scanFrom .gap t
    else if c = CodePoint.quotationMark then ofWord rev.reverse ++ scanFrom (.text [] false) t
    else match mark? c with
      | some token => ofWord rev.reverse ++ token :: scanFrom .gap t
      | none => scanFrom (.word (c :: rev)) t
  | .text rev half, c :: t =>
    if c = CodePoint.quotationMark then .text rev.reverse :: scanFrom .gap t
    else if c = CodePoint.backslash then scanFrom (.escape rev half) t
    else if c.val < 0x20 then [.broken]
    else scanFrom (.text (c :: rev) false) t
  | .escape rev half, c :: t =>
    if c = 'u' then scanFrom (.digits rev half 4 0) t
    else match letterEscape? c with
      | some d => scanFrom (.text (d :: rev) false) t
      | none => [.broken]
  | .digits rev half missing value, c :: t =>
    match c.hexValue? with
    | none => [.broken]
    | some d =>
      if missing ≤ 1 then
        scanFrom (Scan.afterEscape rev half (CodePoint.ofNat (16 * value + d))) t
      else scanFrom (.digits rev half (missing - 1) (16 * value + d)) t

/-- The tokens of a text. -/
def scan (t : Text) : List Token := scanFrom .gap t

end Token

end Rendezvous.Json
