/-
  JSON text of values.

  The text is ASCII on one line: items are parted by `, `, names from values by
  `: `, and every code point outside the printable ASCII ones is escaped, as a
  surrogate pair above U+FFFF.  Log lines, bodies of gateway responses and details of
  notifications are written so (`_log`, `to_api_gateway_response`,
  `EventBridgeTransport.publish`).

  * `Json.print` writes every value; bytes are shown as quoted bytes inside a
    string;
  * `Json.print?` refuses values that hold bytes.
-/
import Rendezvous.Number.Decimal
import Rendezvous.Text.Quoted
import Rendezvous.Value.Basic

namespace Rendezvous.Json

/-- The escape of a number below `0x10000`. -/
def unitEscape (n : Nat) : Text := "\\u" ++ Text.hexFixed 4 n

/-- The escape of a code point, by one or two units. -/
def pointEscape (c : CodePoint) : Text :=
  if c.val < 0x10000 then unitEscape c.val
  else
    unitEscape (0xd800 + (c.val - 0x10000) / 0x400) ++
      unitEscape (0xdc00 + (c.val - 0x10000) % 0x400)

/-- A code point inside a string. -/
def printPoint (c : CodePoint) : Text :=
  if c = CodePoint.quotationMark || c = CodePoint.backslash then [CodePoint.backslash, c]
  else if c = '\n' then "\\n"
  else if c = '\r' then "\\r"
  else if c = '\t' then "\\t"
  else if c.val = 0x0c then "\\f"
  else if c.val = 0x08 then "\\b"
  else if 0x20 ≤ c.val && c.val ≤ 0x7e then [c]
  else pointEscape c

/-- A string. -/
def printText (t : Text) : Text :=
  CodePoint.quotationMark :: t.flatMap printPoint ++ [CodePoint.quotationMark]

/-- A floating-point number. -/
def printBinary : Binary64 → Text
  | .nan => "NaN"
  | .infinite negative => if negative then "-Infinity" else "Infinity"
  | x => x.text

mutual

/-- A value. -/
def print : Value → Text
  | .null => "null"
  | .bool b => if b then "true" else "false"
  | .int n => Text.ofInt n
  | .float x => printBinary x
  | .str t => printText t
  | .bytes b => printText (Text.quotedBytes b)
  | .arr items => ('[' : CodePoint) :: Text.joinWith ", " (printItems items) ++ "]"
  | .obj fields =>
    CodePoint.ofNat 0x7b :: Text.joinWith ", " (printFields fields) ++ [CodePoint.ofNat 0x7d]

/-- The items of a list. -/
def printItems : List Value → List Text
  | [] => []
  | x :: items => print x :: printItems items

/-- The fields of an object. -/
def printFields : List (Text × Value) → List Text
  | [] => []
  | (k, x) :: fields => (printText k ++ ": " ++ print x) :: printFields fields

end

mutual

/-- Whether a value holds no bytes at any depth. -/
def isPlain : Value → Bool
  | .bytes _ => false
  | .arr items => itemsPlain items
  | .obj fields => fieldsPlain fields
  | _ => true

/-- Whether no item holds bytes. -/
def itemsPlain : List Value → Bool
  | [] => true
  | x :: items => isPlain x && itemsPlain items

/-- Whether no field holds bytes. -/
def fieldsPlain : List (Text × Value) → Bool
  | [] => true
  | (_, x) :: fields => isPlain x && fieldsPlain fields

end

/-- The text of a value without bytes. -/
def print? (v : Value) : Option Text := if isPlain v then some (print v) else none

end Rendezvous.Json
