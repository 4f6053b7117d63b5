/-
  Values read from JSON text.

  The parser takes one token at a time and keeps the lists and objects that are
  open on a stack.  The first fault in the order of the text is reported: a text
  that is no JSON, one nested too deeply, or a whole number with too many digits.
  Of fields with the same name the last value counts, at the place of the first.
  Bodies of gateway events are read so (`extract_request`).
-/
import Rendezvous.Json.Token

namespace Rendezvous.Json

/-- Why a text is refused. -/
inductive Refusal where
  /-- not JSON -/
  | malformed
  /-- more lists and objects inside each other than `maxDepth` -/
  | tooDeep
  /-- a whole number with so many digits, more than `Integer.maxDigits` -/
  | hugeInteger (digits : Nat)
  deriving DecidableEq, Repr

/-- How many lists and objects may be open at once. -/
def maxDepth : Nat := 980

/-- A list or object that is open: the items before the one being read, in
    reverse, or the fields before it and its name. -/
inductive Frame where
  | list (rev : List Value)
  | field (before : Object) (key : Text)

/-- What the parser waits for. -/
inductive Expectation where
  /-- a value -/
  | value
  /-- a value or the end of a list without items -/
  | itemOrClose
  /-- the name of a field, or the end of an object without fields -/
  | keyOrClose
  /-- the name of another field -/
  | key (before : Object)
  /-- the colon after a name -/
  | colon (before : Object) (key : Text)
  /-- what follows a value -/
  | next (v : Value)

/-- A number token as a value. -/
def Numeral.value (n : Numeral) : Except Refusal Value :=
  if n.isWhole then
    if n.whole.length ≤ Integer.maxDigits then .ok (.int n.toInt)
    else .error (.hugeInteger n.whole.length)
  else .ok (.float n.toBinary)

/-- The state after a token where a value has to start. -/
def startValue (stack : List Frame) : Token → Except Refusal (Expectation × List Frame)
  | .openList =>
    if stack.length < maxDepth then .ok (.itemOrClose, .list [] :: stack) else .error .tooDeep
  | .openObject =>
    if stack.length < maxDepth then .ok (.keyOrClose, stack) else .error .tooDeep
  | .text t => .ok (.next (.str t), stack)
  | .constant v => .ok (.next v, stack)
  | .number n => n.value.map fun v => (.next v, stack)
  | _ => .error .malformed

/-- The state after a token that follows a value. -/
def afterValue (v : Value) : List Frame → Token → Except Refusal (Expectation × List Frame)
  | .list rev :: stack, .comma => .ok (.value, .list (v :: rev) :: stack)
  | .list rev :: stack, .closeList => .ok (.next (.arr (v :: rev).reverse), stack)
  | .field before key :: stack, .comma => .ok (.key (Object.put key v before), stack)
  | .field before key :: stack, .closeObject =>
    .ok (.next (.obj (Object.put key v before)), stack)
  | _, _ => .error .malformed

/-- The state after a token. -/
def step : Expectation → List Frame → Token → Except Refusal (Expectation × List Frame)
  | .value, stack, token => startValue stack token
  | .itemOrClose, .list [] :: stack, .closeList => .ok (.next (.arr []), stack)
  | .itemOrClose, stack, token => startValue stack token
  | .keyOrClose, stack, .closeObject => .ok (.next (.obj []), stack)
  | .keyOrClose, stack, .text k => .ok (.colon [] k, stack)
  | .key before, stack, .text k => .ok (.colon before k, stack)
  | .colon before key, stack, .colon => .ok (.value, .field before key :: stack)
  | .next v, stack, token => afterValue v stack token
  | _, _, _ => .error .malformed

/-- The value of all tokens. -/
def run : Expectation → List Frame → List Token → Except Refusal Value
  | .next v, [], [] => .ok v
  | _, _, [] => .error .malformed
  | expected, stack, token :: tokens =>
    match step expected stack token with
    | .ok (expected, stack) => run expected stack tokens
    | .error refusal => .error refusal

/-- The value that a text spells. -/
def parse (t : Text) : Except Refusal Value := run .value [] (Token.scan t)

/-- What is said about a number with too many digits. -/
def hugeIntegerMessage (digits : Nat) : Text :=
  Integer.tooLong (": value has " ++ Text.ofNat digits ++ " digits")

end Rendezvous.Json
