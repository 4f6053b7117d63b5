/-
  What an operation asks of a value whose type it does not know.

  A text is made of its code points, bytes of numbers, an object of the names of
  its fields.

  * `size` and `items` take a value apart;
  * `key`, `number` and `asBytes` read it as a key, a number and bytes;
  * `Object.update` puts the fields that a value stands for: those of an object, or
    pairs of names and values.
-/
import Rendezvous.Failure.Basic
import Rendezvous.Json.Printer
import Rendezvous.Value.Key

namespace Rendezvous

namespace Failure

/-- A value of the wrong type, which is named in a message. -/
def mismatch (before : Text) (v : Value) (after : Text) : Failure :=
  .defect .wrongType (before ++ "'" ++ v.typeName ++ "'" ++ after)

/-- A value that has no items is asked for one. -/
def noItems (v : Value) : Failure :=
  .mismatch [] v " object is not subscriptable"

/-- A text where the place of an item is called for; `others` tells what else may stand there. -/
def noPlace (kind others : Text) : Failure :=
  .defect .wrongType (kind ++ " indices must be integers" ++ others)

end Failure

namespace Value

/-- How many parts a value has. -/
def size : Value → Except Failure Nat
  | .str t => .ok t.length
  | .bytes b => .ok b.length
  | .arr items => .ok items.length
  | .obj fields => .ok fields.length
  | _ => .error .wrongType

/-- The parts of a value. -/
def items : Value → Except Failure (List Value)
  | .str t => .ok (t.map fun (c : CodePoint) => .str [c])
  | .bytes b => .ok (b.map fun x => .int x.toNat)
  | .arr items => .ok items
  | .obj fields => .ok ((Object.keys fields).map .str)
  | v => .error (.mismatch [] v " object is not iterable")

/-- The item of a value under a name; only an object has such items. -/
def itemNamed (name : Text) : Value → Except Failure Value
  | .obj fields => (Value.obj fields).fieldAt name
  | .str _ => .error (.noPlace "string" ", not 'str'")
  | .bytes _ => .error (.noPlace "byte" " or slices, not str")
  | .arr _ => .error (.noPlace "list" " or slices, not str")
  | v => .error (.noItems v)

/-- The key of a value that has to be one. -/
def key (v : Value) : Except Failure Key :=
  match v.key? with
  | some k => .ok k
  | none => .error (.mismatch "unhashable type: " v [])

/-- A value that has to be a number; a boolean is one. -/
def number : Value → Except Failure Number
  | .bool b => .ok (.whole (ofFlag b))
  | .int n => .ok (.whole n)
  | .float x => .ok (.floating x)
  | _ => .error .wrongType

/-- A value that has to be bytes. -/
def asBytes : Value → Except Failure Bytes
  | .bytes b => .ok b
  | v => .error (.mismatch "a bytes-like object is required, not " v [])

/-- A value that has to be text. -/
def asText : Value → Except Failure Text
  | .str t => .ok t
  | _ => .error .wrongType

/-- The parts of a value, which all have to be texts. -/
def texts (v : Value) : Except Failure (List Text) := v.items.bind fun items => items.mapM asText

/-- The name of the field that a key is put under, as it is written. -/
def fieldName : Value → Text
  | .str t => t
  | .bytes b => Text.quotedBytes b
  | v => Json.print v

end Value

namespace Object

/-- What is said of a part that is no pair. -/
def notPair (position size : Nat) : Text :=
  "dictionary update sequence element #" ++ Text.ofNat position ++ " has length " ++
    Text.ofNat size ++ "; 2 is required"

/-- Fields under keys, with their names as they are written.  The names of different keys may
    be written alike, as those of a number and of its text are. -/
abbrev Keyed := List (Key × Text × Value)

/-- Fields with one set: in its place and under its first name if the key is there, at the end
    if not. -/
def putKeyed (key : Key) (name : Text) (value : Value) : Keyed → Keyed
  | [] => [(key, name, value)]
  | (k, n, x) :: fields =>
    if k = key then (k, n, value) :: fields else (k, n, x) :: putKeyed key name value fields

/-- The fields of an object under their keys. -/
def toKeyed (o : Object) : Keyed := o.map fun (name, value) => (.text name, name, value)

/-- What is kept under a key.  Bytes cannot be written as the name of a field, so they stay
    with their value, which then cannot be written either. -/
def valueUnder (key value : Value) : Value :=
  match key with
  | .bytes _ => .arr [key, value]
  | _ => value

/-- The field that a pair of a name and a value stands for. -/
def pairField (position : Nat) (pair : Value) : Except Failure (Key × Text × Value) := do
  match ← pair.items with
  | [name, value] => return (← name.key, name.fieldName, valueUnder name value)
  | parts => .error (.badValue (notPair position parts.length))

/-- The fields that a list of pairs stands for. -/
def pairFields : (position : Nat) → List Value → Except Failure Keyed
  | _, [] => .ok []
  | position, pair :: pairs => do
    return (← pairField position pair) :: (← pairFields (position + 1) pairs)

/-- The fields that a value stands for. -/
def ofValue : Value → Except Failure Keyed
  | .obj fields => .ok (toKeyed fields)
  | v => v.items.bind (pairFields 0)

/-- An object with the fields that a value stands for set one after the other; an empty value
    adds nothing. -/
def update (o : Object) (v : Value) : Except Failure Object := do
  if !v.isTruthy then return o
  let extra ← ofValue v
  return (extra.foldl (fun fields (k, n, x) => putKeyed k n x fields) (toKeyed o)).map (·.2)

end Object

end Rendezvous
