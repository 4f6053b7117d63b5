/-
  Values of requests, responses and log entries.

  A value is what JSON can hold, and byte strings besides.  An object is a list
  of named values in order of first insertion; it is built with `put`, which
  keeps the names apart.

  * `Value.isTruthy` tells values from the empty ones;
  * `Object.put` overwrites a field in place or appends it, `Object.merge` puts
    several;
  * `field?_put_self`, `field?_put_of_ne`: what `put` does to the fields.
-/
import Rendezvous.Bytes.Basic
import Rendezvous.Number.Basic
import Rendezvous.Text.Basic

namespace Rendezvous

/-- A value; the fields of an object are in order. -/
inductive Value where
  | null
  | bool (b : Bool)
  | int (n : Int)
  | float (x : Binary64)
  | str (t : Text)
  | bytes (b : Bytes)
  | arr (items : List Value)
  | obj (fields : List (Text × Value))
  deriving Repr, Inhabited

/-- The fields of an object. -/
abbrev Object := List (Text × Value)

/-! ## Objects -/

namespace Object

/-- The value of a field. -/
def field? (key : Text) : Object → Option Value
  | [] => none
  | (k, x) :: o => if k = key then some x else field? key o

/-- An object with a field set: in its place if it is there, at the end if not. -/
def put (key : Text) (value : Value) : Object → Object
  | [] => [(key, value)]
  | (k, x) :: o => if k = key then (k, value) :: o else (k, x) :: put key value o

/-- An object with the fields of another set one after the other. -/
def merge (o extra : Object) : Object := extra.foldl (fun o (k, x) => put k x o) o

/-- The value of a field, null where it is absent. -/
def fieldOrNull (key : Text) (o : Object) : Value := (field? key o).getD .null

/-- Whether a field is there. -/
def has (key : Text) (o : Object) : Bool := (field? key o).isSome

/-- The names of the fields, in order. -/
def keys (o : Object) : List Text := o.map (·.1)

theorem field?_put_self (key : Text) (value : Value) (o : Object) :
    field? key (put key value o) = some value := by
  induction o with
  | nil => simp [put, field?]
  | cons entry o ih =>
    by_cases h : entry.1 = key <;> simp [put, field?, h, ih]

theorem field?_put_of_ne {key other : Text} (h : other ≠ key) (value : Value) (o : Object) :
    field? other (put key value o) = field? other o := by
  induction o with
  | nil => simp [put, field?, Ne.symm h]
  | cons entry o ih =>
    by_cases hk : entry.1 = key
    · simp [put, field?, hk, Ne.symm h]
    · by_cases ho : entry.1 = other <;> simp [put, field?, hk, ho, h, ih]

end Object

/-! ## Values -/

namespace Value

/-- An optional text; null where there is none. -/
def ofText? : Option Text → Value
  | some t => .str t
  | none => .null

/-- An empty object. -/
def empty : Value := .obj []

/-- False for null, false, zero and whatever is empty. -/
def isTruthy : Value → Bool
  | .null => false
  | .bool b => b
  | .int n => n ≠ 0
  | .float x => !x.isZero
  | .str t => !t.isEmpty
  | .bytes b => !b.isEmpty
  | .arr items => !items.isEmpty
  | .obj fields => !fields.isEmpty

/-- The first value if it is truthy, the second one otherwise. -/
def orElse (first second : Value) : Value := if first.isTruthy then first else second

/-- A truthy value as it is, an empty object otherwise. -/
def orEmpty (v : Value) : Value := v.orElse .empty

/-- Whether a value is the given text. -/
def isText (t : Text) : Value → Bool
  | .str s => s = t
  | _ => false

/-- The name of a value's type, as logs show it. -/
def typeName : Value → Text
  | .null => "NoneType"
  | .bool _ => "bool"
  | .int _ => "int"
  | .float _ => "float"
  | .str _ => "str"
  | .bytes _ => "bytes"
  | .arr _ => "list"
  | .obj _ => "dict"

/-- A value as it is named in messages about its type. -/
def typeObject (v : Value) : Text := "'" ++ v.typeName ++ "' object"

/-- Texts and numbers; booleans count as numbers. -/
def isScalar : Value → Bool
  | .bool _ | .int _ | .float _ | .str _ => true
  | _ => false

/-- A number as a value. -/
def ofNumber : Number → Value
  | .whole n => .int n
  | .floating x => .float x

end Value

end Rendezvous
