/-
  Values as they are shown in messages.

  A text is shown as it is; inside lists and objects texts are quoted.
-/
import Rendezvous.Number.Decimal
import Rendezvous.Text.Quoted
import Rendezvous.Value.Basic

namespace Rendezvous.Value

mutual

/-- A value inside a list or an object. -/
def inspect : Value → Text
  | .null => "None"
  | .bool b => if b then "True" else "False"
  | .int n => Text.ofInt n
  | .float x => x.text
  | .str t => t.quoted
  | .bytes b => Text.quotedBytes b
  | .arr items => ('[' : CodePoint) :: Text.joinWith ", " (inspectItems items) ++ "]"
  | .obj fields =>
    CodePoint.ofNat 0x7b :: Text.joinWith ", " (inspectFields fields) ++ [CodePoint.ofNat 0x7d]

/-- The items of a list. -/
def inspectItems : List Value → List Text
  | [] => []
  | x :: items => inspect x :: inspectItems items

/-- The fields of an object. -/
def inspectFields : List (Text × Value) → List Text
  | [] => []
  | (k, x) :: fields => (k.quoted ++ ": " ++ inspect x) :: inspectFields fields

end

/-- A value in a message. -/
def display : Value → Text
  | .str t => t
  | v => v.inspect

/-- The fields of an object as attributes of something that is shown; one without a name is
    left out. -/
def displayAttributes (fields : Object) : Text :=
  let shown := fields.filter fun (name, _) => !name.isEmpty
  "namespace(" ++ Text.joinWith ", " (shown.map fun (name, v) => name ++ "=" ++ v.inspect) ++ ")"

end Rendezvous.Value
