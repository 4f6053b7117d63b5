/-
  Refusals as remote services answer them.

  An answer is an object that may have an error, metadata that tell how it came
  about, and the reasons why the parts of a transaction were refused.

  * `Refusal.ofAnswer` reads an answer.
-/
import Rendezvous.Value.Access

namespace Rendezvous.Refusal

/-- An object that may be absent: the part of an answer under a name. -/
def objectPart (name : Text) (answer : Object) : Except Failure (Option Object) :=
  match answer.field? name with
  | none => .ok none
  | some v => v.fields.map some

/-- The name of the part of an answer that tells how it came about. -/
def metadataName : Text := "ResponseMetadata"

/-- Whether a value has the metadata of an answer among its parts; only some types have parts. -/
def hasMetadata : Value → Except Failure Bool
  | .obj parts => .ok (Object.has metadataName parts)
  | .arr items => .ok (items.any (Value.isText metadataName))
  | .str t => .ok (Text.holds metadataName t)
  | .bytes _ => .error (.mismatch "a bytes-like object is required, not " (.str []) [])
  | v => .error (.mismatch "argument of type " v " is not iterable")

/-- The metadata of an answer, if it has them. -/
def metadataOf (answer : Value) : Except Failure (Option Object) := do
  if ← hasMetadata answer then return some (← (← answer.itemNamed metadataName).fields)
  else return none

/-- The refusal that an answer tells of.  Its error and its metadata have to be
    objects, where they are there; what is no object is found out in passing. -/
def ofAnswer (operation : Text) (answer : Value) : Except Failure Refusal := do
  let metadata ← metadataOf answer
  let parts ← answer.fields
  let error ← objectPart "Error" parts
  return ⟨error, metadata.getD [], (parts.field? "CancellationReasons").getD (.arr []), operation⟩

end Rendezvous.Refusal
