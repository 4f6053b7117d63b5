/-
  Keys: the values by which something can be looked up.

  Numbers are the same key where they are equal, whole or floating, and a boolean
  is the number that it stands for.  A list or an object is no key.

  * `Value.key?` is the key of a value;
  * `Key.before?` is the order of keys, which only those of one kind have.
-/
import Rendezvous.Value.Basic

namespace Rendezvous

/-- What something is looked up by; a number is floating only where it is not whole. -/
inductive Key where
  | null
  | number (n : Number)
  | text (t : Text)
  | bytes (b : Bytes)
  deriving DecidableEq, Repr, Inhabited

namespace Key

/-- The order of keys of one kind: numbers by their size, texts by their code points, bytes
    like texts.  Keys of different kinds have no order. -/
def before? : Key → Key → Option Bool
  | .number m, .number n => some (m.before n)
  | .text s, .text t => some (Text.before s t)
  | .bytes s, .bytes t => some (Text.before (points s) (points t))
  | .null, .null => some false
  | _, _ => none
where
  /-- The code points with the numbers of bytes. -/
  points (b : Bytes) : Text := b.map fun x => CodePoint.ofNat x.toNat

end Key

namespace Value

/-- The number of a boolean. -/
def ofFlag (b : Bool) : Int := if b then 1 else 0

/-- The key of a value, if it is one. -/
def key? : Value → Option Key
  | .null => some .null
  | .bool b => some (.number (.whole (ofFlag b)))
  | .int n => some (.number (.whole n))
  | .float x => some (.number (.ofBinary x))
  | .str t => some (.text t)
  | .bytes b => some (.bytes b)
  | .arr _ | .obj _ => none

end Value

end Rendezvous
