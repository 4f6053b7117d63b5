/-
  Fields from values of any type.

  What the typed operations of this folder do to bytes of a known width is asked
  here of any value at any width.  The size of a value is compared with the width
  before anything else; only bytes can be filled up, and only to a whole width.

  * `fit` brings a value to a width, `filling` makes zero bytes;
  * `fit_bytes`: bytes and a whole width within bounds go through `pad`.
-/
import Rendezvous.Field.Body
import Rendezvous.Value.Access

namespace Rendezvous.Field

/-- The counts from here on cannot be counted in 64 bits with a sign. -/
def countLimit : Int := Nat.pow 2 63

/-- The counts from here on are more than there is room for. -/
def roomLimit : Int := Nat.pow 2 32

/-- So many zero bytes, as long as they can be counted and kept. -/
def zeroBytes (count : Int) : Except Failure Bytes :=
  if count < -countLimit || countLimit ≤ count then
    .error (.defect .overflow "cannot fit 'int' into an index-sized integer")
  else if roomLimit ≤ count then .error (.defect .noRoom [])
  else .ok (Bytes.zeros count)

/-- As many zero bytes as a value says (`zeros`). -/
def filling (count : Value) : Except Failure Bytes := do
  match ← count.number with
  | .whole n => zeroBytes n
  | .floating _ => .error .wrongType

/-- A value, which has to be bytes, with zero bytes after it. -/
def followed (value : Value) (zeros : Bytes) : Except Failure Bytes :=
  value.asBytes.map (· ++ zeros)

/-- A value of exactly a width (`pad`): filled with zeros, or refused if it is longer. -/
def fit (width label value : Value) : Except Failure Bytes := do
  let size ← value.size
  let bound ← width.number
  if bound.isBelow size then
    .error (refuse label (" must be at most " ++ width.display ++ " bytes, got " ++
      Text.ofNat size))
  else match bound with
    | .whole n => (zeroBytes (n - size)).bind (followed value)
    | .floating _ => .error .wrongType

/-- Reads a wire value of a field of any width (`decode_hex`). -/
def decodeHexAt (width label value : Value) : Except Failure Bytes :=
  (wireBytes label value).bind fun bytes => fit width label (.bytes bytes)

/-- Reads a stored value of a field of any width (`from_storage_hex`). -/
def fromStorageHexAt (width stored : Value) : Except Failure Bytes :=
  (storedBytes stored).bind fun bytes => fit width .null (.bytes bytes)

/-- The text shown for a value as a nickname (`decode_nickname`). -/
def decodeNicknameOf : Value → Except Failure Text
  | .bytes b => .ok (decodeNickname b)
  | .str _ => .error .wrongType
  | _ => .error .noField

/-- What is said of a value that cannot be digested. -/
def undigestible : Value → Failure
  | .str _ => .defect .wrongType "Strings must be encoded before hashing"
  | _ => .defect .wrongType "object supporting the buffer API required"

/-- The digest of a value as an address (`address_digest`). -/
def addressDigestOf : Value → Except Failure Text
  | .bytes b => .ok (addressDigest b)
  | v => .error (undigestible v)

/-- Whether a field of a body is missing; only a text can be the name of one that is not. -/
def lacks (body : Object) : Value → Except Failure Bool
  | .str name => .ok (isMissing body name)
  | v => v.key.map fun _ => true

/-- The required fields that are missing (`validate_required_fields`): all that is required, as it
    is given, where there is no object. -/
def lacking (required : Value) : Value → Except Failure Value
  | .obj body => do return .arr (← (← required.items).filterM (lacks body))
  | _ => .ok required

/-- The bytes of a field of a body, named by any value. -/
def bytesAt (body name : Value) : Except Failure Bytes := do
  match name with
  | .str t => bytesIn (← body.fields) t
  | v =>
    let _ ← body.fields
    let _ ← v.key
    .error (.missingField v.display)

/-- The bytes of the fields that a value names, in order (`decode_fields`); the first failure
    counts. -/
def allBytesAt (body names : Value) : Except Failure (List Bytes) := do
  (← names.items).mapM (bytesAt body)

/-- Bytes at a whole width are padded, within the bounds of what can be counted and kept. -/
theorem fit_bytes {width : Int} {label : Value} {bytes : Bytes} (room : width < roomLimit) :
    fit (.int width) label (.bytes bytes) = pad width label bytes := by
  have limits : roomLimit < countLimit := by decide
  by_cases h : width < bytes.length
  · simp [fit, pad, Value.size, Value.number, Number.isBelow, Value.display, Value.inspect, h,
      bind, Except.bind]
  · have low : ¬width - bytes.length < -countLimit := by
      have : (0 : Int) ≤ countLimit := by decide
      omega
    have high : ¬countLimit ≤ width - bytes.length := by omega
    have inside : ¬roomLimit ≤ width - bytes.length := by omega
    simp [fit, pad, Value.size, Value.number, Number.isBelow, h, bind, Except.bind, zeroBytes, low,
      high, inside, followed, Value.asBytes, Except.map, Bytes.fill]

end Rendezvous.Field
