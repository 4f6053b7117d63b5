/-
  Byte fields written in hexadecimal.

  On the wire a value is a text of digit pairs, a mark `0x` before it allowed and
  blanks around it ignored, or raw bytes.  In the tables it is lowercase digits
  without a mark.

  * `wireBytes` reads a wire value, `decodeHex` brings it to the width of its field,
    `encodeHex` writes one;
  * `storageHex` writes a stored value, `fromStorageHex` reads one;
  * `fromStorageHex_storageHex`: a stored value is read back, filled with zeros.
-/
import Rendezvous.Bytes.Blake2b
import Rendezvous.Field.Basic
import Rendezvous.Text.Blank

namespace Rendezvous.Field

/-- A text without the mark of hexadecimal digits, if it starts with one. -/
def dropHexMark : Text → Text
  | [] => []
  | [c] => [c]
  | c :: d :: t => if c = '0' && (d = 'x' || d = 'X') then t else c :: d :: t

/-- The digits of a wire value. -/
def wireDigits (t : Text) : Text := dropHexMark t.strip

/-- Reads a wire value. -/
def wireBytes (label : Value) : Value → Except Failure Bytes
  | .bytes bytes => .ok bytes
  | .str t =>
    let digits := wireDigits t
    if digits.length % 2 = 1 then .error (refuse label " has an odd number of hex digits")
    else match Hex.decode digits with
      | .ok bytes => .ok bytes
      | .error _ => .error (refuse label " is not valid hex")
  | _ => .error (refuse label " must be a hex string")

/-- Reads a wire value of a field of the given width (`decode_hex`). -/
def decodeHex (width : Int) (label value : Value) : Except Failure Bytes :=
  (wireBytes label value).bind (pad width label)

/-- The wire form of bytes (`encode_hex`). -/
def encodeHex (bytes : Bytes) : Text := "0x" ++ Hex.encode bytes

/-- The stored form of bytes (`storage_hex`). -/
def storageHex (bytes : Bytes) : Text := Hex.encode bytes

/-- Reads a stored value; one that is missing or empty has no bytes. -/
def storedBytes (stored : Value) : Except Failure Bytes :=
  if !stored.isTruthy then .ok []
  else match stored with
    | .str t => (Hex.decode t).mapError fun refusal => .unusable (.notHex refusal)
    | .bytes b =>
      (Hex.decodePairs (b.map fun x => CodePoint.ofNat x.toNat)).mapError fun refusal =>
        .unusable (.notHex refusal)
    | _ => .error .wrongType

/-- Reads a stored value of a field of the given width (`from_storage_hex`). -/
def fromStorageHex (width : Int) (stored : Value) : Except Failure Bytes :=
  (storedBytes stored).bind (pad width .null)

/-- The key under which a contact's address is stored (`address_digest`). -/
def addressDigest (address : Bytes) : Text := Hex.encode (Blake2b.digest 16 address)

theorem storedBytes_storageHex (bytes : Bytes) :
    storedBytes (.str (storageHex bytes)) = .ok bytes := by
  cases bytes with
  | nil => rfl
  | cons b bytes =>
    have decoded := Hex.decode_encode (b :: bytes)
    simp only [storedBytes, storageHex, Value.isTruthy, decoded]
    rfl

/-- A stored value is read back, filled with zeros up to the width of its field. -/
theorem fromStorageHex_storageHex {width : Int} {bytes : Bytes}
    (h : (bytes.length : Int) ≤ width) :
    fromStorageHex width (.str (storageHex bytes)) = .ok (Bytes.fill width bytes) := by
  simp only [fromStorageHex, storedBytes_storageHex, Except.bind]
  exact pad_eq_ok_iff.mpr ⟨h, rfl⟩

end Rendezvous.Field
