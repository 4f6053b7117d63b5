/-
  Nicknames as bytes and as text.

  Any 21 bytes are a nickname.  A nickname given as text is its UTF-8 form; the
  text shown for a nickname is read from its bytes up to the trailing zeros.
-/
import Rendezvous.Field.Basic

namespace Rendezvous.Field

/-- The bytes of a nickname given as text or as bytes, of whatever length. -/
def nicknameBytes (label : Value) : Value → Except Failure Bytes
  | .str t =>
    match t.utf8? with
    | .ok bytes => .ok bytes
    | .error run => .error (.unusable (.unencodable run))
  | .bytes bytes => .ok bytes
  | _ => .error (.atField "Nickname must be a string" label)

/-- A nickname given as text or as bytes (`encode_nickname`). -/
def encodeNickname (label value : Value) : Except Failure Bytes :=
  (nicknameBytes label value).bind (pad Field.nickname.width label)

/-- The text shown for a nickname (`decode_nickname`). -/
def decodeNickname (nickname : Bytes) : Text := Text.ofUtf8 (Bytes.trim nickname)

end Rendezvous.Field
