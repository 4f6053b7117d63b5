/-
  The byte fields of a request body (`decode_fields`), and which fields a body lacks
  (`validate_required_fields`).

  A nickname comes in one of two fields: `nickname_hex` holds its exact bytes and
  goes before `nickname`, which holds text.
-/
import Rendezvous.Field.Hex
import Rendezvous.Field.Nickname

namespace Rendezvous.Field

/-- The fields that are written in hexadecimal, by their names in a request
    (`HEX_FIELD_WIDTHS`). -/
def wireFields : List (Text × Field) :=
  [("address", .address), ("welcome_msg", .welcomeMessage), ("offer", .payload),
   ("answer", .payload), ("name", .contactName), ("addr", .contactAddress)]

/-- Whether a field is absent, null or an empty text. -/
def isMissing (body : Object) (name : Text) : Bool :=
  match Object.field? name body with
  | none | some .null | some (.str []) => true
  | some _ => false

/-- The required fields that are missing (`validate_required_fields`): all of them in what is no
    object. -/
def missingFrom (required : List Text) : Value → List Text
  | .obj body => required.filter (isMissing body)
  | _ => required

/-- Whether a body carries a nickname in either form (`has_nickname`). -/
def hasNickname (body : Object) : Bool :=
  (Object.fieldOrNull "nickname_hex" body).isTruthy || (Object.fieldOrNull "nickname" body).isTruthy

/-- The nickname in a body (`decode_nickname_field`). -/
def nicknameIn (body : Object) : Except Failure Bytes :=
  let exact := Object.fieldOrNull "nickname_hex" body
  if exact.isTruthy then decodeHex Field.nickname.width (.str "nickname_hex") exact
  else encodeNickname (.str "nickname") (Object.fieldOrNull "nickname" body)

/-- The bytes of a named field of a body (`decode_fields`). -/
def bytesIn (body : Object) (name : Text) : Except Failure Bytes :=
  if name = "nickname" then nicknameIn body
  else match wireFields.lookup name with
    | some field => decodeHex field.width (.str name) (Object.fieldOrNull name body)
    | none => .error (.missingField name)

end Rendezvous.Field
