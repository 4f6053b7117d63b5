/-
  Records of identities and contacts, and their form in responses.
-/
import Rendezvous.Field.Fit

namespace Rendezvous

/-- What is registered for an identity (`AddressRecord`). -/
structure AddressRecord where
  address : Bytes
  nickname : Bytes
  deriving DecidableEq, Repr

/-- What an owner keeps about a contact (`ContactRecord`). -/
structure ContactRecord where
  name : Bytes
  deriving DecidableEq, Repr

/-- The record of an identity that never registered (`AddressRecord.empty`): nothing but zeros. -/
def AddressRecord.empty : AddressRecord := ⟨Field.address.zeros, Field.nickname.zeros⟩

/-- The record of a contact that is not in the book (`ContactRecord.empty`): nothing but zeros. -/
def ContactRecord.empty : ContactRecord := ⟨Field.contactName.zeros⟩

/-- The form of an identity's record in responses (`address_record_to_dict`). -/
def AddressRecord.toObject (identity registered : Value) (r : AddressRecord) : Object :=
  [("identity", identity), ("registered", registered),
   ("nickname", .str (Field.decodeNickname r.nickname)),
   ("nickname_hex", .str (Field.encodeHex r.nickname)),
   ("address", .str (Field.encodeHex r.address))]

/-- The form of a contact in responses (`contact_to_dict`). -/
def ContactRecord.toObject (owner : Value) (address : Bytes) (r : ContactRecord) : Object :=
  [("owner", owner), ("addr", .str (Field.encodeHex address)),
   ("name", .str (Field.encodeHex r.name))]

/-- The record of a nickname and an address, which are shown in this order. -/
def AddressRecord.ofValues (address nickname : Value) : Except Failure AddressRecord := do
  let _ ← Field.decodeNicknameOf nickname
  let nickname ← nickname.asBytes
  return ⟨← address.asBytes, nickname⟩

/-- The address of a contact and its record, which are shown in this order. -/
def ContactRecord.ofValues (address name : Value) : Except Failure (Bytes × ContactRecord) := do
  let address ← address.asBytes
  return (address, ⟨← name.asBytes⟩)

end Rendezvous
