/-
  Contact books (`ContactBook`): what each owner keeps about the contacts at their addresses.

  A contact is stored under its owner and the digest of its address, with the
  address on the item.  An item found under the digest of another address does
  not count as a contact of the address asked for.

  * `upsert` and `remove` write, `get`, `contains` and `list` read;
  * `upsertGiven`, `removeGiven`, `getGiven` and `containsGiven` take an address of
    any type.
-/
import Rendezvous.Diagnosis
import Rendezvous.Record
import Rendezvous.Stamp

namespace Rendezvous

namespace ContactItem

/-- The item of a contact (`Contact.build`). -/
def make (now : Instant) (owner : Value) (address name : Bytes) : ContactItem :=
  ⟨owner, Field.addressDigest address, some (Field.storageHex address),
    some (Field.storageHex name), some now.stampText, []⟩

/-- The address that an item holds (`Contact.address_bytes`). -/
def addressBytes (item : ContactItem) : Except Failure Bytes :=
  Field.fromStorageHex Field.contactAddress.width (Value.ofText? item.address)

/-- The value that an item holds for its contact (`Contact.to_value`). -/
def toRecord (item : ContactItem) : Except Failure ContactRecord :=
  (Field.fromStorageHex Field.contactName.width (Value.ofText? item.name)).map .mk

/-- An item as an entry of a list; one with a bad stamp cannot be read. -/
def toEntry (item : ContactItem) : Except Failure (Bytes × ContactRecord) := do
  Stamp.check item.updatedAt
  let address ← item.addressBytes
  let record ← item.toRecord
  return (address, record)

/-- An item that can be put: one with an owner. -/
def requireOwner (item : ContactItem) : Except Failure Unit :=
  match item.owner with
  | .null => .error (.unusable (.attributeMissing "owner"))
  | _ => .ok ()

end ContactItem

namespace ContactBook

/-- The source of the book's log entries. -/
def source : Text := "contact-book"

/-- The name of the table of contacts (`ContactBook.table_name`). -/
def table (b : ContactBook) : Text := b.site.tables.contacts

/-- A contact cannot be read. -/
def failContact {α : Type} (b : ContactBook) (failure : Failure) : Act α :=
  Act.failStorage "get_contact" b.table failure

/-- Logs what was done to a table. -/
def logDone (b : ContactBook) (operation : Text) (extra : Object) : Act Unit :=
  Act.note source (.table (.str b.table) (.str operation) (.bool true)) extra

/-- The item of a contact as it is read: one with a bad stamp cannot be. -/
def readItem (b : ContactBook) (owner : Value) (address : Bytes) : Act (Option ContactItem) := do
  let item ← Act.store b.site (.getContact owner (Field.addressDigest address))
  Stamp.check (item.bind (·.updatedAt))
  return item

/-- The item of a contact, if it is in the book (`Contact.find`). -/
def findItem (b : ContactBook) (owner : Value) (address : Bytes) : Act (Option ContactItem) := do
  match ← (b.readItem owner address).attempt with
  | .ok (some item) =>
    if (← item.addressBytes) = address then return some item
    Act.note source (.plain .warning (.str "Contact digest matched a different address"))
      [("owner", owner)]
    return none
  | .ok none => return none
  | .error (.table .doesNotExist _) => return none
  | .error failure => b.failContact failure

/-- Puts an item into the book, if it can be put (`Contact.save`). -/
def putItem (b : ContactBook) (item : ContactItem) : Act Unit := do
  item.requireOwner
  Act.store b.site (.putContact item)

/-- Puts a contact into the book, in place of what was there (`ContactBook.upsert`). -/
def upsert (b : ContactBook) (owner : Value) (address name : Bytes) : Act ContactRecord := do
  let now ← Act.now
  let item := ContactItem.make now owner address name
  match ← (b.putItem item).attempt with
  | .ok () => pure ()
  | .error failure => Act.failStorage "upsert_contact" b.table failure
  b.logDone "upsert" [("owner", owner), ("contact_key", .str item.key)]
  item.toRecord

/-- Takes a contact out of the book, if it is there (`ContactBook.remove`). -/
def remove (b : ContactBook) (owner : Value) (address : Bytes) : Act Unit := do
  let key := Field.addressDigest address
  match ← (Act.store b.site (.deleteContact owner key)).attempt with
  | .ok () => pure ()
  | .error failure => Act.failStorage "remove_contact" b.table failure
  b.logDone "remove" [("owner", owner), ("contact_key", .str key)]

/-- The record of a contact, the empty one if it is not in the book (`ContactBook.get`). -/
def get (b : ContactBook) (owner : Value) (address : Bytes) : Act ContactRecord := do
  match ← b.findItem owner address with
  | some item => item.toRecord
  | none => return ContactRecord.empty

/-- Whether a contact is in the book (`ContactBook.contains`). -/
def contains (b : ContactBook) (owner : Value) (address : Bytes) : Act Bool := do
  return (← b.findItem owner address).isSome

/-- All contacts of an owner, by ascending digest of their addresses
    (`ContactBook.list_contacts`). -/
def list (b : ContactBook) (owner : Value) : Act (List (Bytes × ContactRecord)) := do
  let entries : Act (List (Bytes × ContactRecord)) := do
    let items ← Act.store b.site (.queryContacts owner)
    Act.ofExcept (items.mapM ContactItem.toEntry)
  match ← entries.attempt with
  | .ok contacts =>
    b.logDone "query" [("owner", owner), ("result_count", .int contacts.length)]
    return contacts
  | .error failure => Act.failStorage "list_contacts" b.table failure

/-! ## Addresses and names of any type -/

/-- An address of any type; only bytes have a digest. -/
def addressOf : Value → Except Failure Bytes
  | .bytes address => .ok address
  | v => .error (Field.undigestible v)

/-- Puts a contact of any type into the book: its address and its name have to be bytes. -/
def upsertGiven (b : ContactBook) (owner address name : Value) : Act ContactRecord := do
  let address ← addressOf address
  b.upsert owner address (← name.asBytes)

/-- Takes a contact out of the book; its address has to be bytes. -/
def removeGiven (b : ContactBook) (owner address : Value) : Act Unit := do
  b.remove owner (← addressOf address)

/-- The record of a contact; one whose address is not bytes cannot be read. -/
def getGiven (b : ContactBook) (owner address : Value) : Act ContactRecord := do
  match addressOf address with
  | .ok address => b.get owner address
  | .error failure => b.failContact failure

/-- Whether a contact is in the book; one whose address is not bytes cannot be read. -/
def containsGiven (b : ContactBook) (owner address : Value) : Act Bool := do
  match addressOf address with
  | .ok address => b.contains owner address
  | .error failure => b.failContact failure

end ContactBook

end Rendezvous
