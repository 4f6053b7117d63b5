/-
  Reading and writing the contacts of the caller.
-/
import Rendezvous.Operation.Basic
import Rendezvous.Service.ContactBook

namespace Rendezvous.Function

/-- Puts a contact into the caller's book (`contact-upsert`). -/
def contactUpsert : Function where
  name := "contact-upsert"
  required := ["name", "addr"]
  run request := do
    let name ← Field.bytesIn request.body "name"
    let address ← Field.bytesIn request.body "addr"
    let service ← Act.service "contact_book"
    let record ← (← service.asContactBook).upsert (.str request.caller) address name
    success "contact-upsert" .upsertContact
      [("contact", .obj (record.toObject (.str request.caller) address))] []

/-- Takes a contact out of the caller's book (`contact-remove`); one that is not there is none. -/
def contactRemove : Function where
  name := "contact-remove"
  required := ["addr"]
  run request := do
    let address ← Field.bytesIn request.body "addr"
    let service ← Act.service "contact_book"
    (← service.asContactBook).remove (.str request.caller) address
    success "contact-remove" .removeContact
      [("removed", .str (Field.encodeHex address)), ("owner", .str request.caller)] []

/-- Reads the contact at the address of the request, or lists all contacts of the caller
    (`contact-get`). -/
def contactGet : Function where
  name := "contact-get"
  required := []
  run request := do
    let service ← Act.service "contact_book"
    if (Object.fieldOrNull "addr" request.body).isTruthy then
      let address ← Field.bytesIn request.body "addr"
      let book ← service.asContactBook
      let record ← book.get (.str request.caller) address
      let present ← book.contains (.str request.caller) address
      let contact := Object.put "exists" (.bool present)
        (record.toObject (.str request.caller) address)
      success "contact-get" .getContact [("contact", .obj contact)] []
    else
      let contacts ← (← service.asContactBook).list (.str request.caller)
      let shown := contacts.map fun (address, record) =>
        Value.obj (record.toObject (.str request.caller) address)
      success "contact-get" .listContacts
        [("contacts", .arr shown), ("count", .int contacts.length)] []

end Rendezvous.Function
