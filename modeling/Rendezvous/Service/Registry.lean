/-
  The registry (`IdentityRegistry`) binds identities to nicknames, one to one and for good.

  A record is kept for each identity and a binding for each nickname.  Both are
  put in one step that succeeds only if neither key is taken, so that a caller who
  was overtaken by another one is turned away instead of half registered.

  * `register` binds a nickname and an address to a caller;
  * `isRegistered`, `findRecord`, `getRecord` look identities up,
    `resolveNickname` and `nicknameTaken` nicknames;
  * `registerGiven` and `resolveGiven` take a nickname and an address of any type.
-/
import Rendezvous.Diagnosis
import Rendezvous.Record
import Rendezvous.Stamp

namespace Rendezvous

namespace IdentityItem

/-- The value that an item holds for an identity (`IdentityRecord.to_value`). -/
def toRecord (item : IdentityItem) : Except Failure AddressRecord := do
  let address ← Field.fromStorageHex Field.address.width (Value.ofText? item.address)
  let nickname ← Field.fromStorageHex Field.nickname.width (Value.ofText? item.nickname)
  return ⟨address, nickname⟩

/-- The item of a registration. -/
def make (now : Instant) (identity : Value) (nickname address : Bytes) : IdentityItem :=
  ⟨identity, some (Field.storageHex address), some (Field.storageHex nickname),
    some now.stampText, []⟩

end IdentityItem

/-- The binding that belongs to a registration. -/
def BindingItem.make (now : Instant) (identity : Value) (nickname : Bytes) : BindingItem :=
  ⟨Field.storageHex nickname, identity, some now.stampText, []⟩

namespace Registry

/-- The source of the registry's log entries. -/
def source : Text := "identity-registry"

/-- The name of the table of records. -/
def recordTable (r : Registry) : Text := r.site.tables.identities

/-- The name of the table of bindings. -/
def bindingTable (r : Registry) : Text := r.site.tables.nicknames

/-! ## Items -/

/-- The item of an identity as it is read: one with a bad stamp cannot be. -/
def readItem (r : Registry) (identity : Value) : Act (Option IdentityItem) := do
  let item ← Act.store r.site (.getIdentity identity)
  Stamp.check (item.bind (·.createdAt))
  return item

/-- The binding of a nickname as it is read: one with a bad stamp cannot be. -/
def readBinding (r : Registry) (key : Text) : Act (Option BindingItem) := do
  let item ← Act.store r.site (.getBinding key)
  Stamp.check (item.bind (·.createdAt))
  return item

/-- The item of an identity, if it is registered (`IdentityRecord.find`). -/
def findItem (r : Registry) (identity : Value) : Act (Option IdentityItem) := do
  let absent : Act (Option IdentityItem) := do
    Act.note source (.plain .debug (.str "Identity not registered")) [("identity", identity)]
    return none
  match ← (r.readItem identity).attempt with
  | .ok (some item) =>
    Act.note source (.table (.str r.recordTable) (.str "get") (.bool true))
      [("identity", identity)]
    return some item
  | .ok none => absent
  | .error (.table .doesNotExist _) => absent
  | .error failure => Act.failStorage "get_identity_record" r.recordTable failure

/-- The binding of a nickname cannot be read. -/
def failBinding {α : Type} (r : Registry) (failure : Failure) : Act α :=
  Act.failStorage "get_nickname_binding" r.bindingTable failure

/-- The binding of a nickname, if it has one (`NicknameBinding.find`). -/
def findBinding (r : Registry) (nickname : Bytes) : Act (Option BindingItem) := do
  let key := Field.storageHex nickname
  let absent : Act (Option BindingItem) := do
    Act.note source (.plain .debug (.str "Nickname not bound")) [("nickname", .str key)]
    return none
  match ← (r.readBinding key).attempt with
  | .ok (some item) =>
    Act.note source (.table (.str r.bindingTable) (.str "get") (.bool true))
      [("identity", item.identity)]
    return some item
  | .ok none => absent
  | .error (.table .doesNotExist _) => absent
  | .error failure => r.failBinding failure

/-! ## Looking up -/

/-- Whether an identity is registered (`IdentityRegistry.is_registered`). -/
def isRegistered (r : Registry) (identity : Value) : Act Bool := do
  return (← r.findItem identity).isSome

/-- The record of an identity, if it is registered (`IdentityRegistry.find_record`). -/
def findRecord (r : Registry) (identity : Value) : Act (Option AddressRecord) := do
  match ← r.findItem identity with
  | some item => return some (← item.toRecord)
  | none => return none

/-- The record of an identity, the empty one if it is not registered
    (`IdentityRegistry.get_record`). -/
def getRecord (r : Registry) (identity : Value) : Act AddressRecord := do
  return (← r.findRecord identity).getD AddressRecord.empty

/-- The identity that a nickname belongs to, null if there is none
    (`IdentityRegistry.resolve_nickname`). -/
def resolveNickname (r : Registry) (nickname : Bytes) : Act Value := do
  return ((← r.findBinding nickname).map (·.identity)).getD .null

/-- Whether a nickname belongs to an identity (`IdentityRegistry.nickname_taken`). -/
def nicknameTaken (r : Registry) (nickname : Bytes) : Act Bool := do
  match ← r.resolveNickname nickname with
  | .null => return false
  | _ => return true

/-! ## Registering -/

/-- Fails if the caller has a nickname. -/
def ensureUnregistered (r : Registry) (caller : Value) : Act Unit := do
  if ← r.isRegistered caller then
    Act.note source (.plain .info (.str "Registration rejected: identity already bound"))
      [("identity", caller)]
    Act.fail (.service (.identityTaken caller))

/-- Fails if the nickname belongs to somebody. -/
def ensureFree (r : Registry) (caller : Value) (nickname : Bytes) : Act Unit := do
  if ← r.nicknameTaken nickname then
    let shown : Value := .str (Field.decodeNickname nickname)
    Act.note source (.plain .info (.str "Registration rejected: nickname already bound"))
      [("identity", caller), ("nickname", shown)]
    Act.fail (.service (.nicknameTaken shown))

/-- Fails if the caller has a nickname, or else if the nickname belongs to somebody
    (`IdentityRegistry._ensure_available`). -/
def ensureAvailable (r : Registry) (caller : Value) (nickname : Bytes) : Act Unit := do
  r.ensureUnregistered caller
  r.ensureFree caller nickname

/-- A caller that can be put into an item: anything but null. -/
def requireCaller : Value → Except Failure Unit
  | .null => .error (.unusable (.attributeMissing "identity"))
  | _ => .ok ()

/-- Binds a nickname and an address to a caller (`IdentityRegistry.register`).  If both items
    cannot be put, the tables are asked again which of the two was taken meanwhile. -/
def register (r : Registry) (caller : Value) (nickname address : Bytes) : Act AddressRecord := do
  r.ensureAvailable caller nickname
  requireCaller caller
  let now ← Act.now
  let item := IdentityItem.make now caller nickname address
  match ← (Act.store r.site (.register item (.make now caller nickname))).attempt with
  | .ok () => pure ()
  | .error (.table .transactWrite message) =>
    r.ensureAvailable caller nickname
    Act.failStorage "register" r.recordTable (.table .transactWrite message)
  | .error failure => Act.fail failure
  Act.note source (.carriedOut (.str "register") caller)
    [("nickname", .str (Field.decodeNickname nickname))]
  item.toRecord

/-! ## Nicknames and addresses of any type -/

/-- The identity that a nickname of any type belongs to; only bytes have a binding. -/
def resolveGiven (r : Registry) (nickname : Value) : Act Value := do
  match nickname.asBytes with
  | .ok bytes => r.resolveNickname bytes
  | .error failure => r.failBinding failure

/-- Whether a nickname of any type belongs to an identity. -/
def takenGiven (r : Registry) (nickname : Value) : Act Bool := do
  match nickname.asBytes with
  | .ok bytes => r.nicknameTaken bytes
  | .error failure => r.failBinding failure

/-- Binds a nickname and an address of any type.  What are not bytes is refused where it
    is first needed: a nickname when its binding is read, an address when its item is made. -/
def registerGiven (r : Registry) (caller nickname address : Value) : Act AddressRecord := do
  match nickname.asBytes, address.asBytes with
  | .ok nickname, .ok address => r.register caller nickname address
  | .ok nickname, .error failure =>
    r.ensureAvailable caller nickname
    Act.fail failure
  | .error failure, _ =>
    r.ensureUnregistered caller
    r.failBinding failure

end Registry

end Rendezvous
