/-
  Registering the caller, and looking registrations up.
-/
import Rendezvous.Operation.Basic
import Rendezvous.Service.Registry

namespace Rendezvous.Function

/-- Binds the caller to the nickname and the address of the request, once and for all
    (`identity-register`). -/
def identityRegister : Function where
  name := "identity-register"
  required := ["address"]
  run request := do
    if !Field.hasNickname request.body then
      Act.fail (.atField "Missing required fields: nickname" (.str "nickname"))
    let nickname ← Field.bytesIn request.body "nickname"
    let address ← Field.bytesIn request.body "address"
    let service ← Act.service "identity_registry"
    let record ← (← service.asRegistry).register (.str request.caller) nickname address
    success "identity-register" .register
      [("record", .obj (record.toObject (.str request.caller) (.bool true)))] []

/-- The identity that a request asks about, and whether by nickname or by identity. -/
def wantedIdentity (service : Service) (request : Request) : Act (Value × Text) := do
  if Field.hasNickname request.body then
    let nickname ← Field.bytesIn request.body "nickname"
    return (← (← service.asRegistry).resolveNickname nickname, "nickname")
  let given := Object.fieldOrNull "identity" request.body
  if given.isTruthy then
    return (.str (← Identity.validate (.str "identity") given), "identity")
  return (.str request.caller, "identity")

/-- The record of an identity, none where the identity is null or empty. -/
def recordOf (service : Service) (identity : Value) : Act (Option AddressRecord) := do
  if identity.isTruthy then (← service.asRegistry).findRecord identity else return none

/-- Looks a registration up (`identity-get`): by nickname, by identity, or that of the caller. -/
def identityGet : Function where
  name := "identity-get"
  required := []
  run request := do
    let service ← Act.service "identity_registry"
    let (identity, lookup) ← wantedIdentity service request
    let found ← recordOf service identity
    let record := found.getD AddressRecord.empty
    success "identity-get" .getIdentity
      [("record", .obj (record.toObject identity (.bool found.isSome)))] [("lookup", .str lookup)]

end Rendezvous.Function
