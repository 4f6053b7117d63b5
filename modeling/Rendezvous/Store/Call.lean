/-
  The three tables of the store, their items (`IdentityRecord`, `NicknameBinding`,
  `Contact`), and the calls made to them.

  Identities and nicknames are bound in two tables, one keyed by each; contacts
  are kept by owner and by the digest of their address.  Identities and owners are
  kept as they are given, all other attributes are texts.  An item may lack any
  attribute that is not part of its key, and have others besides.

  * `StoreCall.Result` is what a call answers;
  * `StoreCall.explain` tells a failed call in the terms of the table library.
-/
import Rendezvous.Template.Fill

namespace Rendezvous

/-! ## Items -/

/-- Attributes that an item has besides those of its table. -/
abbrev Extras := List (Text × Text)

/-- The record of an identity (`IdentityRecord`). -/
structure IdentityItem where
  identity : Value
  address : Option Text
  nickname : Option Text
  createdAt : Option Text
  extras : Extras
  deriving Repr

/-- The binding of a nickname to its identity (`NicknameBinding`); one that lacks it has null. -/
structure BindingItem where
  nickname : Text
  identity : Value
  createdAt : Option Text
  extras : Extras
  deriving Repr

/-- A contact of an owner (`Contact`). -/
structure ContactItem where
  owner : Value
  key : Text
  address : Option Text
  name : Option Text
  updatedAt : Option Text
  extras : Extras
  deriving Repr

/-- The names under which a deployment keeps the three tables. -/
structure TableNames where
  identities : Text
  nicknames : Text
  contacts : Text
  deriving DecidableEq, Repr

/-! ## Refusals -/

namespace Refusal

/-- The identifier of the refused request, where the answer tells it. -/
def requestText (r : Refusal) : Except Failure Text := do
  let headers ← ((r.metadata.field? "HTTPHeaders").getD .empty).fields
  return ((Object.field? "x-amzn-requestid" headers).getD (.str [])).display

/-- Refuses a reason without a code. -/
def checkReason (reason : Value) : Except Failure Unit := (reason.itemNamed "Code").map fun _ => ()

end Refusal

/-! ## Calls -/

/-- A call to the store. -/
inductive StoreCall where
  | getIdentity (identity : Value)
  | getBinding (nickname : Text)
  | getContact (owner : Value) (key : Text)
  | putContact (item : ContactItem)
  | deleteContact (owner : Value) (key : Text)
  | queryContacts (owner : Value)
  /-- puts a record and a binding if neither key is taken, and nothing otherwise -/
  | register (record : IdentityItem) (binding : BindingItem)
  deriving Repr

namespace StoreCall

/-- What a call answers. -/
abbrev Result : StoreCall → Type
  | .getIdentity _ => Option IdentityItem
  | .getBinding _ => Option BindingItem
  | .getContact _ _ => Option ContactItem
  | .putContact _ => Unit
  | .deleteContact _ _ => Unit
  | .queryContacts _ => List ContactItem
  | .register _ _ => Unit

/-- The name of the operation of a call. -/
def operation : StoreCall → Text
  | .getIdentity _ | .getBinding _ | .getContact _ _ => "GetItem"
  | .putContact _ => "PutItem"
  | .deleteContact _ _ => "DeleteItem"
  | .queryContacts _ => "Query"
  | .register _ _ => "TransactWriteItems"

/-- The table that a call is about. -/
def table (names : TableNames) : StoreCall → Text
  | .getIdentity _ | .register _ _ => names.identities
  | .getBinding _ => names.nicknames
  | .getContact _ _ | .putContact _ | .deleteContact _ _ | .queryContacts _ => names.contacts

/-- The kind of failure of a call, and its wording before the cause. -/
def fault : StoreCall → TableFault × Text
  | .getIdentity _ | .getBinding _ | .getContact _ _ => (.get, "Failed to get item: ")
  | .putContact _ => (.put, "Failed to put item: ")
  | .deleteContact _ _ => (.delete, "Failed to delete item: ")
  | .queryContacts _ => (.query, "Failed to query items: ")
  | .register _ _ => (.transactWrite, "Failed to write transaction items")

/-- The template of the wording of a refused call, its table named.  The identifier of the
    request is part of the template. -/
def refusalTemplate (names : TableNames) (call : StoreCall) (request : Text) : Text :=
  "An error occurred (\x7berror_code\x7d) on request (" ++ request ++ ") on table (" ++
    call.table names ++
    ") when calling the \x7boperation_name\x7d operation: \x7berror_message\x7d"

/-- What the template is filled in with. -/
def refusalFields (call : StoreCall) (r : Refusal) : Object :=
  [("error_code", r.code), ("operation_name", .str call.operation),
   ("error_message", r.told "Message"), ("retry_info", .str [])]

/-- The wording of a refused call.  Each reason for a refusal that is told has to have a
    code. -/
def refusalText (names : TableNames) (call : StoreCall) (r : Refusal) : Except Failure Text := do
  let request ← r.requestText
  (← r.reasons.items).forM Refusal.checkReason
  Template.fill (call.refusalFields r) (call.refusalTemplate names request)

/-- The wording of a remote failure of a call. -/
def cause (names : TableNames) (call : StoreCall) : RemoteError → Except Failure Text
  | .refused r => call.refusalText names r
  | e => .ok e.message

/-- The wording of a failed call after its cause; a failed transaction does not tell it. -/
def faultText (call : StoreCall) (cause : Text) : Text :=
  match call with
  | .register _ _ => call.fault.2
  | _ => call.fault.2 ++ cause

/-- A failed call in the terms of the table library: remote failures are told as
    failures of the operation, others as they are. -/
def explain (names : TableNames) (call : StoreCall) : Failure → Failure
  | .remote e =>
    match call.cause names e with
    | .ok text => .table call.fault.1 (call.faultText text)
    | .error failure => failure
  | failure => failure

end StoreCall

end Rendezvous
