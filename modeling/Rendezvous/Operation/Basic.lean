/-
  The operations of the service, and the functions that clients call them by.
-/
import Rendezvous.Dispatch.Handler

namespace Rendezvous

/-- The operations (`OperationConstants`). -/
inductive Operation where
  | offerChat
  | register
  | answerChat
  | upsertContact
  | removeContact
  | getIdentity
  | getContact
  | listContacts
  deriving DecidableEq, Repr

/-- The name of an operation. -/
def Operation.name : Operation → Text
  | .offerChat => "offer_chat"
  | .register => "register"
  | .answerChat => "answer_chat"
  | .upsertContact => "upsert_contact"
  | .removeContact => "remove_contact"
  | .getIdentity => "get_identity"
  | .getContact => "get_contact"
  | .listContacts => "list_contacts"

/-- A function that clients call: its name, the fields that it requires, and what it does. -/
structure Function where
  name : Text
  required : List Text
  run : Request → Act Value

namespace Function

/-- The name under which calls of all functions are logged. -/
def handlerName : Text := "lambda_handler"

/-- A function behind the dispatcher. -/
def handler (f : Function) : Handler := ⟨handlerName, Request.require f.required, true, f.run⟩

/-- Answers an event in the context of a call (`lambda_handler`). -/
def invoke (f : Function) (event context : Value) : Act Value := f.handler.handle event context

/-- The response of a function that was carried out: its data, and the operation it was. -/
def success (function : Text) (operation : Operation) (data metadata : Object) : Act Value := do
  let now ← Act.now
  return Response.success now
    (.obj (Object.put "operation" (.str operation.name) data)) metadata (.str function)

end Function

/-! ## Services in their role -/

/-- A service where a registry is called for. -/
def Service.asRegistry : Service → Except Failure Registry
  | .registry r => .ok r
  | _ => .error .noField

/-- A service where a contact book is called for. -/
def Service.asContactBook : Service → Except Failure ContactBook
  | .contactBook b => .ok b
  | _ => .error .noField

/-- A service where a channel is called for. -/
def Service.asChannel : Service → Except Failure Channel
  | .channel c => .ok c
  | _ => .error .noField

end Rendezvous
