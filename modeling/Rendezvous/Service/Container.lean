/-
  The services, and the container that makes and keeps them (`ServiceContainer`).

  There is a registry of identities, a contact book and a channel for signals.
  The container makes a service when it is first asked for by name, and gives the
  same one until it is cleared; other services can be put in place under any name.
-/
import Rendezvous.Store.Call

namespace Rendezvous

/-- Where the service runs: the name of the deployment, and its tables. -/
structure Site where
  environment : Text
  tables : TableNames
  deriving DecidableEq, Repr

/-- The registry of identities and their nicknames (`IdentityRegistry`). -/
structure Registry where
  site : Site
  deriving DecidableEq, Repr

/-- The contact books of all owners (`ContactBook`). -/
structure ContactBook where
  site : Site
  deriving DecidableEq, Repr

/-- A channel for signals (`SignalChannel`); `slot` is where its transport is kept. -/
structure Channel where
  site : Site
  slot : Nat
  deriving DecidableEq, Repr

/-- How a channel delivers signals (`NotificationTransport`). -/
inductive Transport where
  /-- as events on a bus; `connected` tells whether its client is open -/
  | bus (name source : Value) (connected : Bool)
  /-- into a record of what was sent, or not at all but with a failure -/
  | recording (failure : Option Failure)
  /-- in no way yet -/
  | undefined
  deriving Repr

/-- A service. -/
inductive Service where
  | registry (r : Registry)
  | contactBook (b : ContactBook)
  | channel (c : Channel)
  deriving DecidableEq, Repr

/-- The services made so far, by the keys of their names, each with a number of its own
    (`ServiceContainer`). -/
structure Container where
  site : Site
  services : List (Key × Nat × Service)
  next : Nat
  deriving Repr

namespace Container

/-- No services. -/
def empty (site : Site) : Container := ⟨site, [], 0⟩

/-- The service that is made for a name (`ServiceContainer._create_service`). -/
def make (c : Container) (name : Value) : Except Failure Service :=
  if name.isText "identity_registry" then .ok (.registry ⟨c.site⟩)
  else if name.isText "contact_book" then .ok (.contactBook ⟨c.site⟩)
  else if name.isText "signal_channel" then .ok (.channel ⟨c.site, c.next⟩)
  else .error (.badValue ("Unknown service: " ++ name.display))

/-- A container with a service in place under a key (`ServiceContainer.register_service`). -/
def register (key : Key) (service : Service) (c : Container) : Container :=
  { c with
    services := (key, c.next, service) :: c.services.filter (·.1 ≠ key)
    next := c.next + 1 }

/-- The service of a name and its key, made if it is not there yet. -/
def resolveAt (key : Key) (name : Value) (c : Container) :
    Except Failure (Nat × Service) × Container :=
  match c.services.lookup key with
  | some found => (.ok found, c)
  | none =>
    match c.make name with
    | .ok service => (.ok (c.next, service), c.register key service)
    | .error failure => (.error failure, c)

/-- The service of a name with its number, and the container after it was asked for
    (`ServiceContainer.get_service`). -/
def resolve (name : Value) (c : Container) : Except Failure (Nat × Service) × Container :=
  match name.key with
  | .ok key => c.resolveAt key name
  | .error failure => (.error failure, c)

/-- A container that has forgotten its services (`ServiceContainer.clear_services`). -/
def clear (c : Container) : Container := { c with services := [] }

end Container

end Rendezvous
