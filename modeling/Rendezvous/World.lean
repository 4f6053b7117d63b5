/-
  The outside world in memory.

  The world holds the tables, the services and what was sent, and it can be told
  to go wrong: calls to the store can be made to fail, other writers can be let in
  before a registration, and the event bus can be given replies.

  * `World.reply` answers a question;
  * `Act.run` runs a program to its end in a world; `run_bind` and `run_attempt`
    take the run of a program apart.
-/
import Rendezvous.Act
import Rendezvous.Store.Tables

namespace Rendezvous

/-- A failure that waits for a call to the store of an operation, after some more
    calls of that operation. -/
structure Fault where
  operation : Text
  failure : Failure
  skip : Nat
  deriving Repr

/-- An item that another writer puts into its table; a record or a contact under the
    key of its identity or owner. -/
inductive Intrusion where
  | identity (key : Key) (item : IdentityItem)
  | binding (item : BindingItem)
  | contact (owner : Key) (item : ContactItem)
  deriving Repr

/-- The tables after another writer has put an item. -/
def Intrusion.apply (tables : Tables) : Intrusion → Tables
  | .identity key item => tables.putIdentity key item
  | .binding item => tables.putBinding item
  | .contact owner item => tables.putContact owner item

/-- The outside world. -/
structure World where
  journal : Log.Journal
  clock : Instant
  readings : List Value
  env : Environment
  tables : Tables
  faults : List Fault
  intruders : List Intrusion
  replies : List (Except Failure Value)
  container : Container
  transports : List (Nat × Transport)
  published : List Value
  clients : List (Text × Text)
  lines : List Text

namespace World

/-- A world where nothing has happened. -/
def initial (site : Site) (debug : Bool) (clock : Instant) (env : Environment) : World :=
  { journal := ⟨.str site.environment, debug⟩
    clock := clock
    readings := []
    env := env
    tables := .empty
    faults := []
    intruders := []
    replies := []
    container := .empty site
    transports := []
    published := []
    clients := []
    lines := [] }

/-! ## The store -/

/-- The failure that waits for a call of an operation, and the faults that are
    left; each fault that lets the call pass waits for one call less. -/
def takeFault (operation : Text) : List Fault → Option Failure × List Fault
  | [] => (none, [])
  | fault :: faults =>
    if fault.operation = operation then
      if fault.skip = 0 then (some fault.failure, faults)
      else
        let (failure, rest) := takeFault operation faults
        (failure, { fault with skip := fault.skip - 1 } :: rest)
    else
      let (failure, rest) := takeFault operation faults
      (failure, fault :: rest)

/-- The world after the other writers have put their items. -/
def letIn (w : World) : World :=
  { w with tables := w.intruders.foldl Intrusion.apply w.tables, intruders := [] }

/-- Whether other writers get in before a call. -/
def isRaced : StoreCall → Bool
  | .register _ _ => true
  | _ => false

/-- The answer of the tables to a call. -/
def callTables (w : World) (call : StoreCall) : Except Failure call.Result × World :=
  let (answer, tables) := w.tables.call call
  (answer, { w with tables := tables })

/-- The answer of the store to a call: a fault goes before everything else. -/
def callStore (w : World) (call : StoreCall) : Except Failure call.Result × World :=
  match takeFault call.operation w.faults with
  | (some failure, faults) => (.error failure, { w with faults := faults })
  | (none, faults) =>
    let w := { w with faults := faults }
    (if isRaced call then w.letIn else w).callTables call

/-! ## The event bus -/

/-- The reply of the bus where nothing else was asked for. -/
def acceptance : Value :=
  .obj [("FailedEntryCount", .int 0), ("Entries", .arr [.obj [("EventId", .str "1")]])]

/-- The reply of the bus to an entry.  An entry is published unless the bus fails. -/
def putEvent (w : World) (entry : Object) : Except Failure Value × World :=
  match w.replies with
  | [] => (.ok acceptance, { w with published := w.published ++ [.obj entry] })
  | .ok reply :: replies =>
    (.ok reply, { w with replies := replies, published := w.published ++ [.obj entry] })
  | .error failure :: replies => (.error failure, { w with replies := replies })

/-! ## Replies -/

/-- The world after an entry was logged. -/
def log (w : World) (entry : Log.Entry) : World :=
  { w with lines := w.lines ++ (w.journal.line? w.clock entry).toList }

/-- The reading of the stopwatch; it stands still at zero after the last one. -/
def readStopwatch (w : World) : Value × World :=
  match w.readings with
  | [] => (.float .zero, w)
  | reading :: readings => (reading, { w with readings := readings })

/-- The world with a transport for a channel. -/
def keepTransport (w : World) (slot : Nat) (transport : Transport) : World :=
  { w with transports := (slot, transport) :: w.transports.filter (·.1 ≠ slot) }

/-- The service of a name, and the world after it was asked for. -/
def resolve (w : World) (name : Value) : Except Failure (Nat × Service) × World :=
  let (found, container) := w.container.resolve name
  (found, { w with container := container })

/-- The world with a new channel under a key, delivering by a transport. -/
def install (w : World) (key : Key) (transport : Transport) : World :=
  let slot := w.container.next
  let container := w.container.register key (.channel ⟨w.container.site, slot⟩)
  { w with container := container }.keepTransport slot transport

/-- The reply to a question, and the world after it. -/
def reply (w : World) : (q : Query) → q.Reply × World
  | .now => (w.clock, w)
  | .stopwatch => w.readStopwatch
  | .environment => (w.env, w)
  | .log entry => ((), w.log entry)
  | .store call => w.callStore call
  | .service name =>
    let (found, w) := w.resolve name
    (found.map (·.2), w)
  | .transport slot => (w.transports.lookup slot, w)
  | .keepTransport slot transport => ((), w.keepTransport slot transport)
  | .openClient service region => ((), { w with clients := w.clients ++ [(service, region)] })
  | .putEvent entry => w.putEvent entry
  | .record event => ((), { w with published := w.published ++ [.obj event] })

end World

/-- How a program ends in a world, and the world after it. -/
def Act.run {α : Type} : Act α → World → Except Failure α × World
  | .done a, w => (.ok a, w)
  | .fail failure, w => (.error failure, w)
  | .ask q next, w => (next (w.reply q).1).run (w.reply q).2

namespace Act

variable {α β : Type}

@[simp] theorem run_done (a : α) (w : World) : (Act.done a).run w = (.ok a, w) := rfl

@[simp] theorem run_fail (failure : Failure) (w : World) :
    (Act.fail failure : Act α).run w = (.error failure, w) := rfl

@[simp] theorem run_ask (q : Query) (next : q.Reply → Act α) (w : World) :
    (Act.ask q next).run w = (next (w.reply q).1).run (w.reply q).2 := rfl

/-- A program goes on where the first part of it has ended, unless that has failed. -/
theorem run_bind (act : Act α) (f : α → Act β) (w : World) :
    (act.bind f).run w =
      match act.run w with
      | (.ok a, w) => (f a).run w
      | (.error failure, w) => (.error failure, w) := by
  induction act generalizing w with
  | done => rfl
  | fail => rfl
  | ask q next ih => exact ih _ _

/-- A program that tells how another one ends does not fail, and does the same to the world. -/
theorem run_attempt (act : Act α) (w : World) :
    act.attempt.run w = (.ok (act.run w).1, (act.run w).2) := by
  induction act generalizing w with
  | done => rfl
  | fail => rfl
  | ask q next ih => exact ih _ _

end Act

end Rendezvous
