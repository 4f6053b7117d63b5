/-
  Programs that act on the outside world.

  A program is done, has failed, or asks something of the world and goes on with
  the reply.  Nothing is said here about who replies: the same program runs
  against the world in memory, and step by step between the steps of others.

  * `Query` are the questions, `Query.Reply` the replies;
  * `Act` are the programs, with `Act.attempt` to go on after a failure.
-/
import Rendezvous.Config.Environment
import Rendezvous.Log.Note
import Rendezvous.Service.Container

namespace Rendezvous

/-- What a program asks of the world. -/
inductive Query where
  /-- the time -/
  | now
  /-- the reading of a stopwatch, a number of seconds unless it is broken -/
  | stopwatch
  /-- the environment variables -/
  | environment
  /-- to log an entry -/
  | log (entry : Log.Entry)
  /-- to make a call to the store -/
  | store (call : StoreCall)
  /-- for the service of a name -/
  | service (name : Value)
  /-- for the transport of a channel, if it has one -/
  | transport (slot : Nat)
  /-- to keep a transport for a channel -/
  | keepTransport (slot : Nat) (transport : Transport)
  /-- to open a client to a remote service in a region -/
  | openClient (service region : Text)
  /-- to put an entry on the event bus -/
  | putEvent (entry : Object)
  /-- to keep a record of a signal -/
  | record (event : Object)

/-- The reply to a question. -/
abbrev Query.Reply : Query → Type
  | .now => Instant
  | .stopwatch => Value
  | .environment => Environment
  | .log _ => Unit
  | .store call => Except Failure call.Result
  | .service _ => Except Failure Service
  | .transport _ => Option Transport
  | .keepTransport _ _ => Unit
  | .openClient _ _ => Unit
  | .putEvent _ => Except Failure Value
  | .record _ => Unit

/-- A program that ends with a result or a failure. -/
inductive Act (α : Type) where
  | done (a : α)
  | fail (failure : Failure)
  | ask (q : Query) (next : q.Reply → Act α)

namespace Act

variable {α β : Type}

/-- A program followed by another that depends on its result. -/
def bind (act : Act α) (f : α → Act β) : Act β :=
  match act with
  | .done a => f a
  | .fail failure => .fail failure
  | .ask q next => .ask q fun reply => (next reply).bind f

instance : Monad Act where
  pure := .done
  bind := bind

/-- A program that tells how another one ends. -/
def attempt : Act α → Act (Except Failure α)
  | .done a => .done (.ok a)
  | .fail failure => .done (.error failure)
  | .ask q next => .ask q fun reply => attempt (next reply)

/-- A result or failure as a program. -/
def ofExcept : Except Failure α → Act α
  | .ok a => .done a
  | .error failure => .fail failure

instance : MonadLift (Except Failure) Act := ⟨ofExcept⟩

/-- The time. -/
def now : Act Instant := .ask .now .done

/-- The reading of the stopwatch. -/
def stopwatch : Act Value := .ask .stopwatch .done

/-- The environment variables. -/
def environment : Act Environment := .ask .environment .done

/-- Logs an entry. -/
def log (entry : Log.Entry) : Act Unit := .ask (.log entry) .done

/-- Logs a note from a source, with further fields. -/
def note (source : Text) (n : Log.Note) (extra : Object) : Act Unit :=
  log (n.entry (.str source) extra)

/-- Makes a call to the store; its failure is told in the terms of the table library. -/
def store (site : Site) (call : StoreCall) : Act call.Result :=
  .ask (.store call) fun reply =>
    ofExcept (Except.mapError (call.explain site.tables) reply)

/-- The service of a name. -/
def service (name : Text) : Act Service := .ask (.service (.str name)) ofExcept

@[simp] theorem pure_eq (a : α) : (pure a : Act α) = .done a := rfl

@[simp] theorem bind_eq (act : Act α) (f : α → Act β) : act >>= f = act.bind f := rfl

@[simp] theorem done_bind (a : α) (f : α → Act β) : (Act.done a).bind f = f a := rfl

@[simp] theorem fail_bind (failure : Failure) (f : α → Act β) :
    (Act.fail failure).bind f = .fail failure := rfl

@[simp] theorem ask_bind (q : Query) (next : q.Reply → Act α) (f : α → Act β) :
    (Act.ask q next).bind f = .ask q fun reply => (next reply).bind f := rfl

/-- It does not matter how three programs in a row are grouped. -/
theorem bind_assoc {γ : Type} (act : Act α) (f : α → Act β) (g : β → Act γ) :
    (act.bind f).bind g = act.bind fun a => (f a).bind g := by
  induction act with
  | done => rfl
  | fail => rfl
  | ask q next ih => simp [ih]

end Act

end Rendezvous
