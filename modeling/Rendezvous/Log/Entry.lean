/-
  Log entries, and the line that each is written as (`RegistryLogger`).

  An entry names its source, a level and a message, and carries fields of its
  own.  On its line it is an object that starts with the time, the level, the
  source, the environment and the message; a field with one of these names takes
  the place of what stood there.
-/
import Rendezvous.Instant
import Rendezvous.Json.Printer

namespace Rendezvous.Log

/-- How much an entry matters. -/
inductive Level where
  | debug
  | info
  | warning
  | error
  deriving DecidableEq, Repr

/-- The name of a level. -/
def Level.name : Level → Text
  | .debug => "DEBUG"
  | .info => "INFO"
  | .warning => "WARNING"
  | .error => "ERROR"

/-- Something that happened. -/
structure Entry where
  source : Value
  level : Level
  message : Value
  fields : Object
  deriving Repr

/-- What all entries of a deployment share: its name, and whether it writes debug entries. -/
structure Journal where
  environment : Value
  debug : Bool
  deriving Repr

/-- The object of an entry. -/
def Entry.toObject (e : Entry) (now : Instant) (environment : Value) : Object :=
  Object.merge
    [("timestamp", .str now.isoText), ("level", .str e.level.name), ("service", e.source),
     ("environment", environment), ("message", e.message)] e.fields

/-- The line of an entry (`_log`). -/
def Entry.line (e : Entry) (now : Instant) (environment : Value) : Text :=
  Json.print (.obj (e.toObject now environment))

/-- The line that a journal writes for an entry (`debug`): none for a debug entry while those are
    off. -/
def Journal.line? (j : Journal) (now : Instant) (e : Entry) : Option Text :=
  if e.level = .debug && !j.debug then none else some (e.line now j.environment)

end Rendezvous.Log
