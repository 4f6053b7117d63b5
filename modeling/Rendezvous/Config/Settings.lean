/-
  Settings from variables, from the parameter store, or by default (`Config`).

  A setting comes from the environment if it is given there, else from the
  parameter store, else it is the default.

  * `Config.parameter` looks a setting up;
  * `intParameter`, `boolParameter` and `listParameter` read it as an integer, a
    flag and a list.
-/
import Rendezvous.Config.Remote
import Rendezvous.Text.Digit
import Rendezvous.Text.Split

namespace Rendezvous

namespace Config

/-! ## Any setting -/

/-- The value that the variables give a setting, whose key has to make a name. -/
def settingOf (env : Environment) (key : Text) : Except Failure (Option Text) :=
  match Environment.unnameable? key with
  | some run => .error (.unusable (.unencodable run))
  | none => .ok (env.setting? key)

/-- The value of a setting (`get_parameter`). -/
def parameter (c : Config) (s : Surroundings) (key : Text) (default : Value) : Lookup Value := do
  match ← settingOf s.env key with
  | some t => return .str t
  | none =>
    match ← c.remoteParameter s key with
    | .null => return default
    | v => return v

/-- The key of a setting as text; what is no text has no uppercase form to look up. -/
def keyOf : Value → Except Failure Text
  | .str key => .ok key
  | .bytes _ => .error .wrongType
  | _ => .error .noField

/-- The integer that bytes spell, which have to be ASCII. -/
def intOfBytes? (b : Bytes) : Option Int :=
  let t : Text := b.map fun x => CodePoint.ofNat x.toNat
  if t.all CodePoint.isAscii then t.readInt? else none

/-- The integer that a value stands for, if it stands for one. -/
def intOf? : Value → Except Failure (Option Int)
  | .bool b => .ok (some (Value.ofFlag b))
  | .int n => .ok (some n)
  | .str t => .ok t.readInt?
  | .bytes b => .ok (intOfBytes? b)
  | .float (.infinite _) => .error (.defect .overflow "cannot convert float infinity to integer")
  | .float x => .ok x.whole?
  | _ => .ok none

/-- The value of a setting as an integer, the default where it is none (`get_int_parameter`). -/
def intParameter (c : Config) (s : Surroundings) (key : Text) (default : Value) : Lookup Value := do
  match ← intOf? (← c.parameter s key default) with
  | some n => return .int n
  | none => return default

/-- The value of a setting as a flag, the default where it is none (`get_bool_parameter`). -/
def boolParameter (c : Config) (s : Surroundings) (key : Text) (default : Value) :
    Lookup Value := do
  match ← c.parameter s key default with
  | .bool b => return .bool b
  | .str t => return .bool (isOn t)
  | _ => return default

/-- The items of a text: those between the occurrences of a separator, or its words
    where there is none. -/
def itemsOf (separator : Value) (t : Text) : Except Failure (List Text) :=
  match separator with
  | .null => .ok t.words
  | .str [] => .error (.badValue "empty separator")
  | .str mark => .ok (Text.items mark t)
  | _ => .error .wrongType

/-- The value of a setting as a list (`get_list_parameter`); a text is cut at a separator. -/
def listParameter (c : Config) (s : Surroundings) (key : Text) (default separator : Value) :
    Lookup Value := do
  match ← c.parameter s key .null with
  | .arr items => return .arr items
  | .str t => return .arr ((← itemsOf separator t).map .str)
  | _ => return default.orElse (.arr [])

/-! ## The settings of the service -/

/-- The endpoint of the store, where it is not the usual one (`dynamodb_host`). -/
def tableEndpoint (c : Config) (s : Surroundings) : Lookup Value :=
  c.parameter s "dynamodb-host" .null

/-- The name of the table of records (`identity_table_name`). -/
def identityTable (c : Config) (s : Surroundings) : Lookup Value :=
  c.parameter s "identity-table-name" (.str ("IdentityRecord-" ++ c.environment))

/-- The name of the table of nicknames (`identity_nickname_table_name`). -/
def nicknameTable (c : Config) (s : Surroundings) : Lookup Value :=
  c.parameter s "identity-nickname-table-name" (.str ("NicknameBinding-" ++ c.environment))

/-- The name of the table of contacts (`contact_table_name`). -/
def contactTable (c : Config) (s : Surroundings) : Lookup Value :=
  c.parameter s "contact-table-name" (.str ("Contact-" ++ c.environment))

/-- The bus that carries notifications (`event_bus_name`). -/
def eventBus (c : Config) (s : Surroundings) : Lookup Value :=
  c.parameter s "event-bus-name" (.str (defaultBus c.environment))

/-- The source that notifications name (`event_source`). -/
def eventSource (c : Config) (s : Surroundings) : Lookup Value :=
  c.parameter s "event-source" (.str defaultSource)

/-- Whether debug entries are logged (`enable_debug_logging`). -/
def debugLogging (c : Config) (s : Surroundings) : Lookup Value :=
  c.boolParameter s "enable-debug-logging" (.bool false)

end Config

end Rendezvous
