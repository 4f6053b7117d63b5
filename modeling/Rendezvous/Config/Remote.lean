/-
  The remote parameter store, and lookups in it (`Config`).

  What the store answers is remembered, also when it has no value.  Failures of
  the store are printed and count as no value, if they can be printed.

  * `Lookup` are the computations that look something up;
  * `Config.remoteParameter` is the lookup of a setting in the parameter store,
    `remoteParameterOf` that of one whose key may have any type.
-/
import Rendezvous.Config.Basic
import Rendezvous.Config.Cache
import Rendezvous.Value.Access

namespace Rendezvous

/-- What the parameter store answers for a name. -/
inductive ParameterAnswer where
  | value (v : Value)
  /-- an answer without a parameter -/
  | bare
  | failed (failure : Failure)

/-- What lies outside a configuration at the time of a lookup: the variables, the
    parameter store, and whether no client can be opened to it. -/
structure Surroundings where
  env : Environment
  answer : Text → ParameterAnswer
  down : Bool

/-- What a value is remembered under: the configuration it was looked up in, its key, and
    whether the key was given by name. -/
structure Asked where
  serial : Nat
  byName : Bool
  key : Key
  deriving DecidableEq, Repr

/-- What lookups leave behind: values remembered, configurations with an open
    client, the clients asked for with their regions, the names asked, and the
    lines printed. -/
structure LookupState where
  remembered : Cache Asked Value
  connected : List Nat
  clients : List (Text × Text)
  asked : List Text
  printed : List Text

/-- Nothing looked up yet; 128 values are remembered. -/
def LookupState.initial : LookupState := ⟨⟨128, []⟩, [], [], [], []⟩

/-- A computation that looks settings up. -/
abbrev Lookup (α : Type) := ExceptT Failure (StateM LookupState) α

namespace Config

/-- The name of a setting in the parameter store. -/
def remoteName (c : Config) (key : Text) : Text := c.path ++ "/" ++ key

/-- Whether there is a client to the parameter store (`ssm_client`); opens one where it can. -/
def connect (c : Config) (s : Surroundings) : Lookup Bool := do
  let state ← get
  if state.connected.contains c.serial then return true
  if !c.remoteEnabled then return false
  let client : Text × Text := ("ssm", s.env.region)
  modify fun state => { state with clients := state.clients ++ [client] }
  if s.down then return false
  modify fun state => { state with connected := c.serial :: state.connected }
  return true

/-- Prints a line and finds no value.  The console takes UTF-8: a line that has no such form is a
    failure of its own, and nothing is printed. -/
def giveUp (line : Text) : Lookup Value := do
  match line.surrogateRun? with
  | some run => throw (.unusable (.unencodable run))
  | none =>
    modify fun state => { state with printed := state.printed ++ [line] }
    return .null

/-- What a failure of the parameter store amounts to.  A refusal for want of the
    parameter is not worth a line. -/
def remoteFailure (name : Text) : Failure → Lookup Value
  | .remote (.refused r) => do
    let fields ← (r.error.elim (.error (.missingField "Error")) .ok : Except Failure Object)
    let code ← (Value.obj fields).fieldAt "Code"
    if code.isText "ParameterNotFound" then return .null
    giveUp ("Error getting SSM parameter " ++ name ++ ": " ++ r.message)
  | failure => giveUp ("Unexpected error getting SSM parameter " ++ name ++ ": " ++ failure.message)

/-- Asks the parameter store for a setting. -/
def askRemote (c : Config) (s : Surroundings) (key : Text) : Lookup Value := do
  let name := c.remoteName key
  modify fun state => { state with asked := state.asked ++ [name] }
  match s.answer name with
  | .value v => return v
  | .bare => remoteFailure name (.missingField "Parameter")
  | .failed failure => remoteFailure name failure

/-- The value of a setting in the parameter store, as it is remembered or else asked for. -/
def lookUp (c : Config) (s : Surroundings) (asked : Asked) (key : Text) : Lookup Value := do
  let state ← get
  let v ← match state.remembered.find? asked with
    | some v => pure v
    | none => if ← c.connect s then c.askRemote s key else pure .null
  modify fun state => { state with remembered := state.remembered.use asked v }
  return v

/-- The value of a setting in the parameter store, null where it has none (`get_ssm_parameter`). -/
def remoteParameter (c : Config) (s : Surroundings) (key : Text) : Lookup Value :=
  c.lookUp s ⟨c.serial, false, .text key⟩ key

/-- The value of a setting whose key may have any type that is remembered (`get_ssm_parameter`);
    keys given by name are remembered apart from the others. -/
def remoteParameterOf (c : Config) (s : Surroundings) (byName : Bool) (key : Value) :
    Lookup Value := do
  c.lookUp s ⟨c.serial, byName, ← key.key⟩ key.display

end Config

end Rendezvous
