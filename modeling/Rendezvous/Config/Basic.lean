/-
  Configurations: how a deployment is called, and where its settings are kept.
-/
import Rendezvous.Config.Environment

namespace Rendezvous

/-- A configuration (`Config`); `serial` tells configurations apart. -/
structure Config where
  serial : Nat
  environment : Text
  path : Text
  remoteEnabled : Bool
  deriving DecidableEq, Repr

/-- The configuration that an environment asks for. -/
def Config.ofEnvironment (serial : Nat) (env : Environment) : Config :=
  let environment := (env.value? "ENVIRONMENT").getD "dev"
  { serial := serial
    environment := environment
    path := (env.value? "PARAMETER_STORE_PREFIX").getD
      ("/signal-registry/" ++ environment ++ "/registry-service")
    remoteEnabled := isOn ((env.value? "PARAMETER_STORE_ENABLED").getD "true") }

namespace Config

/-- The default of the setting `event-bus-name`. -/
def defaultBus (environment : Text) : Text := "signal-registry-" ++ environment

/-- The default of the setting `event-source`. -/
def defaultSource : Text := "signal-registry.signal-channel"

end Config

end Rendezvous
