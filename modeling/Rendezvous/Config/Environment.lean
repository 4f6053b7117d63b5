/-
  Environment variables, and the settings given by them.

  A setting with a key such as `event-bus-name` is looked up under two names: the
  key in uppercase with underscores, the service's own prefix before it first.
  Names are kept as bytes, so that not every text can be a name.
-/
import Rendezvous.Text.Case
import Rendezvous.Text.Utf8

namespace Rendezvous

/-- The variables of an environment; of those with the same name the first counts. -/
abbrev Environment := List (Text × Text)

namespace Environment

/-- The value of a variable. -/
def value? (env : Environment) (name : Text) : Option Text := List.lookup name env

/-- An environment with further variables, which go before those of the same name. -/
def extend (extra env : Environment) : Environment := extra ++ env

/-- The name of the variable of a setting. -/
def nameOf (key : Text) : Text := key.upper.map fun (c : CodePoint) => if c = '-' then '_' else c

/-- The prefix of the service's own variables. -/
def servicePrefix : Text := "REGISTRY_SERVICE_"

/-- Whether a code point stands for a byte of a name that is not UTF-8. -/
def isRawByte (c : CodePoint) : Bool := 0xdc80 ≤ c.val && c.val < 0xdd00

/-- The first surrogates of a text that keep it from being a name, where `start` code points
    have been read before. -/
def unnameableFrom? (start : Nat) : Text → Option SurrogateRun
  | [] => none
  | c :: t =>
    if c.isSurrogate && !isRawByte c then
      some ⟨c, start, (t.takeWhile CodePoint.isSurrogate).length⟩
    else unnameableFrom? (start + 1) t

/-- The first surrogates that keep the variable of a setting from having a name. -/
def unnameable? (key : Text) : Option SurrogateRun :=
  unnameableFrom? 0 (servicePrefix ++ nameOf key)

/-- The value of a setting: that of the service's own variable, or else that of the plain one. -/
def setting? (env : Environment) (key : Text) : Option Text :=
  match env.value? (servicePrefix ++ nameOf key) with
  | some value => some value
  | none => env.value? (nameOf key)

/-- A text that is not empty. -/
def nonempty? : Option Text → Option Text
  | some [] | none => none
  | some t => some t

/-- The region to call remote services in (`aws_region`). -/
def region (env : Environment) : Text :=
  ((nonempty? (env.value? "AWS_REGION")).or
    (nonempty? (env.value? "AWS_DEFAULT_REGION"))).getD "us-east-1"

end Environment

/-- Words that switch a setting on. -/
def isOn (t : Text) : Bool :=
  let word := t.foldWord
  word = "true" || word = "1" || word = "yes" || word = "on"

end Rendezvous
