/-
  Identities.

  An identity is an opaque text that is used exactly as it is given: it is
  refused when blanks surround it, and never stripped.
-/
import Rendezvous.Failure.Basic
import Rendezvous.Text.Blank

namespace Rendezvous.Identity

/-- The greatest number of code points of an identity in a request (`MAX_IDENTITY_LENGTH`). -/
def maxLength : Nat := 256

/-- A refusal of the identity in a field. -/
def refuse (label : Value) (reason : Text) : Failure := .atField (label.display ++ reason) label

/-- The identity given in a field of a request (`validate_identity`). -/
def validate (label : Value) : Value → Except Failure Text
  | .str t =>
    if t.isBlank then .error (refuse label " must be a non-empty identity")
    else if t ≠ t.strip then .error (refuse label " must not have surrounding whitespace")
    else if maxLength < t.length then
      .error (refuse label (" must be at most " ++ Text.ofNat maxLength ++ " characters"))
    else .ok t
  | _ => .error (refuse label " must be a non-empty identity")

/-- The caller that an event names. -/
def authenticate : Value → Except Failure Text
  | .str t =>
    if t.isBlank then .error (.service .unauthenticated)
    else if t ≠ t.strip then
      .error (.service
        (.authentication (.str "Caller identity must not have surrounding whitespace")))
    else .ok t
  | _ => .error (.service .unauthenticated)

end Rendezvous.Identity
