/-
  Fields of a fixed width.

  Every stored or signalled value is a byte string of an exact width.  Shorter
  ones are filled with zero bytes on the right, longer ones are refused.

  * `Field.width` is the width of each field;
  * `pad` brings a byte string to a width;
  * `pad_eq_ok_iff`: it succeeds exactly on what is not too long.
-/
import Rendezvous.Failure.Basic

namespace Rendezvous

/-- The fields of requests and records that hold bytes. -/
inductive Field where
  | nickname
  | address
  | welcomeMessage
  | contactName
  | contactAddress
  | payload
  deriving DecidableEq, Repr

namespace Field

/-- The exact number of bytes of a field (`FieldWidths`). -/
def width : Field → Nat
  | .nickname => 21
  | .address => 32
  | .welcomeMessage => 300
  | .contactName => 1000
  | .contactAddress => 1000
  | .payload => 2048

/-- The empty value of a field (`zeros`). -/
def zeros (f : Field) : Bytes := Bytes.zeros f.width

/-- How a field is called in a message; an empty label is none. -/
def shownLabel (label : Value) : Text := (label.orElse (.str "value")).display

/-- A refusal that names the field where it has a label. -/
def refuse (label : Value) (reason : Text) : Failure := .atField (shownLabel label ++ reason) label

/-- A byte string of exactly a width (`pad`): filled with zeros, or refused if it is longer. -/
def pad (width : Int) (label : Value) (bytes : Bytes) : Except Failure Bytes :=
  if width < bytes.length then
    .error (refuse label (" must be at most " ++ Text.ofInt width ++ " bytes, got " ++
      Text.ofNat bytes.length))
  else .ok (Bytes.fill width bytes)

/-- Exactly the byte strings that are not too long are brought to a width. -/
theorem pad_eq_ok_iff {width : Int} {label : Value} {bytes padded : Bytes} :
    pad width label bytes = .ok padded ↔
      (bytes.length : Int) ≤ width ∧ padded = Bytes.fill width bytes := by
  unfold pad
  split
  · rename_i h
    simp only [reduceCtorEq, false_iff, not_and]
    omega
  · rename_i h
    simp only [Except.ok.injEq]
    constructor
    · rintro rfl
      exact ⟨by omega, rfl⟩
    · rintro ⟨_, rfl⟩
      rfl

end Field

end Rendezvous
