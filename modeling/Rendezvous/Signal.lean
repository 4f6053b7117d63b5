/-
  Offers and answers, the messages by which two identities open a chat.

  An offer carries a payload and a welcome message, an answer only a payload.  Who
  sends a message and to whom is passed on as it is given.

  * `Signal.check` admits exactly the messages whose parts have their widths;
  * `Signal.make` reads a message from values of any type: it is a `Draft` of the
    right sizes, and a message only if its parts are bytes.
-/
import Rendezvous.Value.Access
import Rendezvous.Field.Hex

namespace Rendezvous

/-- The kinds of message (`SignalConstants.ALL_KINDS`). -/
inductive SignalKind where
  | offer
  | answer
  deriving DecidableEq, Repr

namespace SignalKind

/-- The name of a kind. -/
def name : SignalKind → Text
  | .offer => "Offer"
  | .answer => "Answer"

/-- Both kinds. -/
def all : List SignalKind := [.offer, .answer]

/-- The names of the parts of a notification, in the order in which it lists them. -/
def fieldNames : SignalKind → List Text
  | .offer => ["offer", "offered_by", "offered_to", "welcome_msg"]
  | .answer => ["answer", "answer_from", "answer_to"]

/-- The kind with a name. -/
def ofValue (v : Value) : Except Failure SignalKind :=
  match all.find? fun kind => v.isText kind.name with
  | some kind => .ok kind
  | none => .error (.badValue ("Unknown signal kind: " ++ v.display))

end SignalKind

/-- A message from one identity to another (`SignalMessage`). -/
structure Signal where
  kind : SignalKind
  payload : Bytes
  sender : Value
  recipient : Value
  welcome : Option Bytes
  deriving Repr

namespace Signal

/-- The refusal of a payload of the wrong size. -/
def badPayload : Failure :=
  .badValue ("Signal payload must be " ++ Text.ofNat Field.payload.width ++ " bytes")

/-- The refusal of an offer without a welcome message of the right size. -/
def badWelcome : Failure :=
  .badValue ("Offer welcome message must be " ++ Text.ofNat Field.welcomeMessage.width ++ " bytes")

/-- The refusal of an answer with a welcome message. -/
def idleWelcome : Failure := .badValue "Only offers carry a welcome message"

/-- Refuses a message with a part of the wrong width, or an answer with a welcome message. -/
def check (s : Signal) : Except Failure Signal :=
  if s.payload.length ≠ Field.payload.width then .error badPayload
  else match s.kind, s.welcome with
    | .offer, some welcome =>
      if welcome.length = Field.welcomeMessage.width then .ok s else .error badWelcome
    | .offer, none => .error badWelcome
    | .answer, none => .ok s
    | .answer, some _ => .error idleWelcome

/-- An offer (`SignalMessage.offer`). -/
def offer (sender : Value) (welcome : Option Bytes) (payload : Bytes) (recipient : Value) :
    Except Failure Signal :=
  check ⟨.offer, payload, sender, recipient, welcome⟩

/-- An answer (`SignalMessage.answer`). -/
def answer (sender : Value) (payload : Bytes) (recipient : Value) : Except Failure Signal :=
  check ⟨.answer, payload, sender, recipient, none⟩

/-- The parts of a notification, in order. -/
def parts (s : Signal) : List Value :=
  let common : List Value := [.str (Field.encodeHex s.payload), s.sender, s.recipient]
  match s.kind with
  | .offer => common ++ [.str (Field.encodeHex (s.welcome.getD []))]
  | .answer => common

/-- The body of the notification of a message (`SignalMessage.to_event`). -/
def toEvent (s : Signal) : Object := s.kind.fieldNames.zip s.parts

end Signal

/-! ## Messages from values of any type -/

/-- A message whose parts have the right sizes, whatever their types. -/
structure Draft where
  kind : SignalKind
  payload : Value
  sender : Value
  recipient : Value
  welcome : Value
  deriving Repr

namespace Draft

/-- Refuses a payload of the wrong size. -/
def checkPayload (payload : Value) : Except Failure Unit := do
  if (← payload.size) ≠ Field.payload.width then .error Signal.badPayload

/-- Refuses a welcome message of the wrong size, or one where there has to be none. -/
def checkWelcome : SignalKind → Value → Except Failure Unit
  | .offer, .null => .error Signal.badWelcome
  | .offer, welcome => do
    if (← welcome.size) ≠ Field.welcomeMessage.width then .error Signal.badWelcome
  | .answer, .null => .ok ()
  | .answer, _ => .error Signal.idleWelcome

/-- Refuses a draft with a part of the wrong size. -/
def check (d : Draft) : Except Failure Draft := do
  checkPayload d.payload
  checkWelcome d.kind d.welcome
  return d

/-- The welcome message of a draft, if it has one. -/
def welcomeBytes : Value → Except Failure (Option Bytes)
  | .null => .ok none
  | v => v.asBytes.map some

/-- The message of a draft: its parts have to be bytes. -/
def toSignal (d : Draft) : Except Failure Signal := do
  let payload ← d.payload.asBytes
  let welcome ← welcomeBytes d.welcome
  return ⟨d.kind, payload, d.sender, d.recipient, welcome⟩

end Draft

/-- A message of a kind given by name, from parts of any type (`SignalMessage`). -/
def Signal.make (kind payload sender recipient welcome : Value) : Except Failure Signal := do
  let kind ← SignalKind.ofValue kind
  let draft ← Draft.check ⟨kind, payload, sender, recipient, welcome⟩
  draft.toSignal

end Rendezvous
