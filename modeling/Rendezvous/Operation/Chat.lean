/-
  Opening a chat: offers and answers from the caller to another identity.
-/
import Rendezvous.Operation.Basic
import Rendezvous.Service.Channel

namespace Rendezvous.Function

/-- What is told of a signal that was sent. -/
def sent (s : Signal) : Object :=
  [("event", .str s.kind.name), ("detail", .obj s.toEvent)]

/-- The recipient that a request names. -/
def recipientOf (request : Request) : Except Failure Text := do
  Identity.validate (.str "to") (← (Value.obj request.body).fieldAt "to")

/-- Sends an offer to another identity (`chat-offer`). -/
def chatOffer : Function where
  name := "chat-offer"
  required := ["welcome_msg", "offer", "to"]
  run request := do
    let welcome ← Field.bytesIn request.body "welcome_msg"
    let payload ← Field.bytesIn request.body "offer"
    let recipient ← recipientOf request
    let service ← Act.service "signal_channel"
    let signal ← (← service.asChannel).offer (.str request.caller) (some welcome) payload
      (.str recipient)
    success "chat-offer" .offerChat (sent signal) []

/-- Sends the answer to an offer back to the identity that made it (`chat-answer`). -/
def chatAnswer : Function where
  name := "chat-answer"
  required := ["answer", "to"]
  run request := do
    let payload ← Field.bytesIn request.body "answer"
    let recipient ← recipientOf request
    let service ← Act.service "signal_channel"
    let signal ← (← service.asChannel).answer (.str request.caller) payload
      (.str recipient)
    success "chat-answer" .answerChat (sent signal) []

end Rendezvous.Function
