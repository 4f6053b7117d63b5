/-
  All functions, by name.
-/
import Rendezvous.Operation.Chat
import Rendezvous.Operation.Contact
import Rendezvous.Operation.Identity

namespace Rendezvous.Function

/-- The seven functions. -/
def all : List Function :=
  [chatAnswer, chatOffer, contactGet, contactRemove, contactUpsert, identityGet, identityRegister]

/-- The function of a name. -/
def named? (name : Text) : Option Function := all.find? (·.name = name)

end Rendezvous.Function
