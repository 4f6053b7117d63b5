/-
  The contents of the three tables, and what each call does to them.

  Every call reads or writes in one step.  A registration puts a record and a
  binding if neither key is taken, and nothing otherwise.  Records are found by the
  keys of their identities, contacts by those of their owners.
-/
import Rendezvous.Store.Call
import Rendezvous.Store.Table

namespace Rendezvous

/-- The contents of the store. -/
structure Tables where
  identities : Table Key IdentityItem
  nicknames : Table Text BindingItem
  contacts : Table (Key × Text) ContactItem
  deriving Repr

namespace Tables

/-- No items. -/
def empty : Tables := ⟨[], [], []⟩

/-- Puts the record of an identity under its key, whatever is there. -/
def putIdentity (key : Key) (item : IdentityItem) (t : Tables) : Tables :=
  { t with identities := t.identities.put key item }

/-- Puts the binding of a nickname, whatever is there. -/
def putBinding (item : BindingItem) (t : Tables) : Tables :=
  { t with nicknames := t.nicknames.put item.nickname item }

/-- Puts a contact under the key of its owner, whatever is there. -/
def putContact (owner : Key) (item : ContactItem) (t : Tables) : Tables :=
  { t with contacts := t.contacts.put (owner, item.key) item }

/-- The contacts of an owner in ascending order of their keys. -/
def contactsOf (owner : Key) (t : Tables) : List ContactItem :=
  ((t.contacts.filter fun entry => entry.1.1 = owner).map (·.2)).mergeSort
    fun a b => !Text.before b.key a.key

/-- The order of the keys of contacts: by owner, and by their own key for one owner. -/
def contactBefore? (a b : Key × Text) : Option Bool :=
  if a.1 = b.1 then some (Text.before a.2 b.2) else a.1.before? b.1

/-- The refusal of a registration whose keys are not free. -/
def cancelled : Failure :=
  .remote (.refused (.make (.str "TransactionCanceledException")
    (.str "Transaction cancelled, please refer cancellation reasons for specific reasons")
    "TransactWriteItems"))

/-- Whether a registration may be put: neither key is taken. -/
def admits (identity : Key) (nickname : Text) (t : Tables) : Bool :=
  (t.identities.find? identity).isNone && (t.nicknames.find? nickname).isNone

/-- Puts a record and its binding, if neither key is taken. -/
def register (identity : Key) (record : IdentityItem) (binding : BindingItem) (t : Tables) :
    Except Failure Unit × Tables :=
  if t.admits identity binding.nickname then
    (.ok (), (t.putIdentity identity record).putBinding binding)
  else (.error cancelled, t)

/-- What is done under the key of a value; nothing where the value is no key. -/
def keyed {α : Type} (t : Tables) (v : Value) (act : Key → Except Failure α × Tables) :
    Except Failure α × Tables :=
  match v.key with
  | .ok key => act key
  | .error failure => (.error failure, t)

/-- The answer of a call, and the contents after it. -/
def call (t : Tables) : (c : StoreCall) → Except Failure c.Result × Tables
  | .getIdentity identity => t.keyed identity fun key => (.ok (t.identities.find? key), t)
  | .getBinding nickname => (.ok (t.nicknames.find? nickname), t)
  | .getContact owner digest =>
    t.keyed owner fun key => (.ok (t.contacts.find? (key, digest)), t)
  | .putContact item => t.keyed item.owner fun key => (.ok (), t.putContact key item)
  | .deleteContact owner digest =>
    t.keyed owner fun key => (.ok (), { t with contacts := t.contacts.erase (key, digest) })
  | .queryContacts owner => (.ok ((owner.key?.map t.contactsOf).getD []), t)
  | .register record binding =>
    t.keyed record.identity fun key => t.register key record binding

end Tables

end Rendezvous
