/-
  Failures of every origin, with the name of each kind and its wording.

  Five origins are told apart: the service itself, remote calls, the table
  library, values that cannot be used, and defects, which no part of the program
  expects.

  * `Failure.name`, `Failure.message`: the kind of a failure and its wording;
  * `Except.bind_eq_ok`: steps that can fail, taken apart.
-/
import Rendezvous.Bytes.Hex
import Rendezvous.Failure.Remote
import Rendezvous.Failure.Service
import Rendezvous.Text.Utf8

namespace Rendezvous

/-- The kinds of failure of table operations. -/
inductive TableFault where
  | general
  | doesNotExist
  | put
  | get
  | query
  | update
  | delete
  | scan
  | table
  | transactWrite
  | transactGet
  | invalidState
  | connection
  | tableDoesNotExist
  deriving DecidableEq, Repr

namespace TableFault

/-- The name of a kind. -/
def name : TableFault → Text
  | .general => "PynamoDBException"
  | .doesNotExist => "DoesNotExist"
  | .put => "PutError"
  | .get => "GetError"
  | .query => "QueryError"
  | .update => "UpdateError"
  | .delete => "DeleteError"
  | .scan => "ScanError"
  | .table => "TableError"
  | .transactWrite => "TransactWriteError"
  | .transactGet => "TransactGetError"
  | .invalidState => "InvalidStateError"
  | .connection => "PynamoDBConnectionError"
  | .tableDoesNotExist => "TableDoesNotExist"

/-- The wording of a kind where nothing more is known; some kinds have none. -/
def defaultMessage? : TableFault → Option Text
  | .doesNotExist => some "Item does not exist"
  | .put => some "Error putting item"
  | .get => some "Error getting item"
  | .query => some "Error performing query"
  | .update => some "Error updating item"
  | .delete => some "Error deleting item"
  | .scan => some "Error performing scan"
  | .table => some "Error performing a table operation"
  | .invalidState => some "Operation in invalid state"
  | .connection => some "Connection Error"
  | .general | .transactWrite | .transactGet | .tableDoesNotExist => none

/-- The wording of a missing table. -/
def missingTable (table : Text) : Text := "Table does not exist: `" ++ table ++ "`"

/-- All kinds. -/
def all : List TableFault :=
  [.general, .doesNotExist, .put, .get, .query, .update, .delete, .scan, .table,
   .transactWrite, .transactGet, .invalidState, .connection, .tableDoesNotExist]

end TableFault

/-- Why a value cannot be used. -/
inductive Unusable where
  /-- with a wording of its own -/
  | value (message : Text)
  /-- text that is not hexadecimal -/
  | notHex (refusal : Hex.Refusal)
  /-- text that has no UTF-8 form -/
  | unencodable (run : SurrogateRun)
  /-- an attribute of an item that must have a value and has none -/
  | attributeMissing (name : Text)
  deriving Repr

namespace Unusable

/-- What is said about an unusable value. -/
def message : Unusable → Text
  | .value message => message
  | .notHex refusal => refusal.message
  | .unencodable run => run.message
  | .attributeMissing name => "Attribute '" ++ name ++ "' cannot be None"

/-- The name of the kind. -/
def name : Unusable → Text
  | .value _ => "ValueError"
  | .notHex .notAscii => "ValueError"
  | .notHex _ => "Error"
  | .unencodable _ => "UnicodeEncodeError"
  | .attributeMissing _ => "AttributeNullError"

end Unusable

/-- Breaches of what an operation takes for granted about its arguments. -/
inductive Defect where
  /-- a value of a type that the operation does not take -/
  | wrongType
  /-- a value without the attribute that is asked for -/
  | noAttribute
  /-- an object or a list without the entry that is asked for -/
  | missingKey
  | runtime
  | unimplemented
  /-- values nested too deeply -/
  | tooDeep
  /-- a number out of range -/
  | overflow
  /-- more bytes than there is room for -/
  | noRoom
  /-- a place beyond the end of a list -/
  | outOfRange
  deriving DecidableEq, Repr

/-- The name of the kind of a defect. -/
def Defect.name : Defect → Text
  | .wrongType => "TypeError"
  | .noAttribute => "AttributeError"
  | .missingKey => "KeyError"
  | .runtime => "RuntimeError"
  | .unimplemented => "NotImplementedError"
  | .tooDeep => "RecursionError"
  | .overflow => "OverflowError"
  | .noRoom => "MemoryError"
  | .outOfRange => "IndexError"

/-- A failure. -/
inductive Failure where
  | service (e : ServiceError)
  | remote (e : RemoteError)
  | table (kind : TableFault) (message : Text)
  | unusable (reason : Unusable)
  | defect (kind : Defect) (message : Text)
  deriving Repr

namespace Failure

/-- The name of the kind of a failure. -/
def name : Failure → Text
  | .service e => e.name
  | .remote e => e.name
  | .table kind _ => kind.name
  | .unusable reason => reason.name
  | .defect kind _ => kind.name

/-- What is said about a failure. -/
def message : Failure → Text
  | .service e => e.message.display
  | .remote e => e.message
  | .table _ message => message
  | .unusable reason => reason.message
  | .defect _ message => message

/-- A value is asked for something that its type does not have. -/
def noField : Failure := .defect .noAttribute "a value has no such attribute"

/-- Something has no attribute of a name. -/
def noAttribute (owner name : Text) : Failure :=
  .defect .noAttribute (owner ++ " has no attribute '" ++ name ++ "'")

/-- An argument has the wrong type. -/
def wrongType : Failure := .defect .wrongType "an argument has the wrong type"

/-- An object has no field of this name. -/
def missingField (key : Text) : Failure := .defect .missingKey key.quoted

/-- A request is at fault in a field. -/
def atField (message : Text) (field : Value) : Failure := .service (.atField message field)

/-- A value cannot be used. -/
def badValue (message : Text) : Failure := .unusable (.value message)

end Failure

namespace Value

/-- The fields of an object. -/
def fields : Value → Except Failure Object
  | .obj o => .ok o
  | v => .error (.noAttribute v.typeObject "get")

/-- The value of a field of an object, null where it is absent. -/
def fieldOrNull (key : Text) (v : Value) : Except Failure Value :=
  v.fields.map (Object.fieldOrNull key)

/-- The value of a field that has to be there. -/
def fieldAt (key : Text) (v : Value) : Except Failure Value :=
  v.fields.bind fun o =>
    match o.field? key with
    | some x => .ok x
    | none => .error (.missingField key)

end Value

/-- Two steps in a row have a result just if each of them has one. -/
theorem Except.bind_eq_ok {ε α β : Type} {x : Except ε α} {f : α → Except ε β} {b : β} :
    x.bind f = .ok b ↔ ∃ a, x = .ok a ∧ f a = .ok b := by
  cases x <;> simp [Except.bind]

end Rendezvous
