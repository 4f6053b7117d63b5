/-
  Things: what the paths of templates lead to.

  A path starts at a value and leads on to its members and items, and from there to their
  kinds, the members of these, and so on.

  * `Thing.member` and `Thing.item` take a step;
  * `Thing.display` and `Thing.laidOut` show what the path has led to.
-/
import Rendezvous.Kind.Member
import Rendezvous.Template.Laid

namespace Rendezvous

/-- What a path can lead to. -/
inductive Thing where
  | value (v : Value)
  | kind (k : Kind)
  | tuple (items : List Thing)
  /-- a member as its kind has it -/
  | unbound (m : Member)
  /-- a method or an operation that is bound to a thing, or to a kind -/
  | bound (m : Member) (self : Thing)
  /-- the members of a kind under their names -/
  | directory (k : Kind)
  /-- a kind with an argument -/
  | generic (k : Kind) (argument : Value)
  deriving Repr

namespace Feature.Role

/-- The kind of a member of a role, as its kind has it. -/
def kind : Role → Kind
  | .method => .method
  | .operation => .operation
  | .factory => .factory
  | .shared => .shared
  | .maker => .builtin
  | .computed => .computed
  | .slot => .slot
  | .description => .text
  | .blank => .null

/-- The kind of a bound member of a role. -/
def boundKind : Role → Kind
  | .operation => .boundOperation
  | _ => .builtin

/-- A role in messages. -/
def shown : Role → Text
  | .operation => "slot wrapper"
  | .computed => "attribute"
  | .slot => "member"
  | _ => "method"

/-- Whether a member of a role has a value of its own in each thing. -/
def isProper : Role → Bool
  | .computed | .slot => true
  | _ => false

end Feature.Role

namespace Thing

/-- The kind of a thing. -/
def kindOf : Thing → Kind
  | .value v => .ofValue v
  | .kind _ => .kind
  | .tuple _ => .tuple
  | .unbound m => m.role.kind
  | .bound m _ => m.role.boundKind
  | .directory _ => .directory
  | .generic _ _ => .generic

/-- A text. -/
def text (t : Text) : Thing := .value (.str t)

/-- A text that may be missing. -/
def text? (t : Option Text) : Thing := .value (Value.ofText? t)

/-- A number. -/
def number (n : Nat) : Thing := .value (.int n)

end Thing

/-! ## Members -/

namespace Member

/-- What is said about a member, null where there is nothing. -/
def wordingValue (m : Member) : Value :=
  if m.wording.isEmpty then .null else .str (Text.joinWith "\n" m.wording)

/-- A member as its kind has it. -/
def thing (m : Member) : Thing :=
  match m.role with
  | .maker => .bound m (.kind m.owner)
  | .description | .blank => .value m.wordingValue
  | _ => .unbound m

/-- A member as a kind shows it that has it: of its own or from a base. -/
def ofKind (k : Kind) (m : Member) : Thing :=
  match m.role with
  | .factory => .bound m (.kind k)
  | .shared => .bound m (.kind m.owner)
  | _ => m.thing

/-- A member that is the same for all things of a kind, bound to one of them. -/
def bindTo (t : Thing) (m : Member) : Thing :=
  match m.role with
  | .method | .operation => .bound m t
  | _ => m.ofKind t.kindOf

/-- The name of a member with that of a kind before it. -/
def nameIn (k : Kind) (m : Member) : Text := k.source.2 ++ "." ++ m.name

end Member

namespace Failure

/-- A value of a kind has no item at a place. -/
def outside (kind : Text) : Failure := .defect .outOfRange (kind ++ "index out of range")

end Failure

namespace Value

/-- The members of a value that is a number. -/
def numberMembers : Value → Object
  | .bool b => whole (ofFlag b)
  | .int n => whole n
  | .float x => [("real", .float x), ("imag", .float .zero)]
  | _ => []
where
  /-- The members of a whole number. -/
  whole (n : Int) : Object :=
    [("real", .int n), ("imag", .int 0), ("numerator", .int n), ("denominator", .int 1)]

/-- The item of a value at a place. -/
def itemAt (place : Nat) : Value → Except Failure Value
  | .str t => find "string " (t.map fun (c : CodePoint) => .str [c])
  | .bytes b => find [] (b.map fun x => .int x.toNat)
  | .arr items => find "list " items
  | .obj _ => .error (.defect .missingKey (Text.ofNat place))
  | v => .error (.noItems v)
where
  /-- The item of a list at the place. -/
  find (kind : Text) (items : List Value) : Except Failure Value :=
    match items[place]? with
    | some x => .ok x
    | none => .error (.outside kind)

end Value

namespace Kind

/-- What is said about a kind. -/
def wording (k : Kind) : Thing :=
  match k with
  | .kind =>
    .text "type(object) -> the object's type\ntype(name, bases, dict, **kwds) -> a new type"
  | k => ((k.findOwn? "__doc__").map (·.ofKind k)).getD (.value .null)

/-- The values of the members that each kind has for itself. -/
def propers (k : Kind) : List (Text × Thing) :=
  let measures := k.measures
  [("__name__", .text k.source.2), ("__qualname__", .text k.source.2),
   ("__module__", .text k.source.1), ("__doc__", k.wording),
   ("__text_signature__", .text? k.signature), ("__dict__", .directory k),
   ("__base__", (k.bases.head?.map Thing.kind).getD (.value .null)),
   ("__bases__", .tuple (k.bases.take 1 |>.map .kind)),
   ("__mro__", .tuple (k.lineage.map .kind)),
   ("__basicsize__", .number measures.size), ("__itemsize__", .number measures.itemSize),
   ("__flags__", .number measures.marks), ("__dictoffset__", .number measures.directoryOffset),
   ("__weakrefoffset__", .number measures.referenceOffset)]

end Kind

namespace Member

/-- The values of the members that each member of a kind has for itself. -/
def propers (m : Member) : List (Text × Thing) :=
  let bare := Thing.bound m (.kind m.owner)
  [("__name__", .text m.name), ("__qualname__", .text (m.nameIn m.owner)),
   ("__objclass__", .kind m.owner), ("__doc__", .value m.wordingValue),
   ("__text_signature__", .text? m.signature), ("__func__", bare), ("__wrapped__", bare),
   ("__isabstractmethod__", .value (.bool false)), ("__dict__", .value .empty)]

/-- The kind before the name of a bound member. -/
def boundIn (m : Member) : Thing → Kind
  | .kind k => if m.role = .operation then m.owner else k
  | t => if m.role = .operation then m.owner else t.kindOf

/-- The values of the members that each bound member has for itself. -/
def boundPropers (m : Member) (self : Thing) : List (Text × Thing) :=
  [("__name__", .text m.name), ("__qualname__", .text (m.nameIn (m.boundIn self))),
   ("__module__", .value .null), ("__objclass__", .kind m.owner),
   ("__self__", if m.role = .shared then .value .null else self),
   ("__doc__", .value m.wordingValue), ("__text_signature__", .text? m.signature)]

end Member

namespace Thing

/-- The values of the members that each thing has for itself. -/
def propers : Thing → List (Text × Thing)
  | .value v => v.numberMembers.map fun (name, x) => (name, .value x)
  | .kind k => k.propers
  | .unbound m => m.propers
  | .bound m self => m.boundPropers self
  | .generic k argument =>
    [("__origin__", .kind k), ("__args__", .tuple [.value argument]),
     ("__parameters__", .tuple []), ("__unpacked__", .value (.bool false)),
     ("__typing_unpacked_tuple_args__", .value .null)]
  | .tuple _ | .directory _ => []

/-- A thing as it is named in messages about its kind. -/
def owner : Thing → Text
  | .kind k => "type object '" ++ k.name ++ "'"
  | t => "'" ++ t.kindOf.name ++ "' object"

/-- The value of a member that each thing has for itself; some have none.  A kind without
    this one says nothing but its name. -/
def proper (name : Text) (t : Thing) : Except Failure Thing :=
  if name = "__class__" then .ok (.kind t.kindOf)
  else
    match t.propers.lookup name with
    | some x => .ok x
    | none =>
      if name = "__abstractmethods__" then .error (.defect .noAttribute name)
      else .error (.noAttribute t.owner name)

/-- The value of a member in a thing, or the member bound to it. -/
def valueOf (m : Member) (t : Thing) : Except Failure Thing :=
  if m.role.isProper then t.proper m.name else .ok (m.bindTo t)

/-- A member that a thing has by its kind. -/
def memberByKind (name : Text) (t : Thing) : Except Failure Thing :=
  match t.kindOf.find? name with
  | some m => t.valueOf m
  | none => .error (.noAttribute t.owner name)

/-- A member of a kind: what each kind has for itself goes before what its things have, and
    that before all else that kinds have. -/
def memberOfKind (name : Text) (k : Kind) : Except Failure Thing :=
  let t := Thing.kind k
  match Kind.kind.find? name, k.find? name with
  | some m, found =>
    if m.role.isProper then t.proper name
    else .ok (found.elim (m.bindTo t) (·.ofKind k))
  | none, some m => .ok (m.ofKind k)
  | none, none => .error (.noAttribute t.owner name)

/-- The members that a kind with an argument does not have from the kind. -/
def genericNames : List Text :=
  ["__class__", "__origin__", "__args__", "__unpacked__", "__parameters__",
   "__typing_unpacked_tuple_args__", "__mro_entries__", "__reduce_ex__", "__reduce__", "__copy__",
   "__deepcopy__"]

/-- A member of a thing. -/
def member (name : Text) (t : Thing) : Except Failure Thing :=
  match t with
  | .kind k => memberOfKind name k
  | .generic k _ => if genericNames.contains name then t.memberByKind name else memberOfKind name k
  | t => t.memberByKind name

/-! ## Showing -/

/-- The place of a thing, which tells nothing. -/
def place : Text := " object at 0x7f0000000000>"

/-- A bound member of a thing of a kind. -/
def inspectBound (m : Member) (k : Kind) : Text :=
  let start := if m.role = .operation then "<method-wrapper '" ++ m.name ++ "'"
    else "<built-in method " ++ m.name
  start ++ " of " ++ k.name ++ place

/-- A member that is no value. -/
def inspectMember (m : Member) : Text :=
  if m.role = .shared then "<staticmethod(" ++ inspectBound m .kind ++ ")>"
  else "<" ++ m.role.shown ++ " '" ++ m.name ++ "' of '" ++ m.owner.name ++ "' objects>"

/-- A member as its kind has it. -/
def inspectOwn (m : Member) : Text :=
  match m.role with
  | .maker => inspectBound m .kind
  | .description | .blank => m.wordingValue.inspect
  | _ => inspectMember m

/-- The members of a kind under their names. -/
def inspectDirectory (k : Kind) : Text :=
  let entries := k.own.map fun m => m.name.quoted ++ ": " ++ inspectOwn m
  "\x7b" ++ Text.joinWith ", " entries ++ "\x7d"

mutual

/-- A thing as it is shown inside tuples. -/
def inspect : Thing → Text
  | .value v => v.inspect
  | .kind k => "<class '" ++ k.name ++ "'>"
  | .tuple items =>
    "(" ++ Text.joinWith ", " (inspectAll items) ++ (if items.length = 1 then ",)" else ")")
  | .unbound m => inspectMember m
  | .bound m self => inspectBound m self.kindOf
  | .directory k => "mappingproxy(" ++ inspectDirectory k ++ ")"
  | .generic k argument => k.name ++ "[" ++ argument.inspect ++ "]"

/-- The things of a tuple. -/
def inspectAll : List Thing → List Text
  | [] => []
  | t :: items => inspect t :: inspectAll items

end

/-- A thing in a message. -/
def display : Thing → Text
  | .value v => v.display
  | .directory k => inspectDirectory k
  | t => t.inspect

/-- A thing in a layout; only values have any. -/
def laidOut (layout : Text) (t : Thing) : Except Failure Text :=
  match t with
  | .value v => v.laidOut layout
  | t => if layout.isEmpty then .ok t.display else .error (.unlaid t.kindOf.name)

/-! ## Items -/

/-- A place or a name as an argument of a kind. -/
def argumentOf : Nat ⊕ Text → Value
  | .inl place => .int place
  | .inr name => .str name

/-- The item of a thing at a place or under a name. -/
def item (key : Nat ⊕ Text) (t : Thing) : Except Failure Thing :=
  match t, key with
  | .value v, .inl place => .value <$> v.itemAt place
  | .value v, .inr name => .value <$> v.itemNamed name
  | .tuple items, .inl place =>
    match items[place]? with
    | some x => .ok x
    | none => .error (.outside "tuple ")
  | .tuple _, .inr _ => .error (.noPlace "tuple" " or slices, not str")
  | .directory _, .inl place => .error (.defect .missingKey (Text.ofNat place))
  | .directory k, .inr name =>
    match k.findOwn? name with
    | some m => .ok m.thing
    | none => .error (.missingField name)
  | .kind k, key =>
    if k.isGeneric then .ok (.generic k (argumentOf key))
    else .error (.defect .wrongType ("type '" ++ k.name ++ "' is not subscriptable"))
  | .generic _ _, _ => .error (.defect .wrongType (t.inspect ++ " is not a generic class"))
  | t, _ => .error (.defect .wrongType (t.owner ++ " is not subscriptable"))

end Thing

end Rendezvous
