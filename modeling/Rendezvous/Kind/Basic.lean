/-
  The kinds of things that templates show.

  Besides the kinds of values there are those of what a path leads to from a value: kinds
  themselves, tuples, and the members of kinds.  Every kind but one has a base, and its
  things have the members of its bases, too.

  * `Kind.ofValue` is the kind of a value;
  * `Kind.lineage` lists a kind and its bases, nearest first.
-/
import Rendezvous.Value.Basic

namespace Rendezvous

/-- The kinds of things. -/
inductive Kind where
  /-- whatever there is -/
  | object
  /-- kinds themselves -/
  | kind
  | null
  | flag
  | whole
  | floating
  | text
  | bytes
  | list
  | dict
  | tuple
  /-- methods bound to a thing or to a kind -/
  | builtin
  /-- methods as a kind has them -/
  | method
  /-- operations as a kind has them -/
  | operation
  /-- operations bound to a thing -/
  | boundOperation
  /-- members that are worked out when they are asked for -/
  | computed
  /-- members that a thing keeps -/
  | slot
  /-- methods of a kind itself -/
  | factory
  /-- methods of neither a thing nor a kind -/
  | shared
  /-- the members of a kind under their names -/
  | directory
  /-- a kind with an argument -/
  | generic
  deriving DecidableEq, Repr

/-- How much room the things of a kind take, and what the kind is marked with. -/
structure Measures where
  size : Nat
  itemSize : Nat
  marks : Nat
  directoryOffset : Nat
  referenceOffset : Nat
  deriving DecidableEq, Repr

namespace Kind

/-- The name of a kind, as messages show it. -/
def name : Kind → Text
  | .object => "object"
  | .kind => "type"
  | .null => "NoneType"
  | .flag => "bool"
  | .whole => "int"
  | .floating => "float"
  | .text => "str"
  | .bytes => "bytes"
  | .list => "list"
  | .dict => "dict"
  | .tuple => "tuple"
  | .builtin => "builtin_function_or_method"
  | .method => "method_descriptor"
  | .operation => "wrapper_descriptor"
  | .boundOperation => "method-wrapper"
  | .computed => "getset_descriptor"
  | .slot => "member_descriptor"
  | .factory => "classmethod_descriptor"
  | .shared => "staticmethod"
  | .directory => "mappingproxy"
  | .generic => "types.GenericAlias"

/-- Where a kind comes from, and its name there. -/
def source : Kind → Text × Text
  | .generic => ("types", "GenericAlias")
  | k => ("builtins", k.name)

/-- The kind of a value. -/
def ofValue : Value → Kind
  | .null => .null
  | .bool _ => .flag
  | .int _ => .whole
  | .float _ => .floating
  | .str _ => .text
  | .bytes _ => .bytes
  | .arr _ => .list
  | .obj _ => .dict

/-- The bases of a kind, nearest first. -/
def bases : Kind → List Kind
  | .object => []
  | .flag => [.whole, .object]
  | _ => [.object]

/-- A kind and its bases. -/
def lineage (k : Kind) : List Kind := k :: k.bases

/-- What the making of a thing of a kind takes, where that is told. -/
def signature : Kind → Option Text
  | .object => some "()"
  | .floating => some "(x=0, /)"
  | .list | .tuple => some "(iterable=(), /)"
  | _ => none

/-- The measures of each kind. -/
def measures : Kind → Measures
  | .object => ⟨16, 0, 529664, 0, 0⟩
  | .kind => ⟨904, 40, 2148031744, 264, 368⟩
  | .null => ⟨16, 0, 528640, 0, 0⟩
  | .flag => ⟨32, 4, 21500160, 0, 0⟩
  | .whole => ⟨24, 4, 21501184, 0, 0⟩
  | .floating => ⟨24, 0, 4723968, 0, 0⟩
  | .text => ⟨80, 0, 273159424, 0, 0⟩
  | .bytes => ⟨33, 1, 138941696, 0, 0⟩
  | .list => ⟨40, 0, 38294816, 0, 0⟩
  | .dict => ⟨48, 0, 541611328, 0, 0⟩
  | .tuple => ⟨24, 8, 71849248, 0, 0⟩
  | .builtin => ⟨56, 0, 547200, 0, 40⟩
  | .method => ⟨56, 0, 678272, 0, 0⟩
  | .operation => ⟨56, 0, 676224, 0, 0⟩
  | .boundOperation => ⟨32, 0, 545152, 0, 0⟩
  | .computed => ⟨48, 0, 545152, 0, 0⟩
  | .slot => ⟨48, 0, 545152, 0, 0⟩
  | .factory => ⟨56, 0, 545152, 0, 0⟩
  | .shared => ⟨32, 0, 546048, 24, 0⟩
  | .directory => ⟨24, 0, 545088, 0, 0⟩
  | .generic => ⟨64, 0, 548096, 0, 40⟩

end Kind

end Rendezvous
