/-
  The members of kinds: the features that a kind has of its own and from its bases.

  * `Kind.own` are the members that a kind has of its own;
  * `Kind.find?` looks a name up, nearest kind first.
-/
import Rendezvous.Kind.Basic
import Rendezvous.Kind.Features.Bytes
import Rendezvous.Kind.Features.Collection
import Rendezvous.Kind.Features.Core
import Rendezvous.Kind.Features.Member
import Rendezvous.Kind.Features.Number
import Rendezvous.Kind.Features.Text

namespace Rendezvous

/-- A feature as that of the kind that has it of its own. -/
structure Member extends Feature where
  owner : Kind
  deriving DecidableEq, Repr

namespace Kind

/-- The features that a kind has of its own. -/
def features : Kind → List Feature
  | .object => Feature.thingFeatures
  | .kind => Feature.kindFeatures
  | .null => Feature.nullFeatures
  | .flag => Feature.flagFeatures
  | .whole => Feature.wholeFeatures
  | .floating => Feature.floatingFeatures
  | .text => Feature.textFeatures
  | .bytes => Feature.byteFeatures
  | .list => Feature.listFeatures
  | .dict => Feature.dictFeatures
  | .tuple => Feature.tupleFeatures
  | .builtin => Feature.builtinFeatures
  | .method => Feature.methodFeatures
  | .operation => Feature.operationFeatures
  | .boundOperation => Feature.boundOperationFeatures
  | .computed => Feature.computedFeatures
  | .slot => Feature.slotFeatures
  | .factory => Feature.factoryFeatures
  | .shared => Feature.sharedFeatures
  | .directory => Feature.directoryFeatures
  | .generic => Feature.genericFeatures

/-- The members that a kind has of its own. -/
def own (k : Kind) : List Member := k.features.map fun f => ⟨f, k⟩

/-- The member of a name among a kind's own. -/
def findOwn? (name : Text) (k : Kind) : Option Member := k.own.find? fun m => m.name = name

/-- The member of a name that a kind has, of its own or from its bases. -/
def find? (name : Text) (k : Kind) : Option Member :=
  (k.lineage.flatMap own).find? fun m => m.name = name

/-- Whether a kind takes an argument. -/
def isGeneric (k : Kind) : Bool := k = .kind || (k.find? "__class_getitem__").isSome

end Kind

end Rendezvous
