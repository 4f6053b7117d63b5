/-
  Calls with arguments by position and by name.

  An operation has parameters in order, some of which may be left out.  A call
  gives each parameter at most one argument, and one that may not be left out
  exactly one.

  * `Arguments.misfit?` tells why a call does not fit the parameters;
  * `Arguments.bind` puts the arguments under the names of their parameters and
    tells which named ones are left over;
  * `Arguments.bindAll` refuses a call where any are left over.
-/
import Rendezvous.Failure.Basic

namespace Rendezvous

/-- The arguments of a call. -/
structure Arguments where
  positional : List Value
  named : Object
  deriving Repr

/-- A parameter: its name, and its value where it is left out, if it may be. -/
structure Parameter where
  name : Text
  default? : Option Value
  deriving Repr

/-- A parameter that may not be left out. -/
def Parameter.required (name : Text) : Parameter := ⟨name, none⟩

/-- A parameter with a value where it is left out. -/
def Parameter.optional (name : Text) (default : Value) : Parameter := ⟨name, some default⟩

/-- Why the arguments of a call do not fit the parameters of its operation. -/
inductive Misfit where
  /-- an argument is named that is no parameter -/
  | unknown (name : Text)
  /-- a parameter is given by position and by name -/
  | twice (name : Text)
  /-- more arguments are given by position than there are parameters -/
  | tooMany (parameters arguments : Nat)
  /-- a parameter is left out that may not be -/
  | missing (name : Text)
  deriving DecidableEq, Repr

/-- What is said about a call that does not fit its operation. -/
def Misfit.message (operation : Text) : Misfit → Text
  | .unknown name => operation ++ "() got an unexpected keyword argument '" ++ name ++ "'"
  | .twice name => operation ++ "() got multiple values for argument '" ++ name ++ "'"
  | .tooMany parameters arguments =>
    operation ++ "() takes " ++ Text.ofNat parameters ++ " positional arguments but " ++
      Text.ofNat arguments ++ " were given"
  | .missing name => operation ++ "() missing 1 required positional argument: '" ++ name ++ "'"

/-- The arguments of a call do not fit its operation. -/
def Failure.misfit (operation : Text) (m : Misfit) : Failure :=
  .defect .wrongType (m.message operation)

namespace Arguments

/-- The value of a parameter among the arguments given. -/
def valueOf (given : Object) (p : Parameter) : Except Misfit (Text × Value) :=
  match (given.field? p.name).or p.default? with
  | some v => .ok (p.name, v)
  | none => .error (.missing p.name)

/-- Why the named arguments or their number do not fit, if they do not: the first named one
    that does not counts.  An open operation takes arguments under any further names. -/
def misfit? (names : List Text) (isOpen : Bool) (a : Arguments) : Option Misfit :=
  let byPosition := names.take a.positional.length
  let misnamed := a.named.findSome? fun (name, _) =>
    if byPosition.contains name then some (.twice name)
    else if isOpen || names.contains name then none
    else some (.unknown name)
  misnamed.or
    (if names.length < a.positional.length then
      some (.tooMany names.length a.positional.length)
    else none)

/-- The arguments under the names of their parameters, and the named ones left over. -/
def bindTo (parameters : List Parameter) (isOpen : Bool) (a : Arguments) :
    Except Misfit (Object × Object) := do
  let names := parameters.map (·.name)
  if let some m := a.misfit? names isOpen then throw m
  let (byName, extra) := a.named.partition fun (name, _) => names.contains name
  return (← parameters.mapM (valueOf (names.zip a.positional ++ byName)), extra)

/-- The arguments of a call of an open operation. -/
def bind (operation : Text) (parameters : List Parameter) (a : Arguments) :
    Except Failure (Object × Object) :=
  (a.bindTo parameters true).mapError (.misfit operation)

/-- The arguments of a call that leaves none over. -/
def bindAll (operation : Text) (parameters : List Parameter) (a : Arguments) :
    Except Failure Object :=
  ((a.bindTo parameters false).mapError (.misfit operation)).map (·.1)

end Arguments

end Rendezvous
