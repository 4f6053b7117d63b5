/-
  The features of the members of kinds themselves.
-/
import Rendezvous.Kind.Feature

namespace Rendezvous.Feature

/-- What bound methods have. -/
def builtinFeatures : List Feature :=
  operations ["__repr__", "__hash__", "__call__", "__getattribute__", "__lt__", "__le__",
    "__eq__", "__ne__", "__gt__", "__ge__"] ++
  [method "__reduce__" none [],
   slot "__module__" [],
   computed "__doc__" [],
   computed "__name__" [],
   computed "__qualname__" [],
   computed "__self__" [],
   computed "__text_signature__" []]

/-- What methods have. -/
def methodFeatures : List Feature :=
  operations ["__repr__", "__call__", "__getattribute__", "__get__"] ++
  [method "__reduce__" none [],
   slot "__objclass__" [],
   slot "__name__" [],
   computed "__doc__" [],
   computed "__qualname__" [],
   computed "__text_signature__" []]

/-- What operations have. -/
def operationFeatures : List Feature :=
  operations ["__repr__", "__call__", "__getattribute__", "__get__"] ++
  [method "__reduce__" none [],
   slot "__objclass__" [],
   slot "__name__" [],
   computed "__doc__" [],
   computed "__qualname__" [],
   computed "__text_signature__" []]

/-- What bound operations have. -/
def boundOperationFeatures : List Feature :=
  operations ["__repr__", "__hash__", "__call__", "__getattribute__", "__lt__", "__le__",
    "__eq__", "__ne__", "__gt__", "__ge__"] ++
  [method "__reduce__" none [],
   slot "__self__" [],
   computed "__objclass__" [],
   computed "__name__" [],
   computed "__qualname__" [],
   computed "__doc__" [],
   computed "__text_signature__" []]

/-- What computed members have. -/
def computedFeatures : List Feature :=
  operations ["__repr__", "__getattribute__", "__get__", "__set__", "__delete__"] ++
  [slot "__objclass__" [],
   slot "__name__" [],
   computed "__doc__" [],
   computed "__qualname__" []]

/-- What slots have. -/
def slotFeatures : List Feature :=
  operations ["__repr__", "__getattribute__", "__get__", "__set__", "__delete__"] ++
  [method "__reduce__" none [],
   slot "__objclass__" [],
   slot "__name__" [],
   computed "__doc__" [],
   computed "__qualname__" []]

/-- What methods of a kind itself have. -/
def factoryFeatures : List Feature :=
  operations ["__repr__", "__call__", "__getattribute__", "__get__"] ++
  [slot "__objclass__" [],
   slot "__name__" [],
   computed "__doc__" [],
   computed "__qualname__" [],
   computed "__text_signature__" []]

/-- What shared methods have. -/
def sharedFeatures : List Feature :=
  [maker] ++
  operations ["__repr__", "__call__", "__get__", "__init__"] ++
  [slot "__func__" [],
   slot "__wrapped__" [],
   computed "__isabstractmethod__" [],
   computed "__dict__" [],
   description
    ["staticmethod(function) -> method", "", "Convert a function to be a static method.", "",
     "A static method does not receive an implicit first argument.",
     "To declare a static method, use this idiom:", "", "     class C:", "         @staticmethod",
     "         def f(arg1, arg2, argN):", "             ...", "",
     "It can be called either on the class (e.g. C.f()) or on an instance",
     "(e.g. C().f()). Both the class and the instance are ignored, and",
     "neither is passed implicitly as the first argument to the method.", "",
     "Static methods in Python are similar to those found in Java or C++.",
     "For a more advanced concept, see the classmethod builtin."]]

end Rendezvous.Feature
