/-
  Features: what a kind of things has under a name.

  A feature is a method, an operation, something that is kept or worked out for each thing,
  or a value that all things of the kind share.  Some come with wording: what is said about
  them, line by line, and what they take.

  * `Feature.operations` makes the features of operations, which have the same wording in
    every kind.
-/
import Rendezvous.Text.Basic

namespace Rendezvous

/-- What a feature is. -/
inductive Feature.Role where
  /-- a method that a thing carries out -/
  | method
  /-- a method that stands for an operator -/
  | operation
  /-- a method that a kind carries out -/
  | factory
  /-- a method that needs neither a thing nor a kind -/
  | shared
  /-- the method that makes a thing -/
  | maker
  /-- what is worked out for each thing -/
  | computed
  /-- what each thing keeps -/
  | slot
  /-- the wording as a value -/
  | description
  /-- null -/
  | blank
  deriving DecidableEq, Repr

/-- What a kind has under a name: what it takes, and the lines of what is said about it. -/
structure Feature where
  name : Text
  role : Feature.Role
  signature : Option Text
  wording : List Text
  deriving DecidableEq, Repr

namespace Feature

/-- A method. -/
def method (name : Text) (signature : Option Text) (wording : List Text) : Feature :=
  ⟨name, .method, signature, wording⟩

/-- A method of a kind itself. -/
def factory (name : Text) (signature : Option Text) (wording : List Text) : Feature :=
  ⟨name, .factory, signature, wording⟩

/-- A method of neither a thing nor a kind. -/
def shared (name : Text) (signature : Option Text) (wording : List Text) : Feature :=
  ⟨name, .shared, signature, wording⟩

/-- The method that makes a thing. -/
def maker : Feature :=
  ⟨"__new__", .maker, some "($type, *args, **kwargs)",
    ["Create and return a new object.  See help(type) for accurate signature."]⟩

/-- Something that is worked out. -/
def computed (name : Text) (wording : List Text) : Feature := ⟨name, .computed, none, wording⟩

/-- Something that is kept. -/
def slot (name : Text) (wording : List Text) : Feature := ⟨name, .slot, none, wording⟩

/-- What is said about a kind. -/
def description (wording : List Text) : Feature := ⟨"__doc__", .description, none, wording⟩

/-- A name that stands for null. -/
def blank (name : Text) : Feature := ⟨name, .blank, none, []⟩

/-- What the operations of numbers take, and what is said about them. -/
def numberOperations : List (Text × Text × List Text) :=
  [("__or__", "($self, value, /)", ["Return self|value."]),
   ("__ror__", "($self, value, /)", ["Return value|self."]),
   ("__and__", "($self, value, /)", ["Return self&value."]),
   ("__rand__", "($self, value, /)", ["Return value&self."]),
   ("__xor__", "($self, value, /)", ["Return self^value."]),
   ("__rxor__", "($self, value, /)", ["Return value^self."]),
   ("__add__", "($self, value, /)", ["Return self+value."]),
   ("__radd__", "($self, value, /)", ["Return value+self."]),
   ("__sub__", "($self, value, /)", ["Return self-value."]),
   ("__rsub__", "($self, value, /)", ["Return value-self."]),
   ("__mul__", "($self, value, /)", ["Return self*value."]),
   ("__rmul__", "($self, value, /)", ["Return value*self."]),
   ("__mod__", "($self, value, /)", ["Return self%value."]),
   ("__rmod__", "($self, value, /)", ["Return value%self."]),
   ("__divmod__", "($self, value, /)", ["Return divmod(self, value)."]),
   ("__rdivmod__", "($self, value, /)", ["Return divmod(value, self)."]),
   ("__pow__", "($self, value, mod=None, /)", ["Return pow(self, value, mod)."]),
   ("__rpow__", "($self, value, mod=None, /)", ["Return pow(value, self, mod)."]),
   ("__neg__", "($self, /)", ["-self"]),
   ("__pos__", "($self, /)", ["+self"]),
   ("__abs__", "($self, /)", ["abs(self)"]),
   ("__invert__", "($self, /)", ["~self"]),
   ("__lshift__", "($self, value, /)", ["Return self<<value."]),
   ("__rlshift__", "($self, value, /)", ["Return value<<self."]),
   ("__rshift__", "($self, value, /)", ["Return self>>value."]),
   ("__rrshift__", "($self, value, /)", ["Return value>>self."]),
   ("__floordiv__", "($self, value, /)", ["Return self//value."]),
   ("__rfloordiv__", "($self, value, /)", ["Return value//self."]),
   ("__truediv__", "($self, value, /)", ["Return self/value."]),
   ("__rtruediv__", "($self, value, /)", ["Return value/self."])]

/-- What all other operations take, and what is said about them. -/
def otherOperations : List (Text × Text × List Text) :=
  [("__repr__", "($self, /)", ["Return repr(self)."]),
   ("__hash__", "($self, /)", ["Return hash(self)."]),
   ("__str__", "($self, /)", ["Return str(self)."]),
   ("__getattribute__", "($self, name, /)", ["Return getattr(self, name)."]),
   ("__setattr__", "($self, name, value, /)", ["Implement setattr(self, name, value)."]),
   ("__delattr__", "($self, name, /)", ["Implement delattr(self, name)."]),
   ("__lt__", "($self, value, /)", ["Return self<value."]),
   ("__le__", "($self, value, /)", ["Return self<=value."]),
   ("__eq__", "($self, value, /)", ["Return self==value."]),
   ("__ne__", "($self, value, /)", ["Return self!=value."]),
   ("__gt__", "($self, value, /)", ["Return self>value."]),
   ("__ge__", "($self, value, /)", ["Return self>=value."]),
   ("__init__", "($self, /, *args, **kwargs)",
     ["Initialize self.  See help(type(self)) for accurate signature."]),
   ("__call__", "($self, /, *args, **kwargs)", ["Call self as a function."]),
   ("__bool__", "($self, /)", ["True if self else False"]),
   ("__int__", "($self, /)", ["int(self)"]),
   ("__float__", "($self, /)", ["float(self)"]),
   ("__index__", "($self, /)",
     ["Return self converted to an integer, if self is suitable for use as an index into a list."]),
   ("__iter__", "($self, /)", ["Implement iter(self)."]),
   ("__len__", "($self, /)", ["Return len(self)."]),
   ("__getitem__", "($self, key, /)", ["Return self[key]."]),
   ("__contains__", "($self, key, /)", ["Return key in self."]),
   ("__setitem__", "($self, key, value, /)", ["Set self[key] to value."]),
   ("__delitem__", "($self, key, /)", ["Delete self[key]."]),
   ("__iadd__", "($self, value, /)", ["Implement self+=value."]),
   ("__imul__", "($self, value, /)", ["Implement self*=value."]),
   ("__ior__", "($self, value, /)", ["Return self|=value."]),
   ("__get__", "($self, instance, owner=None, /)",
     ["Return an attribute of instance, which is of type owner."]),
   ("__set__", "($self, instance, value, /)", ["Set an attribute of instance to value."]),
   ("__delete__", "($self, instance, /)", ["Delete an attribute of instance."])]

/-- The operations of these names. -/
def operations (names : List Text) : List Feature :=
  names.map fun name =>
    match (numberOperations ++ otherOperations).lookup name with
    | some (signature, wording) => ⟨name, .operation, some signature, wording⟩
    | none => ⟨name, .operation, none, []⟩

end Feature

end Rendezvous
