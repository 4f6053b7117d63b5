/-
  The features of lists, objects and tuples, and of what else holds parts.
-/
import Rendezvous.Kind.Feature

namespace Rendezvous.Feature

/-- What lists have. -/
def listFeatures : List Feature :=
  [maker] ++
  operations ["__repr__"] ++
  [blank "__hash__"] ++
  operations ["__getattribute__", "__lt__", "__le__", "__eq__", "__ne__", "__gt__", "__ge__",
    "__iter__", "__init__", "__len__"] ++
  [method "__getitem__" none ["x.__getitem__(y) <==> x[y]"]] ++
  operations ["__setitem__", "__delitem__", "__add__", "__mul__", "__rmul__", "__contains__",
    "__iadd__", "__imul__"] ++
  [method "__reversed__" (some "($self, /)") ["Return a reverse iterator over the list."],
   method "__sizeof__" (some "($self, /)") ["Return the size of the list in memory, in bytes."],
   method "clear" (some "($self, /)") ["Remove all items from list."],
   method "copy" (some "($self, /)") ["Return a shallow copy of the list."],
   method "append" (some "($self, object, /)") ["Append object to the end of the list."],
   method "insert" (some "($self, index, object, /)") ["Insert object before index."],
   method "extend" (some "($self, iterable, /)")
    ["Extend list by appending elements from the iterable."],
   method "pop" (some "($self, index=-1, /)")
    ["Remove and return item at index (default last).", "",
     "Raises IndexError if list is empty or index is out of range."],
   method "remove" (some "($self, value, /)")
    ["Remove first occurrence of value.", "", "Raises ValueError if the value is not present."],
   method "index" (some "($self, value, start=0, stop=sys.maxsize, /)")
    ["Return first index of value.", "", "Raises ValueError if the value is not present."],
   method "count" (some "($self, value, /)") ["Return number of occurrences of value."],
   method "reverse" (some "($self, /)") ["Reverse *IN PLACE*."],
   method "sort" (some "($self, /, *, key=None, reverse=False)")
    ["Sort the list in ascending order and return None.", "",
     "The sort is in-place (i.e. the list itself is modified) and stable (i.e. the",
     "order of two equal elements is maintained).", "",
     "If a key function is given, apply it once to each list item and sort them,",
     "ascending or descending, according to their function values.", "",
     "The reverse flag can be set to sort in descending order."],
   factory "__class_getitem__" none ["See PEP 585"],
   description
    ["Built-in mutable sequence.", "",
     "If no argument is given, the constructor creates a new empty list.",
     "The argument must be an iterable if specified."]]

/-- What objects have. -/
def dictFeatures : List Feature :=
  [maker] ++
  operations ["__repr__"] ++
  [blank "__hash__"] ++
  operations ["__getattribute__", "__lt__", "__le__", "__eq__", "__ne__", "__gt__", "__ge__",
    "__iter__", "__init__", "__or__", "__ror__", "__ior__", "__len__"] ++
  [method "__getitem__" none ["x.__getitem__(y) <==> x[y]"]] ++
  operations ["__setitem__", "__delitem__"] ++
  [method "__contains__" (some "($self, key, /)")
    ["True if the dictionary has the specified key, else False."],
   method "__sizeof__" none ["D.__sizeof__() -> size of D in memory, in bytes"],
   method "get" (some "($self, key, default=None, /)")
    ["Return the value for key if key is in the dictionary, else default."],
   method "setdefault" (some "($self, key, default=None, /)")
    ["Insert key with a value of default if key is not in the dictionary.", "",
     "Return the value for key if key is in the dictionary, else default."],
   method "pop" (some "($self, key, default=<unrepresentable>, /)")
    ["D.pop(k[,d]) -> v, remove specified key and return the corresponding value.", "",
     "If the key is not found, return the default if given; otherwise,", "raise a KeyError."],
   method "popitem" (some "($self, /)")
    ["Remove and return a (key, value) pair as a 2-tuple.", "",
     "Pairs are returned in LIFO (last-in, first-out) order.",
     "Raises KeyError if the dict is empty."],
   method "keys" none ["D.keys() -> a set-like object providing a view on D's keys"],
   method "items" none ["D.items() -> a set-like object providing a view on D's items"],
   method "values" none ["D.values() -> an object providing a view on D's values"],
   method "update" none
    ["D.update([E, ]**F) -> None.  Update D from dict/iterable E and F.",
     "If E is present and has a .keys() method, then does:  for k in E: D[k] = E[k]",
     "If E is present and lacks a .keys() method, then does:  for k, v in E: D[k] = v",
     "In either case, this is followed by: for k in F:  D[k] = F[k]"],
   factory "fromkeys" (some "($type, iterable, value=None, /)")
    ["Create a new dictionary with keys from iterable and values set to value."],
   method "clear" none ["D.clear() -> None.  Remove all items from D."],
   method "copy" none ["D.copy() -> a shallow copy of D"],
   method "__reversed__" (some "($self, /)") ["Return a reverse iterator over the dict keys."],
   factory "__class_getitem__" none ["See PEP 585"],
   description
    ["dict() -> new empty dictionary",
     "dict(mapping) -> new dictionary initialized from a mapping object's",
     "    (key, value) pairs", "dict(iterable) -> new dictionary initialized as if via:",
     "    d = \x7b\x7d", "    for k, v in iterable:", "        d[k] = v",
     "dict(**kwargs) -> new dictionary initialized with the name=value pairs",
     "    in the keyword argument list.  For example:  dict(one=1, two=2)"]]

/-- What tuples have. -/
def tupleFeatures : List Feature :=
  [maker] ++
  operations ["__repr__", "__hash__", "__getattribute__", "__lt__", "__le__", "__eq__",
    "__ne__", "__gt__", "__ge__", "__iter__", "__len__", "__getitem__", "__add__", "__mul__",
    "__rmul__", "__contains__"] ++
  [method "__getnewargs__" (some "($self, /)") [],
   method "index" (some "($self, value, start=0, stop=sys.maxsize, /)")
    ["Return first index of value.", "", "Raises ValueError if the value is not present."],
   method "count" (some "($self, value, /)") ["Return number of occurrences of value."],
   factory "__class_getitem__" none ["See PEP 585"],
   description
    ["Built-in immutable sequence.", "",
     "If no argument is given, the constructor returns an empty tuple.",
     "If iterable is specified the tuple is initialized from iterable's items.", "",
     "If the argument is a tuple, the return value is the same object."]]

/-- What the directory of a kind has. -/
def directoryFeatures : List Feature :=
  [maker] ++
  operations ["__repr__", "__str__", "__getattribute__", "__lt__", "__le__", "__eq__", "__ne__",
    "__gt__", "__ge__", "__iter__", "__or__", "__ror__", "__ior__", "__len__", "__getitem__",
    "__contains__"] ++
  [method "get" none ["D.get(k[,d]) -> D[k] if k in D, else d.  d defaults to None."],
   method "keys" none ["D.keys() -> a set-like object providing a view on D's keys"],
   method "values" none ["D.values() -> an object providing a view on D's values"],
   method "items" none ["D.items() -> a set-like object providing a view on D's items"],
   method "copy" none ["D.copy() -> a shallow copy of D"],
   factory "__class_getitem__" none ["See PEP 585"],
   method "__reversed__" none ["D.__reversed__() -> reverse iterator"],
   blank "__doc__",
   blank "__hash__"]

/-- What a kind with an argument has. -/
def genericFeatures : List Feature :=
  [maker] ++
  operations ["__repr__", "__hash__", "__call__", "__getattribute__", "__lt__", "__le__",
    "__eq__", "__ne__", "__gt__", "__ge__", "__iter__", "__or__", "__ror__", "__getitem__"] ++
  [method "__mro_entries__" none [],
   method "__instancecheck__" none [],
   method "__subclasscheck__" none [],
   method "__reduce__" none [],
   method "__dir__" none [],
   slot "__origin__" [],
   slot "__args__" [],
   slot "__unpacked__" [],
   computed "__parameters__" ["Type variables in the GenericAlias."],
   computed "__typing_unpacked_tuple_args__" [],
   description
    ["Represent a PEP 585 generic type", "",
     "E.g. for t = list[int], t.__origin__ is list and t.__args__ is (int,)."]]

end Rendezvous.Feature
