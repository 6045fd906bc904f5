import CachePolicy.Value.Routine.Basic

/-!
# Routines of containers

The routines of sequences, sets and mappings.
-/

namespace CachePolicy.Routine

def ofTuple : List Routine :=
  operators ["add", "contains", "eq", "ge", "getattribute", "getitem", "gt", "hash", "iter", "le",
      "len", "lt", "mul", "ne", "repr", "rmul"] ++
  [creator] ++
  [ofClass "__class_getitem__" "" "See PEP 585",
   method "__getnewargs__" "($self, /)" "",
   method "count" "($self, value, /)" "Return number of occurrences of value.",
   method "index" "($self, value, start=0, stop=sys.maxsize, /)"
     "Return first index of value.\n\nRaises ValueError if the value is not present."]

def ofList : List Routine :=
  operators ["add", "contains", "delitem", "eq", "ge", "getattribute", "gt", "iadd", "imul",
      "init", "iter", "le", "len", "lt", "mul", "ne", "repr", "rmul", "setitem"] ++
  [creator] ++
  [ofClass "__class_getitem__" "" "See PEP 585",
   method "__getitem__" "" "x.__getitem__(y) <==> x[y]",
   method "__reversed__" "($self, /)" "Return a reverse iterator over the list.",
   method "__sizeof__" "($self, /)" "Return the size of the list in memory, in bytes.",
   method "append" "($self, object, /)" "Append object to the end of the list.",
   method "clear" "($self, /)" "Remove all items from list.",
   method "copy" "($self, /)" "Return a shallow copy of the list.",
   method "count" "($self, value, /)" "Return number of occurrences of value.",
   method "extend" "($self, iterable, /)" "Extend list by appending elements from the iterable.",
   method "index" "($self, value, start=0, stop=sys.maxsize, /)"
     "Return first index of value.\n\nRaises ValueError if the value is not present.",
   method "insert" "($self, index, object, /)" "Insert object before index.",
   method "pop" "($self, index=-1, /)"
     (words ["Remove and return item at index (default last).\n\nRaises IndexError if list is ",
             "empty or index is out of range."]),
   method "remove" "($self, value, /)"
     "Remove first occurrence of value.\n\nRaises ValueError if the value is not present.",
   method "reverse" "($self, /)" "Reverse *IN PLACE*.",
   lengthy .method "sort" "($self, /, *, key=None, reverse=False)"]

def ofSets : List Routine :=
  [ofClass "__class_getitem__" "" "See PEP 585",
   method "__contains__" "" "x.__contains__(y) <==> y in x.",
   method "__reduce__" "" "Return state information for pickling.",
   method "__sizeof__" "" "S.__sizeof__() -> size of S in memory, in bytes",
   method "copy" "" "Return a shallow copy of a set.",
   method "difference" ""
     (words ["Return the difference of two or more sets as a new set.\n\n(i.e. all elements ",
             "that are in this set but not the others.)"]),
   method "intersection" ""
     (words ["Return the intersection of two sets as a new set.\n\n(i.e. all elements that ",
             "are in both sets.)"]),
   method "isdisjoint" "" "Return True if two sets have a null intersection.",
   method "issubset" "($self, other, /)" "Test whether every element in the set is in other.",
   method "issuperset" "($self, other, /)" "Test whether every element in other is in the set.",
   method "symmetric_difference" ""
     (words ["Return the symmetric difference of two sets as a new set.\n\n(i.e. all elements ",
             "that are in exactly one of the sets.)"]),
   method "union" ""
     "Return the union of sets as a new set.\n\n(i.e. all elements that are in either set.)"]

def ofFrozenSet : List Routine :=
  operators ["and", "eq", "ge", "getattribute", "gt", "hash", "iter", "le", "len", "lt", "ne",
      "or", "rand", "repr", "ror", "rsub", "rxor", "sub", "xor"] ++
  [creator]

def ofSet : List Routine :=
  operators ["and", "eq", "ge", "getattribute", "gt", "iand", "init", "ior", "isub", "iter",
      "ixor", "le", "len", "lt", "ne", "or", "rand", "repr", "ror", "rsub", "rxor", "sub", "xor"] ++
  [creator] ++
  [method "add" ""
     "Add an element to a set.\n\nThis has no effect if the element is already present.",
   method "clear" "" "Remove all elements from this set.",
   method "difference_update" "" "Remove all elements of another set from this set.",
   method "discard" ""
     (words ["Remove an element from a set if it is a member.\n\nUnlike set.remove(), the ",
             "discard() method does not raise\nan exception when an element is missing from ",
             "the set."]),
   method "intersection_update" "" "Update a set with the intersection of itself and another.",
   method "pop" ""
     "Remove and return an arbitrary set element.\nRaises KeyError if the set is empty.",
   method "remove" ""
     (words ["Remove an element from a set; it must be a member.\n\nIf the element is not a ",
             "member, raise a KeyError."]),
   method "symmetric_difference_update" ""
     "Update a set with the symmetric difference of itself and another.",
   method "update" "" "Update a set with the union of itself and others."]

def ofDict : List Routine :=
  operators ["delitem", "eq", "ge", "getattribute", "gt", "init", "ior", "iter", "le", "len",
      "lt", "ne", "or", "repr", "ror", "setitem"] ++
  [creator] ++
  [ofClass "__class_getitem__" "" "See PEP 585",
   method "__contains__" "($self, key, /)"
     "True if the dictionary has the specified key, else False.",
   method "__getitem__" "" "x.__getitem__(y) <==> x[y]",
   method "__reversed__" "($self, /)" "Return a reverse iterator over the dict keys.",
   method "__sizeof__" "" "D.__sizeof__() -> size of D in memory, in bytes",
   method "clear" "" "D.clear() -> None.  Remove all items from D.",
   method "copy" "" "D.copy() -> a shallow copy of D",
   ofClass "fromkeys" "($type, iterable, value=None, /)"
     "Create a new dictionary with keys from iterable and values set to value.",
   method "get" "($self, key, default=None, /)"
     "Return the value for key if key is in the dictionary, else default.",
   method "items" "" "D.items() -> a set-like object providing a view on D's items",
   method "keys" "" "D.keys() -> a set-like object providing a view on D's keys",
   method "pop" "($self, key, default=<unrepresentable>, /)"
     (words ["D.pop(k[,d]) -> v, remove specified key and return the corresponding value.\n\n",
             "If the key is not found, return the default if given; otherwise,\nraise a ",
             "KeyError."]),
   method "popitem" "($self, /)"
     (words ["Remove and return a (key, value) pair as a 2-tuple.\n\nPairs are returned in ",
             "LIFO (last-in, first-out) order.\nRaises KeyError if the dict is empty."]),
   method "setdefault" "($self, key, default=None, /)"
     (words ["Insert key with a value of default if key is not in the dictionary.\n\nReturn ",
             "the value for key if key is in the dictionary, else default."]),
   lengthy .method "update" "",
   method "values" "" "D.values() -> an object providing a view on D's values"]

def ofView : List Routine :=
  operators ["contains", "eq", "ge", "getattribute", "getitem", "gt", "ior", "iter", "le", "len",
      "lt", "ne", "or", "repr", "ror", "str"] ++
  [creator] ++
  [ofClass "__class_getitem__" "" "See PEP 585",
   method "__reversed__" "" "D.__reversed__() -> reverse iterator",
   method "copy" "" "D.copy() -> a shallow copy of D",
   method "get" "" "D.get(k[,d]) -> D[k] if k in D, else d.  d defaults to None.",
   method "items" "" "D.items() -> a set-like object providing a view on D's items",
   method "keys" "" "D.keys() -> a set-like object providing a view on D's keys",
   method "values" "" "D.values() -> an object providing a view on D's values"]

def ofMapping : List Routine :=
  functions ["__contains__", "__eq__", "__getitem__"] ++
  [written "get" "D.get(k[,d]) -> D[k] if k in D, else d.  d defaults to None.",
   written "items" "D.items() -> a set-like object providing a view on D's items",
   written "keys" "D.keys() -> a set-like object providing a view on D's keys",
   written "values" "D.values() -> an object providing a view on D's values"]

def ofCollection : List Routine :=
  classFunctions ["__subclasshook__"]

def ofSized : List Routine :=
  functions ["__len__"] ++ classFunctions ["__subclasshook__"]

def ofIterable : List Routine :=
  functions ["__iter__"] ++
  classFunctions ["__subclasshook__"] ++
  [writtenOfClass "__class_getitem__"
     (words ["Represent a PEP 585 generic type\n\nE.g. for t = list[int], t.__origin__ is ",
             "list and t.__args__ is (int,)."])]

def ofContainer : List Routine :=
  functions ["__contains__"] ++
  classFunctions ["__subclasshook__"] ++
  [writtenOfClass "__class_getitem__"
     (words ["Represent a PEP 585 generic type\n\nE.g. for t = list[int], t.__origin__ is ",
             "list and t.__args__ is (int,)."])]

end CachePolicy.Routine
