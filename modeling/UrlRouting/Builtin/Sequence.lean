import UrlRouting.Builtin.Basic

/-!
# Tables of the sequence classes

Lists and tuples: their slots and their methods. Lists cannot be hashed.

## Main definitions

* `UrlRouting.Builtin.list`, `UrlRouting.Builtin.tuple`
-/

namespace UrlRouting.Builtin

/-- The lists. -/
def list : BuiltinClass where
  name := "list"
  doc := some (lines [
    "Built-in mutable sequence.",
    "",
    "If no argument is given, the constructor creates a new empty list.",
    "The argument must be an iterable if specified."])
  signature := some "(iterable=(), /)"
  layout := ⟨40, 0, 38294816, 0, 0⟩
  entries := [
    ⟨"__new__", .constructor, some constructorDoc, some "($type, *args, **kwargs)"⟩,
    ⟨"__repr__", .descriptor .slotWrapper, some "Return repr(self).", some "($self, /)"⟩,
    ⟨"__hash__", .nothing, none, none⟩,
    ⟨"__getattribute__", .descriptor .slotWrapper,
      some "Return getattr(self, name).",
      some "($self, name, /)"⟩,
    ⟨"__lt__", .descriptor .slotWrapper, some "Return self<value.", some "($self, value, /)"⟩,
    ⟨"__le__", .descriptor .slotWrapper, some "Return self<=value.", some "($self, value, /)"⟩,
    ⟨"__eq__", .descriptor .slotWrapper, some "Return self==value.", some "($self, value, /)"⟩,
    ⟨"__ne__", .descriptor .slotWrapper, some "Return self!=value.", some "($self, value, /)"⟩,
    ⟨"__gt__", .descriptor .slotWrapper, some "Return self>value.", some "($self, value, /)"⟩,
    ⟨"__ge__", .descriptor .slotWrapper, some "Return self>=value.", some "($self, value, /)"⟩,
    ⟨"__iter__", .descriptor .slotWrapper, some "Implement iter(self).", some "($self, /)"⟩,
    ⟨"__init__", .descriptor .slotWrapper,
      some "Initialize self.  See help(type(self)) for accurate signature.",
      some "($self, /, *args, **kwargs)"⟩,
    ⟨"__len__", .descriptor .slotWrapper, some "Return len(self).", some "($self, /)"⟩,
    ⟨"__getitem__", .descriptor .method, some "x.__getitem__(y) <==> x[y]", none⟩,
    ⟨"__setitem__", .descriptor .slotWrapper,
      some "Set self[key] to value.",
      some "($self, key, value, /)"⟩,
    ⟨"__delitem__", .descriptor .slotWrapper,
      some "Delete self[key].",
      some "($self, key, /)"⟩,
    ⟨"__add__", .descriptor .slotWrapper, some "Return self+value.", some "($self, value, /)"⟩,
    ⟨"__mul__", .descriptor .slotWrapper, some "Return self*value.", some "($self, value, /)"⟩,
    ⟨"__rmul__", .descriptor .slotWrapper,
      some "Return value*self.",
      some "($self, value, /)"⟩,
    ⟨"__contains__", .descriptor .slotWrapper,
      some "Return key in self.",
      some "($self, key, /)"⟩,
    ⟨"__iadd__", .descriptor .slotWrapper,
      some "Implement self+=value.",
      some "($self, value, /)"⟩,
    ⟨"__imul__", .descriptor .slotWrapper,
      some "Implement self*=value.",
      some "($self, value, /)"⟩,
    ⟨"__reversed__", .descriptor .method,
      some "Return a reverse iterator over the list.",
      some "($self, /)"⟩,
    ⟨"__sizeof__", .descriptor .method,
      some "Return the size of the list in memory, in bytes.",
      some "($self, /)"⟩,
    ⟨"clear", .descriptor .method, some "Remove all items from list.", some "($self, /)"⟩,
    ⟨"copy", .descriptor .method,
      some "Return a shallow copy of the list.",
      some "($self, /)"⟩,
    ⟨"append", .descriptor .method,
      some "Append object to the end of the list.",
      some "($self, object, /)"⟩,
    ⟨"insert", .descriptor .method,
      some "Insert object before index.",
      some "($self, index, object, /)"⟩,
    ⟨"extend", .descriptor .method,
      some "Extend list by appending elements from the iterable.",
      some "($self, iterable, /)"⟩,
    ⟨"pop", .descriptor .method,
      some (lines [
        "Remove and return item at index (default last).",
        "",
        "Raises IndexError if list is empty or index is out of range."]),
      some "($self, index=-1, /)"⟩,
    ⟨"remove", .descriptor .method,
      some (lines [
        "Remove first occurrence of value.",
        "",
        "Raises ValueError if the value is not present."]),
      some "($self, value, /)"⟩,
    ⟨"index", .descriptor .method,
      some (lines [
        "Return first index of value.",
        "",
        "Raises ValueError if the value is not present."]),
      some "($self, value, start=0, stop=sys.maxsize, /)"⟩,
    ⟨"count", .descriptor .method,
      some "Return number of occurrences of value.",
      some "($self, value, /)"⟩,
    ⟨"reverse", .descriptor .method, some "Reverse *IN PLACE*.", some "($self, /)"⟩,
    ⟨"sort", .descriptor .method,
      some (lines [
        "Sort the list in ascending order and return None.",
        "",
        "The sort is in-place (i.e. the list itself is modified) and stable (i.e. the",
        "order of two equal elements is maintained).",
        "",
        "If a key function is given, apply it once to each list item and sort them,",
        "ascending or descending, according to their function values.",
        "",
        "The reverse flag can be set to sort in descending order."]),
      some "($self, /, *, key=None, reverse=False)"⟩,
    ⟨"__class_getitem__", .descriptor .classMethod, some "See PEP 585", none⟩,
    ⟨"__doc__", .documentation, none, none⟩]

/-- The tuples. -/
def tuple : BuiltinClass where
  name := "tuple"
  doc := some (lines [
    "Built-in immutable sequence.",
    "",
    "If no argument is given, the constructor returns an empty tuple.",
    "If iterable is specified the tuple is initialized from iterable's items.",
    "",
    "If the argument is a tuple, the return value is the same object."])
  signature := some "(iterable=(), /)"
  layout := ⟨24, 8, 71849248, 0, 0⟩
  entries := [
    ⟨"__new__", .constructor, some constructorDoc, some "($type, *args, **kwargs)"⟩,
    ⟨"__repr__", .descriptor .slotWrapper, some "Return repr(self).", some "($self, /)"⟩,
    ⟨"__hash__", .descriptor .slotWrapper, some "Return hash(self).", some "($self, /)"⟩,
    ⟨"__getattribute__", .descriptor .slotWrapper,
      some "Return getattr(self, name).",
      some "($self, name, /)"⟩,
    ⟨"__lt__", .descriptor .slotWrapper, some "Return self<value.", some "($self, value, /)"⟩,
    ⟨"__le__", .descriptor .slotWrapper, some "Return self<=value.", some "($self, value, /)"⟩,
    ⟨"__eq__", .descriptor .slotWrapper, some "Return self==value.", some "($self, value, /)"⟩,
    ⟨"__ne__", .descriptor .slotWrapper, some "Return self!=value.", some "($self, value, /)"⟩,
    ⟨"__gt__", .descriptor .slotWrapper, some "Return self>value.", some "($self, value, /)"⟩,
    ⟨"__ge__", .descriptor .slotWrapper, some "Return self>=value.", some "($self, value, /)"⟩,
    ⟨"__iter__", .descriptor .slotWrapper, some "Implement iter(self).", some "($self, /)"⟩,
    ⟨"__len__", .descriptor .slotWrapper, some "Return len(self).", some "($self, /)"⟩,
    ⟨"__getitem__", .descriptor .slotWrapper,
      some "Return self[key].",
      some "($self, key, /)"⟩,
    ⟨"__add__", .descriptor .slotWrapper, some "Return self+value.", some "($self, value, /)"⟩,
    ⟨"__mul__", .descriptor .slotWrapper, some "Return self*value.", some "($self, value, /)"⟩,
    ⟨"__rmul__", .descriptor .slotWrapper,
      some "Return value*self.",
      some "($self, value, /)"⟩,
    ⟨"__contains__", .descriptor .slotWrapper,
      some "Return key in self.",
      some "($self, key, /)"⟩,
    ⟨"__getnewargs__", .descriptor .method, none, some "($self, /)"⟩,
    ⟨"index", .descriptor .method,
      some (lines [
        "Return first index of value.",
        "",
        "Raises ValueError if the value is not present."]),
      some "($self, value, start=0, stop=sys.maxsize, /)"⟩,
    ⟨"count", .descriptor .method,
      some "Return number of occurrences of value.",
      some "($self, value, /)"⟩,
    ⟨"__class_getitem__", .descriptor .classMethod, some "See PEP 585", none⟩,
    ⟨"__doc__", .documentation, none, none⟩]

end UrlRouting.Builtin
