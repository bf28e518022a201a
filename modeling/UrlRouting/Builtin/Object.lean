import UrlRouting.Builtin.Basic

/-!
# Tables of the root class and the class of classes

The root class `object` defines what every object can do: its slots (written form, hash,
comparisons, attribute access), its reduction methods, its formatting and sizing methods, two
class methods, and the computed attribute `__class__`. The class of classes `type` defines what
every class can do, and the members and computed attributes that describe a class.

## Main definitions

* `UrlRouting.Builtin.object`, `UrlRouting.Builtin.type`
-/

namespace UrlRouting.Builtin

/-- The root class: what every object defines. -/
def object : BuiltinClass where
  name := "object"
  doc := some (lines [
    "The base class of the class hierarchy.",
    "",
    "When called, it accepts no arguments and returns a new featureless",
    "instance that has no instance attributes and cannot be given any.",
    ""])
  signature := some "()"
  layout := ⟨16, 0, 529664, 0, 0⟩
  entries := [
    ⟨"__new__", .constructor, some constructorDoc, some "($type, *args, **kwargs)"⟩,
    ⟨"__repr__", .descriptor .slotWrapper, some "Return repr(self).", some "($self, /)"⟩,
    ⟨"__hash__", .descriptor .slotWrapper, some "Return hash(self).", some "($self, /)"⟩,
    ⟨"__str__", .descriptor .slotWrapper, some "Return str(self).", some "($self, /)"⟩,
    ⟨"__getattribute__", .descriptor .slotWrapper,
      some "Return getattr(self, name).",
      some "($self, name, /)"⟩,
    ⟨"__setattr__", .descriptor .slotWrapper,
      some "Implement setattr(self, name, value).",
      some "($self, name, value, /)"⟩,
    ⟨"__delattr__", .descriptor .slotWrapper,
      some "Implement delattr(self, name).",
      some "($self, name, /)"⟩,
    ⟨"__lt__", .descriptor .slotWrapper, some "Return self<value.", some "($self, value, /)"⟩,
    ⟨"__le__", .descriptor .slotWrapper, some "Return self<=value.", some "($self, value, /)"⟩,
    ⟨"__eq__", .descriptor .slotWrapper, some "Return self==value.", some "($self, value, /)"⟩,
    ⟨"__ne__", .descriptor .slotWrapper, some "Return self!=value.", some "($self, value, /)"⟩,
    ⟨"__gt__", .descriptor .slotWrapper, some "Return self>value.", some "($self, value, /)"⟩,
    ⟨"__ge__", .descriptor .slotWrapper, some "Return self>=value.", some "($self, value, /)"⟩,
    ⟨"__init__", .descriptor .slotWrapper,
      some "Initialize self.  See help(type(self)) for accurate signature.",
      some "($self, /, *args, **kwargs)"⟩,
    ⟨"__reduce_ex__", .descriptor .method,
      some "Helper for pickle.",
      some "($self, protocol, /)"⟩,
    ⟨"__reduce__", .descriptor .method, some "Helper for pickle.", some "($self, /)"⟩,
    ⟨"__getstate__", .descriptor .method, some "Helper for pickle.", some "($self, /)"⟩,
    ⟨"__subclasshook__", .descriptor .classMethod,
      some (lines [
        "Abstract classes can override this to customize issubclass().",
        "",
        "This is invoked early on by abc.ABCMeta.__subclasscheck__().",
        "It should return True, False or NotImplemented.  If it returns",
        "NotImplemented, the normal algorithm is used.  Otherwise, it",
        "overrides the normal algorithm (and the outcome is cached).",
        ""]),
      none⟩,
    ⟨"__init_subclass__", .descriptor .classMethod,
      some (lines [
        "This method is called when a class is subclassed.",
        "",
        "The default implementation does nothing. It may be",
        "overridden to extend subclasses.",
        ""]),
      none⟩,
    ⟨"__format__", .descriptor .method,
      some "Default object formatter.",
      some "($self, format_spec, /)"⟩,
    ⟨"__sizeof__", .descriptor .method,
      some "Size of object in memory, in bytes.",
      some "($self, /)"⟩,
    ⟨"__dir__", .descriptor .method, some "Default dir() implementation.", some "($self, /)"⟩,
    ⟨"__class__", .descriptor .getset, some "the object's class", none⟩,
    ⟨"__doc__", .documentation, none, none⟩]

/-- The class of classes: what every class defines and the attributes that describe it. -/
def type : BuiltinClass where
  name := "type"
  doc := some (lines [
    "type(object) -> the object's type",
    "type(name, bases, dict, **kwds) -> a new type"])
  signature := none
  layout := ⟨904, 40, 2148031744, 368, 264⟩
  entries := [
    ⟨"__new__", .constructor, some constructorDoc, some "($type, *args, **kwargs)"⟩,
    ⟨"__repr__", .descriptor .slotWrapper, some "Return repr(self).", some "($self, /)"⟩,
    ⟨"__call__", .descriptor .slotWrapper,
      some "Call self as a function.",
      some "($self, /, *args, **kwargs)"⟩,
    ⟨"__getattribute__", .descriptor .slotWrapper,
      some "Return getattr(self, name).",
      some "($self, name, /)"⟩,
    ⟨"__setattr__", .descriptor .slotWrapper,
      some "Implement setattr(self, name, value).",
      some "($self, name, value, /)"⟩,
    ⟨"__delattr__", .descriptor .slotWrapper,
      some "Implement delattr(self, name).",
      some "($self, name, /)"⟩,
    ⟨"__init__", .descriptor .slotWrapper,
      some "Initialize self.  See help(type(self)) for accurate signature.",
      some "($self, /, *args, **kwargs)"⟩,
    ⟨"__or__", .descriptor .slotWrapper, some "Return self|value.", some "($self, value, /)"⟩,
    ⟨"__ror__", .descriptor .slotWrapper, some "Return value|self.", some "($self, value, /)"⟩,
    ⟨"mro", .descriptor .method,
      some "Return a type's method resolution order.",
      some "($self, /)"⟩,
    ⟨"__subclasses__", .descriptor .method,
      some "Return a list of immediate subclasses.",
      some "($self, /)"⟩,
    ⟨"__prepare__", .descriptor .classMethod,
      some (lines [
        "__prepare__() -> dict",
        "used to create the namespace for the class statement"]),
      none⟩,
    ⟨"__instancecheck__", .descriptor .method,
      some "Check if an object is an instance.",
      some "($self, instance, /)"⟩,
    ⟨"__subclasscheck__", .descriptor .method,
      some "Check if a class is a subclass.",
      some "($self, subclass, /)"⟩,
    ⟨"__dir__", .descriptor .method,
      some "Specialized __dir__ implementation for types.",
      some "($self, /)"⟩,
    ⟨"__sizeof__", .descriptor .method,
      some "Return memory consumption of the type object.",
      some "($self, /)"⟩,
    ⟨"__basicsize__", .descriptor .member, none, none⟩,
    ⟨"__itemsize__", .descriptor .member, none, none⟩,
    ⟨"__flags__", .descriptor .member, none, none⟩,
    ⟨"__weakrefoffset__", .descriptor .member, none, none⟩,
    ⟨"__base__", .descriptor .member, none, none⟩,
    ⟨"__dictoffset__", .descriptor .member, none, none⟩,
    ⟨"__mro__", .descriptor .member, none, none⟩,
    ⟨"__name__", .descriptor .getset, none, none⟩,
    ⟨"__qualname__", .descriptor .getset, none, none⟩,
    ⟨"__bases__", .descriptor .getset, none, none⟩,
    ⟨"__module__", .descriptor .getset, none, none⟩,
    ⟨"__abstractmethods__", .descriptor .getset, none, none⟩,
    ⟨"__dict__", .descriptor .getset, none, none⟩,
    ⟨"__doc__", .descriptor .getset, none, none⟩,
    ⟨"__text_signature__", .descriptor .getset, none, none⟩,
    ⟨"__annotations__", .descriptor .getset, none, none⟩]

end UrlRouting.Builtin
