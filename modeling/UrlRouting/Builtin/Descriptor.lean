import UrlRouting.Builtin.Basic

/-!
# Tables of the descriptor classes

The classes of what namespaces hold and what reading an attribute binds: computed and
stored attribute descriptors, method, class method and slot descriptors, slots bound to an
object, built-in functions and methods, and static functions.

## Main definitions

* `UrlRouting.Builtin.getsetDescriptor`, `UrlRouting.Builtin.memberDescriptor`,
  `UrlRouting.Builtin.methodDescriptor`, `UrlRouting.Builtin.classMethodDescriptor`,
  `UrlRouting.Builtin.wrapperDescriptor`, `UrlRouting.Builtin.methodWrapper`,
  `UrlRouting.Builtin.builtinFunction`, `UrlRouting.Builtin.staticMethod`
-/

namespace UrlRouting.Builtin

/-- Descriptors of computed attributes. -/
def getsetDescriptor : BuiltinClass where
  name := "getset_descriptor"
  doc := none
  signature := none
  layout := ⟨48, 0, 545152, 0, 0⟩
  entries := [
    ⟨"__repr__", .descriptor .slotWrapper, some "Return repr(self).", some "($self, /)"⟩,
    ⟨"__getattribute__", .descriptor .slotWrapper,
      some "Return getattr(self, name).",
      some "($self, name, /)"⟩,
    ⟨"__get__", .descriptor .slotWrapper,
      some "Return an attribute of instance, which is of type owner.",
      some "($self, instance, owner=None, /)"⟩,
    ⟨"__set__", .descriptor .slotWrapper,
      some "Set an attribute of instance to value.",
      some "($self, instance, value, /)"⟩,
    ⟨"__delete__", .descriptor .slotWrapper,
      some "Delete an attribute of instance.",
      some "($self, instance, /)"⟩,
    ⟨"__objclass__", .descriptor .member, none, none⟩,
    ⟨"__name__", .descriptor .member, none, none⟩,
    ⟨"__doc__", .descriptor .getset, none, none⟩,
    ⟨"__qualname__", .descriptor .getset, none, none⟩]

/-- Descriptors of stored members. -/
def memberDescriptor : BuiltinClass where
  name := "member_descriptor"
  doc := none
  signature := none
  layout := ⟨48, 0, 545152, 0, 0⟩
  entries := [
    ⟨"__repr__", .descriptor .slotWrapper, some "Return repr(self).", some "($self, /)"⟩,
    ⟨"__getattribute__", .descriptor .slotWrapper,
      some "Return getattr(self, name).",
      some "($self, name, /)"⟩,
    ⟨"__get__", .descriptor .slotWrapper,
      some "Return an attribute of instance, which is of type owner.",
      some "($self, instance, owner=None, /)"⟩,
    ⟨"__set__", .descriptor .slotWrapper,
      some "Set an attribute of instance to value.",
      some "($self, instance, value, /)"⟩,
    ⟨"__delete__", .descriptor .slotWrapper,
      some "Delete an attribute of instance.",
      some "($self, instance, /)"⟩,
    ⟨"__reduce__", .descriptor .method, none, none⟩,
    ⟨"__objclass__", .descriptor .member, none, none⟩,
    ⟨"__name__", .descriptor .member, none, none⟩,
    ⟨"__doc__", .descriptor .getset, none, none⟩,
    ⟨"__qualname__", .descriptor .getset, none, none⟩]

/-- Descriptors of methods. -/
def methodDescriptor : BuiltinClass where
  name := "method_descriptor"
  doc := none
  signature := none
  layout := ⟨56, 0, 678272, 0, 0⟩
  entries := [
    ⟨"__repr__", .descriptor .slotWrapper, some "Return repr(self).", some "($self, /)"⟩,
    ⟨"__call__", .descriptor .slotWrapper,
      some "Call self as a function.",
      some "($self, /, *args, **kwargs)"⟩,
    ⟨"__getattribute__", .descriptor .slotWrapper,
      some "Return getattr(self, name).",
      some "($self, name, /)"⟩,
    ⟨"__get__", .descriptor .slotWrapper,
      some "Return an attribute of instance, which is of type owner.",
      some "($self, instance, owner=None, /)"⟩,
    ⟨"__reduce__", .descriptor .method, none, none⟩,
    ⟨"__objclass__", .descriptor .member, none, none⟩,
    ⟨"__name__", .descriptor .member, none, none⟩,
    ⟨"__doc__", .descriptor .getset, none, none⟩,
    ⟨"__qualname__", .descriptor .getset, none, none⟩,
    ⟨"__text_signature__", .descriptor .getset, none, none⟩]

/-- Descriptors of class methods. -/
def classMethodDescriptor : BuiltinClass where
  name := "classmethod_descriptor"
  doc := none
  signature := none
  layout := ⟨56, 0, 545152, 0, 0⟩
  entries := [
    ⟨"__repr__", .descriptor .slotWrapper, some "Return repr(self).", some "($self, /)"⟩,
    ⟨"__call__", .descriptor .slotWrapper,
      some "Call self as a function.",
      some "($self, /, *args, **kwargs)"⟩,
    ⟨"__getattribute__", .descriptor .slotWrapper,
      some "Return getattr(self, name).",
      some "($self, name, /)"⟩,
    ⟨"__get__", .descriptor .slotWrapper,
      some "Return an attribute of instance, which is of type owner.",
      some "($self, instance, owner=None, /)"⟩,
    ⟨"__objclass__", .descriptor .member, none, none⟩,
    ⟨"__name__", .descriptor .member, none, none⟩,
    ⟨"__doc__", .descriptor .getset, none, none⟩,
    ⟨"__qualname__", .descriptor .getset, none, none⟩,
    ⟨"__text_signature__", .descriptor .getset, none, none⟩]

/-- Descriptors of slots. -/
def wrapperDescriptor : BuiltinClass where
  name := "wrapper_descriptor"
  doc := none
  signature := none
  layout := ⟨56, 0, 676224, 0, 0⟩
  entries := [
    ⟨"__repr__", .descriptor .slotWrapper, some "Return repr(self).", some "($self, /)"⟩,
    ⟨"__call__", .descriptor .slotWrapper,
      some "Call self as a function.",
      some "($self, /, *args, **kwargs)"⟩,
    ⟨"__getattribute__", .descriptor .slotWrapper,
      some "Return getattr(self, name).",
      some "($self, name, /)"⟩,
    ⟨"__get__", .descriptor .slotWrapper,
      some "Return an attribute of instance, which is of type owner.",
      some "($self, instance, owner=None, /)"⟩,
    ⟨"__reduce__", .descriptor .method, none, none⟩,
    ⟨"__objclass__", .descriptor .member, none, none⟩,
    ⟨"__name__", .descriptor .member, none, none⟩,
    ⟨"__doc__", .descriptor .getset, none, none⟩,
    ⟨"__qualname__", .descriptor .getset, none, none⟩,
    ⟨"__text_signature__", .descriptor .getset, none, none⟩]

/-- Slots bound to an object. -/
def methodWrapper : BuiltinClass where
  name := "method-wrapper"
  doc := none
  signature := none
  layout := ⟨32, 0, 545152, 0, 0⟩
  entries := [
    ⟨"__repr__", .descriptor .slotWrapper, some "Return repr(self).", some "($self, /)"⟩,
    ⟨"__hash__", .descriptor .slotWrapper, some "Return hash(self).", some "($self, /)"⟩,
    ⟨"__call__", .descriptor .slotWrapper,
      some "Call self as a function.",
      some "($self, /, *args, **kwargs)"⟩,
    ⟨"__getattribute__", .descriptor .slotWrapper,
      some "Return getattr(self, name).",
      some "($self, name, /)"⟩,
    ⟨"__lt__", .descriptor .slotWrapper, some "Return self<value.", some "($self, value, /)"⟩,
    ⟨"__le__", .descriptor .slotWrapper, some "Return self<=value.", some "($self, value, /)"⟩,
    ⟨"__eq__", .descriptor .slotWrapper, some "Return self==value.", some "($self, value, /)"⟩,
    ⟨"__ne__", .descriptor .slotWrapper, some "Return self!=value.", some "($self, value, /)"⟩,
    ⟨"__gt__", .descriptor .slotWrapper, some "Return self>value.", some "($self, value, /)"⟩,
    ⟨"__ge__", .descriptor .slotWrapper, some "Return self>=value.", some "($self, value, /)"⟩,
    ⟨"__reduce__", .descriptor .method, none, none⟩,
    ⟨"__self__", .descriptor .member, none, none⟩,
    ⟨"__objclass__", .descriptor .getset, none, none⟩,
    ⟨"__name__", .descriptor .getset, none, none⟩,
    ⟨"__qualname__", .descriptor .getset, none, none⟩,
    ⟨"__doc__", .descriptor .getset, none, none⟩,
    ⟨"__text_signature__", .descriptor .getset, none, none⟩]

/-- Built-in functions and methods bound to an object. -/
def builtinFunction : BuiltinClass where
  name := "builtin_function_or_method"
  doc := none
  signature := none
  layout := ⟨56, 0, 547200, 40, 0⟩
  entries := [
    ⟨"__repr__", .descriptor .slotWrapper, some "Return repr(self).", some "($self, /)"⟩,
    ⟨"__hash__", .descriptor .slotWrapper, some "Return hash(self).", some "($self, /)"⟩,
    ⟨"__call__", .descriptor .slotWrapper,
      some "Call self as a function.",
      some "($self, /, *args, **kwargs)"⟩,
    ⟨"__getattribute__", .descriptor .slotWrapper,
      some "Return getattr(self, name).",
      some "($self, name, /)"⟩,
    ⟨"__lt__", .descriptor .slotWrapper, some "Return self<value.", some "($self, value, /)"⟩,
    ⟨"__le__", .descriptor .slotWrapper, some "Return self<=value.", some "($self, value, /)"⟩,
    ⟨"__eq__", .descriptor .slotWrapper, some "Return self==value.", some "($self, value, /)"⟩,
    ⟨"__ne__", .descriptor .slotWrapper, some "Return self!=value.", some "($self, value, /)"⟩,
    ⟨"__gt__", .descriptor .slotWrapper, some "Return self>value.", some "($self, value, /)"⟩,
    ⟨"__ge__", .descriptor .slotWrapper, some "Return self>=value.", some "($self, value, /)"⟩,
    ⟨"__reduce__", .descriptor .method, none, none⟩,
    ⟨"__module__", .descriptor .member, none, none⟩,
    ⟨"__doc__", .descriptor .getset, none, none⟩,
    ⟨"__name__", .descriptor .getset, none, none⟩,
    ⟨"__qualname__", .descriptor .getset, none, none⟩,
    ⟨"__self__", .descriptor .getset, none, none⟩,
    ⟨"__text_signature__", .descriptor .getset, none, none⟩]

/-- Static functions, which reading leaves as they are. -/
def staticMethod : BuiltinClass where
  name := "staticmethod"
  doc := some (lines [
    "staticmethod(function) -> method",
    "",
    "Convert a function to be a static method.",
    "",
    "A static method does not receive an implicit first argument.",
    "To declare a static method, use this idiom:",
    "",
    "     class C:",
    "         @staticmethod",
    "         def f(arg1, arg2, argN):",
    "             ...",
    "",
    "It can be called either on the class (e.g. C.f()) or on an instance",
    "(e.g. C().f()). Both the class and the instance are ignored, and",
    "neither is passed implicitly as the first argument to the method.",
    "",
    "Static methods in Python are similar to those found in Java or C++.",
    "For a more advanced concept, see the classmethod builtin."])
  signature := none
  layout := ⟨32, 0, 546048, 0, 24⟩
  entries := [
    ⟨"__new__", .constructor, some constructorDoc, some "($type, *args, **kwargs)"⟩,
    ⟨"__repr__", .descriptor .slotWrapper, some "Return repr(self).", some "($self, /)"⟩,
    ⟨"__call__", .descriptor .slotWrapper,
      some "Call self as a function.",
      some "($self, /, *args, **kwargs)"⟩,
    ⟨"__get__", .descriptor .slotWrapper,
      some "Return an attribute of instance, which is of type owner.",
      some "($self, instance, owner=None, /)"⟩,
    ⟨"__init__", .descriptor .slotWrapper,
      some "Initialize self.  See help(type(self)) for accurate signature.",
      some "($self, /, *args, **kwargs)"⟩,
    ⟨"__func__", .descriptor .member, none, none⟩,
    ⟨"__wrapped__", .descriptor .member, none, none⟩,
    ⟨"__isabstractmethod__", .descriptor .getset, none, none⟩,
    ⟨"__dict__", .descriptor .getset, none, none⟩,
    ⟨"__doc__", .documentation, none, none⟩]

end UrlRouting.Builtin
