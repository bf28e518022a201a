import UrlRouting.Builtin.Descriptor
import UrlRouting.Builtin.Number
import UrlRouting.Builtin.Object
import UrlRouting.Builtin.Sequence
import UrlRouting.Builtin.Text

/-!
# Built-in classes

The tables of the built-in classes that values reach (`all`), found by name (`find?`), and the
entry a class's namespace has for a name (`entry?`). The root class's slots and methods are
what every object has (`objectSlotNames`, `objectMethodNames`).

## Main definitions

* `UrlRouting.Builtin.all`, `UrlRouting.Builtin.find?`, `UrlRouting.Builtin.entry?`
* `UrlRouting.Builtin.objectSlotNames`, `UrlRouting.Builtin.objectMethodNames`
-/

namespace UrlRouting.Builtin

/-- The built-in classes that values reach. -/
def all : List BuiltinClass :=
  [object, type, int, bool, float, str, list, tuple, getsetDescriptor, memberDescriptor,
    methodDescriptor, classMethodDescriptor, wrapperDescriptor, methodWrapper, builtinFunction,
    staticMethod]

/-- The table of the built-in class of a name. -/
def find? (name : String) : Option BuiltinClass := all.find? (·.name == name)

/-- The entry for `name` in the namespace of the built-in class `cls`. -/
def entry? (cls name : String) : Option Entry :=
  (find? cls).bind fun b => b.entries.find? (·.name == name)

/-- The names the root class defines as slots: bound to an object they are wrappers. -/
def objectSlotNames : List String :=
  (object.entries.filter (·.definition == .descriptor .slotWrapper)).map (·.name)

/-- The names the root class defines as its constructor, methods and class methods: bound to
an object they are built-in methods. -/
def objectMethodNames : List String :=
  (object.entries.filter fun e =>
    e.definition == .constructor || e.definition == .descriptor .method ||
      e.definition == .descriptor .classMethod).map (·.name)

end UrlRouting.Builtin
