import UrlRouting.Class

/-!
# Tables of built-in classes

A built-in class is known by its table (`BuiltinClass`): its name, its documentation and the
call signature that documentation starts with, the numbers that lay out its objects, and its
namespace in the order the class defines it. Each entry of the namespace (`Entry`) says how the
name is defined (`Definition`): through a descriptor of some kind, as the class's constructor,
as the class's documentation text, or as nothing. An entry also carries the documentation and
the signature of what it defines, which the descriptor and whatever binds it report.

The flags a class reports are those of a class that has been looked up, as every class a value
reaches has been: they include the bit that marks the class's attribute cache valid.

Declared classes all lay out their objects alike (`Layout.declared`): the object header and one
weak reference slot, no items, and the namespace kept ahead of the object.

## Main definitions

* `UrlRouting.Definition`, `UrlRouting.Entry`, `UrlRouting.Layout`, `UrlRouting.BuiltinClass`
* `UrlRouting.Layout.declared`
* `UrlRouting.Builtin.lines`, `UrlRouting.Builtin.constructorDoc`
-/

namespace UrlRouting

/-- How a built-in class defines a name of its namespace. -/
inductive Definition where
  /-- Through a descriptor of a kind. -/
  | descriptor (kind : DescriptorKind)
  /-- As its constructor `__new__`, a built-in function bound to the class. -/
  | constructor
  /-- As the text of its documentation. -/
  | documentation
  /-- As nothing: lists declare so for `__hash__`, since they cannot be hashed. -/
  | nothing
  deriving DecidableEq, Repr

/-- One name of a built-in class's namespace. -/
structure Entry where
  /-- The name. -/
  name : String
  /-- How the class defines it. -/
  definition : Definition
  /-- The documentation of what it defines, without the signature it starts with. -/
  doc : Option String
  /-- The call signature the documentation starts with, if it starts with one. -/
  signature : Option String
  deriving Repr

/-- The numbers that lay out a class's objects. -/
structure Layout where
  /-- The size of an object without its items, in octets. -/
  basicSize : Nat
  /-- The size of one item, in octets; `0` for objects without items. -/
  itemSize : Nat
  /-- The flags of the class. -/
  flags : Nat
  /-- Where an object keeps its weak references; `0` when it keeps none. -/
  weakrefOffset : Int
  /-- Where an object keeps its namespace; `0` when it has none, and below `0` when the
  namespace is kept ahead of the object. -/
  dictOffset : Int
  deriving DecidableEq, Repr

/-- The layout of every declared class: the object header and a weak reference slot, no items,
and a namespace kept ahead of the object. The flags mark a class made at run time, open to
subclasses, ready, with collected objects whose namespace it manages, and a valid attribute
cache. -/
def Layout.declared : Layout := ⟨24, 0, 546320, 16, -48⟩

/-- A built-in class. -/
structure BuiltinClass where
  /-- The name of the class. -/
  name : String
  /-- The documentation of the class, without the signature it starts with. -/
  doc : Option String
  /-- The call signature the class's documentation starts with, if it starts with one. -/
  signature : Option String
  /-- The layout of the class's objects. -/
  layout : Layout
  /-- The class's namespace, in order. -/
  entries : List Entry

namespace Builtin

/-- The text made of lines. -/
def lines (ls : List String) : String := "\n".intercalate ls

/-- The documentation every constructor `__new__` of a built-in class has. -/
def constructorDoc : String :=
  "Create and return a new object.  See help(type) for accurate signature."

end Builtin

end UrlRouting
