/-!
# Classes

Every value has a class, and classes are values too. A class is built in, known by its name,
or declared, known by a `ClassRef`: the number of its declaration and its name. A declared
class keeps its bases and the rest of its linearisation, so that its whole ancestry can be
read off the value itself.

Built-in classes belong to the module `builtins` and derive from `object`, except `object`
itself, which has no base, and `bool`, which derives from `int`. Declared classes belong to
the module `__main__`. A class is written `<class 'name'>`, with the module before the name
unless it is `builtins`.

A declared class whose first base is `object` is where its instances' namespace and weak
reference slots are defined (`ClassInfo.ownsSlots`, documented by `ClassInfo.slotDoc?`); its
descendants inherit them. What a built-in class defines is in its table (`BuiltinClass`).

A class defines each of its names either as a plain value or through one kind of descriptor
(`DescriptorKind`): computed attributes and stored members, which take precedence over an
instance's own attributes, and methods, class methods, slot wrappers and static functions,
which reading binds to the object or class they are read through.

## Main definitions

* `UrlRouting.ClassRef`, `UrlRouting.ClassInfo`, `UrlRouting.DescriptorKind`
* `UrlRouting.ClassInfo.bases`, `UrlRouting.ClassInfo.mro`, `UrlRouting.ClassInfo.lineage`
* `UrlRouting.ClassInfo.render`, `UrlRouting.ClassInfo.slotDoc?`
-/

namespace UrlRouting

/-- A declared class: its number, which tells classes apart, and its name. -/
structure ClassRef where
  /-- The number of the declaration; the root is `0`. -/
  id : Nat
  /-- The name the class was declared with. -/
  name : String
  deriving DecidableEq, Repr, Inhabited

/-- A class as values see it. -/
inductive ClassInfo where
  /-- A built-in class, by its name. -/
  | builtin (name : String)
  /-- A declared class with its bases, its linearisation after itself, and its
  documentation. -/
  | declared (ref : ClassRef) (bases : List ClassInfo) (ancestors : List ClassInfo)
    (doc : Option String)
  deriving Inhabited

/-- How a class implements a name it defines. -/
inductive DescriptorKind where
  /-- An attribute computed for each object; it takes precedence over the object's own. -/
  | getset
  /-- An attribute stored in each object; it takes precedence over the object's own. -/
  | member
  /-- A method, bound to the object it is read from. -/
  | method
  /-- A method bound to the class of the object it is read from. -/
  | classMethod
  /-- An operation of the object's type, bound to the object as a wrapper. -/
  | slotWrapper
  /-- A function that reading through an object or a class leaves as it is. -/
  | staticMethod
  deriving DecidableEq, Repr

/-- The name of the class of descriptors of a kind. -/
def DescriptorKind.typeName : DescriptorKind → String
  | .getset => "getset_descriptor"
  | .member => "member_descriptor"
  | .method => "method_descriptor"
  | .classMethod => "classmethod_descriptor"
  | .slotWrapper => "wrapper_descriptor"
  | .staticMethod => "staticmethod"

/-- Whether descriptors of a kind take precedence over an object's own attributes. -/
def DescriptorKind.isData : DescriptorKind → Bool
  | .getset | .member => true
  | _ => false

namespace ClassInfo

/-- The root class. -/
def object : ClassInfo := .builtin "object"

/-- The class of attribute objects: declared in `__main__` with the root as its only base,
and numbered apart from the classes of any hierarchy. -/
def attributeObject : ClassInfo :=
  .declared ⟨0, "Obj"⟩ [object] [object]
    (some "Plain object whose attributes come from a JSON object (\x7b\"$obj\": \x7b...\x7d\x7d).")

/-- The reference of a class; a built-in class is numbered `0`, as the root is. -/
def ref : ClassInfo → ClassRef
  | .builtin name => ⟨0, name⟩
  | .declared r _ _ _ => r

/-- The name of a class. -/
def name (c : ClassInfo) : String := c.ref.name

/-- The module that defines a class. -/
def definedIn : ClassInfo → String
  | .builtin _ => "builtins"
  | .declared _ _ _ _ => "__main__"

/-- Whether a class is the root class. -/
def isObject : ClassInfo → Bool
  | .builtin "object" => true
  | _ => false

/-- The written form of a class. -/
def render (c : ClassInfo) : String :=
  "<class '" ++ (if c.definedIn == "builtins" then c.name else c.definedIn ++ "." ++ c.name) ++
    "'>"

/-- The bases of a class. -/
def bases : ClassInfo → List ClassInfo
  | .builtin "object" => []
  | .builtin "bool" => [.builtin "int"]
  | .builtin _ => [object]
  | .declared _ bs _ _ => bs

/-- The linearisation of a class: the class, then its ancestors, the root last. -/
def mro : ClassInfo → List ClassInfo
  | .builtin "object" => [object]
  | .builtin "bool" => [.builtin "bool", .builtin "int", object]
  | .builtin n => [.builtin n, object]
  | c@(.declared _ _ ancestors _) => c :: ancestors

/-- The references along the linearisation of a class. -/
def lineage (c : ClassInfo) : List ClassRef := c.mro.map ref

/-- Whether a class defines its instances' namespace and weak reference slots: a declared
class whose first base is the root. -/
def ownsSlots : ClassInfo → Bool
  | .declared _ (b :: _) _ _ => b.isObject
  | _ => false

/-- The documentation of the slots a declared class owns: its instances' namespace and their
weak references. -/
def slotDoc? (owner : ClassInfo) (name : String) : Option String :=
  match owner, name with
  | .declared _ _ _ _, "__dict__" => some "dictionary for instance variables (if defined)"
  | .declared _ _ _ _, "__weakref__" => some "list of weak references to the object (if defined)"
  | _, _ => none

theorem lineage_declared (r : ClassRef) (bs as : List ClassInfo) (d : Option String) :
    (ClassInfo.declared r bs as d).lineage = r :: as.map ref := by
  simp [lineage, mro, ref]

end ClassInfo

end UrlRouting
