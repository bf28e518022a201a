import UrlRouting.Builtin
import UrlRouting.Failure

/-!
# Instances

An instance is an object of a class, with its own namespace of attributes; an instance of the
root class has no namespace at all. Setting an attribute follows the class's rules:

* `__class__` takes only a class, and makes the instance one of that class;
* `__dict__` takes only a mapping, which becomes the whole namespace;
* `__weakref__` is a slot that cannot be set, reported by the class that defines it;
* any other name is set in the namespace, replacing an attribute of the same name in place or
  adding it last.

An instance without a namespace refuses every name but `__class__`: a name the root class
defines is read-only, and any other is no attribute of it.

## Main definitions

* `UrlRouting.Instance`, `UrlRouting.Instance.ofClass`, `UrlRouting.Instance.set`
* `UrlRouting.putEntry`
-/

namespace UrlRouting

/-- The entries with `k` set to `v`: the first entry of that key gets the value, or the entry is
added last. -/
def putEntry (k : String) (v : Value) : List (String × Value) → List (String × Value)
  | [] => [(k, v)]
  | (k', v') :: rest => if k' == k then (k, v) :: rest else (k', v') :: putEntry k v rest

/-- An object of a class, with its namespace of attributes, or none for the root class. -/
structure Instance where
  /-- The class of the object. -/
  cls : ClassInfo
  /-- The namespace of the object, if it has one. -/
  attrs : Option (List (String × Value))
  deriving Inhabited

namespace Instance

/-- A new object of a class: an empty namespace, or none for the root class. -/
def ofClass (c : ClassInfo) : Instance :=
  ⟨c, if c.isObject then none else some []⟩

/-- The object as a value. -/
def toValue (obj : Instance) : Value := .inst obj.cls obj.attrs

/-- The references along the linearisation of the object's class. -/
def lineage (obj : Instance) : List ClassRef := obj.cls.lineage

/-- The name of the class that defines the object's weak reference slot. -/
def slotOwner (obj : Instance) : String :=
  ((obj.cls.mro.find? ClassInfo.ownsSlots).map ClassInfo.name).getD obj.cls.name

/-- The object with the attribute `key` set to `v`, or why it cannot be set. -/
def set (obj : Instance) (key : String) (v : Value) : Except Failure Instance :=
  match key, obj.attrs with
  | "__class__", _ =>
    match v with
    | .cls c => .ok { obj with cls := c }
    | _ => .error (.classAssignment v.typeName)
  | "__dict__", some _ =>
    match v with
    | .map entries => .ok { obj with attrs := some entries }
    | _ => .error (.namespaceAssignment v.typeName)
  | "__weakref__", some _ => .error (.readOnlySlot "__weakref__" obj.slotOwner)
  | k, some entries => .ok { obj with attrs := some (putEntry k v entries) }
  | k, none =>
    if (Builtin.objectSlotNames ++ Builtin.objectMethodNames ++ ["__doc__"]).contains k then
      .error (.readOnlyAttribute obj.cls.name k)
    else .error (.noAttribute obj.cls.name k)

theorem set_plain (obj : Instance) (entries : List (String × Value)) (k : String) (v : Value)
    (h : obj.attrs = some entries) (hk : k ≠ "__class__" ∧ k ≠ "__dict__" ∧ k ≠ "__weakref__") :
    obj.set k v = .ok { obj with attrs := some (putEntry k v entries) } := by
  obtain ⟨h1, h2, h3⟩ := hk
  unfold set
  rw [h]
  split <;> simp_all

end Instance

end UrlRouting
