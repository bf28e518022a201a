import UrlRouting.Builtin
import UrlRouting.Failure

/-!
# Public names and package attributes

The public names of the library, each with the module that defines it, are looked up only when
they are asked for. Besides them the package itself has the attributes every package module
has: its class, its own lookup function, texts such as its name and version, lists, tables,
the submodules already loaded, two loader objects, and what the root class defines for every
object: slots, which bound to the package are wrappers, and methods.

Asking an attribute for its module and its name (`PackageAttribute.origin`) works for classes
and functions; a bound method has a name but no module, a plain value or a wrapper has no
module attribute, a submodule has no module attribute of its own, and a loader object has a
module through its class but no name. A name that is no attribute is
refused.

## Main definitions

* `UrlRouting.exports`, `UrlRouting.PackageAttribute`, `UrlRouting.packageAttribute?`
* `UrlRouting.PackageAttribute.origin`, `UrlRouting.attributeOrigin`
-/

namespace UrlRouting

/-- The public names with their defining modules. -/
def exports : List (String × String) :=
  [("ClassRoute", "routekit.routing.route"), ("NamedRoute", "routekit.routing.route"),
    ("RelationshipRoute", "routekit.routing.route"), ("Route", "routekit.routing.route"),
    ("RouteSet", "routekit.routing.route_set"), ("Router", "routekit.routing.router"),
    ("URITemplate", "routekit.routing.template"), ("HTTPMethod", "routekit.http.methods"),
    ("method_from_string", "routekit.http.methods"),
    ("string_from_method", "routekit.http.methods"), ("RouterConfig", "routekit.config"),
    ("DuplicateRouteError", "routekit.errors"), ("InvalidRouteError", "routekit.errors"),
    ("RouteKitError", "routekit.errors"), ("RouteNotFound", "routekit.errors"),
    ("TemplateSyntaxError", "routekit.errors")]

/-- An attribute of the package, as far as its module and name can be read. -/
inductive PackageAttribute where
  /-- A class or function, by its module and name. -/
  | defined (moduleName name : String)
  /-- A value of a built-in type, which has no module. -/
  | plain (typeName : String)
  /-- A submodule, by its full name. -/
  | submodule (path : String)
  /-- An object whose class gives it a module but which has no name. -/
  | unnamed (moduleName typeName : String)
  /-- A built-in method bound to the package, named but belonging to no module. -/
  | boundMethod (name : String)
  deriving DecidableEq, Repr

/-- The attribute of the package of a name, if it has one. -/
def packageAttribute? (name : String) : Option PackageAttribute :=
  match exports.find? (·.1 == name) with
  | some e => some (.defined e.2 name)
  | none =>
    match name with
    | "__class__" => some (.defined "builtins" "module")
    | "__getattr__" => some (.defined "routekit" "__getattr__")
    | "errors" | "config" | "http" | "routing" => some (.submodule ("routekit." ++ name))
    | "__name__" | "__doc__" | "__package__" | "__file__" | "__cached__" | "__version__" =>
      some (.plain "str")
    | "__all__" | "__path__" => some (.plain "list")
    | "_LAZY_IMPORTS" | "__dict__" | "__builtins__" | "__annotations__" => some (.plain "dict")
    | "__spec__" => some (.unnamed "_frozen_importlib" "ModuleSpec")
    | "__loader__" => some (.unnamed "_frozen_importlib_external" "SourceFileLoader")
    | n =>
      if Builtin.objectSlotNames.contains n then some (.plain "method-wrapper")
      else if Builtin.objectMethodNames.contains n then some (.boundMethod n)
      else none

/-- The module, if any, and the name of an attribute, read in that order. -/
def PackageAttribute.origin : PackageAttribute → Except Failure (Option String × String)
  | .defined m n => .ok (some m, n)
  | .plain t => .error (.noAttribute t "__module__")
  | .submodule p => .error (.moduleAttribute p "__module__")
  | .unnamed _ t => .error (.noAttribute t "__name__")
  | .boundMethod n => .ok (none, n)

/-- The module and name of the package attribute a value names; only a text names one. -/
def attributeOrigin (name : Value) : Except Failure (Option String × String) :=
  match name with
  | .str n =>
    match packageAttribute? n with
    | some a => a.origin
    | none => .error (.noExport name)
  | v => .error (.attributeNameType v.typeName)

end UrlRouting
