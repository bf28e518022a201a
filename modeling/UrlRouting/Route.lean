import UrlRouting.Hierarchy
import UrlRouting.Template.Expand
import UrlRouting.Template.Match
import UrlRouting.Method.Basic

/-!
# Routes

A route pairs a method mask with a URI template (`UrlRouting.Template`) and one of three
identities: a symbolic name, a class of objects, or a relationship name on an owning class.
Classes are classes of a hierarchy (`UrlRouting.Hierarchy`), told apart by number and written
by name.

Each construction of a route gets its own serial number, so two routes built from the same
arguments are still two routes: registration and removal tell routes apart by serial number.
Only the escape flag of a route changes after construction.

A route responds to the methods its mask includes, expands its template into a path
(escaping values when asked, or else when its flag says so), and matches paths with its
template.

## Main definitions

* `UrlRouting.Route.Identity`, `UrlRouting.Route`
* `UrlRouting.Route.respondsTo`, `UrlRouting.Route.pathFor`, `UrlRouting.Route.matchPath`
* `UrlRouting.Route.repr`: the written form `<NamedRoute name='x' method=... template='/a'>`.
-/

namespace UrlRouting

/-- What a route is identified by. -/
inductive Route.Identity where
  /-- A symbolic name. -/
  | named (name : String)
  /-- A class of objects. -/
  | ofClass (cls : ClassRef)
  /-- A relationship name on an owning class. -/
  | relationship (name : String) (cls : ClassRef)
  deriving DecidableEq, Repr, Inhabited

/-- A route. -/
structure Route where
  /-- The serial number of the construction that built the route. -/
  serial : Nat
  /-- What the route is identified by. -/
  identity : Route.Identity
  /-- The methods the route is for. -/
  method : Method
  /-- The template of its paths. -/
  template : Template
  /-- Whether values are percent-encoded on expansion unless asked otherwise. -/
  escapes : Bool := false
  deriving DecidableEq, Repr, Inhabited

namespace Route

/-- The name of a named route. -/
def name? (r : Route) : Option String :=
  match r.identity with
  | .named n => some n
  | _ => none

/-- The class of a class or relationship route. -/
def objectClass? (r : Route) : Option ClassRef :=
  match r.identity with
  | .named _ => none
  | .ofClass c => some c
  | .relationship _ c => some c

/-- The relationship name of a relationship route. -/
def relationshipName? (r : Route) : Option String :=
  match r.identity with
  | .relationship n _ => some n
  | _ => none

/-- Whether the route is a named route. -/
def isNamed (r : Route) : Bool := r.name?.isSome

/-- Whether the route is a class route. -/
def isClass (r : Route) : Bool :=
  match r.identity with
  | .ofClass _ => true
  | _ => false

/-- Whether the route is a relationship route. -/
def isRelationship (r : Route) : Bool := r.relationshipName?.isSome

/-! ### The accessors on each identity -/

section Accessors

variable (serial : Nat) (m : Method) (t : Template) (e : Bool)

@[simp] theorem name?_named (n : String) : (Route.mk serial (.named n) m t e).name? = some n :=
  rfl

@[simp] theorem name?_ofClass (c : ClassRef) : (Route.mk serial (.ofClass c) m t e).name? = none :=
  rfl

@[simp] theorem name?_relationship (n : String) (c : ClassRef) :
    (Route.mk serial (.relationship n c) m t e).name? = none :=
  rfl

@[simp] theorem objectClass?_named (n : String) :
    (Route.mk serial (.named n) m t e).objectClass? = none :=
  rfl

@[simp] theorem objectClass?_ofClass (c : ClassRef) :
    (Route.mk serial (.ofClass c) m t e).objectClass? = some c :=
  rfl

@[simp] theorem objectClass?_relationship (n : String) (c : ClassRef) :
    (Route.mk serial (.relationship n c) m t e).objectClass? = some c :=
  rfl

@[simp] theorem relationshipName?_named (n : String) :
    (Route.mk serial (.named n) m t e).relationshipName? = none :=
  rfl

@[simp] theorem relationshipName?_ofClass (c : ClassRef) :
    (Route.mk serial (.ofClass c) m t e).relationshipName? = none :=
  rfl

@[simp] theorem relationshipName?_relationship (n : String) (c : ClassRef) :
    (Route.mk serial (.relationship n c) m t e).relationshipName? = some n :=
  rfl

@[simp] theorem isNamed_named (n : String) : (Route.mk serial (.named n) m t e).isNamed = true :=
  rfl

@[simp] theorem isNamed_ofClass (c : ClassRef) :
    (Route.mk serial (.ofClass c) m t e).isNamed = false :=
  rfl

@[simp] theorem isNamed_relationship (n : String) (c : ClassRef) :
    (Route.mk serial (.relationship n c) m t e).isNamed = false :=
  rfl

@[simp] theorem isClass_named (n : String) : (Route.mk serial (.named n) m t e).isClass = false :=
  rfl

@[simp] theorem isClass_ofClass (c : ClassRef) :
    (Route.mk serial (.ofClass c) m t e).isClass = true :=
  rfl

@[simp] theorem isClass_relationship (n : String) (c : ClassRef) :
    (Route.mk serial (.relationship n c) m t e).isClass = false :=
  rfl

@[simp] theorem isRelationship_named (n : String) :
    (Route.mk serial (.named n) m t e).isRelationship = false :=
  rfl

@[simp] theorem isRelationship_ofClass (c : ClassRef) :
    (Route.mk serial (.ofClass c) m t e).isRelationship = false :=
  rfl

@[simp] theorem isRelationship_relationship (n : String) (c : ClassRef) :
    (Route.mk serial (.relationship n c) m t e).isRelationship = true :=
  rfl

end Accessors

/-- The kind of the route, as its written form names it. -/
def kindName (r : Route) : String :=
  match r.identity with
  | .named _ => "NamedRoute"
  | .ofClass _ => "ClassRoute"
  | .relationship _ _ => "RelationshipRoute"

/-- Whether the route responds to the method `k`. -/
def respondsTo (r : Route) (k : Method) : Bool := r.method.includes k

/-- The path of the route for the bindings, escaping as `escape` says, or as the route's flag
says when it says nothing, after the declared classes `asked` were asked for their
annotations; with the classes asked after it. -/
def pathForIn (r : Route) (b : Value) (escape : Option Bool) (asked : List ClassRef) :
    String × List ClassRef :=
  r.template.expandIn b (escape.getD r.escapes) asked

/-- The path of the route for the bindings, escaping as `escape` says, or as the route's flag
says when it says nothing. -/
def pathFor (r : Route) (b : Value) (escape : Option Bool) : String :=
  (r.pathForIn b escape []).1

/-- The bindings a path gives under the route's template. -/
def matchPath (r : Route) (path : String) : Option Template.Bindings :=
  r.template.matchPath path

/-- The route with its escape flag set. -/
def withEscapes (r : Route) (flag : Bool) : Route := { r with escapes := flag }

/-- The written form of the route. -/
def repr (r : Route) : String :=
  let identity :=
    match r.identity with
    | .named n => "name=" ++ Text.quoted n
    | .ofClass c => "object_class=" ++ c.name
    | .relationship n c => "relationship_name=" ++ Text.quoted n ++ " object_class=" ++ c.name
  "<" ++ r.kindName ++ " " ++ identity ++ " method=" ++ r.method.repr ++ " template=" ++
    Text.quoted r.template.source ++ ">"

end Route

end UrlRouting
