import UrlRouting.Failure
import UrlRouting.Route

/-!
# Route sets

A route set holds routes in registration order. Registration refuses a route that conflicts
with a registered one: the same route again, a named route with the name of a registered
named route, or a class or relationship route with the class, the relationship name and the
method mask of a registered one. Removal takes out a registered route and refuses one that is
not registered. A store is handed values of any kind: one that is not a route is refused, and
is never registered. Registering several values in order stops at the first refusal and keeps
what was registered before it.

Lookups read the list in registration order. Among the routes of one identity, the first
route with an explicit mask that responds to the method wins, and otherwise the first
wildcard route. Lookups by object and by relationship walk the linearisation of the class,
nearest class first, and take the first class with a route.

The method of a lookup is given as the outcome of reading it: a method that cannot be read is
only reported when a route with an explicit mask has to be asked whether it responds.

## Main definitions

* `UrlRouting.RouteSet`, `UrlRouting.RouteSet.conflicts`
* `UrlRouting.RouteSet.add`, `UrlRouting.RouteSet.remove`, `UrlRouting.RouteSet.contains`
* `UrlRouting.RouteSet.Offered`, `UrlRouting.RouteSet.offer`, `UrlRouting.RouteSet.offerAll`,
  `UrlRouting.RouteSet.withdraw`, `UrlRouting.RouteSet.create`
* `UrlRouting.RouteSet.Call`, `UrlRouting.RouteSet.call`: the calls made on a store.
* `UrlRouting.RouteSet.pick`, the lookups `routeForName`, `routeForClass`, `routeForObject`,
  `routeForRelationship`
-/

namespace UrlRouting

/-- Routes in registration order. -/
structure RouteSet where
  /-- The registered routes, earliest first. -/
  routes : List Route := []
  deriving DecidableEq, Repr, Inhabited

namespace RouteSet

/-- The number of registered routes. -/
def size (s : RouteSet) : Nat := s.routes.length

/-- Whether a route is registered. -/
def contains (s : RouteSet) (r : Route) : Bool := s.routes.any (·.serial == r.serial)

/-- Whether registering `added` conflicts with the registered route `old`. -/
def conflicts (added old : Route) : Bool :=
  old.serial == added.serial ||
    match added.identity with
    | .named n => old.name? == some n
    | _ =>
      old.objectClass? == added.objectClass? &&
        old.relationshipName? == added.relationshipName? && old.method == added.method

/-- Registers a route at the end, unless it conflicts with a registered one. -/
def add (s : RouteSet) (r : Route) : Except Failure RouteSet :=
  match s.routes.find? (conflicts r) with
  | some old => .error (.duplicate r.repr old.repr)
  | none => .ok ⟨s.routes ++ [r]⟩

/-- Takes out a registered route. -/
def remove (s : RouteSet) (r : Route) : Except Failure RouteSet :=
  if s.contains r then .ok ⟨s.routes.eraseP (·.serial == r.serial)⟩
  else .error (.notRegistered r.repr)

/-- What a caller hands a route store: a route, or a value of another kind. -/
inductive Offered where
  /-- A route. -/
  | route (r : Route)
  /-- A value that is not a route. -/
  | other (v : Value)

/-- Registers what is offered; a value that is not a route is refused. -/
def offer (s : RouteSet) : Offered → Except Failure RouteSet
  | .route r => s.add r
  | .other v => .error (.notARoute v)

/-- Registers what is offered in order, up to the first refusal: the store with what was
registered before it, and the refusal. -/
def offerAll (s : RouteSet) : List Offered → RouteSet × Option Failure
  | [] => (s, none)
  | x :: xs =>
    match s.offer x with
    | .ok s' => s'.offerAll xs
    | .error e => (s, some e)

/-- Takes out what is offered; a value that is not a route is never registered. -/
def withdraw (s : RouteSet) : Offered → Except Failure RouteSet
  | .route r => s.remove r
  | .other v => .error (.notRegistered v.repr)

/-- The store of the values registered in order; a refusal leaves no store at all. -/
def create (initial : List Offered) : Except Failure RouteSet :=
  match ({} : RouteSet).offerAll initial with
  | (s, none) => .ok s
  | (_, some e) => .error e

/-- A call made on a route store. -/
inductive Call where
  /-- Registers one value. -/
  | add (x : Offered)
  /-- Registers values in order. -/
  | addAll (xs : List Offered)
  /-- Takes out one value. -/
  | remove (x : Offered)

/-- Makes a call: the store after it, with the refusal it raised, if any. A refused
registration or removal leaves the store as it was; registering values in order keeps what
was registered before the refusal. -/
def call (s : RouteSet) : Call → RouteSet × Option Failure
  | .add x =>
    match s.offer x with
    | .ok s' => (s', none)
    | .error e => (s, some e)
  | .addAll xs => s.offerAll xs
  | .remove x =>
    match s.withdraw x with
    | .ok s' => (s', none)
    | .error e => (s, some e)

/-- Every registered route with its escape flag set, for the route of serial number `n`. -/
def setEscapes (s : RouteSet) (n : Nat) (flag : Bool) : RouteSet :=
  ⟨s.routes.map fun r => if r.serial == n then r.withEscapes flag else r⟩

/-- The named routes. -/
def namedRoutes (s : RouteSet) : List Route := s.routes.filter Route.isNamed

/-- The class routes. -/
def classRoutes (s : RouteSet) : List Route := s.routes.filter Route.isClass

/-- The relationship routes. -/
def relationshipRoutes (s : RouteSet) : List Route := s.routes.filter Route.isRelationship

/-- The first named route of the name. -/
def routeForName (s : RouteSet) (name : String) : Option Route :=
  s.routes.find? (·.name? == some name)

/-- The class routes of exactly the class. -/
def routesForClass (s : RouteSet) (cls : ClassRef) : List Route :=
  s.classRoutes.filter (·.objectClass? == some cls)

/-- The relationship routes of the relationship name. -/
def routesForRelationship (s : RouteSet) (name : String) : List Route :=
  s.relationshipRoutes.filter (·.relationshipName? == some name)

/-- The route for the method among routes of one identity: the first with an explicit mask
that responds, else the first wildcard route. Reading the method fails only when a route with
an explicit mask is there to ask. -/
def pick (k : Except Failure Method) (rs : List Route) : Except Failure (Option Route) :=
  let wildcard := rs.find? (·.method.isAny)
  if rs.all (·.method.isAny) then .ok wildcard
  else
    match k with
    | .error e => .error e
    | .ok k =>
      match rs.find? fun r => !r.method.isAny && r.respondsTo k with
      | some r => .ok (some r)
      | none => .ok wildcard

/-- The class route of exactly the class for the method. -/
def routeForClass (s : RouteSet) (cls : ClassRef) (k : Except Failure Method) :
    Except Failure (Option Route) :=
  pick k (s.routesForClass cls)

/-- The route among `rs` for the first class of `lineage` that has one. -/
def firstAlong (k : Except Failure Method) (rs : List Route) :
    List ClassRef → Except Failure (Option Route)
  | [] => .ok none
  | c :: cs =>
    match pick k (rs.filter (·.objectClass? == some c)) with
    | .ok (some r) => .ok (some r)
    | .ok none => firstAlong k rs cs
    | .error e => .error e

/-- The class route for an object whose class has the linearisation `lineage`. -/
def routeForObject (s : RouteSet) (lineage : List ClassRef) (k : Except Failure Method) :
    Except Failure (Option Route) :=
  firstAlong k s.classRoutes lineage

/-- The relationship route of the name for a class with the linearisation `lineage`. -/
def routeForRelationship (s : RouteSet) (name : String) (lineage : List ClassRef)
    (k : Except Failure Method) : Except Failure (Option Route) :=
  firstAlong k (s.routesForRelationship name) lineage

end RouteSet

end UrlRouting
