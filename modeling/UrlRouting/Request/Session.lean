import UrlRouting.Hierarchy
import UrlRouting.Request.Basic
import UrlRouting.Request.Template
import UrlRouting.Route.Build
import UrlRouting.Router

/-!
# Route and router requests

`route` declares `classes` and builds one route from a route specification, answering its
description. `router` declares `classes`, configures a router from `config`, registers the
routes of `initial`, and runs its `steps` in order; each step has its own answer, `ok` with
its result or a failure. What a step changed before it failed stays: a route built by an `add`
that registration refuses is still kept under its id, and `add_many` keeps the routes it
registered before the one refused. A step without an `op`, or one that is not a mapping, stops
the whole request with its failure; an `op` that names no step fails that step alone.

`classes` maps each class name to nothing, one base name, or the base names, declared in
order; bases are looked up among the classes in scope. A router configuration is a mapping
with at most `base_url`, `raise_on_missing` and `escape_paths`. A false `classes` counts as
none given; `config`, `initial` and `steps` may be left out, but when given they must be a
mapping and values to go through.

A session keeps the routes it has built under their ids, a table with keys in the order they
were first given, and tells routes apart by serial number. A route gets the id its
specification gives unless that is nothing, and otherwise `r1`, `r2`, … counting only such
routes.
Ids are keys as numbers are: `1`, `1.0` and `True` are one id, which keeps the form it was
first given in, and a later route given an id takes it over. A route is reported by the first
id that still keeps it, or `?`. Setting a route's escape flag sets it on the route wherever it
is kept.

A route specification has a `kind`, read first, `name`, `relationship`, `class` (a class in
scope by name, or any other value as it is), `template` (a text, or a mapping with `parsed`,
read next) and `method`. The kinds are `named`, `class` and `relationship`, and `direct`,
which builds a route directly and is refused once the template is read.

Steps name classes and route ids that must exist, and their fields are required except the
`bindings` and `escape` of paths and URLs and the `method` of `url_for_name`. An object is a
new instance of its class given the attributes of `attrs` (`Instance.set`).

## Main definitions

* `UrlRouting.Request.Session`, `UrlRouting.Request.Session.step`
* `UrlRouting.Request.describe`, `UrlRouting.Request.routingAnswer?`
-/

namespace UrlRouting.Request

/-- An optional field that may also be nothing: present and not nothing. -/
def given? (req : Value) (k : String) : Option Value :=
  match field req k with
  | .none => none
  | v => some v

/-- The text of a value, if it is one. -/
def text? : Value → Option String
  | .str s => some s
  | _ => none

/-- The class a name stands for in the hierarchy; a list or mapping cannot name one. -/
def classNamed (h : Hierarchy) (v : Value) : Except Failure ClassInfo :=
  match v with
  | .str n =>
    match h.find? n with
    | some c => .ok c
    | none => .error (.missingKey v)
  | .list _ | .map _ => .error (.unhashable v.typeName)
  | _ => .error (.missingKey v)

/-- The bases of a class declaration: none for nothing, the class a text names, or the classes
the items of any other value name. -/
def basesOf (h : Hierarchy) : Value → Except Failure (List ClassInfo)
  | .none => .ok []
  | .str n => do pure [← classNamed h (.str n)]
  | v => do (← iterate v).mapM (classNamed h)

/-- The hierarchy of a class declaration mapping, declared in the mapping's order; a false
value means no classes beyond the root. -/
def declareClasses (v : Value) : Except Failure Hierarchy :=
  match v with
  | .map entries =>
    entries.foldlM (fun h e => do h.declare e.1 (← basesOf h e.2)) Hierarchy.initial
  | v => if v.truthy then .error (.noAttribute v.typeName "items") else .ok Hierarchy.initial

/-- A class argument of a route specification: a class in scope by name, or the value. -/
def classArg (h : Hierarchy) (v : Value) : Route.ClassArg :=
  match v with
  | .str n =>
    match h.find? n with
    | some c => .known c.ref
    | none => .given v
  | _ => .given v

/-- A template argument: a mapping with `parsed` is read now. -/
def templateArg (v : Value) : Except Failure Route.TemplateArg :=
  match field? v "parsed" with
  | some src => Route.TemplateArg.parsed <$> Template.ofValue src
  | none => .ok (.given v)

/-- An optional text as an answer value. -/
def optText : Option String → Value
  | some s => .str s
  | none => .none

/-- The description of a route. -/
def describe (r : Route) : Value :=
  .map [("kind", .str r.kindName), ("name", optText r.name?),
    ("object_class", optText (r.objectClass?.map (·.name))),
    ("relationship_name", optText r.relationshipName?),
    ("method", .int r.method.bits), ("method_str", .str r.method.text),
    ("is_named", .bool r.isNamed), ("is_class", .bool r.isClass),
    ("is_relationship", .bool r.isRelationship), ("template", .str r.template.source),
    ("variables", .list (r.template.variableNames.map .str)),
    ("should_escape_path", .bool r.escapes), ("repr", .str r.repr)]

/-- The keys a router configuration may have. -/
def configKeys : List String := ["base_url", "raise_on_missing", "escape_paths"]

/-- A router configuration from a configuration mapping. -/
def configOf : Value → Except Failure Router.Config
  | .map entries => do
    if let some e := entries.find? fun e => !configKeys.contains e.1 then
      throw (.unexpectedKeyword e.1)
    let get := fun k => Value.lookup k entries
    pure { baseUrl := (get "base_url").getD (.str "")
           raiseOnMissing := ((get "raise_on_missing").map Value.truthy).getD true
           escapePaths := match get "escape_paths" with
             | none | some .none => none
             | some v => some v.truthy }
  | v => .error (.notAMapping v.typeName)

/-- The routes built so far and the router they are registered with. -/
structure Session where
  /-- The declared classes. -/
  hierarchy : Hierarchy
  /-- The router. -/
  router : Router
  /-- The routes built, by id, in the order the ids were first given. -/
  made : List (Value × Route) := []
  /-- How many routes were built. -/
  serials : Nat := 0
  /-- How many routes got a numbered id. -/
  numbered : Nat := 0
  /-- The declared classes asked for their annotations so far. -/
  asked : List ClassRef := []

namespace Session

/-- Builds the route of a specification. -/
def build (s : Session) (serial : Nat) (spec : Value) : Except Failure Route := do
  let kind ← itemOf spec "kind"
  let t ← templateArg (field spec "template")
  let method := field? spec "method"
  let cls := fun (_ : Unit) => classArg s.hierarchy (field spec "class")
  match kind with
  | .str "named" => Route.named serial (field spec "name") t method
  | .str "class" => Route.forClass serial (cls ()) t method
  | .str "relationship" =>
    Route.forRelationship serial (field spec "relationship") (cls ()) t method
  | .str "direct" => do
    let _ ← t.load
    throw .directRoute
  | k => throw (.unknownRouteKind k)

/-- The ids with `id` bound to `r`: an id already there, as a key, keeps its place and the key
it was first given as, and a new id is added last. -/
def putId (id : Value) (r : Route) : List (Value × Route) → List (Value × Route)
  | [] => [(id, r)]
  | (k, r') :: rest => if k.sameKey id then (k, r) :: rest else (k, r') :: putId id r rest

/-- Builds a route from a specification and keeps it under its id: the `id` the specification
gives unless it is nothing, or otherwise `r1`, `r2`, … counting only such routes. A list or
mapping cannot be an id, which is found once the route is built. -/
def make (s : Session) (spec : Value) : Except Failure (Session × Value × Route) := do
  let serial := s.serials + 1
  let r ← s.build serial spec
  let s := { s with serials := serial }
  let (id, s) := match given? spec "id" with
    | some v => (v, s)
    | none =>
      (.str ("r" ++ String.ofList (Nat.toDigits 10 (s.numbered + 1))),
        { s with numbered := s.numbered + 1 })
  match id with
  | .list _ | .map _ => throw (.unhashable id.typeName)
  | _ => pure ({ s with made := putId id r s.made }, id, r)

/-- The first id that a route is kept under, or `?` when no id keeps it any more. -/
def idOf (s : Session) (r : Route) : Value :=
  ((s.made.find? (·.2.serial == r.serial)).map (·.1)).getD (.str "?")

/-- The ids of routes. -/
def ids (s : Session) (rs : List Route) : Value := .list (rs.map s.idOf)

/-- The id of a route, or nothing. -/
def optId (s : Session) : Option Route → Value
  | some r => s.idOf r
  | none => .none

/-- The route kept under an id; a list or mapping cannot be an id. -/
def routeOf (s : Session) (id : Value) : Except Failure Route :=
  match id with
  | .list _ | .map _ => .error (.unhashable id.typeName)
  | _ =>
    match s.made.find? (·.1.sameKey id) with
    | some e => .ok e.2
    | none => .error (.missingKey id)

/-- The session with its router's route set replaced. -/
def withRoutes (s : Session) (routes : RouteSet) : Session :=
  { s with router := { s.router with routes } }

/-- The object of an `object` argument: a new instance of a class in scope, given the
attributes of `attrs` in order, a mapping unless it is false. -/
def instanceOf (s : Session) (v : Value) : Except Failure Instance := do
  let c ← classNamed s.hierarchy (← itemOf v "class")
  let attrs ← match field v "attrs" with
    | .map es => pure es
    | a => if a.truthy then throw (.noAttribute a.typeName "items") else pure []
  attrs.foldlM (fun o e => do o.set e.1 (← withObjects e.2)) (Instance.ofClass c)

/-- The escape argument of a path: nothing means the route's own flag. -/
def escapeArg (st : Value) : Option Bool := (given? st "escape").map Value.truthy

end Session

/-- A step of a session: it changes the session, and what it changed stays when it fails. -/
abbrev Step := ExceptT Failure (StateM Session)

namespace Step

/-- The result of an outcome, or its failure. -/
def ofExcept {α : Type} : Except Failure α → Step α
  | .ok a => pure a
  | .error e => throw e

/-- A field the step must have. -/
def item (st : Value) (k : String) : Step Value := ofExcept (itemOf st k)

/-- Builds a route from a specification and keeps it under its id. -/
def make (spec : Value) : Step (Value × Route) := do
  let (s, id, r) ← ofExcept ((← get).make spec)
  set s
  pure (id, r)

/-- Offers a value to the router's route store. -/
def offer (x : RouteSet.Offered) : Step Unit := do
  let s ← get
  set (s.withRoutes (← ofExcept (s.router.routes.offer x)))

/-- The route kept under the id a step gives. -/
def routeOf (st : Value) : Step Route := do ofExcept ((← get).routeOf (← item st "id"))

/-- The class a step names. -/
def classOf (st : Value) : Step ClassInfo := do
  ofExcept (classNamed (← get).hierarchy (← item st "class"))

/-- The object a step gives. -/
def objectOf (st : Value) : Step Instance := do
  ofExcept ((← get).instanceOf (← item st "object"))

/-- The number of registered routes. -/
def size : Step Value := do pure (.int (← get).router.routes.size)

/-- The ids of routes. -/
def ids (rs : RouteSet → List Route) : Step Value := do
  let s ← get
  pure (s.ids (rs s.router.routes))

/-- The id of the route a lookup gives. -/
def found (lookup : RouteSet → Except Failure (Option Route)) : Step Value := do
  let s ← get
  pure (s.optId (← ofExcept (lookup s.router.routes)))

/-- Runs a path or URL computation that may ask declared classes for their annotations, keeping
what it asked whether or not it succeeds. -/
def expanding (f : List ClassRef → Except Failure Value × List ClassRef) : Step Value := do
  let s ← get
  let (result, asked) := f s.asked
  set { s with asked }
  ofExcept result

/-- Runs the step of an operation and gives its result. -/
def perform (op : Value) (st : Value) : Step Value := do
  let s ← get
  match text? op |>.getD "" with
  | "add" =>
    let (id, r) ← match field? st "ref" with
      | some ref => do pure (ref, ← ofExcept (s.routeOf ref))
      | none => do make (← item st "route")
    offer (.route r)
    pure (.map [("id", id), ("len", ← size)])
  | "add_many" =>
    let specs ← ofExcept (iterate (← item st "routes"))
    let rs ← specs.mapM fun spec => do pure (← make spec).2
    let s ← get
    let (routes, refusal) := s.router.routes.offerAll (rs.map .route)
    set (s.withRoutes routes)
    if let some e := refusal then throw e
    pure (.map [("len", ← size)])
  | "add_value" =>
    offer (.other (← ofExcept (withObjects (← item st "value"))))
    size
  | "make" =>
    let (id, r) ← make (← item st "route")
    pure (.map [("id", id), ("route", describe r)])
  | "remove" =>
    let r ← routeOf st
    set (s.withRoutes (← ofExcept (s.router.routes.withdraw (.route r))))
    pure (.map [("len", ← size)])
  | "contains" => pure (.bool (s.router.routes.contains (← routeOf st)))
  | "len" => size
  | "base_url" => pure s.router.config.baseUrl
  | "describe" => pure (describe (← routeOf st))
  | "set_escape" =>
    let flag := (← item st "value").truthy
    let r ← routeOf st
    let made := s.made.map fun e =>
      if e.2.serial == r.serial then (e.1, e.2.withEscapes flag) else e
    set { s.withRoutes (s.router.routes.setEscapes r.serial flag) with made }
    pure (.bool flag)
  | "all_routes" | "iter" => ids (·.routes)
  | "named_routes" => ids RouteSet.namedRoutes
  | "class_routes" => ids RouteSet.classRoutes
  | "relationship_routes" => ids RouteSet.relationshipRoutes
  | "route_for_name" =>
    let name ← item st "name"
    found fun routes => .ok ((text? name).bind routes.routeForName)
  | "route_for_class" =>
    let c ← classOf st
    let method ← item st "method"
    found fun routes => routes.routeForClass c.ref (Method.ofArgument method)
  | "route_for_object" =>
    let obj ← objectOf st
    let method ← item st "method"
    found fun routes => routes.routeForObject obj.lineage (Method.ofArgument method)
  | "route_for_relationship" =>
    let name ← item st "name"
    let c ← classOf st
    let method ← item st "method"
    match name with
    | .str n =>
      found fun routes =>
        routes.routeForRelationship n c.lineage (Method.ofArgument method)
    | _ => pure .none
  | "routes_for_class" =>
    let c ← classOf st
    ids (·.routesForClass c.ref)
  | "routes_for_relationship" =>
    match ← item st "name" with
    | .str n => ids (·.routesForRelationship n)
    | _ => pure (.list [])
  | "responds_to" =>
    let r ← routeOf st
    let method ← item st "method"
    pure (.bool (r.respondsTo (← ofExcept (Method.ofArgument method))))
  | "path_for" =>
    let r ← routeOf st
    let b ← ofExcept (withObjects (field st "bindings"))
    expanding fun asked =>
      let (path, asked') := r.pathForIn b (Session.escapeArg st) asked
      (.ok (.str path), asked')
  | "match_path" =>
    let r ← routeOf st
    let path ← ofExcept (pathText (← item st "path"))
    pure (match r.matchPath path with
      | some bs => bs.toValue
      | none => .none)
  | "url_for_route" =>
    let r ← routeOf st
    let b ← ofExcept (withObjects (field st "bindings"))
    expanding (s.router.urlForRoute r b)
  | "url_for_name" =>
    let name ← item st "name"
    let b ← ofExcept (withObjects (field st "bindings"))
    expanding (s.router.urlForName name b (field st "method"))
  | "url_for_object" =>
    let obj ← objectOf st
    let method ← item st "method"
    expanding (s.router.urlForObject obj method)
  | "url_for_relationship" =>
    let obj ← objectOf st
    let name ← item st "name"
    let method ← item st "method"
    expanding (s.router.urlForRelationship name obj method)
  | _ => throw (.missingKey (.str ("unknown step op " ++ op.repr)))

end Step

namespace Session

/-- Runs one step of an operation: the session after it and its answer, `ok` with the result or
the failure. -/
def step (s : Session) (op st : Value) : Session × Value :=
  match (Step.perform op st).run.run s with
  | (.ok v, s') => (s', .map [("ok", v)])
  | (.error e, s') => (s', ofFailure e)

/-- Runs the steps in order, collecting their answers; a step without an operation stops the
whole run with its failure. -/
def steps (s : Session) : List Value → Except Failure (List Value)
  | [] => .ok []
  | st :: rest => do
    let op ← itemOf st "op"
    let (s', a) := s.step op st
    pure (a :: (← s'.steps rest))

end Session

/-- The answer to a route or router request, or `none` when `op` names neither. -/
def routingAnswer? (op : String) (req : Value) : Option Value :=
  match op with
  | "route" =>
    some (ofOutcome (fun (r : Route) => [("route", describe r)]) (do
      let h ← declareClasses (field req "classes")
      let s : Session := { hierarchy := h, router := {} }
      s.build 1 (← itemOf req "route")))
  | "router" =>
    some (ofOutcome (fun answers => [("steps", .list answers)]) (do
      let h ← declareClasses (field req "classes")
      let config ← configOf ((given? req "config").getD (.map []))
      let s : Session := { hierarchy := h, router := { config } }
      let specs ← iterate ((field? req "initial").getD (.list []))
      let (built, s) := (specs.mapM fun spec => do pure (← Step.make spec).2).run.run s
      let rs ← built
      let routes ← RouteSet.create (rs.map .route)
      (s.withRoutes routes).steps (← iterate ((field? req "steps").getD (.list [])))))
  | _ => none

end UrlRouting.Request
