import UrlRouting.Instance
import UrlRouting.Method.Text
import UrlRouting.RouteSet

/-!
# Routers

A router builds URLs from the routes of a route set (`UrlRouting.RouteSet`): it looks a route
up, expands its template against the bindings, or against the object itself, and joins the
path onto the base URL (`UrlRouting.joinValues`). When its configuration sets `escapePaths`,
that choice replaces each route's own escape flag.

The base URL is kept as it was given, a value of any shape: it is what the router reports as
its base URL, and joining fails on a shape that cannot be joined.

Expanding a template may ask declared classes for their annotations; each URL function takes
the classes asked so far and gives them back with those its expansion asked.

A lookup that finds nothing is a miss. The description of a miss names what was looked up and,
when a method was given, the method as text; reading that text can itself fail (a method given
as text is not a mask). A miss then fails with the description, or gives nothing when the
configuration does not raise on misses.

Method arguments are dynamic values: nothing means no method, a text is read as a method text
when a route is asked, and an integer is a mask. A floating value is read as a process that has
built every mask of known bits alone reads it (`Method.everyKnownMask`).

## Main definitions

* `UrlRouting.joinUrl`, `UrlRouting.joinValues`: joining a path onto a base URL.
* `UrlRouting.Router.Config`, `UrlRouting.Router`
* `UrlRouting.Router.urlForRoute`, `UrlRouting.Router.urlForName`,
  `UrlRouting.Router.urlForObject`, `UrlRouting.Router.urlForRelationship`
-/

namespace UrlRouting

/-!
### Joining URLs

A path is joined onto a base URL: an empty base gives the path and an empty path the base; a
path that starts with `?` or `#` is appended as it is; otherwise the slashes at the end of the
base and at the start of the path become exactly one slash.

A base URL can be a value of any shape, so the join also works on values (`joinValues`): a
false base gives the path and a false path gives the base, whatever they are; otherwise the
path's first item decides, and values that are not texts fail the way the join's text
operations fail on them.
-/

/-- The path joined onto the base URL. -/
def joinUrl (base path : String) : String :=
  if base.isEmpty then path
  else
    match path.toList with
    | [] => base
    | c :: _ =>
      if c == '?' || c == '#' then base ++ path
      else
        String.ofList (base.toList.reverse.dropWhile (· == '/')).reverse ++ "/" ++
          String.ofList (path.toList.dropWhile (· == '/'))

/-- Adds a path to a base as values: texts and lists concatenate, anything else cannot be
added. -/
def addValues : Value → Value → Except Failure Value
  | .str b, .str p => .ok (.str (b ++ p))
  | .list xs, .list ys => .ok (.list (xs ++ ys))
  | b, p => .error (.badAddition b.typeName p.typeName)

/-- Joins a base URL and a path given as values. A false base gives the path and a false path
gives the base, whatever they are. Otherwise the path's first item decides: a query or fragment
mark adds the path to the base, and anything else joins them as texts (`joinUrl`). -/
def joinValues (base path : Value) : Except Failure Value := do
  if !base.truthy then return path
  if !path.truthy then return base
  let first ← match path with
    | .str s => pure (Value.str (String.ofList (s.toList.take 1)))
    | .list (x :: _) => pure x
    | .map _ => throw (.missingKey (.int 0))
    | v => throw (.notSubscriptable v.typeName)
  let marked ← match first with
    | .str c => pure (["", "?", "#", "?#"].contains c)
    | v => throw (.notTextOperand v.typeName)
  if marked then addValues base path
  else
    match base, path with
    | .str b, .str p => pure (.str (joinUrl b p))
    | .str _, p => throw (.noAttribute p.typeName "lstrip")
    | b, _ => throw (.noAttribute b.typeName "rstrip")

/-! ### Routers -/

/-- How a router builds URLs and treats misses. -/
structure Router.Config where
  /-- The URL every path is joined onto, as given. -/
  baseUrl : Value := .str ""
  /-- Whether a miss fails (or gives nothing). -/
  raiseOnMissing : Bool := true
  /-- The escape choice for every route, if the router makes one. -/
  escapePaths : Option Bool := none
  deriving Inhabited

/-- A router over a route set. -/
structure Router where
  /-- The configuration. -/
  config : Router.Config := {}
  /-- The routes. -/
  routes : RouteSet := {}
  deriving Inhabited

namespace Router

/-- The URL of a route for the bindings, after the declared classes `asked` were asked for
their annotations; with the classes asked after it, whether or not the URL could be made. -/
def urlForRoute (router : Router) (r : Route) (b : Value) (asked : List ClassRef) :
    Except Failure Value × List ClassRef :=
  let (path, asked') := r.pathForIn b router.config.escapePaths asked
  (joinValues router.config.baseUrl (.str path), asked')

/-- A miss: fails with its description, or gives nothing. -/
def missing (router : Router) (what : String) (method : Value) : Except Failure Value := do
  let what ← match method with
    | .none => pure what
    | v => do
      let text ← Method.ofValue v >>= Method.toText
      pure (what ++ " and method " ++ text)
  if router.config.raiseOnMissing then throw (.notFound what) else pure .none

/-- The URL of the route a lookup found, or the miss `what` when it found none. -/
def urlOrMiss (router : Router) (found : Except Failure (Option Route)) (b : Value)
    (what : String) (method : Value) (asked : List ClassRef) :
    Except Failure Value × List ClassRef :=
  match found with
  | .error e => (.error e, asked)
  | .ok (some r) => router.urlForRoute r b asked
  | .ok none => (router.missing what method, asked)

/-- The named route of a name argument. -/
def findNamed (router : Router) (name : Value) : Option Route :=
  match name with
  | .str n => router.routes.routeForName n
  | _ => none

/-- The named route of a name, which must respond to the method when one is given. -/
def namedFor (router : Router) (name : Value) (method : Value) : Except Failure (Option Route) :=
  match router.findNamed name, method with
  | some r, .none => pure (some r)
  | some r, k => do
    let k ← Method.ofArgument k
    pure (if r.respondsTo k then some r else none)
  | none, _ => pure none

/-- The URL of the named route, which must respond to the method when one is given. -/
def urlForName (router : Router) (name : Value) (b : Value) (method : Value)
    (asked : List ClassRef) : Except Failure Value × List ClassRef :=
  router.urlOrMiss (router.namedFor name method) b ("No route named " ++ name.repr) method asked

/-- The URL of the class route for an object, expanded against the object. -/
def urlForObject (router : Router) (obj : Instance) (method : Value) (asked : List ClassRef) :
    Except Failure Value × List ClassRef :=
  router.urlOrMiss (router.routes.routeForObject obj.lineage (Method.ofArgument method))
    obj.toValue ("No route for class " ++ Text.quoted obj.cls.name) method asked

/-- The URL of a relationship route of an object, expanded against the object. -/
def urlForRelationship (router : Router) (name : Value) (obj : Instance) (method : Value)
    (asked : List ClassRef) : Except Failure Value × List ClassRef :=
  let found := match name with
    | .str n => router.routes.routeForRelationship n obj.lineage (Method.ofArgument method)
    | _ => pure none
  router.urlOrMiss found obj.toValue
    ("No route for relationship " ++ name.repr ++ " of class " ++ Text.quoted obj.cls.name)
    method asked

end Router

end UrlRouting
