import Mathlib
import UrlRouting.Proofs.RouteSelection
import UrlRouting.Router

/-!
# What a router gives on a hit and on a miss

A router looks a route up by name, by the class of an object, or by a relationship of the class
of an object, for a method mask. On a hit it expands the route's template against the bindings,
or against the object, escaping values as its configuration says when it says something and as
the route says otherwise, and joins the path onto its base URL. A lookup for a mask never fails
(`RouteSet.routeForObject_ok`), so a lookup either hits or misses.

On a miss the router gives nothing, or fails with a description of the lookup, as it is
configured (`Router.Config.onMiss`); when a method was given, the description ends with the
method's text. Printing a mask validates it first, so a miss for the empty mask, or for a mask
with unknown bits, fails with that refusal whatever the configuration
(`Router.Config.missOutcome`, `urlForName_zero_mask_refused`).

## Main definitions

* `UrlRouting.Router.methodArg`: a mask, or no method, as a method argument.
* `UrlRouting.Router.Config.onMiss`, `UrlRouting.Router.Config.missOutcome`

## Main results

* `UrlRouting.Router.missing_methodArg`: a miss, by the method given.
* `UrlRouting.Router.url_outcomes`
-/

namespace UrlRouting

namespace Method

theorem ofArgument_bits (k : Method) : ofArgument (.int k.bits) = .ok k := by
  simp [ofArgument, ofValue, ofInt]

/-- Validation gives back the mask it accepts. -/
theorem validate_eq (k : Method) :
    k.validate =
      if k.bits = 0 then .error .emptyMask
      else if k.bits &&& knownBits ≠ k.bits then .error (.unknownBits k.bits)
      else .ok k := rfl

/-- Printing a mask is validating it and writing its text. -/
theorem toText_eq (k : Method) :
    k.toText =
      if k.bits = 0 then .error .emptyMask
      else if k.bits &&& knownBits ≠ k.bits then .error (.unknownBits k.bits)
      else .ok k.text := by
  unfold toText
  rw [validate_eq]
  split_ifs <;> rfl

end Method

namespace Router

/-- The method argument of a mask, or of no method. -/
def methodArg : Option Method → Value
  | none => .none
  | some k => .int k.bits

/-- What a miss gives as the router is configured: nothing, or the failure with the
message. -/
def Config.onMiss (config : Config) (message : String) : Except Failure Value :=
  if config.raiseOnMissing then .error (.notFound message) else .ok .none

/-- What a miss of the lookup described by `what` gives for the method: with no method, the
configured outcome for the description; for the empty mask and for a mask with unknown bits,
the refusal of printing it; for any other mask, the configured outcome for the description
followed by the mask's text. -/
def Config.missOutcome (config : Config) (what : String) : Option Method → Except Failure Value
  | none => config.onMiss what
  | some k =>
    if k.bits = 0 then .error .emptyMask
    else if k.bits &&& Method.knownBits ≠ k.bits then .error (.unknownBits k.bits)
    else config.onMiss (what ++ " and method " ++ k.text)

/-- A miss gives the outcome `missOutcome` describes. -/
theorem missing_methodArg (router : Router) (what : String) (k : Option Method) :
    router.missing what (methodArg k) = router.config.missOutcome what k := by
  cases k with
  | none =>
    simp only [missing, methodArg, Config.missOutcome, Config.onMiss]
    cases router.config.raiseOnMissing <;> rfl
  | some k =>
    simp only [missing, methodArg, Config.missOutcome]
    have htext : (Method.ofValue (.int k.bits) >>= Method.toText) = k.toText := by
      simp [Method.ofValue, Method.ofInt, bind, Except.bind]
    rw [htext, Method.toText_eq]
    split_ifs <;> simp [Config.onMiss, bind, Except.bind, pure, Except.pure, throw,
      throwThe, MonadExceptOf.throw, *]

/-! ### Hits and misses of each lookup -/

section Outcomes

variable (router : Router) (b : Value) (asked : List ClassRef)

theorem urlOrMiss_hit (r : Route) (what : String) (method : Value) :
    (router.urlOrMiss (.ok (some r)) b what method asked).1 =
      joinValues router.config.baseUrl
        (.str (r.template.expandIn b (router.config.escapePaths.getD r.escapes) asked).1) := rfl

theorem urlOrMiss_miss (what : String) (method : Value) :
    (router.urlOrMiss (.ok none) b what method asked).1 = router.missing what method := rfl

/-- The named route of a name, kept when it responds to the method given. -/
theorem namedFor_methodArg (n : String) (k : Option Method) :
    router.namedFor (.str n) (methodArg k) =
      .ok ((router.routes.routeForName n).filter fun r => k.all r.respondsTo) := by
  simp only [namedFor, findNamed]
  cases router.routes.routeForName n with
  | none => rfl
  | some r =>
    cases k with
    | none => rfl
    | some k =>
      simp [methodArg, Method.ofArgument_bits, Option.filter_some, bind, Except.bind, pure,
        Except.pure]

theorem urlForName_hit {n : String} {k : Option Method} {r : Route}
    (h : router.routes.routeForName n = some r) (hk : k.all r.respondsTo = true) :
    (router.urlForName (.str n) b (methodArg k) asked).1 =
      joinValues router.config.baseUrl
        (.str (r.template.expandIn b (router.config.escapePaths.getD r.escapes) asked).1) := by
  rw [urlForName, namedFor_methodArg, h, Option.filter_some, if_pos hk, urlOrMiss_hit]

theorem urlForName_miss {n : String} {k : Option Method}
    (h : ∀ r, router.routes.routeForName n = some r → k.all r.respondsTo = false) :
    (router.urlForName (.str n) b (methodArg k) asked).1 =
      router.config.missOutcome ("No route named " ++ (Value.str n).repr) k := by
  have hnone : (router.routes.routeForName n).filter (fun r => k.all r.respondsTo) = none := by
    cases hr : router.routes.routeForName n with
    | none => rfl
    | some r => simp [Option.filter_some, h r hr]
  rw [urlForName, namedFor_methodArg, hnone, urlOrMiss_miss, missing_methodArg]

theorem urlForObject_hit {obj : Instance} {k : Method} {r : Route}
    (h : router.routes.routeForObject obj.lineage (.ok k) = .ok (some r)) :
    (router.urlForObject obj (.int k.bits) asked).1 =
      joinValues router.config.baseUrl
        (.str (r.template.expandIn obj.toValue (router.config.escapePaths.getD r.escapes)
          asked).1) := by
  rw [urlForObject, Method.ofArgument_bits, h, urlOrMiss_hit]

theorem urlForObject_miss {obj : Instance} {k : Method}
    (h : router.routes.routeForObject obj.lineage (.ok k) = .ok none) :
    (router.urlForObject obj (.int k.bits) asked).1 =
      router.config.missOutcome ("No route for class " ++ Text.quoted obj.cls.name) (some k) := by
  rw [urlForObject, Method.ofArgument_bits, h, urlOrMiss_miss, ← missing_methodArg]
  rfl

theorem urlForRelationship_hit {n : String} {obj : Instance} {k : Method} {r : Route}
    (h : router.routes.routeForRelationship n obj.lineage (.ok k) = .ok (some r)) :
    (router.urlForRelationship (.str n) obj (.int k.bits) asked).1 =
      joinValues router.config.baseUrl
        (.str (r.template.expandIn obj.toValue (router.config.escapePaths.getD r.escapes)
          asked).1) := by
  simp only [urlForRelationship, Method.ofArgument_bits, h]
  rfl

theorem urlForRelationship_miss {n : String} {obj : Instance} {k : Method}
    (h : router.routes.routeForRelationship n obj.lineage (.ok k) = .ok none) :
    (router.urlForRelationship (.str n) obj (.int k.bits) asked).1 =
      router.config.missOutcome
        ("No route for relationship " ++ (Value.str n).repr ++ " of class " ++
          Text.quoted obj.cls.name) (some k) := by
  simp only [urlForRelationship, Method.ofArgument_bits, h, urlOrMiss_miss]
  exact missing_methodArg router _ (some k)

end Outcomes

/-- **What a router gives on a hit and on a miss.** For every router, bindings and classes
asked so far: a lookup by name that finds a route responding to the method given (if any), and
a lookup by object or by relationship that finds a route for the mask, give the route's
template expanded against the bindings or the object, with the router's escape choice when it
makes one and the route's otherwise, joined onto the base URL. A lookup that misses gives
`Config.missOutcome` of its description: nothing, or the failure that names the lookup and the
method's text, as configured; but for the empty mask or a mask with unknown bits, the refusal
of printing the mask. -/
theorem url_outcomes (router : Router) (b : Value) (asked : List ClassRef) :
    (∀ n k r, router.routes.routeForName n = some r → k.all r.respondsTo = true →
      (router.urlForName (.str n) b (methodArg k) asked).1 =
        joinValues router.config.baseUrl
          (.str (r.template.expandIn b (router.config.escapePaths.getD r.escapes) asked).1)) ∧
    (∀ n k, (∀ r, router.routes.routeForName n = some r → k.all r.respondsTo = false) →
      (router.urlForName (.str n) b (methodArg k) asked).1 =
        router.config.missOutcome ("No route named " ++ (Value.str n).repr) k) ∧
    (∀ obj k r, router.routes.routeForObject obj.lineage (.ok k) = .ok (some r) →
      (router.urlForObject obj (.int k.bits) asked).1 =
        joinValues router.config.baseUrl
          (.str (r.template.expandIn obj.toValue (router.config.escapePaths.getD r.escapes)
            asked).1)) ∧
    (∀ obj k, router.routes.routeForObject obj.lineage (.ok k) = .ok none →
      (router.urlForObject obj (.int k.bits) asked).1 =
        router.config.missOutcome ("No route for class " ++ Text.quoted obj.cls.name)
          (some k)) ∧
    (∀ n obj k r, router.routes.routeForRelationship n obj.lineage (.ok k) = .ok (some r) →
      (router.urlForRelationship (.str n) obj (.int k.bits) asked).1 =
        joinValues router.config.baseUrl
          (.str (r.template.expandIn obj.toValue (router.config.escapePaths.getD r.escapes)
            asked).1)) ∧
    (∀ n obj k, router.routes.routeForRelationship n obj.lineage (.ok k) = .ok none →
      (router.urlForRelationship (.str n) obj (.int k.bits) asked).1 =
        router.config.missOutcome
          ("No route for relationship " ++ (Value.str n).repr ++ " of class " ++
            Text.quoted obj.cls.name) (some k)) :=
  ⟨fun _ _ _ h hk => urlForName_hit router b asked h hk,
    fun _ _ h => urlForName_miss router b asked h,
    fun _ _ _ h => urlForObject_hit router asked h,
    fun _ _ h => urlForObject_miss router asked h,
    fun _ _ _ _ h => urlForRelationship_hit router asked h,
    fun _ _ _ h => urlForRelationship_miss router asked h⟩

/-- The route named `a`, for GET, at `/a`. -/
def namedRoute : Route := ⟨1, .named "a", Method.get, ⟨[.literal "/a"]⟩, false⟩

/-- A router over one named route, asked for it with GET. -/
theorem url_outcomes_named_get :
    (({ routes := ⟨[namedRoute]⟩ } : Router).routes.routeForName "a" = some namedRoute) ∧
      (some Method.get).all namedRoute.respondsTo = true ∧
      (({ routes := ⟨[namedRoute]⟩ } : Router).urlForName (.str "a") .none
          (methodArg (some Method.get)) []).1 =
        joinValues ({ routes := ⟨[namedRoute]⟩ } : Router).config.baseUrl
          (.str (namedRoute.template.expandIn .none
            ((({ routes := ⟨[namedRoute]⟩ } : Router).config.escapePaths).getD
              namedRoute.escapes) []).1) :=
  ⟨rfl, rfl,
    (url_outcomes { routes := ⟨[namedRoute]⟩ } .none []).1 "a" (some Method.get) namedRoute rfl rfl⟩

/-- A miss for the empty mask is refused as an empty mask, though the router is configured to
give nothing on a miss. -/
theorem urlForName_zero_mask_refused :
    ({ config := { raiseOnMissing := false } } : Router).config.raiseOnMissing = false ∧
      (({ config := { raiseOnMissing := false } } : Router).urlForName (.str "x") .none (.int 0)
        []).1 = .error .emptyMask :=
  ⟨rfl, rfl⟩

end Router

end UrlRouting
