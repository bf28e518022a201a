import Mathlib
import UrlRouting.Proofs.IdentityGroups

/-!
# What the lookups select

A lookup for a method mask among the routes of one identity takes the earliest-registered route
whose mask is explicit (carries no wildcard) and includes the method, and otherwise the
earliest-registered wildcard route (`selectFor`). The lookup by class is that selection for the
class's identity (`routeForClass_ok`); the lookups by object and by relationship walk a
linearisation and take the selection of the first class that has one (`routeForObject_ok`,
`routeForRelationship_ok`); on a reachable store the lookup by name gives the one named route of
the name (`routeForName_eq_some_iff`).

The wildcard route is taken without asking whether it responds to the method. A wildcard mask
includes every method but the empty one (`Method.includes_of_isAny`), so a selected route
responds to the method exactly when the method is not empty (`selectFor_spec`): for
every other method the selection is the one that asks (`selectFor_eq_responding`), and for the
empty mask a wildcard route is still selected (`routeForClass_wildcard_zero_mask`).

## Main definitions

* `UrlRouting.RouteSet.best`: the selection among the routes of one identity.
* `UrlRouting.RouteSet.selectFor`: the same, read off the registration order.

## Main results

* `UrlRouting.RouteSet.pick_ok`, `UrlRouting.RouteSet.firstAlong_ok`
* `UrlRouting.RouteSet.lookups_select`
-/

namespace UrlRouting

/-- A wildcard mask includes every method but the empty one. -/
theorem Method.includes_of_isAny {m : Method} (hm : m.isAny = true) (k : Method) :
    m.includes k = true ↔ k.bits ≠ 0 := by
  by_cases hk : k.bits = 0 <;> simp [Method.includes, hm, hk]

/-- No mask includes the empty method. -/
theorem Method.includes_zero (m : Method) : m.includes ⟨0⟩ = false := by
  simp [Method.includes]

namespace RouteSet

/-! ### The selection among routes of one identity -/

/-- Among routes of one identity, the first whose mask is explicit and includes the method,
else the first wildcard route. -/
def best (k : Method) (rs : List Route) : Option Route :=
  (rs.find? fun r => !r.method.isAny && r.respondsTo k).or (rs.find? (·.method.isAny))

/-- The route the lookups select for an identity: the earliest-registered route of the
identity whose mask is explicit and includes the method, else its earliest-registered wildcard
route. -/
def selectFor (s : RouteSet) (g : Route.Identity) (k : Method) : Option Route :=
  (s.routes.find? fun r => r.identity == g && !r.method.isAny && r.respondsTo k).or
    (s.routes.find? fun r => r.identity == g && r.method.isAny)

/-- A method that was read is never reported: the selection is `best`. -/
theorem pick_ok (k : Method) (rs : List Route) : pick (.ok k) rs = .ok (best k rs) := by
  unfold pick best
  by_cases hall : rs.all (·.method.isAny) = true
  · -- only wildcard routes: none is explicit, so the first part of `best` finds nothing
    have hnone : (rs.find? fun r => !r.method.isAny && r.respondsTo k) = none := by
      rw [List.find?_eq_none]
      intro r hr
      simp [List.all_eq_true.1 hall r hr]
    simp [hall, hnone]
  · simp only [hall, Bool.false_eq_true, if_false]
    cases rs.find? fun r => !r.method.isAny && r.respondsTo k <;> rfl

/-- The selection among the routes of one group is the selection read off the registration
order. -/
theorem best_restrict (s : RouteSet) (g : Route.Identity) (k : Method) :
    best k (s.restrict g).routes = s.selectFor g k := by
  simp only [best, selectFor, restrict_routes, List.find?_filter]
  congr 1
  · apply List.find?_congr
    intro r _
    simp [Bool.and_assoc, beq_eq_decide]
  · apply List.find?_congr
    intro r _
    simp [beq_eq_decide]

/-- The route a walk along a linearisation finds, for a method that was read: the selection of
the first class that has one. -/
theorem firstAlong_ok (k : Method) (rs : List Route) (lineage : List ClassRef) :
    firstAlong (.ok k) rs lineage =
      .ok (lineage.findSome? fun c => best k (rs.filter (·.objectClass? == some c))) := by
  induction lineage with
  | nil => rfl
  | cons c cs ih =>
    simp only [firstAlong, pick_ok, List.findSome?_cons]
    cases best k (rs.filter (·.objectClass? == some c)) with
    | some r => rfl
    | none => exact ih

/-! ### The lookups -/

theorem routeForClass_ok (s : RouteSet) (c : ClassRef) (k : Method) :
    s.routeForClass c (.ok k) = .ok (s.selectFor (.ofClass c) k) := by
  rw [routeForClass, pick_ok, routesForClass_eq_restrict, best_restrict]

theorem routeForObject_ok (s : RouteSet) (lineage : List ClassRef) (k : Method) :
    s.routeForObject lineage (.ok k) =
      .ok (lineage.findSome? fun c => s.selectFor (.ofClass c) k) := by
  rw [routeForObject, firstAlong_ok]
  congr 2
  funext c
  have hclass : s.classRoutes.filter (·.objectClass? == some c) = s.routesForClass c := rfl
  rw [hclass, routesForClass_eq_restrict, best_restrict]

theorem routeForRelationship_ok (s : RouteSet) (n : String) (lineage : List ClassRef)
    (k : Method) :
    s.routeForRelationship n lineage (.ok k) =
      .ok (lineage.findSome? fun c => s.selectFor (.relationship n c) k) := by
  rw [routeForRelationship, firstAlong_ok]
  congr 2
  funext c
  rw [routesForRelationship_filter_eq_restrict, best_restrict]

/-- On a store with the invariant, the lookup by name gives the one registered named route of
the name: two named routes of one name would clash. -/
theorem routeForName_eq_some_iff {s : RouteSet} (hs : Invariant s) (n : String) (r : Route) :
    s.routeForName n = some r ↔ r ∈ s.routes ∧ r.name? = some n := by
  constructor
  · intro h
    exact ⟨List.mem_of_find?_eq_some h, by simpa using List.find?_some h⟩
  · rintro ⟨hr, hn⟩
    cases h : s.routeForName n with
    | none =>
      have hnot := List.find?_eq_none.1 h r hr
      simp [hn] at hnot
    | some r' =>
      have hr' : r' ∈ s.routes := List.mem_of_find?_eq_some h
      have hn' : r'.name? = some n := by simpa using List.find?_some h
      by_contra hne
      have : Std.Symm fun a b : Route => ¬Clash a b := ⟨fun _ _ h hc => h hc.symm⟩
      apply hs.no_clash.forall hr' hr fun heq => hne (congrArg some heq)
      exact .inl ⟨by simp [Route.isNamed, hn'], by simp [Route.isNamed, hn], hn'.trans hn.symm⟩

/-! ### The selected route -/

section Selected

variable {s : RouteSet} {g : Route.Identity} {k : Method} {r : Route}

/-- A selected route is registered, of the identity, and responds to the method exactly when
the method is not empty: an explicit one because it was selected for responding, a wildcard
one because a wildcard mask includes every method but the empty one. -/
theorem selectFor_spec (h : s.selectFor g k = some r) :
    r ∈ s.routes ∧ r.identity = g ∧ (r.respondsTo k = true ↔ k.bits ≠ 0) := by
  unfold selectFor at h
  cases hexp : s.routes.find? (fun r => r.identity == g && !r.method.isAny && r.respondsTo k)
    with
  | some r' =>
    rw [hexp, Option.some_or, Option.some.injEq] at h
    subst h
    have hsel := List.find?_some hexp
    simp only [Bool.and_eq_true, beq_iff_eq, Bool.not_eq_true'] at hsel
    obtain ⟨⟨hid, -⟩, hresp⟩ := hsel
    refine ⟨List.mem_of_find?_eq_some hexp, hid, ⟨fun _ hk => ?_, fun _ => hresp⟩⟩
    have hk0 : k = ⟨0⟩ := by
      cases k
      simp_all
    rw [hk0, Route.respondsTo, Method.includes_zero] at hresp
    exact Bool.false_ne_true hresp
  | none =>
    rw [hexp, Option.none_or] at h
    have hsel := List.find?_some h
    simp only [Bool.and_eq_true, beq_iff_eq] at hsel
    exact ⟨List.mem_of_find?_eq_some h, hsel.1, Method.includes_of_isAny hsel.2 k⟩

/-- For a method that is not empty, the selection is the one that asks the wildcard route too
whether it responds. -/
theorem selectFor_eq_responding (hk : k.bits ≠ 0) :
    s.selectFor g k =
      (s.routes.find? fun r => r.identity == g && !r.method.isAny && r.respondsTo k).or
        (s.routes.find? fun r => r.identity == g && r.method.isAny && r.respondsTo k) := by
  unfold selectFor
  congr 1
  apply List.find?_congr
  intro r _
  by_cases hany : r.method.isAny = true
  · have hresp : r.respondsTo k = true := (Method.includes_of_isAny hany k).2 hk
    simp [hany, hresp]
  · simp [hany]

end Selected

/-- **What the lookups select.** On every reachable store and for every method mask: the lookup
by class is the selection for the class; the lookups by object and by relationship are the
selection for the first class of the linearisation that has one; the lookup by name gives the
one registered named route of the name; every selected route is registered, of the identity
looked up, and responds to the method exactly when the method is not empty; and for a method
that is not empty the selection asks every route whether it responds. -/
theorem lookups_select {s : RouteSet} (hs : Reachable s) (k : Method) :
    (∀ c, s.routeForClass c (.ok k) = .ok (s.selectFor (.ofClass c) k)) ∧
    (∀ lineage, s.routeForObject lineage (.ok k) =
      .ok (lineage.findSome? fun c => s.selectFor (.ofClass c) k)) ∧
    (∀ n lineage, s.routeForRelationship n lineage (.ok k) =
      .ok (lineage.findSome? fun c => s.selectFor (.relationship n c) k)) ∧
    (∀ n r, s.routeForName n = some r ↔ r ∈ s.routes ∧ r.name? = some n) ∧
    (∀ g r, s.selectFor g k = some r →
      r ∈ s.routes ∧ r.identity = g ∧ (r.respondsTo k = true ↔ k.bits ≠ 0)) ∧
    (k.bits ≠ 0 → ∀ g, s.selectFor g k =
      (s.routes.find? fun r => r.identity == g && !r.method.isAny && r.respondsTo k).or
        (s.routes.find? fun r => r.identity == g && r.method.isAny && r.respondsTo k)) :=
  ⟨fun c => routeForClass_ok s c k, fun lineage => routeForObject_ok s lineage k,
    fun n lineage => routeForRelationship_ok s n lineage k,
    routeForName_eq_some_iff hs.invariant, fun _ _ h => selectFor_spec h,
    fun hk _ => selectFor_eq_responding hk⟩

/-- The lookups of `articleStore`: for GET the explicit route of `Article` is selected, and for
POST, to which it does not respond, the wildcard route. -/
theorem lookups_select_article_store :
    articleStore.routeForClass ⟨1, "Article"⟩ (.ok Method.get) = .ok (some articleGet) ∧
      articleStore.routeForClass ⟨1, "Article"⟩ (.ok ⟨2⟩) = .ok (some articleAny) ∧
      Reachable articleStore ∧
      (∀ c, articleStore.routeForClass c (.ok Method.get) =
        .ok (articleStore.selectFor (.ofClass c) Method.get)) ∧
      (∀ lineage, articleStore.routeForObject lineage (.ok Method.get) =
        .ok (lineage.findSome? fun c => articleStore.selectFor (.ofClass c) Method.get)) ∧
      (∀ n lineage, articleStore.routeForRelationship n lineage (.ok Method.get) =
        .ok (lineage.findSome? fun c => articleStore.selectFor (.relationship n c) Method.get)) ∧
      (∀ n r, articleStore.routeForName n = some r ↔
        r ∈ articleStore.routes ∧ r.name? = some n) ∧
      (∀ g r, articleStore.selectFor g Method.get = some r →
        r ∈ articleStore.routes ∧ r.identity = g ∧
          (r.respondsTo Method.get = true ↔ Method.get.bits ≠ 0)) ∧
      (Method.get.bits ≠ 0 → ∀ g, articleStore.selectFor g Method.get =
        (articleStore.routes.find? fun r =>
            r.identity == g && !r.method.isAny && r.respondsTo Method.get).or
          (articleStore.routes.find? fun r =>
            r.identity == g && r.method.isAny && r.respondsTo Method.get)) :=
  ⟨rfl, rfl, reachable_articleStore, lookups_select reachable_articleStore Method.get⟩

/-- A route of the class `Article` for every method. -/
def wildcardRoute : Route := ⟨1, .ofClass ⟨1, "Article"⟩, Method.any, ⟨[]⟩, false⟩

theorem reachable_wildcardRoute : Reachable ⟨[wildcardRoute]⟩ :=
  .create (show create [.route wildcardRoute] = .ok ⟨[wildcardRoute]⟩ from rfl)

/-- A wildcard class route is selected for the empty mask, although it does not respond to
it. -/
theorem routeForClass_wildcard_zero_mask :
    Reachable ⟨[wildcardRoute]⟩ ∧
      RouteSet.routeForClass ⟨[wildcardRoute]⟩ ⟨1, "Article"⟩ (.ok ⟨0⟩) =
        .ok (some wildcardRoute) ∧
      wildcardRoute.respondsTo ⟨0⟩ = false :=
  ⟨reachable_wildcardRoute, rfl, by decide⟩

end RouteSet

end UrlRouting
