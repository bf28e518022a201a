import UrlRouting.RouteSet

/-!
# The route store keeps its invariant

A route store created by `RouteSet.create` and then handed any calls holds no route twice, and
no two of its routes stand for one identity (`RouteSet.Clash`): two named routes of one name,
or two other routes of one class, one relationship name and one method mask. Registration
tests a new route against each registered one from the new route's side only
(`RouteSet.conflicts` asks whether the *new* route is named), and mixes the serial number of the
construction with equality of names, classes and masks; `conflicts_iff` shows that this test is
the symmetric relation above, or being the same route.

Each call keeps the invariant (`Invariant.call`), failed calls included, so every reachable store
has it (`Reachable.invariant`); and on such a store each call does what the contract says
(`honours_call`). The registered list holds routes only by its type, and the three views share
out its routes, each route in exactly one of them (`views_perm`).

## Main definitions

* `UrlRouting.RouteSet.Clash`, `UrlRouting.RouteSet.Invariant`, `UrlRouting.RouteSet.Reachable`
* `UrlRouting.RouteSet.Honours`: what a call does, by the contract.

## Main results

* `UrlRouting.RouteSet.conflicts_iff`, `UrlRouting.RouteSet.add_cases`,
  `UrlRouting.RouteSet.remove_cases`: registration and removal, case by case.
* `UrlRouting.RouteSet.Invariant.call`, `UrlRouting.RouteSet.Reachable.invariant`
* `UrlRouting.RouteSet.views_perm`
* `UrlRouting.RouteSet.reachable_contract`: the invariant, the contract of every call and the
  views, on every reachable store.
-/

namespace UrlRouting.RouteSet

/-! ### Clashing routes -/

/-- Two routes stand for one identity: named routes with one name, or routes that are not
named with one class, one relationship name and one method mask. -/
def Clash (r r' : Route) : Prop :=
  (r.isNamed = true ∧ r'.isNamed = true ∧ r.name? = r'.name?) ∨
    (r.isNamed = false ∧ r'.isNamed = false ∧ r.objectClass? = r'.objectClass? ∧
      r.relationshipName? = r'.relationshipName? ∧ r.method = r'.method)

theorem Clash.symm {r r' : Route} (h : Clash r r') : Clash r' r := by
  rcases h with ⟨hr, hr', hn⟩ | ⟨hr, hr', hc, hn, hm⟩
  · exact .inl ⟨hr', hr, hn.symm⟩
  · exact .inr ⟨hr', hr, hc.symm, hn.symm, hm.symm⟩

/-- The test registration makes is being the same route, or clashing with it. Although the test
looks only at whether the new route is named, a route that is not named has a class, so it never
meets a named route's missing class. -/
theorem conflicts_iff (r old : Route) :
    conflicts r old = true ↔ old.serial = r.serial ∨ Clash r old := by
  rcases r with ⟨n, identity, m, t, e⟩
  rcases old with ⟨n', identity', m', t', e'⟩
  cases identity <;> cases identity' <;>
    simp [conflicts, Clash] <;> grind

/-! ### The invariant -/

/-- The invariant of a route store: no route is registered twice, and no two registered routes
clash. -/
structure Invariant (s : RouteSet) : Prop where
  /-- No route is registered twice. -/
  serials_nodup : (s.routes.map (·.serial)).Nodup
  /-- No two registered routes stand for one identity. -/
  no_clash : s.routes.Pairwise fun r r' => ¬Clash r r'

theorem invariant_empty : Invariant {} := ⟨List.nodup_nil, List.Pairwise.nil⟩

/-- Keeping some of the routes, in order, keeps the invariant. -/
theorem Invariant.sublist {s : RouteSet} {l : List Route} (hs : Invariant s)
    (hl : l.Sublist s.routes) : Invariant ⟨l⟩ :=
  ⟨hs.serials_nodup.sublist (hl.map _), hs.no_clash.sublist hl⟩

/-- Appending a route that is new and clashes with no registered route keeps the invariant. -/
theorem Invariant.append {s : RouteSet} {r : Route} (hs : Invariant s)
    (hr : ∀ old ∈ s.routes, old.serial ≠ r.serial ∧ ¬Clash r old) :
    Invariant ⟨s.routes ++ [r]⟩ := by
  constructor
  · rw [List.map_append, List.nodup_append]
    refine ⟨hs.serials_nodup, List.pairwise_singleton _ _, ?_⟩
    intro a ha b hb
    obtain ⟨old, hold, rfl⟩ := List.mem_map.1 ha
    rw [List.map_singleton, List.mem_singleton] at hb
    exact hb ▸ (hr old hold).1
  · rw [List.pairwise_append]
    refine ⟨hs.no_clash, List.pairwise_singleton _ _, ?_⟩
    intro old hold b hb hclash
    rw [List.mem_singleton] at hb
    subst hb
    exact (hr old hold).2 hclash.symm

/-! ### Registration and removal, case by case -/

/-- Registration refuses a route exactly when a registered route is that route or clashes with
it, naming the first such route; otherwise it appends the route. -/
theorem add_cases (s : RouteSet) (r : Route) :
    (∃ old ∈ s.routes, (old.serial = r.serial ∨ Clash r old) ∧
        s.add r = .error (.duplicate r.repr old.repr)) ∨
      ((∀ old ∈ s.routes, old.serial ≠ r.serial ∧ ¬Clash r old) ∧
        s.add r = .ok ⟨s.routes ++ [r]⟩) := by
  cases h : s.routes.find? (conflicts r) with
  | some old =>
    refine .inl ⟨old, List.mem_of_find?_eq_some h, (conflicts_iff r old).1 (List.find?_some h), ?_⟩
    simp [add, h]
  | none =>
    refine .inr ⟨fun old hold => ?_, by simp [add, h]⟩
    have hfree : ¬conflicts r old = true := List.find?_eq_none.1 h old hold
    rw [conflicts_iff, not_or] at hfree
    exact hfree

/-- Removal refuses a route that is not registered, and otherwise takes out the first entry of
the route, keeping the others in order. -/
theorem remove_cases (s : RouteSet) (r : Route) :
    (s.contains r = false ∧ s.remove r = .error (.notRegistered r.repr)) ∨
      ∃ pre old post, s.routes = pre ++ old :: post ∧ old.serial = r.serial ∧
        s.remove r = .ok ⟨pre ++ post⟩ := by
  by_cases h : s.contains r
  · obtain ⟨old, hold, hsame⟩ := List.any_eq_true.1 h
    obtain ⟨a, pre, post, -, ha, hl, he⟩ :=
      @List.exists_of_eraseP _ (fun x : Route => x.serial == r.serial) _ _ hold hsame
    exact .inr ⟨pre, a, post, hl, by simpa using ha, by simp [remove, h, he]⟩
  · exact .inl ⟨by simpa using h, by simp [remove, h]⟩

/-- In a store with the invariant, the entry of a route is its only one. -/
theorem Invariant.serial_ne_of_eq_append {s : RouteSet} (hs : Invariant s)
    {pre post : List Route} {old : Route} (hl : s.routes = pre ++ old :: post) :
    ∀ x ∈ pre ++ post, x.serial ≠ old.serial := by
  have hnodup := hs.serials_nodup
  rw [hl, List.map_append, List.map_cons, List.nodup_append, List.nodup_cons] at hnodup
  obtain ⟨-, ⟨hold, -⟩, hsep⟩ := hnodup
  intro x hx hsame
  rcases List.mem_append.1 hx with hx | hx
  · exact hsep _ (List.mem_map_of_mem hx) _ List.mem_cons_self hsame
  · exact hold (hsame ▸ List.mem_map_of_mem hx)

/-! ### Every call keeps the invariant -/

theorem Invariant.add {s s' : RouteSet} {r : Route} (hs : Invariant s)
    (h : s.add r = .ok s') : Invariant s' := by
  rcases add_cases s r with ⟨old, -, -, he⟩ | ⟨hr, he⟩
  · rw [he] at h
    cases h
  · rw [he] at h
    cases h
    exact hs.append hr

theorem Invariant.offer {s s' : RouteSet} {x : Offered} (hs : Invariant s)
    (h : s.offer x = .ok s') : Invariant s' := by
  cases x with
  | route r => exact hs.add h
  | other v => cases h

theorem Invariant.withdraw {s s' : RouteSet} {x : Offered} (hs : Invariant s)
    (h : s.withdraw x = .ok s') : Invariant s' := by
  cases x with
  | route r =>
    rcases remove_cases s r with ⟨-, he⟩ | ⟨pre, old, post, hl, -, he⟩
    · rw [RouteSet.withdraw, he] at h
      cases h
    · rw [RouteSet.withdraw, he] at h
      cases h
      have hsub : (pre ++ post).Sublist s.routes := by
        rw [hl]
        exact (List.Sublist.refl pre).append (List.sublist_cons_self old post)
      exact hs.sublist hsub
  | other v => cases h

/-- Registering in turn keeps the invariant, up to the first refusal and after it. -/
theorem Invariant.offerAll {s : RouteSet} (hs : Invariant s) (xs : List Offered) :
    Invariant (s.offerAll xs).1 := by
  induction xs generalizing s with
  | nil => exact hs
  | cons x xs ih =>
    simp only [RouteSet.offerAll]
    cases h : s.offer x with
    | ok s' => exact ih (hs.offer h)
    | error e => exact hs

theorem Invariant.call {s : RouteSet} (hs : Invariant s) (c : Call) : Invariant (s.call c).1 := by
  cases c with
  | add x =>
    simp only [RouteSet.call]
    cases h : s.offer x with
    | ok s' => exact hs.offer h
    | error e => exact hs
  | addAll xs => exact hs.offerAll xs
  | remove x =>
    simp only [RouteSet.call]
    cases h : s.withdraw x with
    | ok s' => exact hs.withdraw h
    | error e => exact hs

/-! ### Reachable stores -/

/-- The stores a caller can hold: one created from values registered in order, and the store
after any call on a reachable one, whether the call succeeds or not. -/
inductive Reachable : RouteSet → Prop
  /-- A created store. -/
  | create {initial : List Offered} {s : RouteSet} :
      RouteSet.create initial = .ok s → Reachable s
  /-- The store after a call. -/
  | call {s : RouteSet} (c : Call) : Reachable s → Reachable (s.call c).1

theorem create_eq_ok {initial : List Offered} {s : RouteSet} (h : create initial = .ok s) :
    s = (({} : RouteSet).offerAll initial).1 := by
  simp only [create] at h
  split at h
  · rename_i s₀ _ hs₀
    cases h
    rw [hs₀]
  · cases h

/-- Every reachable store has the invariant: by induction on how it was reached. -/
theorem Reachable.invariant {s : RouteSet} (h : Reachable s) : Invariant s := by
  induction h with
  | create h => exact create_eq_ok h ▸ invariant_empty.offerAll _
  | call c _ ih => exact ih.call c

/-! ### The contract of each call -/

/-- What a call does to the store `s`, by the store's contract. A value that is not a route is
refused with the store unchanged. A route is refused, naming a registered route that is that
route or clashes with it, exactly when there is one, and is otherwise appended. Registering
values in order is registering each in turn, up to the first refusal, which keeps what was
registered before it. Removal of a registered route takes out its entry, its only one, keeping
the others in order; anything else is refused with the store unchanged. -/
def Honours (s : RouteSet) : Call → Prop
  | .add (.other v) => s.call (.add (.other v)) = (s, some (.notARoute v))
  | .add (.route r) =>
    (∃ old ∈ s.routes, (old.serial = r.serial ∨ Clash r old) ∧
        s.call (.add (.route r)) = (s, some (.duplicate r.repr old.repr))) ∨
      ((∀ old ∈ s.routes, old.serial ≠ r.serial ∧ ¬Clash r old) ∧
        s.call (.add (.route r)) = (⟨s.routes ++ [r]⟩, none))
  | .addAll [] => s.call (.addAll []) = (s, none)
  | .addAll (x :: xs) =>
    s.call (.addAll (x :: xs)) =
      match s.call (.add x) with
      | (s', none) => s'.call (.addAll xs)
      | (s', some e) => (s', some e)
  | .remove (.other v) => s.call (.remove (.other v)) = (s, some (.notRegistered v.repr))
  | .remove (.route r) =>
    (s.contains r = false ∧ s.call (.remove (.route r)) = (s, some (.notRegistered r.repr))) ∨
      ∃ pre old post, s.routes = pre ++ old :: post ∧ old.serial = r.serial ∧
        (∀ x ∈ pre ++ post, x.serial ≠ r.serial) ∧
        s.call (.remove (.route r)) = (⟨pre ++ post⟩, none)

theorem call_add_route (s : RouteSet) (r : Route) :
    s.call (.add (.route r)) =
      match s.add r with
      | .ok s' => (s', none)
      | .error e => (s, some e) := rfl

theorem call_remove_route (s : RouteSet) (r : Route) :
    s.call (.remove (.route r)) =
      match s.remove r with
      | .ok s' => (s', none)
      | .error e => (s, some e) := rfl

/-- On a store with the invariant every call keeps its contract. Only removal needs the
invariant: the entry it takes out is the route's only one. -/
theorem honours_call {s : RouteSet} (hs : Invariant s) : ∀ c, Honours s c
  | .add (.other v) => rfl
  | .add (.route r) => by
    rcases add_cases s r with ⟨old, hold, hsame, he⟩ | ⟨hr, he⟩
    · exact .inl ⟨old, hold, hsame, by rw [call_add_route, he]⟩
    · exact .inr ⟨hr, by rw [call_add_route, he]⟩
  | .addAll [] => rfl
  | .addAll (x :: xs) => by
    simp only [Honours, RouteSet.call, RouteSet.offerAll]
    cases s.offer x <;> rfl
  | .remove (.other v) => rfl
  | .remove (.route r) => by
    rcases remove_cases s r with ⟨hnot, he⟩ | ⟨pre, old, post, hl, hsame, he⟩
    · exact .inl ⟨hnot, by rw [call_remove_route, he]⟩
    · refine .inr ⟨pre, old, post, hl, hsame, ?_, by rw [call_remove_route, he]⟩
      exact hsame ▸ hs.serial_ne_of_eq_append hl

/-! ### The views -/

/-- The named, class and relationship views share out the registered routes: each route is of
exactly one kind, so it is in exactly one view. -/
theorem views_perm (s : RouteSet) :
    (s.namedRoutes ++ s.classRoutes ++ s.relationshipRoutes).Perm s.routes := by
  obtain ⟨l⟩ := s
  simp only [namedRoutes, classRoutes, relationshipRoutes]
  induction l with
  | nil => exact List.Perm.refl []
  | cons r l ih =>
    have ih' : (l.filter Route.isNamed ++
        (l.filter Route.isClass ++ l.filter Route.isRelationship)).Perm l := by
      simpa only [List.append_assoc] using ih
    obtain ⟨serial, identity, m, t, e⟩ := r
    cases identity with
    | named n => simpa [List.filter_cons] using ih'
    | ofClass c =>
      simp only [List.filter_cons, Route.isNamed_ofClass, Route.isClass_ofClass,
        Route.isRelationship_ofClass, Bool.false_eq_true, ↓reduceIte, List.append_assoc,
        List.cons_append]
      exact List.perm_middle.trans (ih'.cons _)
    | relationship n c =>
      simp only [List.filter_cons, Route.isNamed_relationship, Route.isClass_relationship,
        Route.isRelationship_relationship, Bool.false_eq_true, ↓reduceIte, List.append_assoc]
      exact (List.perm_middle.append_left _).trans (List.perm_middle.trans (ih'.cons _))

/-! ### Every reachable store -/

/-- **The route store keeps its invariant.** A store reached by creation and any calls, failed
calls included, holds each route once and no two routes of one identity; on it every call keeps
the contract `Honours`; and its three views share out its routes. -/
theorem reachable_contract {s : RouteSet} (h : Reachable s) :
    Invariant s ∧ (∀ c, Honours s c) ∧
      (s.namedRoutes ++ s.classRoutes ++ s.relationshipRoutes).Perm s.routes :=
  ⟨h.invariant, honours_call h.invariant, views_perm s⟩

/-- A route of the class `Article` for GET. -/
def articleGet : Route := ⟨1, .ofClass ⟨1, "Article"⟩, Method.get, ⟨[]⟩, false⟩

/-- A route of the class `Article` for every method. -/
def articleAny : Route := ⟨2, .ofClass ⟨1, "Article"⟩, Method.any, ⟨[]⟩, false⟩

/-- A second route of the class `Article` for GET: it clashes with `articleGet`. -/
def articleGetAgain : Route := ⟨3, .ofClass ⟨1, "Article"⟩, Method.get, ⟨[]⟩, false⟩

/-- The store created with an explicit and a wildcard route of `Article`, after it refused the
clashing `articleGetAgain`. -/
def articleStore : RouteSet :=
  (RouteSet.call ⟨[articleGet, articleAny]⟩ (.add (.route articleGetAgain))).1

theorem reachable_articleStore : Reachable articleStore :=
  .call _ (.create (show create [.route articleGet, .route articleAny] =
    .ok ⟨[articleGet, articleAny]⟩ from rfl))

/-- The store of `articleStore`: creation registers both routes of `Article`, and the clashing
route is refused, naming `articleGet`, with the store unchanged. -/
theorem reachable_contract_article_store :
    RouteSet.call ⟨[articleGet, articleAny]⟩ (.add (.route articleGetAgain)) =
        (⟨[articleGet, articleAny]⟩, some (.duplicate articleGetAgain.repr articleGet.repr)) ∧
      Reachable articleStore ∧ Invariant articleStore ∧ (∀ c, Honours articleStore c) ∧
      (articleStore.namedRoutes ++ articleStore.classRoutes ++
          articleStore.relationshipRoutes).Perm articleStore.routes :=
  ⟨rfl, reachable_articleStore, reachable_contract reachable_articleStore⟩

end UrlRouting.RouteSet
