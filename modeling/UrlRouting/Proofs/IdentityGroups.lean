import Mathlib
import UrlRouting.Proofs.RouteStore

/-!
# Registration order matters only within an identity group

The routes of a store fall into identity groups by their identity (`Route.Identity`): the
named routes of one name, the class routes of one class, and the relationship routes of one
relationship name and one class. Registration compares a route only with the routes of its own
group, since a route that conflicts with it is the route itself or clashes with it, and clashing
routes share their identity (`Clash.identity_eq`); removal takes out an entry of the route's own
group. So a call reads and changes its own group alone (`restrict_add`, `restrict_remove`), and
a run of calls, seen from one group, is the run of that group's calls alone
(`runEdits_restrict`).

Two runs of the same calls in two orders that keep the order of the calls of each group
therefore give every call the same outcome, and end in stores that hold the same routes of
each group in the same order (`Agree`). Every lookup reads one group at a time, so the two stores
answer every lookup alike (`Agree.routeForObject_eq`, …); only the relationship routes of a
name, which span classes, may come in another order (`Agree.routesForRelationship_perm`).

A route's group is well defined because a serial number names one construction: routes that
share a serial number share their identity (`SerialsKeepIdentity`).

## Main definitions

* `UrlRouting.RouteSet.Edit`, `UrlRouting.RouteSet.runEdits`: runs of single registrations and
  removals, with the outcome of each.
* `UrlRouting.RouteSet.restrict`, `UrlRouting.RouteSet.Agree`

## Main results

* `UrlRouting.RouteSet.runEdits_restrict`: a run seen from one group.
* `UrlRouting.RouteSet.Agree.perm` and the lookups of agreeing stores.
* `UrlRouting.RouteSet.runEdits_reorder`
-/

namespace UrlRouting.RouteSet

/-! ### Runs of single calls -/

/-- A call on a store that registers or takes out one value. -/
inductive Edit where
  /-- Registers a value. -/
  | add (x : Offered)
  /-- Takes out a value. -/
  | remove (x : Offered)

namespace Edit

/-- The call the edit makes. -/
def toCall : Edit → Call
  | .add x => .add x
  | .remove x => .remove x

/-- The route the edit hands the store, if it hands one. -/
def route? : Edit → Option Route
  | .add (.route r) | .remove (.route r) => some r
  | _ => none

/-- The identity group of the edit: the identity of its route. -/
def group? (e : Edit) : Option Route.Identity := e.route?.map (·.identity)

end Edit

/-- The store after the edits in order, with each edit and the refusal it raised, if any. -/
def runEdits (s : RouteSet) : List Edit → RouteSet × List (Edit × Option Failure)
  | [] => (s, [])
  | e :: es =>
    let step := s.call e.toCall
    let rest := runEdits step.1 es
    (rest.1, (e, step.2) :: rest.2)

@[simp] theorem runEdits_nil (s : RouteSet) : runEdits s [] = (s, []) := rfl

@[simp] theorem runEdits_cons (s : RouteSet) (e : Edit) (es : List Edit) :
    runEdits s (e :: es) =
      ((runEdits (s.call e.toCall).1 es).1,
        (e, (s.call e.toCall).2) :: (runEdits (s.call e.toCall).1 es).2) := rfl

/-! ### Identity groups -/

/-- The registered routes of one identity group, in registration order. -/
def restrict (s : RouteSet) (g : Route.Identity) : RouteSet :=
  ⟨s.routes.filter (·.identity = g)⟩

@[simp] theorem restrict_routes (s : RouteSet) (g : Route.Identity) :
    (s.restrict g).routes = s.routes.filter (·.identity = g) := rfl

/-- Routes that share a serial number share their identity: a serial number names the one
construction that built a route. -/
def SerialsKeepIdentity (rs : List Route) : Prop :=
  ∀ r ∈ rs, ∀ r' ∈ rs, r.serial = r'.serial → r.identity = r'.identity

theorem SerialsKeepIdentity.mono {rs rs' : List Route} (h : SerialsKeepIdentity rs)
    (hsub : rs' ⊆ rs) : SerialsKeepIdentity rs' :=
  fun r hr r' hr' => h r (hsub hr) r' (hsub hr')

/-- Clashing routes share their identity. -/
theorem Clash.identity_eq {r r' : Route} (h : Clash r r') : r.identity = r'.identity := by
  rcases r with ⟨n, identity, m, t, e⟩
  rcases r' with ⟨n', identity', m', t', e'⟩
  cases identity <;> cases identity' <;>
    simp_all [Clash]

/-- A registered route that conflicts with a new route is of the new route's group. -/
theorem identity_eq_of_conflicts {r old : Route}
    (hserial : old.serial = r.serial → old.identity = r.identity) (h : conflicts r old = true) :
    old.identity = r.identity := by
  rcases (conflicts_iff r old).1 h with hsame | hclash
  · exact hserial hsame
  · exact hclash.identity_eq.symm

/-! ### A call reads and changes its own group alone -/

section Step

variable {s s' : RouteSet} {r : Route}

/-- Registration meets the same first conflict among the routes of the route's group. -/
theorem find?_conflicts_restrict
    (hs : ∀ old ∈ s.routes, old.serial = r.serial → old.identity = r.identity) :
    (s.restrict r.identity).routes.find? (conflicts r) = s.routes.find? (conflicts r) := by
  rw [restrict_routes, List.find?_filter]
  apply List.find?_congr
  intro old hold
  by_cases hc : conflicts r old = true
  · simp [hc, identity_eq_of_conflicts (hs old hold) hc]
  · simp [hc]

/-- Registering on the group alone is registering, seen from the group. -/
theorem restrict_add
    (hs : ∀ old ∈ s.routes, old.serial = r.serial → old.identity = r.identity) :
    (s.restrict r.identity).add r = (·.restrict r.identity) <$> s.add r := by
  simp only [add, find?_conflicts_restrict hs]
  cases s.routes.find? (conflicts r) with
  | some old => rfl
  | none => simp [Functor.map, Except.map, restrict, List.filter_append]

/-- A registration leaves the other groups as they were. -/
theorem restrict_add_other {g : Route.Identity} (hg : r.identity ≠ g) (h : s.add r = .ok s') :
    s'.restrict g = s.restrict g := by
  rcases add_cases s r with ⟨old, -, -, he⟩ | ⟨-, he⟩
  · rw [he] at h
    cases h
  · rw [he] at h
    cases h
    simp [restrict, List.filter_append, hg]

theorem contains_restrict
    (hs : ∀ old ∈ s.routes, old.serial = r.serial → old.identity = r.identity) :
    (s.restrict r.identity).contains r = s.contains r := by
  rw [Bool.eq_iff_iff]
  simp only [contains, restrict_routes, List.any_filter, List.any_eq_true, Bool.and_eq_true,
    decide_eq_true_eq, beq_iff_eq]
  constructor
  · rintro ⟨old, hold, -, hsame⟩
    exact ⟨old, hold, hsame⟩
  · rintro ⟨old, hold, hsame⟩
    exact ⟨old, hold, hs old hold hsame, hsame⟩

/-- Taking out the entry of a route commutes with keeping its group, as all entries of the
route are of its group. -/
theorem filter_eraseP_self (l : List Route)
    (hs : ∀ old ∈ l, old.serial = r.serial → old.identity = r.identity) :
    (l.eraseP (·.serial == r.serial)).filter (·.identity = r.identity) =
      (l.filter (·.identity = r.identity)).eraseP (·.serial == r.serial) := by
  induction l with
  | nil => rfl
  | cons old l ih =>
    have ih' := ih fun x hx => hs x (List.mem_cons_of_mem old hx)
    by_cases hsame : old.serial = r.serial
    · simp [hsame, hs old List.mem_cons_self hsame]
    · by_cases hg : old.identity = r.identity <;> simp [hsame, hg, ih']

/-- Taking out the entry of a route leaves the routes of another group. -/
theorem filter_eraseP_other (l : List Route) {g : Route.Identity} (hg : r.identity ≠ g)
    (hs : ∀ old ∈ l, old.serial = r.serial → old.identity = r.identity) :
    (l.eraseP (·.serial == r.serial)).filter (·.identity = g) = l.filter (·.identity = g) := by
  induction l with
  | nil => rfl
  | cons old l ih =>
    have ih' := ih fun x hx => hs x (List.mem_cons_of_mem old hx)
    by_cases hsame : old.serial = r.serial
    · simp [hsame, hs old List.mem_cons_self hsame, hg]
    · by_cases hog : old.identity = g <;> simp [hsame, hog, ih']

/-- Taking out on the group alone is taking out, seen from the group. -/
theorem restrict_remove
    (hs : ∀ old ∈ s.routes, old.serial = r.serial → old.identity = r.identity) :
    (s.restrict r.identity).remove r = (·.restrict r.identity) <$> s.remove r := by
  by_cases h : s.contains r = true
  · have h' : (s.restrict r.identity).contains r = true := (contains_restrict hs).trans h
    rw [remove, remove, if_pos h', if_pos h]
    simp [Functor.map, Except.map, restrict, filter_eraseP_self s.routes hs]
  · have h' : ¬(s.restrict r.identity).contains r = true := (contains_restrict hs).symm ▸ h
    rw [remove, remove, if_neg h', if_neg h]
    rfl

/-- A removal leaves the other groups as they were. -/
theorem restrict_remove_other {g : Route.Identity} (hg : r.identity ≠ g)
    (hs : ∀ old ∈ s.routes, old.serial = r.serial → old.identity = r.identity)
    (h : s.remove r = .ok s') : s'.restrict g = s.restrict g := by
  by_cases hc : s.contains r = true
  · simp only [remove, hc, if_true, Except.ok.injEq] at h
    subst h
    simp [restrict, filter_eraseP_other s.routes hg hs]
  · simp [remove, hc] at h

end Step

/-! ### A call on its own group -/

section Call

variable {s : RouteSet} {e : Edit} {r : Route}

/-- The registered routes after a call are the routes before it and the call's route. -/
theorem call_routes_subset (s : RouteSet) (e : Edit) :
    (s.call e.toCall).1.routes ⊆ s.routes ++ e.route?.toList := by
  intro x hx
  rcases e with (r | v) | (r | v)
  · rcases add_cases s r with ⟨old, -, -, he⟩ | ⟨-, he⟩
    · simp only [Edit.toCall, call, offer, he] at hx
      exact List.mem_append_left _ hx
    · simpa [Edit.toCall, call, offer, he, Edit.route?] using hx
  · exact List.mem_append_left _ hx
  · rcases remove_cases s r with ⟨-, he⟩ | ⟨pre, old, post, hl, -, he⟩
    · simp only [Edit.toCall, call, withdraw, he] at hx
      exact List.mem_append_left _ hx
    · simp only [Edit.toCall, call, withdraw, he] at hx
      rw [hl]
      rcases List.mem_append.1 hx with hx | hx <;> simp [hx]
  · exact List.mem_append_left _ hx

/-- A call that hands no route changes nothing, and what it raises does not depend on the
store. -/
theorem call_of_route?_eq_none (he : e.route? = none) :
    s.call e.toCall = (s, (({} : RouteSet).call e.toCall).2) := by
  rcases e with (r | v) | (r | v) <;> first | rfl | cases he

/-- What a call on a route raises, it raises on the route's group alone, and it changes the
group as it changes the group alone. -/
theorem call_restrict (he : e.route? = some r)
    (hs : ∀ old ∈ s.routes, old.serial = r.serial → old.identity = r.identity) :
    (s.restrict r.identity).call e.toCall =
      ((s.call e.toCall).1.restrict r.identity, (s.call e.toCall).2) := by
  rcases e with (r' | v) | (r' | v) <;> simp only [Edit.route?, Option.some.injEq,
    reduceCtorEq] at he
  all_goals subst he
  · simp only [Edit.toCall, call, offer, restrict_add hs]
    cases s.add r' <;> rfl
  · simp only [Edit.toCall, call, withdraw, restrict_remove hs]
    cases s.remove r' <;> rfl

/-- A call on a route leaves the other groups as they were. -/
theorem call_restrict_other {g : Route.Identity} (he : e.route? = some r) (hg : r.identity ≠ g)
    (hs : ∀ old ∈ s.routes, old.serial = r.serial → old.identity = r.identity) :
    (s.call e.toCall).1.restrict g = s.restrict g := by
  rcases e with (r' | v) | (r' | v) <;> simp only [Edit.route?, Option.some.injEq,
    reduceCtorEq] at he
  all_goals subst he
  · simp only [Edit.toCall, call, offer]
    cases h : s.add r' with
    | ok s' => exact restrict_add_other hg h
    | error _ => rfl
  · simp only [Edit.toCall, call, withdraw]
    cases h : s.remove r' with
    | ok s' => exact restrict_remove_other hg hs h
    | error _ => rfl

end Call

/-- A call keeps serials to their identities over the routes it leaves and the rest of the run:
it registers no route that the run did not hand. -/
theorem SerialsKeepIdentity.call {s : RouteSet} {e : Edit} {es : List Edit}
    (hs : SerialsKeepIdentity (s.routes ++ (e :: es).filterMap Edit.route?)) :
    SerialsKeepIdentity ((s.call e.toCall).1.routes ++ es.filterMap Edit.route?) := by
  refine hs.mono (List.append_subset.2 ⟨List.Subset.trans (call_routes_subset s e) ?_, ?_⟩)
  · cases hr : e.route? <;> simp [hr]
  · intro x hx
    simp only [List.filterMap_cons, List.mem_append]
    cases e.route? <;> simp [hx]

/-! ### A run seen from one group -/

/-- A run, seen from one group, is the run of the group's own calls on the group alone: the
group ends as that run leaves it, and the group's calls have the outcomes they have there. By
induction on the run; each call either is of the group (`call_restrict`), of another group
(`call_restrict_other`), or hands no route. -/
theorem runEdits_restrict (s : RouteSet) (l : List Edit) (g : Route.Identity)
    (hs : SerialsKeepIdentity (s.routes ++ l.filterMap Edit.route?)) :
    runEdits (s.restrict g) (l.filter (·.group? = some g)) =
      ((runEdits s l).1.restrict g, (runEdits s l).2.filter (·.1.group? = some g)) := by
  induction l generalizing s with
  | nil => rfl
  | cons e es ih =>
    have ih' := ih (s.call e.toCall).1 hs.call
    cases hr : e.route? with
    | none =>
      have hcall : s.call e.toCall = (s, _) := call_of_route?_eq_none hr
      have hgroup : e.group? = none := by simp [Edit.group?, hr]
      simp only [runEdits_cons, List.filter_cons, hgroup, reduceCtorEq, decide_false,
        Bool.false_eq_true, if_false]
      rw [← ih', hcall]
    | some r =>
      have hsr : ∀ old ∈ s.routes, old.serial = r.serial → old.identity = r.identity := by
        intro old hold hsame
        have hr' : r ∈ s.routes ++ (e :: es).filterMap Edit.route? := by
          simp [hr]
        exact hs old (List.mem_append_left _ hold) r hr' hsame
      have hgroup : e.group? = some r.identity := by simp [Edit.group?, hr]
      by_cases hg : r.identity = g
      · -- the call is of the group: the group's run takes it as its first call
        subst hg
        have hstep := call_restrict hr hsr
        simp only [runEdits_cons, List.filter_cons, hgroup, decide_true, if_true, hstep, ih']
      · -- the call is of another group: the group's run does not see it
        have hother := call_restrict_other hr hg hsr
        have hne : ¬e.group? = some g := by
          rw [hgroup]
          exact fun h => hg (Option.some.inj h)
        simp only [runEdits_cons, List.filter_cons, hne, decide_false, Bool.false_eq_true,
          if_false, ← ih', hother]

/-- The calls that hand no route are refused whatever the store, each as it is refused on an
empty store. -/
theorem runEdits_filter_none (s : RouteSet) (l : List Edit) :
    (runEdits s l).2.filter (·.1.group? = none) =
      (l.filter (·.group? = none)).map fun e => (e, (({} : RouteSet).call e.toCall).2) := by
  induction l generalizing s with
  | nil => rfl
  | cons e es ih =>
    cases hr : e.route? with
    | none =>
      have hgroup : e.group? = none := by simp [Edit.group?, hr]
      rw [runEdits_cons, call_of_route?_eq_none hr]
      simp [hgroup, ih]
    | some r =>
      have hgroup : e.group? = some r.identity := by simp [Edit.group?, hr]
      simp [hgroup, ih]

/-! ### Stores that agree group by group -/

/-- Two stores agree when they hold the same routes of each identity group, in the same
order. -/
def Agree (s₁ s₂ : RouteSet) : Prop := ∀ g, s₁.restrict g = s₂.restrict g

section Agree

variable {s₁ s₂ : RouteSet}

/-- Agreeing stores hold the same routes, each as often. -/
theorem Agree.perm (h : Agree s₁ s₂) : s₁.routes.Perm s₂.routes := by
  classical
  rw [List.perm_iff_count]
  intro r
  have hg := congrArg RouteSet.routes (h r.identity)
  simp only [restrict_routes] at hg
  rw [← List.count_filter (p := fun x => decide (x.identity = r.identity)) (by simp), hg,
    List.count_filter (by simp)]

theorem Agree.size_eq (h : Agree s₁ s₂) : s₁.size = s₂.size := h.perm.length_eq

theorem Agree.contains_eq (h : Agree s₁ s₂) (r : Route) : s₁.contains r = s₂.contains r :=
  h.perm.any_eq

/-- The first named route of a name is the first route of the name's group. -/
theorem routeForName_eq_restrict (s : RouteSet) (n : String) :
    s.routeForName n = (s.restrict (.named n)).routes.find? (·.name? == some n) := by
  rw [routeForName, restrict_routes, List.find?_filter]
  apply List.find?_congr
  intro r _
  rcases r with ⟨_, identity, _, _, _⟩
  cases identity <;> simp [beq_eq_decide]

theorem Agree.routeForName_eq (h : Agree s₁ s₂) (n : String) :
    s₁.routeForName n = s₂.routeForName n := by
  rw [routeForName_eq_restrict, routeForName_eq_restrict, h]

/-- The class routes of a class are the routes of the class's group. -/
theorem routesForClass_eq_restrict (s : RouteSet) (c : ClassRef) :
    s.routesForClass c = (s.restrict (.ofClass c)).routes := by
  rw [routesForClass, classRoutes, List.filter_filter, restrict_routes]
  apply List.filter_congr
  intro r _
  rcases r with ⟨_, identity, _, _, _⟩
  cases identity <;> simp [beq_eq_decide]

/-- The relationship routes of a name on a class are the routes of their group. -/
theorem routesForRelationship_filter_eq_restrict (s : RouteSet) (n : String) (c : ClassRef) :
    (s.routesForRelationship n).filter (·.objectClass? == some c) =
      (s.restrict (.relationship n c)).routes := by
  rw [routesForRelationship, relationshipRoutes, List.filter_filter, List.filter_filter,
    restrict_routes]
  apply List.filter_congr
  intro r _
  rcases r with ⟨_, identity, _, _, _⟩
  cases identity <;> simp [beq_eq_decide, Bool.and_comm]

theorem Agree.routesForClass_eq (h : Agree s₁ s₂) (c : ClassRef) :
    s₁.routesForClass c = s₂.routesForClass c := by
  rw [routesForClass_eq_restrict, routesForClass_eq_restrict, h]

theorem Agree.routeForClass_eq (h : Agree s₁ s₂) (c : ClassRef) (k : Except Failure Method) :
    s₁.routeForClass c k = s₂.routeForClass c k := by
  rw [routeForClass, routeForClass, h.routesForClass_eq]

/-- A walk along a linearisation reads the routes of one class at a time. -/
theorem firstAlong_congr {rs₁ rs₂ : List Route}
    (h : ∀ c, rs₁.filter (·.objectClass? == some c) = rs₂.filter (·.objectClass? == some c))
    (k : Except Failure Method) (lineage : List ClassRef) :
    firstAlong k rs₁ lineage = firstAlong k rs₂ lineage := by
  induction lineage with
  | nil => rfl
  | cons c cs ih => simp only [firstAlong, h c, ih]

theorem Agree.routeForObject_eq (h : Agree s₁ s₂) (lineage : List ClassRef)
    (k : Except Failure Method) : s₁.routeForObject lineage k = s₂.routeForObject lineage k :=
  firstAlong_congr (fun c => h.routesForClass_eq c) k lineage

theorem Agree.routeForRelationship_eq (h : Agree s₁ s₂) (n : String) (lineage : List ClassRef)
    (k : Except Failure Method) :
    s₁.routeForRelationship n lineage k = s₂.routeForRelationship n lineage k := by
  refine firstAlong_congr (fun c => ?_) k lineage
  rw [routesForRelationship_filter_eq_restrict, routesForRelationship_filter_eq_restrict, h]

/-- The relationship routes of a name span classes: agreeing stores hold the same ones, in
orders that may differ between classes. -/
theorem Agree.routesForRelationship_perm (h : Agree s₁ s₂) (n : String) :
    (s₁.routesForRelationship n).Perm (s₂.routesForRelationship n) :=
  (h.perm.filter _).filter _

end Agree

/-! ### Reordered runs -/

/-- Outcome lists that agree call group by call group, and hold the same refused calls that
hand no route, are the same outcomes in another order. -/
theorem outcomes_perm {o₁ o₂ : List (Edit × Option Failure)}
    (hsome : ∀ g, o₁.filter (·.1.group? = some g) = o₂.filter (·.1.group? = some g))
    (hnone : (o₁.filter (·.1.group? = none)).Perm (o₂.filter (·.1.group? = none))) :
    o₁.Perm o₂ := by
  classical
  rw [List.perm_iff_count]
  intro a
  have hkey : ∀ o : List (Edit × Option Failure),
      o.count a = (o.filter (·.1.group? = a.1.group?)).count a :=
    fun o => (List.count_filter (by simp)).symm
  rw [hkey o₁, hkey o₂]
  cases hg : a.1.group? with
  | none => exact hnone.count_eq a
  | some g => rw [hsome g]

/-- **Registration order matters only within an identity group.** Two runs of registrations
and removals on one store, the second a permutation of the first that keeps the order of the
calls of each identity group, where routes sharing a serial number share their identity: each
call has the same outcome in both runs, and the two final stores agree on their size, on which
routes they hold, and on every lookup; the relationship routes of a name are the same, possibly
in another order. -/
theorem runEdits_reorder (s : RouteSet) (l₁ l₂ : List Edit)
    (hs : SerialsKeepIdentity (s.routes ++ l₁.filterMap Edit.route?)) (hperm : l₁.Perm l₂)
    (hgroups : ∀ g, l₁.filter (·.group? = some g) = l₂.filter (·.group? = some g)) :
    (runEdits s l₁).2.Perm (runEdits s l₂).2 ∧
      (runEdits s l₁).1.size = (runEdits s l₂).1.size ∧
      (∀ r, (runEdits s l₁).1.contains r = (runEdits s l₂).1.contains r) ∧
      (∀ n, (runEdits s l₁).1.routeForName n = (runEdits s l₂).1.routeForName n) ∧
      (∀ c, (runEdits s l₁).1.routesForClass c = (runEdits s l₂).1.routesForClass c) ∧
      (∀ c k, (runEdits s l₁).1.routeForClass c k = (runEdits s l₂).1.routeForClass c k) ∧
      (∀ lineage k,
        (runEdits s l₁).1.routeForObject lineage k = (runEdits s l₂).1.routeForObject lineage k) ∧
      (∀ n lineage k, (runEdits s l₁).1.routeForRelationship n lineage k =
        (runEdits s l₂).1.routeForRelationship n lineage k) ∧
      (∀ n, ((runEdits s l₁).1.routesForRelationship n).Perm
        ((runEdits s l₂).1.routesForRelationship n)) := by
  have hs₂ : SerialsKeepIdentity (s.routes ++ l₂.filterMap Edit.route?) :=
    hs.mono (List.append_subset.2 ⟨List.subset_append_left _ _,
      fun x hx => List.mem_append_right _ ((hperm.filterMap _).symm.subset hx)⟩)
  have hgroup : ∀ g, runEdits (s.restrict g) (l₁.filter (·.group? = some g)) =
      runEdits (s.restrict g) (l₂.filter (·.group? = some g)) := fun g => by rw [hgroups g]
  have hagree : Agree (runEdits s l₁).1 (runEdits s l₂).1 := fun g => by
    have h := congrArg Prod.fst (hgroup g)
    rwa [runEdits_restrict s l₁ g hs, runEdits_restrict s l₂ g hs₂] at h
  have houtcomes : (runEdits s l₁).2.Perm (runEdits s l₂).2 := by
    refine outcomes_perm (fun g => ?_) ?_
    · have h := congrArg Prod.snd (hgroup g)
      rwa [runEdits_restrict s l₁ g hs, runEdits_restrict s l₂ g hs₂] at h
    · rw [runEdits_filter_none, runEdits_filter_none]
      exact (hperm.filter _).map _
  exact ⟨houtcomes, hagree.size_eq, hagree.contains_eq, hagree.routeForName_eq,
    hagree.routesForClass_eq, hagree.routeForClass_eq, hagree.routeForObject_eq,
    hagree.routeForRelationship_eq, hagree.routesForRelationship_perm⟩

/-- A named route for GET. -/
def namedA : Route := ⟨4, .named "a", Method.get, ⟨[]⟩, false⟩

/-- Registering the explicit route of `Article`, the named route `a`, the wildcard route of
`Article` and the clashing `articleGetAgain`, then taking `a` out. -/
def articleEdits : List Edit :=
  [.add (.route articleGet), .add (.route namedA), .add (.route articleAny),
    .add (.route articleGetAgain), .remove (.route namedA)]

/-- The calls of `articleEdits` in another order that keeps the order within each group. -/
def articleEditsMoved : List Edit :=
  [.add (.route namedA), .add (.route articleGet), .add (.route articleAny),
    .remove (.route namedA), .add (.route articleGetAgain)]

/-- The runs `articleEdits` and `articleEditsMoved` from the empty store: in the first the clashing
route is refused and every other call succeeds, and the two runs agree. -/
theorem runEdits_reorder_article_edits :
    (runEdits {} articleEdits).2.map (·.2.isSome) = [false, false, false, true, false] ∧
    SerialsKeepIdentity (({} : RouteSet).routes ++ articleEdits.filterMap Edit.route?) ∧
    articleEdits.Perm articleEditsMoved ∧
    (∀ g, articleEdits.filter (·.group? = some g) = articleEditsMoved.filter (·.group? = some g)) ∧
    (runEdits {} articleEdits).2.Perm (runEdits {} articleEditsMoved).2 ∧
    (runEdits {} articleEdits).1.size = (runEdits {} articleEditsMoved).1.size ∧
    (∀ r, (runEdits {} articleEdits).1.contains r =
      (runEdits {} articleEditsMoved).1.contains r) ∧
    (∀ n, (runEdits {} articleEdits).1.routeForName n =
      (runEdits {} articleEditsMoved).1.routeForName n) ∧
    (∀ c, (runEdits {} articleEdits).1.routesForClass c =
      (runEdits {} articleEditsMoved).1.routesForClass c) ∧
    (∀ c k, (runEdits {} articleEdits).1.routeForClass c k =
      (runEdits {} articleEditsMoved).1.routeForClass c k) ∧
    (∀ lineage k, (runEdits {} articleEdits).1.routeForObject lineage k =
      (runEdits {} articleEditsMoved).1.routeForObject lineage k) ∧
    (∀ n lineage k, (runEdits {} articleEdits).1.routeForRelationship n lineage k =
      (runEdits {} articleEditsMoved).1.routeForRelationship n lineage k) ∧
    (∀ n, ((runEdits {} articleEdits).1.routesForRelationship n).Perm
      ((runEdits {} articleEditsMoved).1.routesForRelationship n)) := by
  have hs : SerialsKeepIdentity (({} : RouteSet).routes ++ articleEdits.filterMap Edit.route?) := by
    unfold SerialsKeepIdentity
    decide
  have hperm : articleEdits.Perm articleEditsMoved :=
    (List.Perm.swap _ _ _).trans (.cons _ (.cons _ (.cons _ (List.Perm.swap _ _ []))))
  have hgroups : ∀ g, articleEdits.filter (·.group? = some g) =
      articleEditsMoved.filter (·.group? = some g) := by
    intro g
    by_cases hn : Route.Identity.named "a" = g
    · subst hn
      rfl
    · by_cases hc : Route.Identity.ofClass ⟨1, "Article"⟩ = g
      · subst hc
        rfl
      · simp [articleEdits, articleEditsMoved, Edit.group?, Edit.route?, namedA, articleGet,
          articleAny, articleGetAgain, hn, hc]
  exact ⟨rfl, hs, hperm, hgroups, runEdits_reorder _ _ _ hs hperm hgroups⟩

end UrlRouting.RouteSet
