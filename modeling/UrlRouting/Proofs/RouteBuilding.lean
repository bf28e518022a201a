import Mathlib
import UrlRouting.Route.Build

/-!
# Building routes: checks in order, and the routes they give

Each of the three constructions of a route runs its checks one after the other and reports the
first that fails (`named_eq_error_iff`, `forClass_eq_error_iff`,
`forRelationship_eq_error_iff`). When all pass, it builds the route of its kind from what the
checks gave (`named_eq_ok_iff` and its siblings), and that route is valid (`Route.Valid`): its
mask passes validation, it is of exactly one kind, a named route is for exactly one concrete
method, its names are not empty, and it does not escape values until told to.

A method argument is a method text or a non-negative integer, and is validated after it is read
(`readMethod_spec`); so a built route's mask always passes validation. Outcomes of a run are
peeled apart with the two laws of `>>=` on results (`except_bind_eq_ok_iff`,
`except_bind_eq_error_iff`).

## Main definitions

* `UrlRouting.Route.Valid`

## Main results

* `UrlRouting.Route.readMethod_spec`
* `UrlRouting.Route.constructions_checked`
-/

namespace UrlRouting

section Results

variable {α β : Type} {x : Except Failure α} {g : α → Except Failure β}

theorem except_bind_eq_ok_iff {b : β} : x >>= g = .ok b ↔ ∃ a, x = .ok a ∧ g a = .ok b := by
  cases x <;> simp [bind, Except.bind]

theorem except_bind_eq_error_iff {e : Failure} :
    x >>= g = .error e ↔ x = .error e ∨ ∃ a, x = .ok a ∧ g a = .error e := by
  cases x <;> simp [bind, Except.bind]

end Results

namespace Route

/-- What every route a construction builds satisfies. -/
structure Valid (r : Route) : Prop where
  /-- The mask passes validation. -/
  method_valid : r.method.validate = .ok r.method
  /-- The route is of exactly one kind. -/
  one_kind : [r.isNamed, r.isClass, r.isRelationship].count true = 1
  /-- A named route is for exactly one concrete method. -/
  specific_of_isNamed : r.isNamed = true → r.method.isSpecific = true
  /-- The name of a named route is not empty. -/
  name_ne_empty : ∀ n, r.name? = some n → n ≠ ""
  /-- The relationship name of a relationship route is not empty. -/
  relationshipName_ne_empty : ∀ n, r.relationshipName? = some n → n ≠ ""
  /-- Values are not escaped until the route is told to. -/
  escapes_eq_false : r.escapes = false

/-- Every route is of exactly one kind. -/
theorem kinds_count (r : Route) : [r.isNamed, r.isClass, r.isRelationship].count true = 1 := by
  obtain ⟨serial, identity, m, t, e⟩ := r
  cases identity <;> simp

/-! ### The checks -/

theorem requireName_eq_ok_iff {role : NameRole} {v : Value} {n : String} :
    requireName role v = .ok n ↔ v = .str n ∧ n ≠ "" := by
  cases v with
  | str s =>
    by_cases hs : s = ""
    · simp [requireName, hs]
    · simp only [requireName, String.isEmpty_iff, hs, if_false, Except.ok.injEq, Value.str.injEq]
      constructor
      · rintro rfl
        exact ⟨rfl, hs⟩
      · rintro ⟨rfl, -⟩
        rfl
  | _ => simp [requireName]

theorem requireName_eq_error_iff {role : NameRole} {v : Value} {f : Failure} :
    requireName role v = .error f ↔ (¬∃ n, v = .str n ∧ n ≠ "") ∧ f = .blankName role v := by
  cases v with
  | str s =>
    by_cases hs : s = ""
    · subst hs
      simp only [requireName, String.isEmpty_iff, if_true, Except.error.injEq]
      constructor
      · rintro rfl
        exact ⟨by simp, rfl⟩
      · rintro ⟨-, rfl⟩
        rfl
    · simp [requireName, String.isEmpty_iff, hs]
  | _ => simp [requireName, eq_comm]

theorem requireClass_eq_ok_iff {c : ClassArg} {k : ClassRef} :
    requireClass c = .ok k ↔ c = .known k := by
  cases c <;> simp [requireClass]

theorem requireClass_eq_error_iff {c : ClassArg} {f : Failure} :
    requireClass c = .error f ↔ ∃ v, c = .given v ∧ f = .notAClass v := by
  cases c <;> simp [requireClass, eq_comm]

/-- Validation gives back the mask it accepts. -/
theorem validate_eq_ok {m m' : Method} (h : m.validate = .ok m') : m' = m := by
  unfold Method.validate at h
  split_ifs at h
  exact (Except.ok.inj h).symm

/-- Reading a method argument: a text is read as a method text and an integer from 0 on as its
bits, each then validated; any other value is refused. What is read passes validation. -/
theorem readMethod_spec :
    (∀ v m, readMethod v = .ok m → m.validate = .ok m) ∧
    (∀ s, readMethod (.str s) = (Method.ofString s >>= Method.validate)) ∧
    (∀ n : Int, 0 ≤ n → readMethod (.int n) = Method.validate ⟨n.toNat⟩) ∧
    ∀ v, (∀ s, v ≠ .str s) → (∀ n : Int, 0 ≤ n → v ≠ .int n) →
      readMethod v = .error (.methodType v) := by
  refine ⟨fun v m h => ?_, fun s => rfl, fun n hn => if_pos hn, fun v hs hn => ?_⟩
  · -- the last step of a successful reading is a validation, which gives its mask back
    unfold readMethod at h
    split at h
    · obtain ⟨m', -, hm'⟩ := except_bind_eq_ok_iff.1 h
      obtain rfl := validate_eq_ok hm'
      exact hm'
    · split_ifs at h
      obtain rfl := validate_eq_ok h
      exact h
    · cases h
  · unfold readMethod
    split
    · exact absurd rfl (hs _)
    · rename_i n
      exact if_neg fun h => hn n h rfl
    · rfl

/-- A route built with its mask validated, with default escaping, is valid once its names are not
empty and a named one is for one concrete method. -/
theorem valid_of_built {serial : Nat} {id : Identity} {m : Method} {tmpl : Template}
    (hm : m.validate = .ok m) (hnamed : ∀ n, id = .named n → n ≠ "" ∧ m.isSpecific = true)
    (hrel : ∀ n c, id = .relationship n c → n ≠ "") :
    Valid { serial, identity := id, method := m, template := tmpl } := by
  refine ⟨hm, kinds_count _, fun h => ?_, fun n h => ?_, fun n h => ?_, rfl⟩
  · cases id <;> simp_all
  · cases id <;> simp_all
  · cases id <;> simp_all

/-! ### Named routes -/

section Named

variable {serial : Nat} {name : Value} {t : TemplateArg} {method : Option Value}

theorem named_eq_ok_iff {r : Route} :
    named serial name t method = .ok r ↔
      ∃ n m tmpl, name = .str n ∧ n ≠ "" ∧
        readMethod (method.getD (.int Method.get.bits)) = .ok m ∧ m.isSpecific = true ∧
        t.load = .ok tmpl ∧
        r = { serial, identity := .named n, method := m, template := tmpl } := by
  simp only [named, except_bind_eq_ok_iff, requireName_eq_ok_iff, and_assoc]
  constructor
  · rintro ⟨n, rfl, hn, m, hm, h⟩
    split at h
    · obtain ⟨tmpl, ht, hr⟩ := except_bind_eq_ok_iff.1 h
      exact ⟨n, m, tmpl, rfl, hn, hm, ‹_›, ht, (Except.ok.inj hr).symm⟩
    · -- a mask that is not one concrete method is refused before the template is read
      simp [throw, throwThe, MonadExceptOf.throw, bind, Except.bind] at h
  · rintro ⟨n, m, tmpl, rfl, hn, hm, hs, ht, rfl⟩
    exact ⟨n, rfl, hn, m, hm, by simp [hs, ht, bind, Except.bind, pure, Except.pure]⟩

/-- A named route is refused with the first failing check: the name, the method, that the mask is
one concrete method, which is checked before the template, and the template. -/
theorem named_eq_error_iff {f : Failure} :
    named serial name t method = .error f ↔
      (¬∃ n, name = .str n ∧ n ≠ "") ∧ f = .blankName .route name ∨
      ∃ n, name = .str n ∧ n ≠ "" ∧
        (readMethod (method.getD (.int Method.get.bits)) = .error f ∨
          ∃ m, readMethod (method.getD (.int Method.get.bits)) = .ok m ∧
            (m.isSpecific = false ∧ f = .notSpecific n m ∨
              m.isSpecific = true ∧ t.load = .error f)) := by
  simp only [named, except_bind_eq_error_iff, requireName_eq_ok_iff, requireName_eq_error_iff,
    and_assoc]
  refine or_congr Iff.rfl (exists_congr fun n => and_congr Iff.rfl (and_congr Iff.rfl
    (or_congr Iff.rfl (exists_congr fun m => and_congr Iff.rfl ?_))))
  cases hs : m.isSpecific
  · simp [throw, throwThe, MonadExceptOf.throw, bind, Except.bind, eq_comm]
  · simp [except_bind_eq_error_iff, pure, Except.pure]

theorem valid_of_named_eq_ok {r : Route} (h : named serial name t method = .ok r) :
    r.Valid ∧ r.isNamed = true := by
  obtain ⟨n, m, tmpl, -, hn, hm, hs, -, rfl⟩ := named_eq_ok_iff.1 h
  refine ⟨valid_of_built (readMethod_spec.1 _ _ hm) ?_ (by simp), rfl⟩
  rintro _ ⟨⟩
  exact ⟨hn, hs⟩

end Named

/-! ### Class routes -/

section ForClass

variable {serial : Nat} {cls : ClassArg} {t : TemplateArg} {method : Option Value}

theorem forClass_eq_ok_iff {r : Route} :
    forClass serial cls t method = .ok r ↔
      ∃ c m tmpl, cls = .known c ∧ readMethod (method.getD (.int Method.any.bits)) = .ok m ∧
        t.load = .ok tmpl ∧
        r = { serial, identity := .ofClass c, method := m, template := tmpl } := by
  simp only [forClass, except_bind_eq_ok_iff, requireClass_eq_ok_iff]
  constructor
  · rintro ⟨c, hc, m, hm, tmpl, ht, hr⟩
    exact ⟨c, m, tmpl, hc, hm, ht, (Except.ok.inj hr).symm⟩
  · rintro ⟨c, m, tmpl, hc, hm, ht, rfl⟩
    exact ⟨c, hc, m, hm, tmpl, ht, rfl⟩

theorem forClass_eq_error_iff {f : Failure} :
    forClass serial cls t method = .error f ↔
      (∃ v, cls = .given v ∧ f = .notAClass v) ∨
      ∃ c, cls = .known c ∧
        (readMethod (method.getD (.int Method.any.bits)) = .error f ∨
          ∃ m, readMethod (method.getD (.int Method.any.bits)) = .ok m ∧ t.load = .error f) := by
  simp only [forClass, except_bind_eq_error_iff, requireClass_eq_ok_iff,
    requireClass_eq_error_iff, pure, Except.pure, reduceCtorEq, and_false, exists_false, or_false]

theorem valid_of_forClass_eq_ok {r : Route} (h : forClass serial cls t method = .ok r) :
    r.Valid ∧ r.isClass = true := by
  obtain ⟨c, m, tmpl, -, hm, -, rfl⟩ := forClass_eq_ok_iff.1 h
  exact ⟨valid_of_built (readMethod_spec.1 _ _ hm) (by simp) (by simp), rfl⟩

end ForClass

/-! ### Relationship routes -/

section ForRelationship

variable {serial : Nat} {name : Value} {cls : ClassArg} {t : TemplateArg}
  {method : Option Value}

theorem forRelationship_eq_ok_iff {r : Route} :
    forRelationship serial name cls t method = .ok r ↔
      ∃ n c m tmpl, name = .str n ∧ n ≠ "" ∧ cls = .known c ∧
        readMethod (method.getD (.int Method.any.bits)) = .ok m ∧ t.load = .ok tmpl ∧
        r = { serial, identity := .relationship n c, method := m, template := tmpl } := by
  simp only [forRelationship, except_bind_eq_ok_iff, requireName_eq_ok_iff,
    requireClass_eq_ok_iff]
  constructor
  · rintro ⟨n, ⟨rfl, hn⟩, c, hc, m, hm, tmpl, ht, hr⟩
    exact ⟨n, c, m, tmpl, rfl, hn, hc, hm, ht, (Except.ok.inj hr).symm⟩
  · rintro ⟨n, c, m, tmpl, rfl, hn, hc, hm, ht, rfl⟩
    exact ⟨n, ⟨rfl, hn⟩, c, hc, m, hm, tmpl, ht, rfl⟩

theorem forRelationship_eq_error_iff {f : Failure} :
    forRelationship serial name cls t method = .error f ↔
      (¬∃ n, name = .str n ∧ n ≠ "") ∧ f = .blankName .relationship name ∨
      ∃ n, name = .str n ∧ n ≠ "" ∧
        ((∃ v, cls = .given v ∧ f = .notAClass v) ∨
          ∃ c, cls = .known c ∧
            (readMethod (method.getD (.int Method.any.bits)) = .error f ∨
              ∃ m, readMethod (method.getD (.int Method.any.bits)) = .ok m ∧
                t.load = .error f)) := by
  simp only [forRelationship, except_bind_eq_error_iff, requireName_eq_ok_iff,
    requireName_eq_error_iff, requireClass_eq_ok_iff, requireClass_eq_error_iff, pure,
    Except.pure, reduceCtorEq, and_false, exists_false, or_false, and_assoc]

theorem valid_of_forRelationship_eq_ok {r : Route}
    (h : forRelationship serial name cls t method = .ok r) :
    r.Valid ∧ r.isRelationship = true := by
  obtain ⟨n, c, m, tmpl, -, hn, -, hm, -, rfl⟩ := forRelationship_eq_ok_iff.1 h
  refine ⟨valid_of_built (readMethod_spec.1 _ _ hm) (by simp) ?_, by simp⟩
  rintro _ _ ⟨⟩
  exact hn

end ForRelationship

/-! ### The main statement -/

/-- **Building routes.** A method argument is read as a method text or as the bits of an
integer from 0 on, and validated; any other value is refused. Each construction reports the
first of its checks that fails, in its order: for a named route the name, the method, that the
mask is exactly one concrete method, and the template; for a class route the class, the method
and the template; for a relationship route the relationship name, the class, the method and the
template. When all pass, it builds the route of its kind from what the checks gave, with the
template as read, and that route is valid. -/
theorem constructions_checked :
    ((∀ v m, readMethod v = .ok m → m.validate = .ok m) ∧
      (∀ s, readMethod (.str s) = (Method.ofString s >>= Method.validate)) ∧
      (∀ n : Int, 0 ≤ n → readMethod (.int n) = Method.validate ⟨n.toNat⟩) ∧
      ∀ v, (∀ s, v ≠ .str s) → (∀ n : Int, 0 ≤ n → v ≠ .int n) →
        readMethod v = .error (.methodType v)) ∧
    (∀ serial name t method f,
      named serial name t method = .error f ↔
        (¬∃ n, name = .str n ∧ n ≠ "") ∧ f = .blankName .route name ∨
        ∃ n, name = .str n ∧ n ≠ "" ∧
          (readMethod (method.getD (.int Method.get.bits)) = .error f ∨
            ∃ m, readMethod (method.getD (.int Method.get.bits)) = .ok m ∧
              (m.isSpecific = false ∧ f = .notSpecific n m ∨
                m.isSpecific = true ∧ t.load = .error f))) ∧
    (∀ serial name t method r,
      named serial name t method = .ok r ↔
        ∃ n m tmpl, name = .str n ∧ n ≠ "" ∧
          readMethod (method.getD (.int Method.get.bits)) = .ok m ∧ m.isSpecific = true ∧
          t.load = .ok tmpl ∧ r = { serial, identity := .named n, method := m, template := tmpl }) ∧
    (∀ serial cls t method f,
      forClass serial cls t method = .error f ↔
        (∃ v, cls = .given v ∧ f = .notAClass v) ∨
        ∃ c, cls = .known c ∧
          (readMethod (method.getD (.int Method.any.bits)) = .error f ∨
            ∃ m, readMethod (method.getD (.int Method.any.bits)) = .ok m ∧ t.load = .error f)) ∧
    (∀ serial cls t method r,
      forClass serial cls t method = .ok r ↔
        ∃ c m tmpl, cls = .known c ∧ readMethod (method.getD (.int Method.any.bits)) = .ok m ∧
          t.load = .ok tmpl ∧
          r = { serial, identity := .ofClass c, method := m, template := tmpl }) ∧
    (∀ serial name cls t method f,
      forRelationship serial name cls t method = .error f ↔
        (¬∃ n, name = .str n ∧ n ≠ "") ∧ f = .blankName .relationship name ∨
        ∃ n, name = .str n ∧ n ≠ "" ∧
          ((∃ v, cls = .given v ∧ f = .notAClass v) ∨
            ∃ c, cls = .known c ∧
              (readMethod (method.getD (.int Method.any.bits)) = .error f ∨
                ∃ m, readMethod (method.getD (.int Method.any.bits)) = .ok m ∧
                  t.load = .error f))) ∧
    (∀ serial name cls t method r,
      forRelationship serial name cls t method = .ok r ↔
        ∃ n c m tmpl, name = .str n ∧ n ≠ "" ∧ cls = .known c ∧
          readMethod (method.getD (.int Method.any.bits)) = .ok m ∧ t.load = .ok tmpl ∧
          r = { serial, identity := .relationship n c, method := m, template := tmpl }) ∧
    ∀ serial name cls t method r,
      (named serial name t method = .ok r → r.Valid ∧ r.isNamed = true) ∧
      (forClass serial cls t method = .ok r → r.Valid ∧ r.isClass = true) ∧
      (forRelationship serial name cls t method = .ok r → r.Valid ∧ r.isRelationship = true) :=
  ⟨readMethod_spec, fun _ _ _ _ _ => named_eq_error_iff, fun _ _ _ _ _ => named_eq_ok_iff,
    fun _ _ _ _ _ => forClass_eq_error_iff, fun _ _ _ _ _ => forClass_eq_ok_iff,
    fun _ _ _ _ _ _ => forRelationship_eq_error_iff,
    fun _ _ _ _ _ _ => forRelationship_eq_ok_iff,
    fun _ _ _ _ _ _ => ⟨valid_of_named_eq_ok, valid_of_forClass_eq_ok,
      valid_of_forRelationship_eq_ok⟩⟩

end Route

end UrlRouting
