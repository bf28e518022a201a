import Mathlib
import UrlRouting.Proofs.MatchBindings

/-!
# Binding captures that agree with a mapping

Matching binds the variables of a template in turn, and a name bound a second time must get
the same capture again. When every capture bound is one whose value a fixed mapping `val`
gives the name, binding never fails on a second time, and what is bound keeps agreeing with
the mapping (`Bindings.Within`, `assign_within`, `foldlM_assign_within`): two captures with
the same value are the same.

The bodies an expansion writes are cut back into their pieces. Pieces joined by the separator,
none holding it, come back from `splitAtMost` (`splitAtMost_intercalate`) as they come back
from `List.splitOn`. A named body of `key=value` items collects, for each key, all its values
in order (`Collects`, `collects_paramsOf`), and binding it gives each variable the values of its
name (`bindNamed_within`); a key that no variable declares makes it fail when no variable is
exploded (`bindNamed_undeclared`).

## Main definitions

* `UrlRouting.Template.Bindings.Within`
* `UrlRouting.Template.valuesOf`, `UrlRouting.Template.Collects`

## Main results

* `UrlRouting.Template.assign_within`, `UrlRouting.Template.foldlM_assign_within`
* `UrlRouting.Template.splitAtMost_intercalate`
* `UrlRouting.Template.collects_paramsOf`, `UrlRouting.Template.bindNamed_within`,
  `UrlRouting.Template.bindNamed_undeclared`
-/

namespace UrlRouting.Template

/-! ### Captures with the same value -/

/-- Two captures with the same value are the same, when the second is a text or a list. -/
theorem Capture.same_of_toValue_eq {c c' : Capture} (hc : ∀ ps, c' ≠ .params ps)
    (h : c.toValue = c'.toValue) : c.same c' = true := by
  cases c with
  | text a =>
    cases c' with
    | text b => simpa [Capture.toValue, Capture.same] using h
    | items ys => simp [Capture.toValue] at h
    | params ps => exact absurd rfl (hc ps)
  | items xs =>
    cases c' with
    | text b => simp [Capture.toValue] at h
    | items ys =>
      have hmap : xs.map Value.str = ys.map Value.str := by simpa [Capture.toValue] using h
      simp [Capture.same, List.map_injective_iff.2 (fun _ _ e => Value.str.inj e) hmap]
    | params ps => exact absurd rfl (hc ps)
  | params ps =>
    cases c' with
    | text b => simp [Capture.toValue] at h
    | items ys => simp [Capture.toValue] at h
    | params qs => exact absurd rfl (hc qs)

theorem Bindings.mem_of_get? {bs : Bindings} {n : String} {c : Capture}
    (h : bs.get? n = some c) : (n, c) ∈ bs := by
  obtain ⟨e, he, rfl⟩ := Option.map_eq_some_iff.1 h
  have hkey : e.1 = n := by simpa using List.find?_some he
  rw [← hkey]
  exact List.mem_of_find?_eq_some he

/-! ### Bindings within a mapping -/

/-- Bindings agree with the values `val` gives names: each capture bound has the value `val`
gives its name. -/
def Bindings.Within (val : String → Option Value) (bs : Bindings) : Prop :=
  ∀ e ∈ bs, val e.1 = some e.2.toValue

section Within

variable {val : String → Option Value}

theorem Bindings.Within.get? {bs : Bindings} (h : bs.Within val) {n : String} {c : Capture}
    (hc : bs.get? n = some c) : val n = some c.toValue :=
  h (n, c) (Bindings.mem_of_get? hc)

/-- Binding a name to a capture with the value `val` gives it never fails, keeps the bindings within
`val`, and binds the name besides those bound before. A name bound before already holds a capture of
that value, which is the same capture. -/
theorem assign_within {bs : Bindings} {n : String} {c : Capture} (h : bs.Within val)
    (hn : val n = some c.toValue) (hc : ∀ ps, c ≠ .params ps) :
    ∃ bs', bs.assign n c = some bs' ∧ bs'.Within val ∧
      ∀ m, m ∈ bs'.map (·.1) ↔ m ∈ bs.map (·.1) ∨ m = n := by
  cases hget : bs.get? n with
  | none =>
    refine ⟨bs ++ [(n, c)], Bindings.assign_of_get?_eq_none hget, ?_, by simp⟩
    intro e he
    rcases List.mem_append.1 he with he | he
    · exact h e he
    · rw [List.mem_singleton.1 he]
      exact hn
  | some old =>
    have hsame : old.same c = true :=
      Capture.same_of_toValue_eq hc (Option.some.inj ((h.get? hget).symm.trans hn))
    have hbound : n ∈ bs.map (·.1) := by
      by_contra hnot
      rw [← Bindings.get?_eq_none_iff] at hnot
      simp [hnot] at hget
    refine ⟨bs.map fun e => if e.1 == n then (n, c) else e,
      by simp [Bindings.assign, hget, hsame], ?_, ?_⟩
    · intro e he
      obtain ⟨e', he', rfl⟩ := List.mem_map.1 he
      by_cases hk : e'.1 = n
      · simp [hk, hn]
      · simp [hk, h e' he']
    · intro m
      have hkeys : (bs.map fun e => if e.1 == n then (n, c) else e).map (·.1) = bs.map (·.1) := by
        simp only [List.map_map]
        apply List.map_congr_left
        intro e _
        by_cases hk : e.1 = n <;> simp [hk]
      rw [hkeys]
      constructor
      · exact Or.inl
      · rintro (hm | rfl)
        · exact hm
        · exact hbound

/-- A loop binding, for each element, a name to a capture with the value `val` gives it never
fails, keeps the bindings within `val`, and binds the names of all the elements. -/
theorem foldlM_assign_within {α : Type} (g : Bindings → α → Option Bindings)
    (f : α → String × Capture) :
    ∀ (l : List α) (bs : Bindings), (∀ e ∈ l, ∀ bs, g bs e = bs.assign (f e).1 (f e).2) →
      (∀ e ∈ l, val (f e).1 = some (f e).2.toValue ∧ ∀ ps, (f e).2 ≠ .params ps) →
        bs.Within val →
          ∃ bs', l.foldlM g bs = some bs' ∧ bs'.Within val ∧
            ∀ m, m ∈ bs'.map (·.1) ↔ m ∈ bs.map (·.1) ∨ ∃ e ∈ l, (f e).1 = m
  | [], bs, _, _, h => ⟨bs, rfl, h, by simp⟩
  | e :: l, bs, hg, hf, h => by
    obtain ⟨hval, hparams⟩ := hf e List.mem_cons_self
    obtain ⟨bs₁, h₁, hw₁, hk₁⟩ := assign_within h hval hparams
    obtain ⟨bs₂, h₂, hw₂, hk₂⟩ := foldlM_assign_within g f l bs₁
      (fun e' he' => hg e' (List.mem_cons_of_mem e he'))
      (fun e' he' => hf e' (List.mem_cons_of_mem e he')) hw₁
    refine ⟨bs₂, by simp [List.foldlM_cons, hg e List.mem_cons_self, h₁, h₂], hw₂, fun m => ?_⟩
    rw [hk₂, hk₁]
    constructor
    · rintro ((hm | rfl) | ⟨e', he', rfl⟩)
      · exact .inl hm
      · exact .inr ⟨e, List.mem_cons_self, rfl⟩
      · exact .inr ⟨e', List.mem_cons_of_mem e he', rfl⟩
    · rintro (hm | ⟨e', he' | ⟨_, he'⟩, rfl⟩)
      · exact .inl (.inl hm)
      · exact .inl (.inr rfl)
      · exact .inr ⟨e', he', rfl⟩

end Within

/-! ### Cutting written bodies -/

/-- Pieces joined by a separator none of them holds come back from a cut at their first
separators. -/
theorem splitAtMost_intercalate {sep : Char} :
    ∀ (L : List (List Char)), L ≠ [] → (∀ l ∈ L, sep ∉ l) →
      splitAtMost sep (L.length - 1) ([sep].intercalate L) = L
  | [x], _, _ => by simp [splitAtMost]
  | x :: y :: rest, _, h => by
    have hpass : ∀ c ∈ x, (· != sep) c = true := by
      intro c hc
      have hne : c ≠ sep := fun e => h x List.mem_cons_self (e ▸ hc)
      simpa using hne
    have ih := splitAtMost_intercalate (y :: rest) (List.cons_ne_nil y rest)
      (fun l hl => h l (List.mem_cons_of_mem x hl))
    rw [List.intercalate_cons_cons, List.append_assoc, List.singleton_append]
    simp only [List.length_cons, Nat.add_sub_cancel] at ih ⊢
    rw [splitAtMost, List.dropWhile_append_of_pos hpass, List.takeWhile_append_of_pos hpass]
    simp [ih]

/-! ### Named bodies -/

/-- The values a list of `key=value` pairs gives key `k`, in order. -/
def valuesOf (k : String) (pairs : List (String × String)) : List String :=
  (pairs.filter (·.1 == k)).map (·.2)

/-- Parameters collect a list of pairs when each key has exactly the values the pairs give
it, in order, and no other key has any. -/
def Collects (pairs : List (String × String)) (ps : List (String × List String)) : Prop :=
  ∀ k, paramValues? k ps = if valuesOf k pairs = [] then none else some (valuesOf k pairs)

theorem valuesOf_append (k : String) (pairs more : List (String × String)) :
    valuesOf k (pairs ++ more) = valuesOf k pairs ++ valuesOf k more := by
  simp [valuesOf]

theorem paramValues?_append (k : String) (ps qs : List (String × List String)) :
    paramValues? k (ps ++ qs) = (paramValues? k ps).or (paramValues? k qs) := by
  induction ps with
  | nil => rfl
  | cons e ps ih =>
    by_cases hk : e.1 = k <;> simp [paramValues?, hk, ih]

theorem paramValues?_eq_none {k : String} {ps : List (String × List String)}
    (h : ps.any (·.1 == k) = false) : paramValues? k ps = none := by
  induction ps with
  | nil => rfl
  | cons e ps ih =>
    simp only [List.any_cons, Bool.or_eq_false_iff, beq_eq_false_iff_ne] at h
    simp [paramValues?, h.1, ih (by simpa using h.2)]

theorem paramValues?_isSome_of_mem {ps : List (String × List String)}
    {e : String × List String} (h : e ∈ ps) : (paramValues? e.1 ps).isSome := by
  induction ps with
  | nil => cases h
  | cons e' ps ih =>
    by_cases hk : e'.1 = e.1
    · simp [paramValues?, hk]
    · rcases List.mem_cons.1 h with rfl | h
      · exact absurd rfl hk
      · simpa [paramValues?, hk] using ih h

/-- Adding a value to a key appends it to the values of that key only. -/
theorem paramValues?_addParam (ps : List (String × List String)) (k v key : String) :
    paramValues? key (addParam ps k v) =
      if k = key then some ((paramValues? key ps).getD [] ++ [v]) else paramValues? key ps := by
  unfold addParam
  split
  · rename_i hany
    have hmap : ∀ qs : List (String × List String),
        paramValues? key (qs.map fun e => if e.1 == k then (k, e.2 ++ [v]) else e) =
          if k = key then (paramValues? key qs).map (· ++ [v]) else paramValues? key qs := by
      intro qs
      induction qs with
      | nil => split <;> rfl
      | cons e qs ih =>
        by_cases hek : e.1 = k <;> by_cases hkey : k = key <;>
          simp_all [paramValues?]
    rw [hmap]
    split
    · rename_i hkey
      subst hkey
      obtain ⟨e, he, hek⟩ := List.any_eq_true.1 hany
      have hsome := paramValues?_isSome_of_mem he
      rw [beq_iff_eq.1 hek] at hsome
      obtain ⟨vs, hvs⟩ := Option.isSome_iff_exists.1 hsome
      simp [hvs]
    · rfl
  · rename_i hany
    rw [paramValues?_append]
    by_cases hkey : k = key
    · subst hkey
      simp [paramValues?_eq_none (Bool.eq_false_iff.2 hany), paramValues?]
    · simp [paramValues?, hkey]

theorem collects_addParam {pairs : List (String × String)} {ps : List (String × List String)}
    (h : Collects pairs ps) (k v : String) : Collects (pairs ++ [(k, v)]) (addParam ps k v) := by
  intro key
  rw [paramValues?_addParam, valuesOf_append]
  by_cases hkey : k = key
  · have hold : (paramValues? key ps).getD [] = valuesOf key pairs := by
      rw [h key]
      split <;> simp_all
    simp [hkey, hold, valuesOf]
  · have hnone : valuesOf key [(k, v)] = [] := by simp [valuesOf, hkey]
    simpa [hkey, hnone] using h key

/-- Adding pairs one after the other collects them after those collected before. -/
theorem collects_foldl :
    ∀ (more pairs : List (String × String)) (ps : List (String × List String)),
      Collects pairs ps →
        Collects (pairs ++ more) (more.foldl (fun ps e => addParam ps e.1 e.2) ps)
  | [], pairs, ps, h => by simpa using h
  | e :: more, pairs, ps, h => by
    have ih := collects_foldl more (pairs ++ [e]) _ (collects_addParam h e.1 e.2)
    simpa using ih

/-- A body of `key=value` items between separators, no key holding `=` and no item the
separator, collects the decoded pairs. -/
theorem collects_paramsOf {sep : Char} (hsep : sep ≠ '=') (items : List (List Char × List Char))
    (hne : items ≠ []) (hitems : ∀ e ∈ items, '=' ∉ e.1 ∧ sep ∉ e.1 ∧ sep ∉ e.2) :
    Collects (items.map fun e => (decoded e.1, decoded e.2))
      (paramsOf sep ([sep].intercalate (items.map fun e => e.1 ++ '=' :: e.2))) := by
  have hsplit : ([sep].intercalate (items.map fun e => e.1 ++ '=' :: e.2)).splitOn sep =
      items.map fun e => e.1 ++ '=' :: e.2 := by
    apply List.splitOn_intercalate
    · simp only [List.mem_map]
      rintro _ ⟨e, he, rfl⟩
      simp [(hitems e he).2.1, (hitems e he).2.2, hsep]
    · simpa using hne
  let kv := fun item : List Char => (decoded (item.takeWhile (· != '=')),
    decoded ((item.dropWhile (· != '=')).drop 1))
  have hkv : ∀ e ∈ items, kv (e.1 ++ '=' :: e.2) = (decoded e.1, decoded e.2) := by
    intro e he
    have hpass : ∀ c ∈ e.1, (· != '=') c = true := by
      intro c hc
      have hc' : c ≠ '=' := fun h => (hitems e he).1 (h ▸ hc)
      simpa using hc'
    simp only [kv]
    rw [List.takeWhile_append_of_pos hpass, List.dropWhile_append_of_pos hpass]
    simp
  have hfilter : (items.map fun e => e.1 ++ '=' :: e.2).filter (fun l => !l.isEmpty) =
      items.map fun e => e.1 ++ '=' :: e.2 := by
    apply List.filter_eq_self.2
    intro l hl
    obtain ⟨e, -, rfl⟩ := List.mem_map.1 hl
    simp
  have hfold : ∀ L : List (List Char), L.foldl (fun ps item => addParam ps (kv item).1
      (kv item).2) [] = (L.map kv).foldl (fun ps e => addParam ps e.1 e.2) [] := by
    intro L
    rw [List.foldl_map]
  have h := collects_foldl (items.map fun e => (decoded e.1, decoded e.2)) [] [] (fun _ => rfl)
  rw [List.nil_append] at h
  rw [paramsOf, hsplit, hfilter]
  have hmap : (items.map fun e => e.1 ++ '=' :: e.2).map kv =
      items.map fun e => (decoded e.1, decoded e.2) := by
    rw [List.map_map]
    exact List.map_congr_left hkv
  rw [hfold, hmap]
  exact h

/-- A loop whose step agrees with another on the elements it runs over runs as the other. -/
theorem foldlM_congr_mem {α β : Type} {g : β → α → Option β} (g' : β → α → Option β) :
    ∀ (l : List α) (b : β), (∀ e ∈ l, ∀ b, g b e = g' b e) → l.foldlM g b = l.foldlM g' b
  | [], _, _ => rfl
  | e :: l, b, h => by
    simp only [List.foldlM_cons, h e List.mem_cons_self]
    congr 1
    funext b'
    exact foldlM_congr_mem g' l b' fun e' he' => h e' (List.mem_cons_of_mem e he')

/-- Binding a named body whose parameters collect pairs, each key the name of a variable and each
variable given the capture its values make, never fails, keeps the bindings within `val` and binds
every variable. Every key of the body is declared, so nothing is left over for an exploded variable.
-/
theorem bindNamed_within {val : String → Option Value} {specs : List VarSpec} {sep : Char}
    {body : List Char} {bs : Bindings} {pairs : List (String × String)}
    (hps : Collects pairs (paramsOf sep body))
    (hkeys : ∀ e ∈ pairs, ∃ v ∈ specs, v.name = e.1)
    (hvals : ∀ v ∈ specs, valuesOf v.name pairs ≠ [] ∧
      val v.name = some (if v.explodes then Capture.items (valuesOf v.name pairs)
        else .text ((valuesOf v.name pairs).headD "")).toValue)
    (h : bs.Within val) :
    ∃ bs', bindNamed specs sep body bs = some bs' ∧ bs'.Within val ∧
      ∀ m, m ∈ bs'.map (·.1) ↔ m ∈ bs.map (·.1) ∨ ∃ v ∈ specs, v.name = m := by
  have hextra : (paramsOf sep body).filter (fun e => !(specs.any (·.name == e.1))) = [] := by
    apply List.filter_eq_nil_iff.2
    intro e he
    have hsome := paramValues?_isSome_of_mem he
    rw [hps e.1] at hsome
    have hne : valuesOf e.1 pairs ≠ [] := by
      intro hnil
      simp [hnil] at hsome
    obtain ⟨x, hx⟩ := List.exists_mem_of_ne_nil _ hne
    obtain ⟨pair, hpair, -⟩ := List.mem_map.1 hx
    obtain ⟨v, hv, hname⟩ := hkeys pair (List.mem_filter.1 hpair).1
    have hkey : pair.1 = e.1 := by simpa using (List.mem_filter.1 hpair).2
    simpa using ⟨v, hv, hname.trans hkey⟩
  let cap := fun v : VarSpec => if v.explodes then Capture.items (valuesOf v.name pairs)
    else .text ((valuesOf v.name pairs).headD "")
  obtain ⟨bs', hfold, hw, hk⟩ := foldlM_assign_within (fun bs v => bs.assign v.name (cap v))
    (fun v => (v.name, cap v)) specs bs (fun _ _ _ => rfl)
    (fun v hv => ⟨(hvals v hv).2, by intro ps; simp only [cap]; split <;> simp⟩) h
  refine ⟨bs', ?_, hw, hk⟩
  simp only [bindNamed, hextra, List.isEmpty_nil, Bool.not_true, Bool.false_and,
    Bool.false_eq_true, if_false]
  rw [foldlM_congr_mem (fun bs v => bs.assign v.name (cap v)) specs bs ?_, hfold]
  · simp only [Option.bind_eq_bind, Option.bind_some]
    split <;> rfl
  · intro v hv b
    simp [hps v.name, (hvals v hv).1, cap]

theorem mem_of_paramValues? {k : String} {vs : List String} :
    ∀ {ps : List (String × List String)}, paramValues? k ps = some vs → (k, vs) ∈ ps
  | [], h => by cases h
  | e :: ps, h => by
    by_cases hk : e.1 = k
    · simp only [paramValues?, hk, beq_self_eq_true, if_true, Option.some.injEq] at h
      subst h
      rw [← hk]
      exact List.mem_cons_self
    · simp only [paramValues?, beq_iff_eq, hk, if_false] at h
      exact List.mem_cons_of_mem e (mem_of_paramValues? h)

/-- A named body with a key no variable declares, and no exploded variable to take it, does
not bind. -/
theorem bindNamed_undeclared {specs : List VarSpec} {sep : Char} {body : List Char}
    {bs : Bindings} {pairs : List (String × String)} (hps : Collects pairs (paramsOf sep body))
    (hkey : ∃ e ∈ pairs, ∀ v ∈ specs, v.name ≠ e.1) (hx : ∀ v ∈ specs, v.explodes = false) :
    bindNamed specs sep body bs = none := by
  obtain ⟨e, he, hfree⟩ := hkey
  have hvals : valuesOf e.1 pairs ≠ [] :=
    List.ne_nil_of_mem (List.mem_map.2 ⟨e, List.mem_filter.2 ⟨he, by simp⟩, rfl⟩)
  have hget := hps e.1
  rw [if_neg hvals] at hget
  have hextra : (paramsOf sep body).filter (fun e => !(specs.any (·.name == e.1))) ≠ [] := by
    apply List.ne_nil_of_mem (a := (e.1, valuesOf e.1 pairs))
    refine List.mem_filter.2 ⟨mem_of_paramValues? hget, ?_⟩
    simpa using hfree
  have hexploded : specs.filter VarSpec.explodes = [] :=
    List.filter_eq_nil_iff.2 fun v hv => by simp [hx v hv]
  simp [bindNamed, hexploded, List.isEmpty_eq_false_iff.2 hextra]

end UrlRouting.Template
