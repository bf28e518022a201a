import Mathlib
import UrlRouting.Proofs.MatchExpansion

/-!
# The shapes of matched bindings

Matching binds the variables of a template one capture after another. What a variable part
binds for its captured body is a list of assignments (`Part.assignments`), each a variable of
the part with its capture, and binding the part is binding them in turn (`Part.bind_eq`). A
whole match binds the assignments of its present parts in order (`trace`, `bindAll_assignTrace`).

Each assignment has the shape its variable and part give it (`Part.Shape`): a text for a
variable that is not exploded, and for every variable of a positional part with several
variables; a list for an exploded variable alone in a positional part; and a list, or
parameters none of which the part declares, for an exploded variable of a named part. A name
bound twice must be bound to the same capture, which keeps that shape
(`Part.Shape.of_same`); so after the match every name is bound to a capture of the shape of
every variable that bound it (`assignTrace_keeps`), and only names of the template are bound.

An exploded variable that shares a positional part with other variables is bound to a text,
not a list: `{a*,b}` matches `x,y` with `a` bound to `x` (`matchPath_exploded_pair`).

## Main definitions

* `UrlRouting.Template.Part.assignments`, `UrlRouting.Template.trace`
* `UrlRouting.Template.Part.Shape`, `UrlRouting.Template.BindsIn`

## Main results

* `UrlRouting.Template.bindAll_assignTrace`, `UrlRouting.Template.assignTrace_keeps`
* `UrlRouting.Template.matchPath_shapes`
-/

namespace UrlRouting.Template

/-! ### Captures with distinct keys -/

/-- The parameters of a capture have distinct keys; texts and lists have no keys. -/
def Capture.KeysNodup : Capture → Prop
  | .params ps => (ps.map (·.1)).Nodup
  | _ => True

theorem addParam_keys_nodup {ps : List (String × List String)} (h : (ps.map (·.1)).Nodup)
    (k v : String) : ((addParam ps k v).map (·.1)).Nodup := by
  unfold addParam
  split
  · -- a key already there takes the value in place
    have hkeys : (ps.map fun e => if e.1 == k then (k, e.2 ++ [v]) else e).map (·.1) =
        ps.map (·.1) := by
      rw [List.map_map]
      refine List.map_congr_left fun e _ => ?_
      by_cases he : e.1 = k <;> simp [he]
    rwa [hkeys]
  · rename_i hany
    rw [List.map_append, List.nodup_append]
    refine ⟨h, List.nodup_singleton _, ?_⟩
    intro a ha b hb hab
    obtain ⟨e, he, rfl⟩ := List.mem_map.1 ha
    simp only [List.map_cons, List.map_nil, List.mem_singleton] at hb
    subst hb
    exact hany (List.any_eq_true.2 ⟨e, he, by simp [hab]⟩)

/-- The parameters of a named body have distinct keys: each item adds its value to the parameters
read so far, which keeps their keys distinct. -/
theorem paramsOf_keys_nodup (sep : Char) (body : List Char) :
    ((paramsOf sep body).map (·.1)).Nodup := by
  unfold paramsOf
  generalize ((body.splitOn sep).filter (!·.isEmpty)) = items
  suffices h : ∀ (ps : List (String × List String)), (ps.map (·.1)).Nodup →
      ((items.foldl (fun ps item => addParam ps (decoded (item.takeWhile (· != '=')))
        (decoded ((item.dropWhile (· != '=')).drop 1))) ps).map (·.1)).Nodup from
    h [] List.nodup_nil
  induction items with
  | nil => exact fun ps h => h
  | cons item items ih => exact fun ps h => ih _ (addParam_keys_nodup h _ _)

/-! ### What a part assigns -/

/-- The capture a declared variable of a named part takes from the values of its key. -/
def namedCapture (spec : VarSpec) (vs : List String) : Capture :=
  if spec.explodes then .items vs else .text (vs.headD "")

/-- The parameters of a named body that no variable of the part declares. -/
def undeclared (specs : List VarSpec) (sep : Char) (body : List Char) :
    List (String × List String) :=
  (paramsOf sep body).filter fun e => !(specs.any (·.name == e.1))

/-- No undeclared parameter has the name of a variable of the part. -/
theorem not_mem_names_of_mem_undeclared {p : Part} {sep : Char} {body : List Char}
    {e : String × List String} (he : e ∈ undeclared p.specs sep body) : e.1 ∉ p.names := by
  intro hname
  obtain ⟨v, hv, hvname⟩ := List.mem_map.1 hname
  have hfree := (List.mem_filter.1 he).2
  simp only [Bool.not_eq_eq_eq_not, Bool.not_true, List.any_eq_false, beq_iff_eq] at hfree
  exact hfree v hv hvname

theorem undeclared_keys_nodup (specs : List VarSpec) (sep : Char) (body : List Char) :
    ((undeclared specs sep body).map (·.1)).Nodup :=
  (paramsOf_keys_nodup sep body).sublist (List.filter_sublist.map _)

/-- What a part binds for its captured body, in order, each capture with the variable it is
bound to. A positional part with one variable binds it to the body, or to its pieces when it
is exploded; with several, it binds them to the pieces up to the first separators. A named part
binds each declared variable whose key the body has, then the undeclared keys, as parameters, to
its first exploded variable. -/
def Part.assignments (p : Part) (body : List Char) : List (VarSpec × Capture) :=
  let sep := p.operator.separator
  if p.operator.named then
    (p.specs.filterMap fun spec =>
        (paramValues? spec.name (paramsOf sep body)).map fun vs => (spec, namedCapture spec vs)) ++
      match p.specs.filter VarSpec.explodes with
      | e :: _ =>
        if (undeclared p.specs sep body).isEmpty then [] else
          [(e, .params (undeclared p.specs sep body))]
      | [] => []
  else
    match p.specs with
    | [spec] =>
      [(spec, if spec.explodes then .items ((body.splitOn sep).map decoded)
        else .text (decoded body))]
    | specs => (specs.zip (splitAtMost sep (specs.length - 1) body)).map fun e =>
      (e.1, .text (decoded e.2))

/-- What the variable parts bind for the captures of a reading, in order: each capture a
variable of a present part binds, with the part and the variable. -/
def trace : List Part → List (Option (List Char)) → List (Part × VarSpec × Capture)
  | p :: ps, some body :: caps => (p.assignments body).map (fun e => (p, e)) ++ trace ps caps
  | _ :: ps, none :: caps => trace ps caps
  | _, _ => []

/-- Binds the captures of a trace one after another. -/
def assignTrace (bs : Bindings) (tr : List (Part × VarSpec × Capture)) : Option Bindings :=
  tr.foldlM (fun bs a => bs.assign a.2.1.name a.2.2) bs

/-- The variable `s` of the part `p` binds the capture `c` when `path` is matched against `t`. -/
def BindsIn (t : Template) (path : String) (p : Part) (s : VarSpec) (c : Capture) : Prop :=
  ∃ caps, search (pattern t) (candidate t path) = some caps ∧
    (p, s, c) ∈ trace (t.parts.filter Part.isVariable) caps

/-! ### Binding a part is binding its assignments -/

theorem assignTrace_append (bs : Bindings) (tr tr' : List (Part × VarSpec × Capture)) :
    assignTrace bs (tr ++ tr') = assignTrace bs tr >>= fun bs => assignTrace bs tr' :=
  List.foldlM_append

theorem assignTrace_map (p : Part) (as : List (VarSpec × Capture)) (bs : Bindings) :
    assignTrace bs (as.map fun e => (p, e)) = as.foldlM (fun bs e => bs.assign e.1.name e.2) bs :=
  List.foldlM_map

/-- Binding each declared variable whose key has values, skipping the others, is binding the
assignments of those variables. -/
theorem foldlM_declared (ps : List (String × List String)) :
    ∀ (specs : List VarSpec) (bs : Bindings),
      specs.foldlM (fun bs spec =>
          match paramValues? spec.name ps with
          | some vs => bs.assign spec.name (namedCapture spec vs)
          | none => some bs) bs =
        (specs.filterMap fun spec =>
          (paramValues? spec.name ps).map fun vs => (spec, namedCapture spec vs)).foldlM
          (fun bs e => bs.assign e.1.name e.2) bs
  | [], _ => rfl
  | spec :: specs, bs => by
    simp only [List.foldlM_cons, List.filterMap_cons]
    cases paramValues? spec.name ps with
    | none => exact foldlM_declared ps specs bs
    | some vs =>
      simp only [Option.map_some, List.foldlM_cons]
      cases bs.assign spec.name (namedCapture spec vs) with
      | none => rfl
      | some bs' => exact foldlM_declared ps specs bs'

/-- A part that binds its body binds its assignments one after another. -/
theorem Part.assignments_of_bind {p : Part} {body : List Char} {bs B : Bindings}
    (h : p.bind body bs = some B) :
    (p.assignments body).foldlM (fun bs e => bs.assign e.1.name e.2) bs = some B := by
  unfold Part.bind at h
  unfold Part.assignments
  split_ifs at h ⊢ with hnamed
  · -- a named part: the declared keys first, then the undeclared ones
    unfold bindNamed at h
    dsimp only at h
    split at h
    · cases h
    rw [List.foldlM_append, ← foldlM_declared]
    simp only [Option.bind_eq_bind, Option.bind_eq_some_iff] at h ⊢
    obtain ⟨bs', hbs', hrest⟩ := h
    refine ⟨bs', hbs', ?_⟩
    cases hex : p.specs.filter VarSpec.explodes with
    | nil => simpa [hex] using hrest
    | cons e rest =>
      simp only [hex, undeclared] at hrest ⊢
      split_ifs at hrest with hextra <;> simpa [hextra] using hrest
  · -- a positional part: one variable takes the body, several take its pieces
    unfold bindPositional at h
    generalize p.specs = specs at h ⊢
    rcases specs with _ | ⟨spec, _ | ⟨spec', rest⟩⟩
    · simpa using h
    · cases hx : spec.explodes <;> simpa [hx] using h
    · simpa [List.foldlM_map] using h

/-- Binding the captures of the variable parts binds their trace. -/
theorem bindAll_assignTrace : ∀ (ps : List Part) (caps : List (Option (List Char)))
    (bs B : Bindings), bindAll ps caps bs = some B → assignTrace bs (trace ps caps) = some B
  | p :: ps, some body :: caps, bs, B, h => by
    simp only [bindAll, Option.bind_eq_bind, Option.bind_eq_some_iff] at h
    obtain ⟨bs', hp, hrest⟩ := h
    rw [trace, assignTrace_append, assignTrace_map, Part.assignments_of_bind hp]
    exact bindAll_assignTrace ps caps bs' B hrest
  | _ :: ps, none :: caps, bs, B, h => bindAll_assignTrace ps caps bs B h
  | [], _, bs, B, h => by
    simp only [bindAll, Option.some.injEq] at h
    simp [h, trace, assignTrace]
  | _ :: _, [], bs, B, h => by
    simp only [bindAll, Option.some.injEq] at h
    simp [h, trace, assignTrace]

/-! ### Binding one name -/

namespace Bindings

/-- Updating the entries of one name changes what that name is bound to, and nothing else. -/
theorem get?_update (bs : Bindings) (n m : String) (c : Capture) :
    Bindings.get? (bs.map fun e => if e.1 == n then (n, c) else e) m =
      if m = n then (bs.get? n).map fun _ => c else bs.get? m := by
  induction bs with
  | nil => split <;> rfl
  | cons e bs ih =>
    obtain ⟨k, d⟩ := e
    simp only [List.map_cons] at ih ⊢
    by_cases hm : m = n
    · subst hm
      by_cases hk : k = m <;> simp_all [get?_cons]
    · have hnm : n ≠ m := Ne.symm hm
      by_cases hk : k = n <;> simp_all [get?_cons]

theorem get?_of_assign {bs bs' : Bindings} {n : String} {c : Capture}
    (h : bs.assign n c = some bs') : bs'.get? n = some c := by
  unfold assign at h
  cases hg : bs.get? n with
  | none =>
    simp only [hg, Option.some.injEq] at h
    rw [← h, get?_append, hg, Option.none_or, get?_cons, if_pos rfl]
  | some old =>
    simp only [hg] at h
    split_ifs at h
    rw [← Option.some.inj h, get?_update, if_pos rfl, hg, Option.map_some]

theorem get?_of_assign_ne {bs bs' : Bindings} {n m : String} {c : Capture}
    (h : bs.assign n c = some bs') (hm : m ≠ n) : bs'.get? m = bs.get? m := by
  unfold assign at h
  cases hg : bs.get? n with
  | none =>
    simp only [hg, Option.some.injEq] at h
    rw [← h, get?_append, get?_cons, if_neg (Ne.symm hm), get?_nil, Option.or_none]
  | some old =>
    simp only [hg] at h
    split_ifs at h
    rw [← Option.some.inj h, get?_update, if_neg hm]

/-- A name bound before is bound again only to the same capture. -/
theorem same_of_assign {bs bs' : Bindings} {n : String} {c old : Capture}
    (h : bs.assign n c = some bs') (hold : bs.get? n = some old) : old.same c = true := by
  unfold assign at h
  simp only [hold] at h
  split_ifs at h with hsame
  exact hsame

theorem mem_of_assign {bs bs' : Bindings} {n : String} {c : Capture}
    (h : bs.assign n c = some bs') {e : String × Capture} (he : e ∈ bs') : e = (n, c) ∨ e ∈ bs := by
  unfold assign at h
  split at h
  · split_ifs at h
    rw [← Option.some.inj h] at he
    obtain ⟨e', he', rfl⟩ := List.mem_map.1 he
    split_ifs
    · exact .inl rfl
    · exact .inr he'
  · rw [← Option.some.inj h] at he
    rcases List.mem_append.1 he with he | he
    · exact .inr he
    · exact .inl (List.mem_singleton.1 he)

end Bindings

/-! ### Shapes -/

/-- The shape of what the variable `s` of the part `p` binds: a text when `s` is not exploded,
and for every variable of a positional part with several variables; a list when `s` is exploded
and is alone in a positional part, or is of a named part; parameters, none of which the part
declares, only when `s` is exploded and of a named part. -/
def Part.Shape (p : Part) (s : VarSpec) : Capture → Prop
  | .text _ => s.explodes = false ∨ p.operator.named = false ∧ p.specs.length ≠ 1
  | .items _ => s.explodes = true ∧ (p.operator.named = true ∨ p.specs.length = 1)
  | .params ps => s.explodes = true ∧ p.operator.named = true ∧ ∀ e ∈ ps, e.1 ∉ p.names

/-- The same capture again has the same shape: parameters with distinct keys are the same only as
parameters with the same keys, since the keys of the first are among those of the second and as
many. -/
theorem Part.Shape.of_same {p : Part} {s : VarSpec} {c c' : Capture} (h : p.Shape s c)
    (hnodup : c.KeysNodup) (hsame : c.same c' = true) : p.Shape s c' := by
  cases c with
  | text x => cases c' <;> simp_all [Capture.same, Part.Shape]
  | items xs => cases c' <;> simp_all [Capture.same, Part.Shape]
  | params ps =>
    cases c' with
    | text y => simp [Capture.same] at hsame
    | items ys => simp [Capture.same] at hsame
    | params qs =>
      simp only [Capture.same, Bool.and_eq_true, beq_iff_eq, List.all_eq_true] at hsame
      obtain ⟨hlen, hall⟩ := hsame
      have hsub : ps.map (·.1) ⊆ qs.map (·.1) := by
        intro k hk
        obtain ⟨e, he, rfl⟩ := List.mem_map.1 hk
        have hv : paramValues? e.1 qs = some e.2 := by simpa using hall e he
        exact List.mem_map_of_mem (mem_of_paramValues? hv)
      have hperm : (ps.map (·.1)).Perm (qs.map (·.1)) :=
        (List.Nodup.subperm hnodup hsub).perm_of_length_le (by simp [hlen])
      obtain ⟨hx, hnamed, hfree⟩ := h
      refine ⟨hx, hnamed, fun e he hname => ?_⟩
      obtain ⟨e', he', hkey⟩ := List.mem_map.1 (hperm.symm.subset (List.mem_map_of_mem he))
      exact hfree e' he' (hkey ▸ hname)

/-- The four shapes a bound capture can take, by its variable and part: a text when the variable is
not exploded or its positional part has several variables, a list when it is exploded in a named
part or alone, and parameters only when it is exploded in a named part. -/
theorem Part.Shape.cases {p : Part} {s : VarSpec} {c : Capture} (h : p.Shape s c) :
    (s.explodes = false → ∃ x, c = .text x) ∧
    (s.explodes = true → p.operator.named = false → p.specs = [s] → ∃ xs, c = .items xs) ∧
    (p.operator.named = false → p.specs.length ≠ 1 → ∃ x, c = .text x) ∧
    (s.explodes = true → p.operator.named = true →
      (∃ xs, c = .items xs) ∨ ∃ ps, c = .params ps ∧ ∀ e ∈ ps, e.1 ∉ p.names) := by
  cases c with
  | text x =>
    refine ⟨fun _ => ⟨x, rfl⟩, fun hx hpos hs => ?_, fun _ _ => ⟨x, rfl⟩, fun hx hnamed => ?_⟩
    · rcases h with h | ⟨-, hlen⟩
      · exact absurd (hx.symm.trans h) (by decide)
      · exact absurd (by rw [hs]; rfl) hlen
    · rcases h with h | ⟨hpos, -⟩
      · exact absurd (hx.symm.trans h) (by decide)
      · exact absurd (hnamed.symm.trans hpos) (by decide)
  | items xs =>
    refine ⟨fun hx => absurd (h.1.symm.trans hx) (by decide), fun _ _ _ => ⟨xs, rfl⟩,
      fun hpos hlen => ?_, fun _ _ => .inl ⟨xs, rfl⟩⟩
    rcases h.2 with hn | hl
    · exact absurd (hn.symm.trans hpos) (by decide)
    · exact absurd hl hlen
  | params ps =>
    obtain ⟨hx, hnamed, hfree⟩ := h
    refine ⟨fun h => absurd (hx.symm.trans h) (by decide),
      fun _ hpos => absurd (hnamed.symm.trans hpos) (by decide),
      fun hpos => absurd (hnamed.symm.trans hpos) (by decide),
      fun _ _ => .inr ⟨ps, rfl, hfree⟩⟩

/-- Every assignment of a part is to one of its variables, in the shape the part gives it. -/
theorem Part.shape_of_mem_assignments {p : Part} {body : List Char} {s : VarSpec} {c : Capture}
    (h : (s, c) ∈ p.assignments body) : s ∈ p.specs ∧ p.Shape s c ∧ c.KeysNodup := by
  unfold Part.assignments at h
  split_ifs at h with hnamed
  · rcases List.mem_append.1 h with h | h
    · -- a declared variable takes the values of its key
      obtain ⟨spec, hspec, hmap⟩ := List.mem_filterMap.1 h
      obtain ⟨vs, -, hvs⟩ := Option.map_eq_some_iff.1 hmap
      obtain ⟨rfl, rfl⟩ := Prod.mk.inj hvs
      refine ⟨hspec, ?_, ?_⟩ <;> cases hx : spec.explodes <;> simp [namedCapture, hx, Part.Shape,
        hnamed, Capture.KeysNodup]
    · -- the undeclared keys go to the first exploded variable
      split at h
      · rename_i e rest hex
        split_ifs at h
        · cases h
        obtain ⟨rfl, rfl⟩ := Prod.mk.inj (List.mem_singleton.1 h)
        have he : s ∈ p.specs.filter VarSpec.explodes := hex ▸ List.mem_cons_self
        exact ⟨(List.mem_filter.1 he).1,
          ⟨(List.mem_filter.1 he).2, hnamed, fun _ => not_mem_names_of_mem_undeclared⟩,
          undeclared_keys_nodup _ _ _⟩
      · cases h
  · split at h
    · rename_i spec hspec
      obtain ⟨rfl, rfl⟩ := Prod.mk.inj (List.mem_singleton.1 h)
      refine ⟨by simp [hspec], ?_, ?_⟩ <;> cases hx : s.explodes <;> simp [hx, Part.Shape, hspec,
        Capture.KeysNodup]
    · -- several variables take texts
      rename_i hspec
      obtain ⟨e, he, he'⟩ := List.mem_map.1 h
      obtain ⟨rfl, rfl⟩ := Prod.mk.inj he'
      have hlen : p.specs.length ≠ 1 := fun hl => by
        obtain ⟨spec, hs⟩ := List.length_eq_one_iff.1 hl
        exact hspec spec hs
      exact ⟨(List.of_mem_zip he).1, .inr ⟨by simpa using hnamed, hlen⟩, trivial⟩

theorem mem_trace : ∀ {ps : List Part} {caps : List (Option (List Char))}
    {a : Part × VarSpec × Capture}, a ∈ trace ps caps →
      a.1 ∈ ps ∧ ∃ body, (a.2.1, a.2.2) ∈ a.1.assignments body
  | p :: ps, some body :: caps, a, h => by
    rw [trace, List.mem_append] at h
    rcases h with h | h
    · obtain ⟨e, he, rfl⟩ := List.mem_map.1 h
      exact ⟨List.mem_cons_self, body, he⟩
    · obtain ⟨hp, hbody⟩ := mem_trace h
      exact ⟨List.mem_cons_of_mem p hp, hbody⟩
  | p :: ps, none :: caps, a, h => by
    rw [trace] at h
    obtain ⟨hp, hbody⟩ := mem_trace h
    exact ⟨List.mem_cons_of_mem p hp, hbody⟩
  | [], _, _, h => by simp [trace] at h
  | _ :: _, [], _, h => by simp [trace] at h

/-! ### What a run keeps -/

/-- Parameters bound to a name have distinct keys. -/
def KeysNodup (bs : Bindings) : Prop := ∀ e ∈ bs, e.2.KeysNodup

theorem KeysNodup.assign {bs bs' : Bindings} {n : String} {c : Capture} (hbs : KeysNodup bs)
    (hc : c.KeysNodup) (h : bs.assign n c = some bs') : KeysNodup bs' := by
  intro e he
  rcases Bindings.mem_of_assign h he with rfl | he
  · exact hc
  · exact hbs e he

/-- One binding keeps every name bound in a shape bound in that shape. -/
theorem assign_keeps_shape {bs bs' : Bindings} {n : String} {c : Capture}
    (h : bs.assign n c = some bs') (hbs : KeysNodup bs) {p : Part} {s : VarSpec} {c₀ : Capture}
    (hc₀ : bs.get? s.name = some c₀) (hshape : p.Shape s c₀) :
    ∃ c', bs'.get? s.name = some c' ∧ p.Shape s c' := by
  by_cases hn : s.name = n
  · -- the name is bound again, to the same capture
    subst hn
    exact ⟨c, Bindings.get?_of_assign h, hshape.of_same (hbs _ (Bindings.mem_of_get? hc₀))
      (Bindings.same_of_assign h hc₀)⟩
  · exact ⟨c₀, (Bindings.get?_of_assign_ne h hn).trans hc₀, hshape⟩

/-- After binding a trace, every variable of the trace, and every name bound before in a shape,
is bound in the shape of its variable. -/
theorem assignTrace_keeps : ∀ (tr : List (Part × VarSpec × Capture)) (bs B : Bindings),
    assignTrace bs tr = some B → (∀ a ∈ tr, a.1.Shape a.2.1 a.2.2 ∧ a.2.2.KeysNodup) →
      KeysNodup bs → ∀ a : Part × VarSpec × Capture,
        (a ∈ tr ∨ ∃ c, bs.get? a.2.1.name = some c ∧ a.1.Shape a.2.1 c) →
          ∃ c, B.get? a.2.1.name = some c ∧ a.1.Shape a.2.1 c
  | [], bs, B, h, _, _, a, ha => by
    simp only [assignTrace, List.foldlM_nil, Option.pure_def, Option.some.injEq] at h
    subst h
    simpa using ha
  | a₀ :: tr, bs, B, h, htr, hbs, a, ha => by
    simp only [assignTrace, List.foldlM_cons, Option.bind_eq_bind, Option.bind_eq_some_iff] at h
    obtain ⟨bs₁, h₁, hrest⟩ := h
    have hbs₁ : KeysNodup bs₁ := hbs.assign (htr a₀ List.mem_cons_self).2 h₁
    refine assignTrace_keeps tr bs₁ B hrest (fun a' ha' => htr a' (List.mem_cons_of_mem a₀ ha'))
      hbs₁ a ?_
    rcases ha with ha | ⟨c, hc, hshape⟩
    · rcases List.mem_cons.1 ha with rfl | ha
      · exact .inr ⟨a.2.2, Bindings.get?_of_assign h₁, (htr a List.mem_cons_self).1⟩
      · exact .inl ha
    · exact .inr (assign_keeps_shape h₁ hbs hc hshape)

/-- Binding a trace binds only names bound before and names of its variables. -/
theorem assignTrace_keys : ∀ (tr : List (Part × VarSpec × Capture)) (bs B : Bindings),
    assignTrace bs tr = some B → ∀ e ∈ B, e ∈ bs ∨ ∃ a ∈ tr, a.2.1.name = e.1
  | [], bs, B, h, e, he => by
    simp only [assignTrace, List.foldlM_nil, Option.pure_def, Option.some.injEq] at h
    exact .inl (h ▸ he)
  | a₀ :: tr, bs, B, h, e, he => by
    simp only [assignTrace, List.foldlM_cons, Option.bind_eq_bind, Option.bind_eq_some_iff] at h
    obtain ⟨bs₁, h₁, hrest⟩ := h
    rcases assignTrace_keys tr bs₁ B hrest e he with he₁ | ⟨a, ha, hname⟩
    · rcases Bindings.mem_of_assign h₁ he₁ with rfl | he₀
      · exact .inr ⟨a₀, List.mem_cons_self, rfl⟩
      · exact .inl he₀
    · exact .inr ⟨a, List.mem_cons_of_mem a₀ ha, hname⟩

/-! ### The main statement -/

/-- **The shapes of matched bindings.** When a path matches a template, every name bound is a
variable of the template; and every variable that binds a capture in the match leaves its name
bound: to a text when it is not exploded, and whenever its part is positional with several
variables; to a list when it is exploded and alone in a positional part; and, when it is
exploded in a named part, to a list or to parameters that its part does not declare. -/
theorem matchPath_shapes {t : Template} {path : String} {B : Bindings}
    (h : t.matchPath path = some B) :
    (∀ e ∈ B, e.1 ∈ t.variableNames) ∧
    ∀ p s c, BindsIn t path p s c → ∃ c', B.get? s.name = some c' ∧
      (s.explodes = false → ∃ x, c' = .text x) ∧
      (s.explodes = true → p.operator.named = false → p.specs = [s] → ∃ xs, c' = .items xs) ∧
      (p.operator.named = false → p.specs.length ≠ 1 → ∃ x, c' = .text x) ∧
      (s.explodes = true → p.operator.named = true →
        (∃ xs, c' = .items xs) ∨ ∃ ps, c' = .params ps ∧ ∀ e ∈ ps, e.1 ∉ p.names) := by
  simp only [matchPath, Option.bind_eq_bind, Option.bind_eq_some_iff] at h
  obtain ⟨caps, hcaps, hbind⟩ := h
  have htrace := bindAll_assignTrace _ _ _ _ hbind
  have hshapes : ∀ a ∈ trace (t.parts.filter Part.isVariable) caps,
      a.1.Shape a.2.1 a.2.2 ∧ a.2.2.KeysNodup := fun a ha => by
    obtain ⟨-, body, hbody⟩ := mem_trace ha
    exact (Part.shape_of_mem_assignments hbody).2
  refine ⟨fun e he => ?_, fun p s c hbinds => ?_⟩
  · -- a bound name is the name of a variable of a variable part
    rcases assignTrace_keys _ _ _ htrace e he with he | ⟨a, ha, hname⟩
    · cases he
    · obtain ⟨hp, body, hbody⟩ := mem_trace ha
      rw [← hname, mem_variableNames]
      exact ⟨a.1, (List.mem_filter.1 hp).1, List.mem_map_of_mem
        (Part.shape_of_mem_assignments hbody).1⟩
  · obtain ⟨caps', hcaps', hmem⟩ := hbinds
    rw [hcaps, Option.some.injEq] at hcaps'
    subst hcaps'
    obtain ⟨c', hc', hshape⟩ :=
      assignTrace_keeps _ _ _ htrace hshapes (by simp [KeysNodup]) (p, s, c) (.inl hmem)
    exact ⟨c', hc', hshape.cases⟩

/-- `{/tags*}{?q,more*}` matches `/red/green?q=1&x=2`: the exploded path variable takes a list,
`q` a text, and the exploded query variable the parameter `x` that no variable declares. -/
theorem matchPath_shapes_tags_query :
    (Template.mk [.expression .segment [{ name := "tags", modifier := .explode }],
        .expression .query [{ name := "q" }, { name := "more", modifier := .explode }]]).matchPath
        "/red/green?q=1&x=2" =
      some [("tags", .items ["red", "green"]), ("q", .text "1"), ("more", .params [("x", ["2"])])] ∧
    (∀ e ∈ [("tags", Capture.items ["red", "green"]), ("q", .text "1"),
        ("more", .params [("x", ["2"])])],
      e.1 ∈ (Template.mk [.expression .segment [{ name := "tags", modifier := .explode }],
        .expression .query [{ name := "q" }, { name := "more", modifier := .explode }]]).variableNames) ∧
    ∀ p s c, BindsIn (Template.mk [.expression .segment [{ name := "tags", modifier := .explode }],
        .expression .query [{ name := "q" }, { name := "more", modifier := .explode }]])
        "/red/green?q=1&x=2" p s c →
      ∃ c', Bindings.get? [("tags", .items ["red", "green"]), ("q", .text "1"),
          ("more", .params [("x", ["2"])])] s.name = some c' ∧
        (s.explodes = false → ∃ x, c' = .text x) ∧
        (s.explodes = true → p.operator.named = false → p.specs = [s] → ∃ xs, c' = .items xs) ∧
        (p.operator.named = false → p.specs.length ≠ 1 → ∃ x, c' = .text x) ∧
        (s.explodes = true → p.operator.named = true →
          (∃ xs, c' = .items xs) ∨ ∃ ps, c' = .params ps ∧ ∀ e ∈ ps, e.1 ∉ p.names) := by
  have h : (Template.mk [.expression .segment [{ name := "tags", modifier := .explode }],
      .expression .query [{ name := "q" }, { name := "more", modifier := .explode }]]).matchPath
      "/red/green?q=1&x=2" =
      some [("tags", .items ["red", "green"]), ("q", .text "1"),
        ("more", .params [("x", ["2"])])] := by
    decide +kernel
  exact ⟨h, matchPath_shapes h⟩

/-- An exploded variable that shares a positional part with another is bound to a text, not a
list: `{a*,b}` matches `x,y` with `a` bound to `x`. -/
theorem matchPath_exploded_pair :
    parse "{a*,b}" =
        .ok ⟨[.expression .simple [{ name := "a", modifier := .explode }, { name := "b" }]]⟩ ∧
      (Template.mk [.expression .simple [{ name := "a", modifier := .explode }, { name := "b" }]]).matchPath
        "x,y" = some [("a", .text "x"), ("b", .text "y")] :=
  ⟨parse_eq_ok_of_toOption (by decide +kernel), by decide +kernel⟩

end UrlRouting.Template
