import Mathlib
import UrlRouting.Template.Match
import UrlRouting.Proofs.PercentCoding
import UrlRouting.Proofs.TemplateGrammar

/-!
# What matching binds

Binding a name that is not bound yet never fails: the name is added at the end
(`Bindings.assign_of_get?_eq_none`). A positional part binds the names of its variables to what
its captured body gives them (`positionalCaptures`): a single variable the whole body, or its
pieces between separators when exploded; several variables the pieces up to the first
separators, the last taking the rest, with no piece left for the variables after the pieces run
out.

When the variables of a list of parts all have distinct names and no part is named, binding the
captures of the parts adds, in order, what each part binds (`bindAll_eq_capturedAll`); so the
capture of a name is the one its own part gives it (`capturedAll_get?`).

Cutting a body at its first separators keeps it: the pieces joined by the separator are the
body (`intercalate_splitAtMost`).

## Main definitions

* `UrlRouting.Template.positionalCaptures`, `UrlRouting.Template.Part.captured`,
  `UrlRouting.Template.capturedAll`
* `UrlRouting.Template.Part.names`, `UrlRouting.Template.specNames`

## Main results

* `UrlRouting.Template.bindPositional_fresh`
* `UrlRouting.Template.bindAll_eq_capturedAll`, `UrlRouting.Template.capturedAll_get?`
* `UrlRouting.Template.intercalate_splitAtMost`
-/

namespace UrlRouting.Template

/-! ### Looking names up -/

namespace Bindings

@[simp] theorem get?_nil (n : String) : Bindings.get? [] n = none := rfl

theorem get?_append (bs bs' : Bindings) (n : String) :
    (bs ++ bs').get? n = (bs.get? n).or (bs'.get? n) := by
  simp [get?, List.find?_append, Option.map_or]

theorem get?_cons (m n : String) (c : Capture) (bs : Bindings) :
    Bindings.get? ((m, c) :: bs) n = if m = n then some c else bs.get? n := by
  by_cases h : m = n <;> simp [get?, h]

theorem get?_eq_none_iff {bs : Bindings} {n : String} : bs.get? n = none ↔ n ∉ bs.map (·.1) := by
  simp only [get?, Option.map_eq_none_iff, List.find?_eq_none, beq_iff_eq, List.mem_map]
  constructor
  · rintro h ⟨e, he, rfl⟩
    exact h e he rfl
  · intro h e he heq
    exact h ⟨e, he, heq⟩

/-- A name not bound yet is bound at the end. -/
theorem assign_of_get?_eq_none {bs : Bindings} {n : String} {c : Capture}
    (h : bs.get? n = none) : bs.assign n c = some (bs ++ [(n, c)]) := by
  simp [assign, h]

end Bindings

/-- Binding distinct names, none of them bound yet, one after the other adds them in order. -/
theorem foldlM_assign_fresh {α : Type} (f : α → String × Capture) :
    ∀ (l : List α) (bs : Bindings), (l.map fun e => (f e).1).Nodup →
      (∀ e ∈ l, bs.get? (f e).1 = none) →
        l.foldlM (fun bs e => bs.assign (f e).1 (f e).2) bs = some (bs ++ l.map f)
  | [], bs, _, _ => by simp
  | e :: l, bs, hnd, hfresh => by
    rw [List.map_cons, List.nodup_cons] at hnd
    have hfresh' : ∀ e' ∈ l, (bs ++ [f e]).get? (f e').1 = none := by
      intro e' he'
      have hne : (f e).1 ≠ (f e').1 := fun h => hnd.1 (h ▸ List.mem_map_of_mem he')
      rw [Bindings.get?_append, hfresh e' (List.mem_cons_of_mem e he')]
      simp [Bindings.get?, hne]
    rw [List.foldlM_cons, Bindings.assign_of_get?_eq_none (hfresh e List.mem_cons_self)]
    simpa using foldlM_assign_fresh f l (bs ++ [f e]) hnd.2 hfresh'

/-! ### Cutting a body at separators -/

theorem splitAtMost_ne_nil (sep : Char) : ∀ (n : Nat) (cs : List Char), splitAtMost sep n cs ≠ []
  | 0, cs => by simp [splitAtMost]
  | n + 1, cs => by
    unfold splitAtMost
    split <;> simp

theorem splitAtMost_length_le (sep : Char) :
    ∀ (n : Nat) (cs : List Char), (splitAtMost sep n cs).length ≤ n + 1
  | 0, cs => by simp [splitAtMost]
  | n + 1, cs => by
    unfold splitAtMost
    split
    · simp
    · rename_i head after _
      have ih := splitAtMost_length_le sep n after
      simp only [List.length_cons]
      omega

/-- The pieces, joined by the separator, are the body. -/
theorem intercalate_splitAtMost (sep : Char) :
    ∀ (n : Nat) (cs : List Char), [sep].intercalate (splitAtMost sep n cs) = cs
  | 0, cs => by simp [splitAtMost]
  | n + 1, cs => by
    unfold splitAtMost
    split
    · simp
    · rename_i head after h
      obtain ⟨hcs, -⟩ := Grammar.eq_takeWhile_append_of_dropWhile h
      rw [List.intercalate_cons_of_ne_nil (splitAtMost_ne_nil sep n after),
        intercalate_splitAtMost sep n after, List.append_assoc, List.singleton_append]
      exact hcs.symm

theorem mem_intercalate_of_mem {sep : Char} :
    ∀ {L : List (List Char)} {x : List Char}, x ∈ L → ∀ c ∈ x, c ∈ [sep].intercalate L
  | [y], x, hx, c, hc => by
    rw [List.mem_singleton.1 hx] at hc
    simpa using hc
  | y :: z :: zs, x, hx, c, hc => by
    rw [List.intercalate_cons_cons]
    rcases List.mem_cons.1 hx with rfl | hx
    · exact List.mem_append_left _ (List.mem_append_left _ hc)
    · exact List.mem_append_right _ (mem_intercalate_of_mem hx c hc)

/-- Every character of a piece is a character of the body. -/
theorem mem_of_mem_splitAtMost {sep : Char} {n : Nat} {cs piece : List Char}
    (h : piece ∈ splitAtMost sep n cs) : ∀ c ∈ piece, c ∈ cs := by
  intro c hc
  rw [← intercalate_splitAtMost sep n cs]
  exact mem_intercalate_of_mem h c hc

theorem mem_of_mem_splitOn {sep : Char} {cs piece : List Char} (h : piece ∈ cs.splitOn sep) :
    ∀ c ∈ piece, c ∈ cs := by
  intro c hc
  have hcs : [sep].intercalate (cs.splitOn sep) = cs := List.intercalate_splitOn sep
  rw [← hcs]
  exact mem_intercalate_of_mem h c hc

/-- A body without `%` decodes to itself. -/
theorem decoded_eq_ofList {cs : List Char} (h : '%' ∉ cs) : decoded cs = String.ofList cs := by
  rw [decoded, Text.Percent.decodeFrom_eq_self h]

/-! ### What a positional part binds -/

/-- What a positional part binds for a captured body. -/
def positionalCaptures (specs : List VarSpec) (sep : Char) (body : List Char) : Bindings :=
  match specs with
  | [spec] =>
    [(spec.name,
      if spec.explodes then .items ((body.splitOn sep).map decoded) else .text (decoded body))]
  | _ => (specs.zip (splitAtMost sep (specs.length - 1) body)).map fun e =>
    (e.1.name, .text (decoded e.2))

theorem map_fst_zip_sublist {α β : Type} :
    ∀ (l : List α) (l' : List β), ((l.zip l').map Prod.fst).Sublist l
  | [], _ => by simp
  | _ :: _, [] => by simp
  | a :: l, _ :: l' => by simpa using (map_fst_zip_sublist l l').cons_cons a

theorem positionalCaptures_keys {specs : List VarSpec} {sep : Char} {body : List Char}
    {e : String × Capture} (h : e ∈ positionalCaptures specs sep body) :
    e.1 ∈ specs.map (·.name) := by
  unfold positionalCaptures at h
  split at h
  · rw [List.mem_singleton.1 h]
    simp
  · obtain ⟨⟨s, piece⟩, hmem, rfl⟩ := List.mem_map.1 h
    exact List.mem_map_of_mem (List.of_mem_zip hmem).1

/-- With fresh, distinct names, a positional part binds exactly its captures. -/
theorem bindPositional_fresh {specs : List VarSpec} {sep : Char} {body : List Char}
    {bs : Bindings} (hnd : (specs.map (·.name)).Nodup)
    (hfresh : ∀ s ∈ specs, bs.get? s.name = none) :
    bindPositional specs sep body bs = some (bs ++ positionalCaptures specs sep body) := by
  cases specs with
  | nil => simp [bindPositional, positionalCaptures]
  | cons s rest =>
    cases rest with
    | nil =>
      have h := hfresh s List.mem_cons_self
      by_cases hx : s.explodes = true <;>
        simp [bindPositional, positionalCaptures, hx, Bindings.assign_of_get?_eq_none h]
    | cons s' rest =>
      simp only [bindPositional, positionalCaptures]
      have hsub := (map_fst_zip_sublist (s :: s' :: rest)
        (splitAtMost sep ((s :: s' :: rest).length - 1) body)).map (·.name)
      have hnd' := hnd.sublist hsub
      rw [List.map_map] at hnd'
      exact foldlM_assign_fresh (fun e : VarSpec × List Char => (e.1.name, Capture.text (decoded e.2)))
        _ bs hnd' fun e he => hfresh e.1 (List.of_mem_zip he).1

/-! ### What all the parts bind -/

/-- The names of the variables of a part, one for each specification. -/
def Part.names (p : Part) : List String := p.specs.map (·.name)

/-- A part that is not a variable part is a literal. -/
theorem Part.eq_literal_of_isVariable_eq_false {p : Part} (hv : p.isVariable = false) :
    ∃ text, p = .literal text := by
  cases p with
  | literal text => exact ⟨text, rfl⟩
  | colon => simp [Part.isVariable] at hv
  | expression => simp [Part.isVariable] at hv

/-- The names of the variables of a template, one for each specification. -/
def specNames (t : Template) : List String := t.parts.flatMap Part.names

/-- What a part binds for its capture: nothing for an absent part. -/
def Part.captured (p : Part) : Option (List Char) → Bindings
  | some body => positionalCaptures p.specs p.operator.separator body
  | none => []

/-- What parts bind for their captures, in order. -/
def capturedAll : List Part → List (Option (List Char)) → Bindings
  | p :: ps, c :: caps => p.captured c ++ capturedAll ps caps
  | _, _ => []

theorem Part.captured_keys {p : Part} {c : Option (List Char)} {e : String × Capture}
    (h : e ∈ p.captured c) : e.1 ∈ p.names := by
  cases c with
  | none => cases h
  | some body => exact positionalCaptures_keys h

theorem capturedAll_keys :
    ∀ {ps : List Part} {caps : List (Option (List Char))} {e : String × Capture},
      e ∈ capturedAll ps caps → e.1 ∈ ps.flatMap Part.names
  | p :: ps, c :: caps, e, h => by
    rw [capturedAll, List.mem_append] at h
    rw [List.flatMap_cons, List.mem_append]
    rcases h with h | h
    · exact .inl (Part.captured_keys h)
    · exact .inr (capturedAll_keys h)
  | [], _, _, h => by simp [capturedAll] at h
  | _ :: _, [], _, h => by simp [capturedAll] at h

/-- A name of the list of names that is in its first part is in no later part. -/
theorem not_mem_names_of_nodup {p : Part} {ps : List Part} {n : String}
    (hnd : ((p :: ps).flatMap Part.names).Nodup) (hn : n ∈ p.names) :
    n ∉ ps.flatMap Part.names := by
  rw [List.flatMap_cons, List.nodup_append] at hnd
  exact fun hn' => hnd.2.2 n hn n hn' rfl

/-- With distinct names, binding the captures of positional parts adds what each part binds. -/
theorem bindAll_eq_capturedAll :
    ∀ (ps : List Part) (caps : List (Option (List Char))) (bs : Bindings),
      (∀ p ∈ ps, p.operator.named = false) → (ps.flatMap Part.names).Nodup →
        (∀ n ∈ ps.flatMap Part.names, bs.get? n = none) →
          bindAll ps caps bs = some (bs ++ capturedAll ps caps)
  | p :: ps, some body :: caps, bs, hpos, hnd, hfresh => by
    have hnd' := hnd
    rw [List.flatMap_cons, List.nodup_append] at hnd'
    have hbind : p.bind body bs = some (bs ++ p.captured (some body)) := by
      rw [Part.bind, if_neg (by simp [hpos p List.mem_cons_self])]
      exact bindPositional_fresh hnd'.1 fun s hs =>
        hfresh s.name (List.mem_flatMap.2 ⟨p, List.mem_cons_self, List.mem_map_of_mem hs⟩)
    have hfresh' : ∀ n ∈ ps.flatMap Part.names, (bs ++ p.captured (some body)).get? n = none := by
      intro n hn
      rw [Bindings.get?_append, hfresh n (by simp [List.flatMap_cons, hn]), Option.none_or,
        Bindings.get?_eq_none_iff]
      intro hk
      obtain ⟨e, he, rfl⟩ := List.mem_map.1 hk
      exact not_mem_names_of_nodup hnd (Part.captured_keys he) hn
    rw [bindAll, hbind, Option.bind_eq_bind, Option.bind_some,
      bindAll_eq_capturedAll ps caps _ (fun q hq => hpos q (List.mem_cons_of_mem p hq)) hnd'.2.1
        hfresh']
    simp [capturedAll]
  | p :: ps, none :: caps, bs, hpos, hnd, hfresh => by
    rw [List.flatMap_cons, List.nodup_append] at hnd
    rw [bindAll, bindAll_eq_capturedAll ps caps bs (fun q hq => hpos q (List.mem_cons_of_mem p hq))
      hnd.2.1 fun n hn => hfresh n (by simp [List.flatMap_cons, hn])]
    simp [capturedAll, Part.captured]
  | [], caps, bs, _, _, _ => by simp [bindAll, capturedAll]
  | _ :: _, [], bs, _, _, _ => by simp [bindAll, capturedAll]

/-- With distinct names, a name of a part is bound to what that part binds it to. -/
theorem capturedAll_get? :
    ∀ (ps : List Part) (caps : List (Option (List Char))), (ps.flatMap Part.names).Nodup →
      ∀ p c, (p, c) ∈ ps.zip caps → ∀ n ∈ p.names,
        (capturedAll ps caps).get? n = (p.captured c).get? n
  | p' :: ps, c' :: caps, hnd, p, c, hmem, n, hn => by
    rw [capturedAll, Bindings.get?_append]
    rw [List.zip_cons_cons, List.mem_cons] at hmem
    rcases hmem with heq | hmem
    · -- the name is of this part: no later part binds it
      obtain ⟨rfl, rfl⟩ := Prod.mk.inj heq
      have hrest : (capturedAll ps caps).get? n = none := by
        rw [Bindings.get?_eq_none_iff]
        intro hk
        obtain ⟨e, he, rfl⟩ := List.mem_map.1 hk
        exact not_mem_names_of_nodup hnd hn (capturedAll_keys he)
      rw [hrest, Option.or_none]
    · -- the name is of a later part: this part does not bind it
      have hp : p ∈ ps := (List.of_mem_zip hmem).1
      have hn' : n ∈ ps.flatMap Part.names := List.mem_flatMap.2 ⟨p, hp, hn⟩
      have hhead : (p'.captured c').get? n = none := by
        rw [Bindings.get?_eq_none_iff]
        intro hk
        obtain ⟨e, he, rfl⟩ := List.mem_map.1 hk
        exact not_mem_names_of_nodup hnd (Part.captured_keys he) hn'
      rw [hhead, Option.none_or]
      rw [List.flatMap_cons, List.nodup_append] at hnd
      exact capturedAll_get? ps caps hnd.2.1 p c hmem n hn
  | [], _, _, _, _, hmem, _, _ => by simp at hmem
  | _ :: _, [], _, _, _, hmem, _, _ => by simp at hmem

end UrlRouting.Template
