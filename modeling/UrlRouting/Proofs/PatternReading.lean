import Mathlib
import UrlRouting.Template.Pattern

/-!
# The ways through a pattern

A way through a pattern (`Reading`) reads each literal as it is, a present optional part as its
first character and then a body its operator allows, an absent optional part as nothing, and a
required part as a non-empty body its operator allows. It gives one capture for each variable
part: the body, or nothing for an absent part.

The search of a pattern only ever answers with such a way through the characters it was given
(`search_reading`). The lazy extension of a body stops at a split of the characters: the body
taken, all allowed, and the rest, on which the remaining pattern succeeds
(`lazyBody_split`).

Conversely, the search finds a way through in which every present part is present, when no
character of a body could start what follows it (`LazyReading.search_eq`): each shorter body
leaves a rest that begins with a character the remaining pattern cannot start with
(`search_eq_none_of_startChars`), so the lazy extension runs to the end of the body.

## Main definitions

* `UrlRouting.Template.Reading`
* `UrlRouting.Template.startChars`, `UrlRouting.Template.LazyReading`

## Main results

* `UrlRouting.Template.lazyBody_split`, `UrlRouting.Template.lazyBody_of_fail`
* `UrlRouting.Template.search_reading`, `UrlRouting.Template.LazyReading.search_eq`
-/

namespace UrlRouting.Template

/-- A way through a pattern: the captures it gives and the characters it reads. -/
inductive Reading : List Piece → List (Option (List Char)) → List Char → Prop
  | nil : Reading [] [] []
  | literal {text : List Char} {ps caps cs} :
      Reading ps caps cs → Reading (.literal text :: ps) caps (text ++ cs)
  | present {first : Char} {op : Operator} {body : List Char} {ps caps cs} :
      (∀ c ∈ body, op.allows c = true) → Reading ps caps cs →
        Reading (.optional first op :: ps) (some body :: caps) (first :: (body ++ cs))
  | absent {first : Char} {op : Operator} {ps caps cs} :
      Reading ps caps cs → Reading (.optional first op :: ps) (none :: caps) cs
  | required {op : Operator} {body : List Char} {ps caps cs} :
      body ≠ [] → (∀ c ∈ body, op.allows c = true) → Reading ps caps cs →
        Reading (.required op :: ps) (some body :: caps) (body ++ cs)

/-- A body found by lazy extension is the body already taken and allowed characters after it,
and the rest of the pattern succeeds on what follows them. -/
theorem lazyBody_split {β : Type} {ok : Char → Bool} {rest : List Char → Option β} :
    ∀ {taken cs body : List Char} {r : β}, lazyBody ok rest taken cs = some (body, r) →
      ∃ pre post, cs = pre ++ post ∧ body = taken.reverse ++ pre ∧ (∀ c ∈ pre, ok c = true) ∧
        rest post = some r
  | taken, [], body, r, h => by
    simp only [lazyBody, Option.map_eq_some_iff, Prod.mk.injEq] at h
    obtain ⟨r', hr, rfl, rfl⟩ := h
    exact ⟨[], [], rfl, by simp, by simp, hr⟩
  | taken, c :: cs, body, r, h => by
    unfold lazyBody at h
    cases hr : rest (c :: cs) with
    | some r' =>
      simp only [hr, Option.some.injEq, Prod.mk.injEq] at h
      obtain ⟨rfl, rfl⟩ := h
      exact ⟨[], c :: cs, rfl, by simp, by simp, hr⟩
    | none =>
      simp only [hr] at h
      by_cases hc : ok c = true
      · -- the character joins the body and the extension goes on
        simp only [hc, if_true] at h
        obtain ⟨pre, post, rfl, rfl, hpre, hpost⟩ := lazyBody_split h
        exact ⟨c :: pre, post, rfl, by simp, List.forall_mem_cons.2 ⟨hc, hpre⟩, hpost⟩
      · simp [hc] at h

theorem eq_append_drop_of_isPrefixOf {text cs : List Char} (h : text.isPrefixOf cs = true) :
    cs = text ++ cs.drop text.length := by
  obtain ⟨rest, rfl⟩ := List.isPrefixOf_iff_prefix.1 h
  simp

/-- Every answer of the search is a way through the pattern over the characters searched. -/
theorem search_reading :
    ∀ {ps : List Piece} {cs : List Char} {caps : List (Option (List Char))},
      search ps cs = some caps → Reading ps caps cs
  | [], cs, caps, h => by
    simp only [search] at h
    split at h
    · rename_i hcs
      cases h
      rw [List.isEmpty_iff.1 hcs]
      exact .nil
    · cases h
  | .literal text :: ps, cs, caps, h => by
    simp only [search] at h
    split at h
    · rename_i hpre
      rw [eq_append_drop_of_isPrefixOf hpre]
      exact .literal (search_reading h)
    · cases h
  | .optional first op :: ps, cs, caps, h => by
    simp only [search] at h
    split at h
    · -- the part is present: its first character, then a lazily extended body
      rename_i r hpresent
      cases h
      split at hpresent
      · rename_i c rest
        split at hpresent
        · rename_i hc
          obtain ⟨⟨body, more⟩, hbody, rfl⟩ := Option.map_eq_some_iff.1 hpresent
          obtain ⟨pre, post, rfl, rfl, hpre, hpost⟩ := lazyBody_split hbody
          rw [beq_iff_eq.1 hc]
          exact .present (by simpa using hpre) (search_reading hpost)
        · cases hpresent
      · cases hpresent
    · -- the part is absent
      obtain ⟨more, hmore, rfl⟩ := Option.map_eq_some_iff.1 h
      exact .absent (search_reading hmore)
  | .required op :: ps, cs, caps, h => by
    simp only [search] at h
    split at h
    · rename_i c rest
      split at h
      · rename_i hc
        obtain ⟨⟨body, more⟩, hbody, rfl⟩ := Option.map_eq_some_iff.1 h
        obtain ⟨pre, post, rfl, rfl, hpre, hpost⟩ := lazyBody_split hbody
        have hall : ∀ x ∈ c :: pre, op.allows x = true := List.forall_mem_cons.2 ⟨hc, hpre⟩
        exact .required (List.cons_ne_nil c pre) (by simpa using hall) (search_reading hpost)
      · cases h
    · cases h

/-! ### Finding a way through -/

/-- The characters a way through the pieces may begin with: the first characters of the
optional parts up to the first literal, and that literal's first character; nothing stands for
every character, when a required part may come first. -/
def startChars : List Piece → Option (List Char)
  | [] => some []
  | .literal [] :: ps => startChars ps
  | .literal (d :: _) :: _ => some [d]
  | .optional first _ :: ps => (startChars ps).map (first :: ·)
  | .required _ :: _ => none

/-- The search fails on characters that start with one that no way through may begin with. -/
theorem search_eq_none_of_startChars :
    ∀ {ps : List Piece} {S : List Char} {c : Char} (rest : List Char), startChars ps = some S →
      c ∉ S → search ps (c :: rest) = none
  | [], _, _, _, _, _ => rfl
  | .literal [] :: ps, S, c, rest, h, hc => by
    simp only [search, List.isPrefixOf_nil_left, if_true, List.length_nil, List.drop_zero]
    exact search_eq_none_of_startChars rest h hc
  | .literal (d :: text) :: ps, S, c, rest, h, hc => by
    simp only [startChars, Option.some.injEq] at h
    subst h
    have hcd : c ≠ d := by simpa using hc
    have hpre : (d :: text).isPrefixOf (c :: rest) = false := by
      simp [List.isPrefixOf, Ne.symm hcd]
    simp [search, hpre]
  | .optional first op :: ps, S, c, rest, h, hc => by
    obtain ⟨S', hS', rfl⟩ := Option.map_eq_some_iff.1 h
    simp only [List.mem_cons, not_or] at hc
    simp only [search, beq_iff_eq, hc.1, if_false, search_eq_none_of_startChars rest hS' hc.2,
      Option.map_none]
  | .required _ :: _, _, _, _, h, _ => by simp [startChars] at h

/-- Lazy extension over allowed characters, at no split of which the rest succeeds before the
end, takes them all. -/
theorem lazyBody_of_fail {β : Type} {ok : Char → Bool} {rest : List Char → Option β}
    {cs : List Char} {r : β} (hr : rest cs = some r) :
    ∀ (w taken : List Char), (∀ c ∈ w, ok c = true) →
      (∀ u x v, w = u ++ x :: v → rest (x :: (v ++ cs)) = none) →
        lazyBody ok rest taken (w ++ cs) = some (taken.reverse ++ w, r)
  | [], taken, _, _ => by
    cases cs with
    | nil => simp [lazyBody, hr]
    | cons c cs => simp [lazyBody, hr]
  | x :: w, taken, hok, hfail => by
    have hx : rest (x :: (w ++ cs)) = none := hfail [] x w rfl
    have ih := lazyBody_of_fail hr w (x :: taken) (fun c hc => hok c (List.mem_cons_of_mem x hc))
      fun u y v h => hfail (x :: u) y v (by rw [h, List.cons_append])
    rw [List.cons_append, lazyBody, hx]
    simp only [hok x List.mem_cons_self, if_true, ih]
    simp

/-- A way through a pattern at which every variable part is present and no character of a body
could start what follows the part. -/
inductive LazyReading : List Piece → List (Option (List Char)) → List Char → Prop
  | nil : LazyReading [] [] []
  | literal {text : List Char} {ps caps cs} :
      LazyReading ps caps cs → LazyReading (.literal text :: ps) caps (text ++ cs)
  | present {first : Char} {op : Operator} {body S : List Char} {ps caps cs} :
      (∀ c ∈ body, op.allows c = true) → startChars ps = some S → (∀ c ∈ body, c ∉ S) →
        LazyReading ps caps cs →
          LazyReading (.optional first op :: ps) (some body :: caps) (first :: (body ++ cs))
  | required {op : Operator} {c₀ : Char} {body S : List Char} {ps caps cs} :
      (∀ c ∈ c₀ :: body, op.allows c = true) → startChars ps = some S → (∀ c ∈ body, c ∉ S) →
        LazyReading ps caps cs →
          LazyReading (.required op :: ps) (some (c₀ :: body) :: caps) (c₀ :: (body ++ cs))

/-- The search finds such a way through: every shorter body leaves a rest that the remaining pattern
cannot start. -/
theorem LazyReading.search_eq {ps : List Piece} {caps : List (Option (List Char))}
    {cs : List Char} (h : LazyReading ps caps cs) : search ps cs = some caps := by
  induction h with
  | nil => rfl
  | @literal text ps caps cs _ ih =>
    simp [search, ih]
  | @present first op body S ps caps cs hok hS hstart _ ih =>
    have hfail : ∀ u x v, body = u ++ x :: v → search ps (x :: (v ++ cs)) = none := by
      intro u x v hb
      exact search_eq_none_of_startChars _ hS (hstart x (by simp [hb]))
    have hlazy := lazyBody_of_fail ih body [] hok hfail
    simp [search, hlazy]
  | @required op c₀ body S ps caps cs hok hS hstart _ ih =>
    have hfail : ∀ u x v, body = u ++ x :: v → search ps (x :: (v ++ cs)) = none := by
      intro u x v hb
      exact search_eq_none_of_startChars _ hS (hstart x (by simp [hb]))
    have hlazy := lazyBody_of_fail ih body [c₀]
      (fun c hc => hok c (List.mem_cons_of_mem c₀ hc)) hfail
    simp [search, hok c₀ List.mem_cons_self, hlazy]

end UrlRouting.Template
