import UrlRouting.Value.Resolve

/-!
# Key paths compose

Resolving the path `p.q` in bindings `b` is resolving `q` in what `p` resolves to, as long as
no mapping the walk looks a key up in has a key with a dot in it. Such a key is the only way
for a mapping to answer a dotted path at once, so under that condition every resolution is a
plain walk along the keys (`resolve_eq_walk`), and walks compose (`Value.walk_append`).

## Main definitions

* `UrlRouting.Value.dotFreeKeys`: no key of a mapping holds a dot.
* `UrlRouting.Value.visited`: the values a walk looks keys up in.

## Main results

* `UrlRouting.Value.resolve_eq_walk`: resolution is a walk from a value without dotted keys.
* `UrlRouting.Value.resolve_dot_append`: resolving `p.q` is resolving `q` after `p`.
-/

namespace UrlRouting.Value

/-- Whether no key of a mapping holds a dot; true of every value that is not a mapping. -/
def dotFreeKeys : Value → Bool
  | .map entries => entries.all fun e => !e.1.toList.contains '.'
  | _ => true

/-- The values a walk looks keys up in: the start, then each value reached before the last
key. -/
def visited (asked : List ClassRef) : Value → List String → List Value
  | _, [] => []
  | v, k :: ks => v :: visited asked (v.member asked k) ks

theorem walk_cons (asked : List ClassRef) (v : Value) (k : String) (ks : List String) :
    v.walk asked (k :: ks) = (v.member asked k).walk asked ks := rfl

theorem visited_append (asked : List ClassRef) (v : Value) (ks ks' : List String) :
    v.visited asked (ks ++ ks') = v.visited asked ks ++ (v.walk asked ks).visited asked ks' := by
  induction ks generalizing v with
  | nil => rfl
  | cons k ks ih => simp [visited, ih, walk_cons]

theorem mem_visited_self (asked : List ClassRef) (v : Value) (ks : List String) (h : ks ≠ []) :
    v ∈ v.visited asked ks := by
  cases ks with
  | nil => exact absurd rfl h
  | cons k ks => simp [visited]

theorem keys_ne_nil (p : String) : keys p ≠ [] := by
  simp [keys, splitDots_ne_nil]

theorem lookup_key_mem {k : String} {v : Value} :
    ∀ {entries : List (String × Value)}, lookup k entries = some v → ∃ e ∈ entries, e.1 = k
  | [], h => by simp [lookup] at h
  | (k', v') :: rest, h => by
    simp only [lookup] at h
    split at h
    · rename_i hkk
      exact ⟨(k', v'), List.mem_cons_self, by simpa using hkk⟩
    · obtain ⟨e, he, rfl⟩ := lookup_key_mem h
      exact ⟨e, List.mem_cons_of_mem _ he, rfl⟩

theorem resolve_eq_walk (asked : List ClassRef) (b : Value) (path : String)
    (h : b.dotFreeKeys = true) : b.resolve asked path = b.walk asked (keys path) := by
  cases b with
  | none => simp [resolve, walk_none]
  | map entries =>
    simp only [resolve]
    cases hk : lookup path entries with
    | none => rfl
    | some v =>
      obtain ⟨e, he, rfl⟩ := lookup_key_mem hk
      have hdot : '.' ∉ e.1.toList := by
        simp only [dotFreeKeys, List.all_eq_true] at h
        simpa using h e he
      simp [keys_of_not_mem _ hdot, walk, member, hk]
  | _ => rfl

theorem resolve_dot_append (asked : List ClassRef) (b : Value) (p q : String)
    (h : ∀ v ∈ b.visited asked (keys (p ++ "." ++ q)), v.dotFreeKeys = true) :
    b.resolve asked (p ++ "." ++ q) = (b.resolve asked p).resolve asked q := by
  rw [keys_append_dot, visited_append] at h
  have hb : b.dotFreeKeys = true :=
    h b (List.mem_append_left _ (mem_visited_self asked b _ (keys_ne_nil p)))
  have hp : (b.walk asked (keys p)).dotFreeKeys = true :=
    h _ (List.mem_append_right _ (mem_visited_self asked _ _ (keys_ne_nil q)))
  rw [resolve_eq_walk asked b _ hb, keys_append_dot, walk_append, resolve_eq_walk asked b p hb,
    resolve_eq_walk asked _ q hp]

/-- Through a mapping and then an attribute object: `a.b` resolves as `b` after `a`. -/
theorem resolve_map_then_attribute :
    (∀ v ∈ (Value.map [("a", .inst ClassInfo.attributeObject (some [("b", .int 1)]))]).visited []
        (keys ("a" ++ "." ++ "b")), v.dotFreeKeys = true) ∧
      (Value.map [("a", .inst ClassInfo.attributeObject (some [("b", .int 1)]))]).resolve []
          ("a" ++ "." ++ "b") =
        ((Value.map [("a", .inst ClassInfo.attributeObject (some [("b", .int 1)]))]).resolve []
          "a").resolve [] "b" :=
  ⟨by decide, resolve_dot_append [] _ _ _ (by decide)⟩

end UrlRouting.Value
