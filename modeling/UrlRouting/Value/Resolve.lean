import UrlRouting.Value.Attribute

/-!
# Key paths

A variable name is a key path: keys joined by dots, where a key may be empty. A mapping that
has the whole path as one key answers it directly. Otherwise the path is followed key by key
from the bindings, each key read as `Value.member` reads it; a missing key or attribute gives
nothing, and nothing stays nothing. Following a path may ask declared classes for their
annotations (`askedBy`), which later lookups then see.

Cutting a path at a dot cuts its keys there (`keys_append_dot`), and following keys one list
after the other is following them all (`walk_append`).

## Main definitions

* `UrlRouting.Value.keys`, `UrlRouting.Value.walk`, `UrlRouting.Value.resolve`
* `UrlRouting.Value.askedAlong`, `UrlRouting.Value.askedBy`
-/

namespace UrlRouting.Value

/-- The pieces of a character list between dots; a list with `n` dots has `n + 1` pieces. -/
def splitDots : List Char → List (List Char)
  | [] => [[]]
  | c :: cs =>
    if c = '.' then [] :: splitDots cs
    else
      match splitDots cs with
      | w :: ws => (c :: w) :: ws
      | [] => [[c]]

/-- The keys of a path. -/
def keys (path : String) : List String := (splitDots path.toList).map String.ofList

/-- The value reached from `v` by following the keys in order. -/
def walk (asked : List ClassRef) (v : Value) (ks : List String) : Value := ks.foldl (member asked) v

/-- The value a key path names in the bindings `b`. -/
def resolve (asked : List ClassRef) (b : Value) (path : String) : Value :=
  match b with
  | .none => .none
  | .map entries => (lookup path entries).getD (walk asked b (keys path))
  | _ => walk asked b (keys path)

/-- The declared classes asked for their annotations while following the keys from `v`. -/
def askedAlong (asked : List ClassRef) : Value → List String → List ClassRef
  | _, [] => []
  | v, k :: ks => (annotationTarget? v k).toList ++ askedAlong asked (member asked v k) ks

/-- The declared classes asked for their annotations while resolving a key path. -/
def askedBy (asked : List ClassRef) (b : Value) (path : String) : List ClassRef :=
  match b with
  | .none => []
  | .map entries => if (lookup path entries).isSome then [] else askedAlong asked b (keys path)
  | _ => askedAlong asked b (keys path)

theorem splitDots_ne_nil (cs : List Char) : splitDots cs ≠ [] := by
  cases cs with
  | nil => simp [splitDots]
  | cons c cs =>
    rw [splitDots.eq_2]
    split
    · simp
    · split <;> simp

theorem splitDots_append_dot (xs ys : List Char) :
    splitDots (xs ++ '.' :: ys) = splitDots xs ++ splitDots ys := by
  induction xs with
  | nil => rw [List.nil_append, splitDots.eq_2]; simp [splitDots.eq_1]
  | cons c xs ih =>
    rw [List.cons_append, splitDots.eq_2, splitDots.eq_2, ih]
    by_cases hc : c = '.'
    · simp [hc]
    · simp only [hc, if_false]
      cases h : splitDots xs with
      | nil => exact absurd h (splitDots_ne_nil xs)
      | cons w ws => simp

theorem splitDots_of_not_mem (cs : List Char) (h : '.' ∉ cs) : splitDots cs = [cs] := by
  induction cs with
  | nil => rfl
  | cons c cs ih =>
    simp only [List.mem_cons, not_or] at h
    rw [splitDots.eq_2, ih h.2]
    simp [Ne.symm h.1]

theorem keys_append_dot (p q : String) : keys (p ++ "." ++ q) = keys p ++ keys q := by
  simp [keys, String.toList_append, splitDots_append_dot]

theorem keys_of_not_mem (p : String) (h : '.' ∉ p.toList) : keys p = [p] := by
  simp [keys, splitDots_of_not_mem _ h]

theorem walk_append (asked : List ClassRef) (v : Value) (ks ks' : List String) :
    walk asked v (ks ++ ks') = walk asked (walk asked v ks) ks' := by
  simp [walk, List.foldl_append]

theorem walk_none (asked : List ClassRef) (ks : List String) : walk asked .none ks = .none := by
  induction ks with
  | nil => rfl
  | cons k ks ih => simpa [walk, member] using ih

end UrlRouting.Value
