import UrlRouting.Failure

/-!
# Class hierarchies

Class routes are looked up along the linearisation of a class: the class, then its bases and
their ancestors in the order of the C3 merge, ending with the root class `object`, which every
hierarchy has. Classes are told apart by number, not by name: a class declared under a name
already in scope, even `object`, is a new class that the name stands for from then on, while
classes declared before keep the class they were given.

A class is declared with a name and its bases, classes of the hierarchy; a class with no bases
derives from the root. A name with a null character in it is refused first, then a base listed
twice. The C3 merge of the bases' linearisations and the list of bases repeatedly takes the
first head, in list order, that appears in no list after its head, and removes it from the
heads it stands at. When no head qualifies the bases admit no linearisation, and the failure
names the remaining heads, each once, in list order.

## Main definitions

* `UrlRouting.Hierarchy`, `UrlRouting.Hierarchy.initial`
* `UrlRouting.Hierarchy.merge`: the C3 merge.
* `UrlRouting.Hierarchy.declare`, `UrlRouting.Hierarchy.find?`
-/

namespace UrlRouting

/-- Declared classes, and the class each name stands for. -/
structure Hierarchy where
  /-- The declared classes, the latest first; the root is not among them. -/
  classes : List ClassInfo
  /-- The class each name in scope stands for, the latest binding first. -/
  scope : List (String × ClassInfo)
  deriving Inhabited

namespace Hierarchy

/-- The hierarchy with the root class alone, in scope as `object`. -/
def initial : Hierarchy := ⟨[], [("object", ClassInfo.object)]⟩

/-- The class a name stands for. -/
def find? (h : Hierarchy) (name : String) : Option ClassInfo :=
  (h.scope.find? (·.1 == name)).map (·.2)

/-- The first head, in list order, that appears in no list after its head. -/
def mergeHead? {α : Type} [BEq α] (seqs : List (List α)) : Option α :=
  (seqs.filterMap List.head?).find? fun c => seqs.all fun s => !(s.drop 1).contains c

/-- Each element once, in order of first appearance. -/
def distinct {α : Type} [BEq α] (cs : List α) : List α :=
  cs.foldl (fun acc c => if acc.contains c then acc else acc ++ [c]) []

/-- The C3 merge of `seqs` after the elements `acc` (reversed) already taken; `fuel` bounds the
steps and the total length of the lists is enough. -/
def mergeWith {α : Type} [BEq α] : Nat → List (List α) → List α → Except (List α) (List α)
  | fuel, seqs, acc =>
    let seqs := seqs.filter (!·.isEmpty)
    if seqs.isEmpty then .ok acc.reverse
    else
      match fuel, mergeHead? seqs with
      | fuel + 1, some c =>
        mergeWith fuel (seqs.map fun s => if s.head? == some c then s.drop 1 else s) (c :: acc)
      | _, _ => .error (distinct (seqs.filterMap List.head?))

/-- The C3 merge of lists: the merged list, or the heads that could not be placed. -/
def merge {α : Type} [BEq α] (seqs : List (List α)) : Except (List α) (List α) :=
  mergeWith (seqs.foldl (fun n s => n + s.length) 1) seqs []

/-- The first element listed again later in the list. -/
def firstRepeated {α : Type} [BEq α] : List α → Option α
  | [] => none
  | c :: rest => if rest.contains c then some c else firstRepeated rest

/-- Classes compared by their references. -/
instance : BEq ClassInfo := ⟨fun a b => a.ref == b.ref⟩

/-- The hierarchy with a new class declared under `name` with the given bases, and the name in
scope for it. -/
def declare (h : Hierarchy) (name : String) (bases : List ClassInfo) :
    Except Failure Hierarchy := do
  if name.toList.contains (Char.ofNat 0) then throw .nullInName
  if let some b := firstRepeated bases then throw (.duplicateBase b.name)
  let bases := if bases.isEmpty then [ClassInfo.object] else bases
  let r : ClassRef := ⟨h.classes.length + 1, name⟩
  match merge (bases.map ClassInfo.mro ++ [bases]) with
  | .ok ancestors =>
    let c := ClassInfo.declared r bases ancestors none
    pure ⟨c :: h.classes, (name, c) :: h.scope⟩
  | .error heads => throw (.noLinearisation (heads.map ClassInfo.name))

end Hierarchy

end UrlRouting
