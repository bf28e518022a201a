import UrlRouting.Template.Basic

/-!
# The pattern of a template

Matching reads a path against the pattern of a template: its literal texts, and for each
variable part a body of the characters its operator allows. A part whose operator writes a
first character may be absent; when present it is that character and a body that may be
empty. A part without one is a non-empty body.

The pattern is read as a backtracking search would read it, from the left, preferring at each
choice: a present optional part to an absent one, and a shorter body to a longer one. The
first way through that uses up the whole path wins; its bodies are the captures, one per
variable part, nothing for an absent part.

## Main definitions

* `UrlRouting.Template.Piece`, `UrlRouting.Template.Part.piece`
* `UrlRouting.Template.lazyBody`: the shortest body after which the rest succeeds.
* `UrlRouting.Template.search`
-/

namespace UrlRouting.Template

/-- One element of a pattern. -/
inductive Piece where
  /-- Literal text. -/
  | literal (text : List Char)
  /-- An optional part: the character `first`, then a body the operator allows, maybe empty. -/
  | optional (first : Char) (op : Operator)
  /-- A required part: a non-empty body the operator allows. -/
  | required (op : Operator)
  deriving DecidableEq, Repr

/-- The pattern element of a part. -/
def Part.piece : Part → Piece
  | .literal text => .literal text.toList
  | p =>
    match p.operator.first? with
    | some c => .optional c p.operator
    | none => .required p.operator

/-- The pattern of a template. -/
def pattern (t : Template) : List Piece := t.parts.map Part.piece

/-- Extends the body `taken` (reversed) one allowed character at a time, stopping at the first
length after which `rest` succeeds; gives the body and what `rest` gave. -/
def lazyBody {β : Type} (ok : Char → Bool) (rest : List Char → Option β) (taken : List Char) :
    List Char → Option (List Char × β)
  | [] => (rest []).map fun r => (taken.reverse, r)
  | c :: cs =>
    match rest (c :: cs) with
    | some r => some (taken.reverse, r)
    | none => if ok c then lazyBody ok rest (c :: taken) cs else none

/-- The captures of the first way through the pattern that uses up the characters. -/
def search : List Piece → List Char → Option (List (Option (List Char)))
  | [], cs => if cs.isEmpty then some [] else none
  | .literal text :: ps, cs =>
    if text.isPrefixOf cs then search ps (cs.drop text.length) else none
  | .optional first op :: ps, cs =>
    let present :=
      match cs with
      | c :: rest =>
        if c == first then
          (lazyBody op.allows (search ps) [] rest).map fun r => some r.1 :: r.2
        else none
      | [] => none
    match present with
    | some r => some r
    | none => (search ps cs).map (none :: ·)
  | .required op :: ps, cs =>
    match cs with
    | c :: rest =>
      if op.allows c then (lazyBody op.allows (search ps) [c] rest).map fun r => some r.1 :: r.2
      else none
    | [] => none

end UrlRouting.Template
