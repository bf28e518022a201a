import UrlRouting.Template.Pattern
import UrlRouting.Text.Percent
import UrlRouting.Value

/-!
# Matching paths

Matching a path against a template gives the bindings the path stands for, or nothing when
it does not fit.

The path is first cut to the candidate the template can see: the fragment (from the first
`#`) is dropped unless the template keeps fragments, and the query (from the first `?` before
the fragment) is dropped unless it keeps queries. The candidate is read against the pattern
(`search`), and each captured body is bound to the variables of its part, percent-decoded:

* positional operators (none, `+`, `#`, `.`, `/`, colon variables): a single variable takes the
  whole body, or the list of its pieces between separators when exploded; several variables
  split the body at the first separators, one piece each, the last taking the rest;
* named operators (`;`, `?`, `&`): the body is a list of `key=value` items between separators
  (empty items skipped, a missing `=` giving an empty value); a declared variable takes the
  first value of its key, or all of them when exploded; keys no variable declares go, as a
  mapping, to the first exploded variable, and without one the path does not fit.

A name bound twice must be bound to the same capture both times, or the path does not fit.

## Main definitions

* `UrlRouting.Template.Capture`, `UrlRouting.Template.Bindings`
* `UrlRouting.Template.candidate`, `UrlRouting.Template.matchPath`
-/

namespace UrlRouting.Template

/-- What matching binds to a name. -/
inductive Capture where
  /-- A text. -/
  | text (s : String)
  /-- A list of texts. -/
  | items (xs : List String)
  /-- Parameters no variable declares, each with its values in order. -/
  | params (ps : List (String × List String))
  deriving DecidableEq, Repr

/-- The values of key `k` among parameters. -/
def paramValues? (k : String) : List (String × List String) → Option (List String)
  | [] => none
  | (k', vs) :: rest => if k' == k then some vs else paramValues? k rest

namespace Capture

/-- Whether two captures are the same: texts and lists equal, parameters equal as mappings,
whatever their order. -/
def same : Capture → Capture → Bool
  | .text a, .text b => a == b
  | .items a, .items b => a == b
  | .params a, .params b =>
    a.length == b.length && a.all fun e => paramValues? e.1 b == some e.2
  | _, _ => false

/-- A capture as a value: a parameter with one value shows it as a text. -/
def toValue : Capture → Value
  | .text s => .str s
  | .items xs => .list (xs.map .str)
  | .params ps =>
    .map (ps.map fun e =>
      (e.1, match e.2 with
        | [v] => .str v
        | vs => .list (vs.map .str)))

end Capture

/-- Bindings found by matching, in the order their names were first bound. -/
abbrev Bindings := List (String × Capture)

/-- The capture bound to a name. -/
def Bindings.get? (bs : Bindings) (name : String) : Option Capture :=
  (List.find? (fun e => e.1 == name) bs).map (·.2)

/-- Binds `name` to `c`; a name already bound must be bound to the same capture, which then
takes the new form. -/
def Bindings.assign (bs : Bindings) (name : String) (c : Capture) : Option Bindings :=
  match bs.get? name with
  | some old => if old.same c then some (bs.map fun e => if e.1 == name then (name, c) else e)
    else none
  | none => some (bs ++ [(name, c)])

/-- Bindings as a value: a mapping from names. -/
def Bindings.toValue (bs : Bindings) : Value := .map (bs.map fun e => (e.1, e.2.toValue))

/-- The percent-decoded text of characters. -/
def decoded (cs : List Char) : String := String.ofList (Text.Percent.decodeFrom [] cs)

/-- Splits at the first `n` separators: at most `n + 1` pieces, the last taking the rest. -/
def splitAtMost (sep : Char) : Nat → List Char → List (List Char)
  | 0, cs => [cs]
  | n + 1, cs =>
    match cs.dropWhile (· != sep) with
    | [] => [cs]
    | _ :: after => cs.takeWhile (· != sep) :: splitAtMost sep n after

/-- Binds the body of a positional part to its variables. -/
def bindPositional (specs : List VarSpec) (sep : Char) (body : List Char) (bs : Bindings) :
    Option Bindings :=
  match specs with
  | [spec] =>
    if spec.explodes then bs.assign spec.name (.items ((body.splitOn sep).map decoded))
    else bs.assign spec.name (.text (decoded body))
  | _ =>
    (specs.zip (splitAtMost sep (specs.length - 1) body)).foldlM
      (fun bs e => bs.assign e.1.name (.text (decoded e.2))) bs

/-- Adds a value to the values of a key, keeping keys in order of first appearance. -/
def addParam (ps : List (String × List String)) (k v : String) : List (String × List String) :=
  if ps.any (·.1 == k) then ps.map fun e => if e.1 == k then (k, e.2 ++ [v]) else e
  else ps ++ [(k, [v])]

/-- The parameters of a named body: each non-empty item split at its first `=`. -/
def paramsOf (sep : Char) (body : List Char) : List (String × List String) :=
  ((body.splitOn sep).filter (!·.isEmpty)).foldl
    (fun ps item =>
      addParam ps (decoded (item.takeWhile (· != '=')))
        (decoded ((item.dropWhile (· != '=')).drop 1)))
    []

/-- Binds the body of a named part to its variables. -/
def bindNamed (specs : List VarSpec) (sep : Char) (body : List Char) (bs : Bindings) :
    Option Bindings :=
  let ps := paramsOf sep body
  let extra := ps.filter fun e => !(specs.any (·.name == e.1))
  let exploded := specs.filter VarSpec.explodes
  if !extra.isEmpty && exploded.isEmpty then none
  else do
    let bs ← specs.foldlM
      (fun bs spec =>
        match paramValues? spec.name ps with
        | some vs => bs.assign spec.name (if spec.explodes then .items vs else .text (vs.headD ""))
        | none => some bs)
      bs
    match exploded with
    | e :: _ => if extra.isEmpty then some bs else bs.assign e.name (.params extra)
    | [] => some bs

/-- Binds the captured body of a variable part. -/
def Part.bind (p : Part) (body : List Char) (bs : Bindings) : Option Bindings :=
  if p.operator.named then bindNamed p.specs p.operator.separator body bs
  else bindPositional p.specs p.operator.separator body bs

/-- The part of a path a template can see: the query and the fragment only if it keeps
them. -/
def candidate (t : Template) (path : String) : List Char :=
  let cs := path.toList
  let base := cs.takeWhile (· != '#')
  let fragment := cs.dropWhile (· != '#')
  let base := if t.keepsQuery then base else base.takeWhile (· != '?')
  if t.keepsFragment then base ++ fragment else base

/-- Binds the captures to the variable parts, skipping the absent ones. -/
def bindAll : List Part → List (Option (List Char)) → Bindings → Option Bindings
  | p :: ps, some body :: caps, bs => do bindAll ps caps (← p.bind body bs)
  | _ :: ps, none :: caps, bs => bindAll ps caps bs
  | _, _, bs => some bs

/-- The bindings a path stands for under the template, or nothing when it does not fit. -/
def matchPath (t : Template) (path : String) : Option Bindings := do
  let caps ← search (pattern t) (candidate t path)
  bindAll (t.parts.filter Part.isVariable) caps []

end UrlRouting.Template
