import UrlRouting.Template.Operator

/-!
# Templates and their parts

A URI template is a list of parts: literal text, colon variables `:name`, and expressions
`{op spec,spec}`. A variable specification is a name with an optional modifier: `:n` keeps at
most the first `n` characters of a value, and `*` explodes lists and mappings into one piece
per item.

Every part writes itself back as text (`Part.value`), and the text of a template is the text
of its parts in order (`Template.source`). A template keeps the query of a path when it has a
`?` or `&` expression or a literal `?`, and keeps the fragment when it has a `#` expression or
a literal `#`.

## Main definitions

* `UrlRouting.Template.Modifier`, `UrlRouting.Template.VarSpec`, `UrlRouting.Template.Part`
* `UrlRouting.Template`, `UrlRouting.Template.source`, `UrlRouting.Template.variableNames`,
  `UrlRouting.Template.keepsQuery`, `UrlRouting.Template.keepsFragment`
-/

namespace UrlRouting

namespace Template

/-- How a variable's value is cut or spread. -/
inductive Modifier where
  /-- The whole value. -/
  | plain
  /-- At most the first `length` characters of a value. -/
  | maxLength (length : Nat)
  /-- One piece per item of a list or mapping. -/
  | explode
  deriving DecidableEq, Repr, Inhabited

/-- A variable of an expression: its name and modifier. -/
structure VarSpec where
  /-- The name: a dotted key path. -/
  name : String
  /-- The modifier. -/
  modifier : Modifier := .plain
  deriving DecidableEq, Repr, Inhabited

namespace VarSpec

/-- The most characters a value keeps, if the specification cuts values. -/
def maxLength? (v : VarSpec) : Option Nat :=
  match v.modifier with
  | .maxLength n => some n
  | _ => none

/-- Whether the specification explodes lists and mappings. -/
def explodes (v : VarSpec) : Bool := v.modifier == .explode

/-- The text of a specification: `name`, `name:n` or `name*`. -/
def render (v : VarSpec) : String :=
  match v.modifier with
  | .plain => v.name
  | .maxLength n => v.name ++ ":" ++ String.ofList (Nat.toDigits 10 n)
  | .explode => v.name ++ "*"

end VarSpec

/-- A part of a template. -/
inductive Part where
  /-- Literal text, matched and written as it is. -/
  | literal (text : String)
  /-- A colon variable `:name`, expanded as `{name}`. -/
  | colon (name : String)
  /-- A brace expression with its operator and variables. -/
  | expression (op : Operator) (specs : List VarSpec)
  deriving DecidableEq, Repr, Inhabited

namespace Part

/-- Whether the part is a variable part. -/
def isVariable : Part → Bool
  | .literal _ => false
  | _ => true

/-- The operator by which the part expands and matches; a colon variable uses simple
expansion. -/
def operator : Part → Operator
  | .expression op _ => op
  | _ => .simple

/-- The operator as the part shows it: empty for literals, `:` for colon variables. -/
def operatorText : Part → String
  | .literal _ => ""
  | .colon _ => ":"
  | .expression op _ => op.symbol

/-- The variable specifications of the part. -/
def specs : Part → List VarSpec
  | .literal _ => []
  | .colon name => [{ name }]
  | .expression _ specs => specs

/-- The text of the part. -/
def value : Part → String
  | .literal text => text
  | .colon name => ":" ++ name
  | .expression op specs =>
    "\x7b" ++ op.symbol ++ ",".intercalate (specs.map VarSpec.render) ++ "\x7d"

end Part

end Template

/-- A parsed URI template. -/
structure Template where
  /-- The parts, in order. -/
  parts : List Template.Part
  deriving DecidableEq, Repr, Inhabited

namespace Template

/-- The text of the template: the texts of its parts in order. -/
def source (t : Template) : String := String.join (t.parts.map Part.value)

/-- Adds the names not yet listed, in order. -/
def addNew (seen : List String) (names : List String) : List String :=
  names.foldl (fun acc n => if acc.contains n then acc else acc ++ [n]) seen

/-- The variable names, each once, in order of first appearance. -/
def variableNames (t : Template) : List String :=
  addNew [] (t.parts.flatMap fun p => p.specs.map (·.name))

/-- Whether the part asks for the query of a path. -/
def Part.asksQuery : Part → Bool
  | .literal text => text.contains '?'
  | .expression .query _ | .expression .continuation _ => true
  | _ => false

/-- Whether the part asks for the fragment of a path. -/
def Part.asksFragment : Part → Bool
  | .literal text => text.contains '#'
  | .expression .fragment _ => true
  | _ => false

/-- Whether matching keeps the query of a path. -/
def keepsQuery (t : Template) : Bool := t.parts.any Part.asksQuery

/-- Whether matching keeps the fragment of a path. -/
def keepsFragment (t : Template) : Bool := t.parts.any Part.asksFragment

end Template

end UrlRouting
