import UrlRouting.Template.Basic
import UrlRouting.Text.Percent
import UrlRouting.Value.Resolve

/-!
# Expanding templates

A template expands against bindings part by part: a literal is written as it is, and a
variable part writes the pieces of its variables, the operator's first character before them
and its separator between them, or nothing at all when no variable gives a piece.

A variable resolves its name in the bindings (`Value.resolve`) and gives:

* nothing when the value is nothing, or an empty list or mapping once its nothing items are
  dropped;
* for a mapping or a namespace view, one piece `key=value` per entry when exploded, and
  otherwise one piece of `key,value` pairs joined by commas;
* for a list or a tuple, one piece per item when exploded, and otherwise one piece of the items
  joined by commas;
* for anything else, its text cut to the modifier's length.

Named operators write a piece as `name=text`, or `name` and the operator's `ifEmpty` for an
empty text; an exploded list under a named operator names each item, an exploded mapping
names each item by its own key. Variables are resolved in order, and a variable sees the
annotation tables that the ones before it made declared classes keep (`expandIn`). Truth
values are written `true` and `false`. When escaping,
each key and value is percent-encoded on its own (`Percent.encode`), keeping the reserved
characters for the `+` and `#` operators; separators and literal text are never touched.

## Main definitions

* `UrlRouting.Template.expansionText`
* `UrlRouting.Template.specPieces`, `UrlRouting.Template.Part.expandIn`
* `UrlRouting.Template.expandIn`, `UrlRouting.Template.expand`
-/

namespace UrlRouting.Template

/-- The text a value expands to: truth values in lower case, texts as they are, and the
written form of anything else. -/
def expansionText : Value → String
  | .bool b => if b then "true" else "false"
  | v => v.text

/-- A text, percent-encoded when escaping, as the operator asks. -/
def Operator.escapeText (op : Operator) (escape : Bool) (s : String) : String :=
  if escape then Text.Percent.encode op.keepsReserved s else s

/-- A named piece: `name=text`, or `name` and the operator's `ifEmpty` for an empty text. -/
def Operator.namedPiece (op : Operator) (name text : String) : String :=
  if text.isEmpty then name ++ op.ifEmpty else name ++ "=" ++ text

/-- A piece named when the operator names pieces. -/
def Operator.piece (op : Operator) (name text : String) : String :=
  if op.named then op.namedPiece name text else text

/-- Whether a value is nothing. -/
def isNothing : Value → Bool
  | .none => true
  | _ => false

/-- The pieces one variable gives under the operator `op`, after the declared classes `asked`
were asked for their annotations. -/
def specPieces (op : Operator) (escape : Bool) (asked : List ClassRef) (b : Value)
    (spec : VarSpec) : List String :=
  let enc := fun v => op.escapeText escape (expansionText v)
  match b.resolve asked spec.name with
  | .none => []
  | .map entries | .proxy entries =>
    let items := entries.filter fun e => !isNothing e.2
    if items.isEmpty then []
    else if spec.explodes then items.map fun e => enc (.str e.1) ++ "=" ++ enc e.2
    else
      [op.piece spec.name
        (",".intercalate (items.map fun e => enc (.str e.1) ++ "," ++ enc e.2))]
  | .list values | .tuple values =>
    let items := values.filter fun v => !isNothing v
    if items.isEmpty then []
    else if spec.explodes then items.map fun v => op.piece spec.name (enc v)
    else [op.piece spec.name (",".intercalate (items.map enc))]
  | v =>
    let text := expansionText v
    let text := match spec.maxLength? with
      | some n => String.ofList (text.toList.take n)
      | none => text
    [op.piece spec.name (op.escapeText escape text)]

/-- The pieces of variables in order, each resolved after the classes that the ones before it
asked for their annotations; with the classes asked once all are resolved. -/
def specsPieces (op : Operator) (escape : Bool) (b : Value) :
    List ClassRef → List VarSpec → List String × List ClassRef
  | asked, [] => ([], asked)
  | asked, s :: rest =>
    let (pieces, final) := specsPieces op escape b (asked ++ b.askedBy asked s.name) rest
    (specPieces op escape asked b s ++ pieces, final)

/-- The expansion of one part, with the classes asked for their annotations after it. -/
def Part.expandIn (b : Value) (escape : Bool) (asked : List ClassRef) :
    Part → String × List ClassRef
  | .literal text => (text, asked)
  | p =>
    let op := p.operator
    match specsPieces op escape b asked p.specs with
    | ([], asked') => ("", asked')
    | (pieces, asked') =>
      ((match op.first? with
        | some c => String.singleton c
        | none => "") ++ (String.singleton op.separator).intercalate pieces, asked')

/-- The expansion of parts in order, with the classes asked for their annotations after them. -/
def expandParts (b : Value) (escape : Bool) : List ClassRef → List Part → String × List ClassRef
  | asked, [] => ("", asked)
  | asked, p :: rest =>
    let (text, asked') := p.expandIn b escape asked
    let (more, final) := expandParts b escape asked' rest
    (text ++ more, final)

/-- The expansion of a template against bindings, escaping values when asked, after the
declared classes `asked` were asked for their annotations; with the classes asked after it. -/
def expandIn (t : Template) (b : Value) (escape : Bool) (asked : List ClassRef) :
    String × List ClassRef :=
  expandParts b escape asked t.parts

/-- The expansion of a template against bindings, escaping values when asked. -/
def expand (t : Template) (b : Value) (escape : Bool) : String := (t.expandIn b escape []).1

end UrlRouting.Template
