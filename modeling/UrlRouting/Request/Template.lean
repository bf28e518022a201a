import UrlRouting.Request.Basic
import UrlRouting.Template.Expand
import UrlRouting.Template.Match
import UrlRouting.Template.Parse

/-!
# Template requests

`parse` lists the parts of a template, `template_info` describes a template (and compares it
with `other` when given), `expand` expands one against `bindings` (escaping when `escape` is
true), `match` matches a `path`, and `resolve` follows a `key_path` through `bindings`; what it
finds must be plain data to be answered, so a class found is refused. The template, the path
and the key path are required; the template is read before anything else.

## Main definitions

* `UrlRouting.Request.partValue`, `UrlRouting.Request.templateAnswer?`
-/

namespace UrlRouting.Request

open Template

/-- A variable specification as an answer value. -/
def specValue (s : VarSpec) : Value :=
  .map [("name", .str s.name),
    ("prefix", match s.maxLength? with
      | some n => .int n
      | none => .none),
    ("explode", .bool s.explodes)]

/-- A part as an answer value. -/
def partValue (p : Part) : Value :=
  .map [("value", .str p.value), ("is_variable", .bool p.isVariable),
    ("operator", .str p.operatorText),
    ("var_name", match p.specs with
      | s :: _ => .str s.name
      | [] => .none),
    ("varspecs", .list (p.specs.map specValue))]

/-- The written form of a template. -/
def templateRepr (t : Template) : String := "URITemplate(" ++ Text.quoted t.source ++ ")"

/-- The description of a template, compared with `other` when given. -/
def templateInfo (t : Template) (other : Option Template) : List (String × Value) :=
  let base :=
    [("source", Value.str t.source), ("str", .str t.source), ("repr", .str (templateRepr t)),
      ("variables", .list (t.variableNames.map .str)), ("parts", .list (t.parts.map partValue)),
      ("equals_source_string", .bool false), ("parse_returns_same", .bool true),
      ("setattr", .str "URITemplate is immutable")]
  match other with
  | none => base
  | some o =>
    if t.source == o.source then
      base ++ [("equals_other", .bool true), ("hash_equals_other", .bool true)]
    else base ++ [("equals_other", .bool false)]

/-- The path argument of a match; a value that is not text cannot be cut. -/
def pathText : Value → Except Failure String
  | .str s => .ok s
  | v => .error (.noAttribute v.typeName "partition")

/-- The answer to a template request, or `none` when `op` names no template request. -/
def templateAnswer? (op : String) (req : Value) : Option Value :=
  let template := fun (_ : Unit) => itemOf req "template" >>= Template.ofValue
  match op with
  | "parse" =>
    some (ofOutcome (fun (t : Template) => [("parts", .list (t.parts.map partValue))])
      (template ()))
  | "template_info" =>
    some (ofOutcome (fun r => templateInfo r.1 r.2) (do
      let t ← template ()
      match field req "other" with
      | .none => pure (t, none)
      | o => pure (t, some (← Template.ofValue o))))
  | "expand" =>
    some (ofOutcome (fun s => [("value", .str s)]) (do
      let t ← template ()
      let b ← withObjects (field req "bindings")
      pure (t.expand b (field req "escape").truthy)))
  | "match" =>
    some (ofOutcome (fun r => [("value", r)]) (do
      let t ← template ()
      let path ← itemOf req "path" >>= pathText
      pure (match t.matchPath path with
        | some bs => bs.toValue
        | none => .none)))
  | "resolve" =>
    some (ofOutcome (fun v => [("value", v)]) (do
      let b ← withObjects (field req "bindings")
      match b, ← itemOf req "key_path" with
      | .none, _ => pure .none
      | b, .str path =>
        let v := b.resolve [] path
        match v.unencodable? with
        | some t => throw (.notSerializable t)
        | none => pure v
      | .map _, k@(.list _) | .map _, k@(.map _) => throw (.unhashable k.typeName)
      | _, k => throw (.noAttribute k.typeName "split")))
  | _ => none

end UrlRouting.Request
