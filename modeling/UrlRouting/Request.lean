import UrlRouting.Exports
import UrlRouting.Method.Text
import UrlRouting.Request.Basic
import UrlRouting.Request.Session
import UrlRouting.Request.Template
import UrlRouting.Router

/-!
# Answering requests

The answer to a request is the answer of the operation its field `op` names: method
requests, template requests, route and router requests, `join_url` (joining `path` onto
`base_url`, on values: `joinValues`) and `lazy_attr` (the module and name of an attribute of
the package). Every request needs an `op`; one that names no operation fails as a missing key
that quotes it.

## Main definitions

* `UrlRouting.Request.methodText`, `UrlRouting.Request.methodAnswer?`
* `UrlRouting.Request.answer`
-/

namespace UrlRouting.Request

/-!
### Method requests

`method_from_string` reads a method text, `string_from_method` writes a mask,
`validate_method` checks one, `method_info` describes one and `includes` asks whether a mask
includes a method. A mask argument is converted as `Method.ofValue` converts it, in a process
that has built every mask of known bits alone (`Method.everyKnownMask`); the method of
`includes` may also be a method text. Every argument is required, the mask first.
-/

/-- The mask of a method text; a value that is not text has no words to read. -/
def methodText : Value → Except Failure Method
  | .str s => Method.ofString s
  | v => .error (.noAttribute v.typeName "strip")

/-- The answer to a method request, or `none` when `op` names no method request. -/
def methodAnswer? (op : String) (req : Value) : Option Value :=
  let mask := fun (_ : Unit) => itemOf req "mask" >>= Method.ofValue
  match op with
  | "method_from_string" =>
    some (ofOutcome (fun m => [("mask", maskValue m)]) (itemOf req "value" >>= methodText))
  | "string_from_method" =>
    some (ofOutcome (fun s => [("value", .str s)]) (mask () >>= Method.toText))
  | "validate_method" =>
    some (ofOutcome (fun m => [("mask", maskValue m)]) (mask () >>= Method.validate))
  | "method_info" =>
    some (ofOutcome (fun (m : Method) =>
      [("mask", maskValue m), ("is_any", .bool m.isAny), ("is_specific", .bool m.isSpecific),
        ("concrete_methods", .list (m.concreteNames.map .str))]) (mask ()))
  | "includes" =>
    some (ofOutcome (fun b => [("value", .bool b)]) (do
      let m ← mask ()
      let k ← itemOf req "method" >>= Method.ofArgument
      pure (m.includes k)))
  | _ => none

/-! ### Every request -/

/-- A text argument, or the empty text for anything else. -/
def textArg (v : Value) : String :=
  match v with
  | .str s => s
  | _ => ""

/-- The answer to a request that is neither a method nor a template request. -/
def otherAnswer (op : Value) (req : Value) : Value :=
  match op with
  | .str "join_url" =>
    ofOutcome (fun v => [("value", v)]) (do
      let base ← itemOf req "base_url"
      joinValues base (← itemOf req "path"))
  | .str "lazy_attr" =>
    ofOutcome (fun (o : Option String × String) =>
        [("module", match o.1 with
          | some m => .str m
          | none => .none), ("name", .str o.2)])
      (itemOf req "name" >>= attributeOrigin)
  | _ => ofFailure (.missingKey (.str ("unknown op " ++ op.repr)))

/-- The answer to a request: a request without an operation fails with the missing key. -/
def answer (req : Value) : Value :=
  match itemOf req "op" with
  | .error f => ofFailure f
  | .ok opValue =>
    let op := textArg opValue
    match methodAnswer? op req with
    | some a => a
    | none =>
      match templateAnswer? op req with
      | some a => a
      | none =>
        match routingAnswer? op req with
        | some a => a
        | none => otherAnswer opValue req

end UrlRouting.Request
