import UrlRouting.Instance

/-!
# Requests and answers

A request names an operation of the library in its field `op` and carries the arguments in
its other fields, as dynamic values. An optional field that is absent is nothing
(`field`); a required one fails with its key (`itemOf`), and a value that has no fields at all
fails by its type. Bindings arrive as plain data, in which a mapping whose only key is `$obj`,
holding a mapping, stands for an attribute object: a new instance of the attribute-object
class given those attributes in order, each as `Instance.set` sets it (`withObjects`).

The answer is a mapping: the fields of the result, or `error` with the class of the failure
and `message` with its text, and for a template failure also `position` and `reason`.

## Main definitions

* `UrlRouting.Request.field`, `UrlRouting.Request.itemOf`, `UrlRouting.Request.iterate`
* `UrlRouting.Request.withObjects`
* `UrlRouting.Request.ofFailure`, `UrlRouting.Request.ofOutcome`
-/

namespace UrlRouting.Request

/-- The field `k` of a request, or nothing. -/
def field (req : Value) (k : String) : Value :=
  match req with
  | .map entries => (Value.lookup k entries).getD .none
  | _ => .none

/-- The field `k` of a request, if it is there. -/
def field? (req : Value) (k : String) : Option Value :=
  match req with
  | .map entries => Value.lookup k entries
  | _ => none

/-- The field `k` that a request must have: a mapping without it fails with the key, and a
text, a list or a value with no items cannot be asked for a field at all. -/
def itemOf (req : Value) (k : String) : Except Failure Value :=
  match req with
  | .map entries =>
    match Value.lookup k entries with
    | some v => .ok v
    | none => .error (.missingKey (.str k))
  | .str _ => .error (.textIndex "str")
  | .list _ => .error (.textIndex "list")
  | v => .error (.notSubscriptable v.typeName)

/-- The items of a value gone through in order: a list's items, a mapping's keys and a text's
characters; other values cannot be gone through. -/
def iterate : Value → Except Failure (List Value)
  | .list items => .ok items
  | .map entries => .ok (entries.map fun e => .str e.1)
  | .str s => .ok (s.toList.map fun c => .str (String.singleton c))
  | v => .error (.notIterable v.typeName)

/-- Bindings as requests write them: a mapping whose only key is `$obj`, holding a mapping, is
an attribute object given those attributes, at any depth; each attribute's value is read
before it is set, and the first that cannot be read or set fails. -/
def withObjects : Value → Except Failure Value
  | .list items => .list <$> items.attach.mapM fun ⟨v, _⟩ => withObjects v
  | .map [("$obj", .map attrs)] => do
    let obj ← attrs.attach.foldlM (fun (o : Instance) ⟨(k, v), _⟩ => do o.set k (← withObjects v))
      (Instance.ofClass ClassInfo.attributeObject)
    pure obj.toValue
  | .map entries => .map <$> entries.attach.mapM fun ⟨(k, v), _⟩ => do pure (k, ← withObjects v)
  | v => pure v
termination_by v => sizeOf v
decreasing_by
  all_goals simp_wf
  · have := List.sizeOf_lt_of_mem ‹_ ∈ items›
    omega
  · have := List.sizeOf_lt_of_mem ‹_ ∈ attrs›
    simp at this
    omega
  · have := List.sizeOf_lt_of_mem ‹_ ∈ entries›
    simp at this
    omega

/-- The answer for a failure. -/
def ofFailure (f : Failure) : Value :=
  let base := [("error", Value.str f.kind), ("message", Value.str f.message)]
  match f with
  | .template _ position fault =>
    .map (base ++ [("position", .int position), ("reason", .str fault.reason)])
  | _ => .map base

/-- The answer for an outcome whose result fields are `fields`. -/
def ofOutcome {α : Type} (fields : α → List (String × Value)) : Except Failure α → Value
  | .ok a => .map (fields a)
  | .error f => ofFailure f

/-- A mask as an answer value. -/
def maskValue (m : Method) : Value := .int m.bits

end UrlRouting.Request
