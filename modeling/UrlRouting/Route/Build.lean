import UrlRouting.Method.Text
import UrlRouting.Route
import UrlRouting.Template.Parse

/-!
# Building routes

Routes are built by three constructions, from arguments of any shape, with checks in a fixed
order; the first check that fails is reported.

* A named route: the name is a non-empty text; the method is read; the mask is exactly one
  concrete method; the template is read. The method is GET when none is given.
* A class route: the class is a class; the method is read; the template is read.
* A relationship route: the relationship name is a non-empty text; the class is a class; the
  method is read; the template is read.

Class and relationship routes take every method when none is given. Reading a method accepts
a method text (`Method.ofString`) or a non-negative integer that is not a truth value, and
then validates the mask. A template is either already read, or a value read as a template
text. A class is either a class of the hierarchy or a value of another shape.

## Main definitions

* `UrlRouting.Route.ClassArg`, `UrlRouting.Route.TemplateArg`
* `UrlRouting.Route.readMethod`, `UrlRouting.Route.requireName`
* `UrlRouting.Route.named`, `UrlRouting.Route.forClass`, `UrlRouting.Route.forRelationship`
-/

namespace UrlRouting.Route

/-- The class argument of a construction: a class, or a value that is none. -/
inductive ClassArg where
  /-- A declared class. -/
  | known (cls : ClassRef)
  /-- A value that is not a class. -/
  | given (v : Value)

/-- The template argument of a construction: a template already read, or a value to read. -/
inductive TemplateArg where
  /-- A template already read. -/
  | parsed (t : Template)
  /-- A value read as a template text. -/
  | given (v : Value)

/-- The template of a template argument. -/
def TemplateArg.load : TemplateArg → Except Failure Template
  | .parsed t => .ok t
  | .given v => Template.ofValue v

/-- The mask of a method argument: a method text, or a non-negative integer; then validated. -/
def readMethod (v : Value) : Except Failure Method :=
  match v with
  | .str s => Method.ofString s >>= Method.validate
  | .int n => if 0 ≤ n then Method.validate ⟨n.toNat⟩ else .error (.methodType v)
  | _ => .error (.methodType v)

/-- A name argument that must be a non-empty text. -/
def requireName (role : NameRole) (v : Value) : Except Failure String :=
  match v with
  | .str s => if s.isEmpty then .error (.blankName role v) else .ok s
  | _ => .error (.blankName role v)

/-- A class argument that must be a class. -/
def requireClass : ClassArg → Except Failure ClassRef
  | .known c => .ok c
  | .given v => .error (.notAClass v)

/-- A named route, GET when no method is given. -/
def named (serial : Nat) (name : Value) (template : TemplateArg) (method : Option Value) :
    Except Failure Route := do
  let name ← requireName .route name
  let mask ← readMethod (method.getD (.int Method.get.bits))
  unless mask.isSpecific do throw (.notSpecific name mask)
  let t ← template.load
  pure { serial, identity := .named name, method := mask, template := t }

/-- A class route, for every method when none is given. -/
def forClass (serial : Nat) (cls : ClassArg) (template : TemplateArg) (method : Option Value) :
    Except Failure Route := do
  let cls ← requireClass cls
  let mask ← readMethod (method.getD (.int Method.any.bits))
  let t ← template.load
  pure { serial, identity := .ofClass cls, method := mask, template := t }

/-- A relationship route, for every method when none is given. -/
def forRelationship (serial : Nat) (name : Value) (cls : ClassArg) (template : TemplateArg)
    (method : Option Value) : Except Failure Route := do
  let name ← requireName .relationship name
  let cls ← requireClass cls
  let mask ← readMethod (method.getD (.int Method.any.bits))
  let t ← template.load
  pure { serial, identity := .relationship name cls, method := mask, template := t }

end UrlRouting.Route
