import UrlRouting.Builtin
import UrlRouting.Value

/-!
# Attributes

Reading an attribute of a value follows the classes' namespaces. A class's namespace holds
what the class defines: for a built-in class what its table lists (`entryValue`); for a
declared class its module, its documentation, the namespace and weak reference slots it may
own, and the annotation table once it has been asked for one (`namespaceOf`). The namespaces of
a class's linearisation are searched in order, the nearest first (`inherited?`).

An object's attribute (`objectMember`) is, in this order: what a computed or stored attribute
of its class gives for it (`attributeOf`), its own attribute, or what its class defines,
bound to it when that is a method, a class method, a slot or a static function (`bindTo`). A
class's attribute (`classMember`) is what the class of classes computes for it (its name,
module, documentation, linearisation, bases, namespace, signature, annotations and layout:
`typeAttribute`), or else what it or its ancestors define, a class method bound to it
(`classBind`), or else an operation of the class of classes bound to it. A mapping, and a
class's namespace view, answer by key instead, and nothing has no attributes.

Descriptors and bound operations report the documentation and signature their class's table
gives for them (`definedDoc?`, `definedSignature?`).

Asking a declared class for its annotations stores an empty table in its namespace
(`annotationTarget?`); the classes asked so far are passed to every lookup as `asked`.

## Main definitions

* `UrlRouting.Value.numberPart?`, `UrlRouting.Value.entryValue`, `UrlRouting.Value.namespaceOf`,
  `UrlRouting.Value.inherited?`
* `UrlRouting.Value.definedDoc?`, `UrlRouting.Value.definedSignature?`
* `UrlRouting.Value.attributeOf`, `UrlRouting.Value.bindTo`, `UrlRouting.Value.classBind`,
  `UrlRouting.Value.layoutOf`, `UrlRouting.Value.typeAttribute`
* `UrlRouting.Value.objectMember`, `UrlRouting.Value.classMember`, `UrlRouting.Value.member`
* `UrlRouting.Value.annotationTarget?`
-/

namespace UrlRouting.Value

/-- The parts a number answers to by name: an integer (a truth value counts as `0` or `1`) has
`real`, `imag`, `numerator` and `denominator`, a floating value `real` and `imag`. -/
def numberPart? (v : Value) (key : String) : Option Value :=
  let integer := fun (n : Int) => match key with
    | "real" | "numerator" => some (Value.int n)
    | "imag" => some (.int 0)
    | "denominator" => some (.int 1)
    | _ => Option.none
  match v with
  | .int n => integer n
  | .bool b => integer (if b then 1 else 0)
  | .float x => match key with
    | "real" => some (.float x)
    | "imag" => some (.float .zero)
    | _ => Option.none
  | _ => Option.none

/-- A text that may be missing, as a value. -/
def ofText? : Option String → Value
  | some t => .str t
  | Option.none => .none

/-- What an entry of the built-in class `c`, whose table is `b`, holds: a descriptor, the
class's constructor bound to it, the class's documentation, or nothing. -/
def entryValue (b : BuiltinClass) (c : ClassInfo) (e : Entry) : Value :=
  match e.definition with
  | .descriptor k => .descriptor k e.name c
  | .constructor => .bound false e.name c (.cls c)
  | .documentation => ofText? b.doc
  | .nothing => .none

/-- The namespace of a class, given the declared classes that have been asked for their
annotations. A built-in class holds what its table lists. A declared class holds its module,
then its documentation if it was declared with some, then the slots it owns, then nothing as
its documentation if it has none, and last its annotation table once it has been asked for
one. -/
def namespaceOf (asked : List ClassRef) (c : ClassInfo) : List (String × Value) :=
  match c with
  | .builtin n =>
    match Builtin.find? n with
    | some b => b.entries.map fun e => (e.name, entryValue b c e)
    | Option.none => []
  | .declared r _ _ d =>
    [("__module__", .str c.definedIn)] ++
      (match d with
        | some t => [("__doc__", .str t)]
        | Option.none => []) ++
      (if c.ownsSlots then
        [("__dict__", .descriptor .getset "__dict__" c),
          ("__weakref__", .descriptor .getset "__weakref__" c)]
       else []) ++
      (match d with
        | some _ => []
        | Option.none => [("__doc__", .none)]) ++
      (if asked.contains r then [("__annotations__", .map [])] else [])

/-- What a class or one of its ancestors defines under `key`, the nearest first. -/
def inherited? (asked : List ClassRef) (c : ClassInfo) (key : String) : Option Value :=
  c.mro.findSome? fun a => lookup key (namespaceOf asked a)

/-- The documentation of what the class `owner` defines as `name`. -/
def definedDoc? (owner : ClassInfo) (name : String) : Option String :=
  match owner with
  | .builtin n => (Builtin.entry? n name).bind (·.doc)
  | .declared _ _ _ _ => owner.slotDoc? name

/-- The call signature of what the class `owner` defines as `name`. -/
def definedSignature? (owner : ClassInfo) (name : String) : Option String :=
  match owner with
  | .builtin n => (Builtin.entry? n name).bind (·.signature)
  | .declared _ _ _ _ => Option.none

/-- The value that a computed or stored attribute `name` gives for the object `v`, the
attribute being one that `v`'s class defines: its class, its namespace, no weak references; a
descriptor's or a bound operation's name, qualified name, owning class, documentation,
signature, object (none for a static function, though it is written and qualified by its
class) and module; a static function's function; or a number's parts. -/
def attributeOf (v : Value) (name : String) : Value :=
  match name, v with
  | "__class__", _ => .cls v.classOf
  | "__dict__", .inst _ (some attrs) => .map attrs
  | "__dict__", .descriptor .staticMethod _ _ => .map []
  | "__name__", .descriptor _ n _ | "__name__", .bound _ n _ _ => .str n
  | "__qualname__", .descriptor _ n o | "__qualname__", .bound true n o _ =>
    .str (o.name ++ "." ++ n)
  | "__qualname__", .bound false n _ self =>
    .str ((match self with
      | .cls c => c.name
      | s => s.classOf.name) ++ "." ++ n)
  | "__objclass__", .descriptor _ _ o | "__objclass__", .bound true _ o _ => .cls o
  | "__doc__", .descriptor _ n o | "__doc__", .bound _ n o _ => ofText? (definedDoc? o n)
  | "__text_signature__", .descriptor _ n o | "__text_signature__", .bound _ n o _ =>
    ofText? (definedSignature? o n)
  | "__self__", .bound _ n o self =>
    if (Builtin.entry? o.name n).map (·.definition) == some (.descriptor .staticMethod) then .none
    else self
  | "__func__", .descriptor .staticMethod n o | "__wrapped__", .descriptor .staticMethod n o =>
    .bound false n o (.cls o)
  | "__isabstractmethod__", .descriptor .staticMethod _ _ => .bool false
  | _, _ => (numberPart? v name).getD .none

/-- What a definition found in a class gives when read through the object `v`: a method bound
to the object, a class method bound to its class, a slot wrapped around the object, a static
function's function, and anything else as it is. -/
def bindTo (v : Value) : Value → Value
  | .descriptor .method n o => .bound false n o v
  | .descriptor .classMethod n o => .bound false n o (.cls v.classOf)
  | .descriptor .slotWrapper n o => .bound true n o v
  | .descriptor .staticMethod n o => .bound false n o (.cls o)
  | f => f

/-- The attribute `key` of an object that is neither nothing, a mapping, a namespace view nor a
class: a computed or stored attribute of its class, else its own attribute, else what its
class defines, bound to it. -/
def objectMember (asked : List ClassRef) (v : Value) (key : String) : Value :=
  let own := match v with
    | .inst _ (some attrs) => lookup key attrs
    | _ => Option.none
  match inherited? asked v.classOf key with
  | some (.descriptor k n o) =>
    if k.isData then attributeOf v n else own.getD (bindTo v (.descriptor k n o))
  | some f => own.getD f
  | Option.none => own.getD .none

/-- What a definition found in a class gives when read through the class `c` itself: a class
method bound to it, a static function's function, and anything else as it is. -/
def classBind (c : ClassInfo) : Value → Value
  | .descriptor .classMethod n o => .bound false n o (.cls c)
  | .descriptor .staticMethod n o => .bound false n o (.cls o)
  | f => f

/-- The layout of a class's objects. -/
def layoutOf : ClassInfo → Layout
  | .builtin n => ((Builtin.find? n).map (·.layout)).getD ⟨0, 0, 0, 0, 0⟩
  | .declared _ _ _ _ => Layout.declared

/-- The documentation a built-in class has of its own. -/
def builtinDoc? : ClassInfo → Option String
  | .builtin n => (Builtin.find? n).bind (·.doc)
  | .declared _ _ _ _ => Option.none

/-- What the class of classes computes as the attribute `name` of the class `c`: its name,
module, documentation (its own, or else what its namespace holds as such, read through the
class), linearisation, bases, first base, namespace view, signature, annotation table (only a
declared class has one), class, and the layout of its objects. -/
def typeAttribute (asked : List ClassRef) (c : ClassInfo) (name : String) : Value :=
  let layout := layoutOf c
  match name with
  | "__name__" | "__qualname__" => .str c.name
  | "__module__" => .str c.definedIn
  | "__doc__" => match builtinDoc? c with
    | some t => .str t
    | Option.none => ((lookup "__doc__" (namespaceOf asked c)).map (classBind c)).getD .none
  | "__mro__" => .tuple (c.mro.map .cls)
  | "__bases__" => .tuple (c.bases.map .cls)
  | "__base__" => match c.bases with
    | b :: _ => .cls b
    | [] => .none
  | "__dict__" => .proxy (namespaceOf asked c)
  | "__text_signature__" => match c with
    | .builtin n => ofText? ((Builtin.find? n).bind (·.signature))
    | .declared _ _ _ _ => .none
  | "__annotations__" => match c with
    | .declared _ _ _ _ => .map []
    | .builtin _ => .none
  | "__class__" => .cls (.builtin "type")
  | "__basicsize__" => .int layout.basicSize
  | "__itemsize__" => .int layout.itemSize
  | "__flags__" => .int layout.flags
  | "__weakrefoffset__" => .int layout.weakrefOffset
  | "__dictoffset__" => .int layout.dictOffset
  | _ => .none

/-- The attribute `key` of the class `c`: what the class of classes computes for it, else what
it or its ancestors define, else an operation of the class of classes bound to it. -/
def classMember (asked : List ClassRef) (c : ClassInfo) (key : String) : Value :=
  let ofType := inherited? asked (.builtin "type") key
  let fromClass := fun (_ : Unit) =>
    match inherited? asked c key with
    | some f => classBind c f
    | Option.none => match ofType with
      | some f => bindTo (.cls c) f
      | Option.none => .none
  match ofType with
  | some (.descriptor k n _) => if k.isData then typeAttribute asked c n else fromClass ()
  | _ => fromClass ()

/-- The value at one key: nothing stays nothing, a mapping or a namespace view gives its entry,
a class its attribute (`classMember`), and any other value its attribute (`objectMember`). -/
def member (asked : List ClassRef) (v : Value) (key : String) : Value :=
  match v with
  | .none => .none
  | .map entries | .proxy entries => (lookup key entries).getD .none
  | .cls c => classMember asked c key
  | v => objectMember asked v key

/-- The declared class that reading `key` of `v` asks for its annotations, if any. -/
def annotationTarget? (v : Value) (key : String) : Option ClassRef :=
  match v, key with
  | .cls (.declared r _ _ _), "__annotations__" => some r
  | _, _ => Option.none

end UrlRouting.Value
