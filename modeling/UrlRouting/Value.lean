import UrlRouting.Class
import UrlRouting.Decimal.Shortest
import UrlRouting.Text.Printable

/-!
# Dynamic values

Templates expand against values of a dynamic shape, and the public operations accept
arguments of any shape, refusing the wrong ones by the name of their type. A `Value` is
nothing, a truth value, an integer, a floating value, a text, a list, a mapping with text
keys in insertion order, a tuple, a read-only view of a class's namespace, an instance of a
class with its own namespace of attributes (instances of the root class have none), a class,
a descriptor through which a class defines a name, or an operation bound to an object.

Each value has a class (`classOf`) and a type name, a written form `repr` (texts quoted,
`None`, `True`, lists in brackets, mappings in braces, tuples in parentheses, classes as
`<class 'name'>`), a plain text `text` that is the text itself for a text and the written
form otherwise, and a truth value `truthy`: false exactly for nothing, false, zero, and
empty texts, lists, mappings, tuples and views.

## Main definitions

* `UrlRouting.Value`
* `UrlRouting.Value.typeName`, `UrlRouting.Value.repr`, `UrlRouting.Value.text`,
  `UrlRouting.Value.truthy`
* `UrlRouting.Value.lookup`: the value at a key of an entry list, first match.
-/

namespace UrlRouting

/-- A dynamic value: what bindings, arguments and answers are made of. -/
inductive Value where
  /-- Nothing. -/
  | none
  /-- A truth value. -/
  | bool (b : Bool)
  /-- An integer of any size. -/
  | int (n : Int)
  /-- A floating value. -/
  | float (x : Floating)
  /-- A text. -/
  | str (s : String)
  /-- A list. -/
  | list (items : List Value)
  /-- A mapping from texts, in insertion order. -/
  | map (entries : List (String × Value))
  /-- A tuple. -/
  | tuple (items : List Value)
  /-- A read-only view of a class's namespace, in its order. -/
  | proxy (entries : List (String × Value))
  /-- An instance of a class with its namespace of attributes, or none for the root class. -/
  | inst (cls : ClassInfo) (attrs : Option (List (String × Value)))
  /-- A class. -/
  | cls (c : ClassInfo)
  /-- The name `name` as the class `owner` defines it, of a kind of descriptor. -/
  | descriptor (kind : DescriptorKind) (name : String) (owner : ClassInfo)
  /-- The operation `name` that the class `owner` defines, bound to `self`: a built-in method,
  or a wrapper of a slot. -/
  | bound (wrapper : Bool) (name : String) (owner : ClassInfo) (self : Value)
  deriving Inhabited

namespace Value

/-- The name of the type of a value, as messages about wrong arguments give it. -/
def typeName : Value → String
  | .none => "NoneType"
  | .bool _ => "bool"
  | .int _ => "int"
  | .float _ => "float"
  | .str _ => "str"
  | .list _ => "list"
  | .map _ => "dict"
  | .tuple _ => "tuple"
  | .proxy _ => "mappingproxy"
  | .inst c _ => c.name
  | .cls _ => "type"
  | .descriptor k _ _ => k.typeName
  | .bound w _ _ _ => if w then "method-wrapper" else "builtin_function_or_method"

/-- The decimal text of an integer, with a minus sign when it is negative. -/
def intText (n : Int) : String :=
  (if n < 0 then "-" else "") ++ String.ofList (Nat.toDigits 10 n.natAbs)

/-- The written form of a value. -/
def repr : Value → String
  | .none => "None"
  | .bool b => if b then "True" else "False"
  | .int n => intText n
  | .float x => x.render
  | .str s => Text.quoted s
  | .list items => "[" ++ ", ".intercalate (items.attach.map fun ⟨v, _⟩ => repr v) ++ "]"
  | .map entries =>
    "\x7b" ++ ", ".intercalate (entries.attach.map fun ⟨(k, v), _⟩ =>
      Text.quoted k ++ ": " ++ repr v) ++ "\x7d"
  | .tuple items =>
    "(" ++ ", ".intercalate (items.attach.map fun ⟨v, _⟩ => repr v) ++
      (if items.length == 1 then ",)" else ")")
  | .proxy entries =>
    "mappingproxy(\x7b" ++ ", ".intercalate (entries.attach.map fun ⟨(k, v), _⟩ =>
      Text.quoted k ++ ": " ++ repr v) ++ "\x7d)"
  | .inst c _ =>
    "<" ++ (if c.definedIn == "builtins" then "" else c.definedIn ++ ".") ++ c.name ++ " object>"
  | .cls c => c.render
  | .descriptor .staticMethod n _ =>
    "<staticmethod(<built-in method " ++ n ++ " of type object>)>"
  | .descriptor k n c =>
    "<" ++ (match k with
      | .getset => "attribute"
      | .member => "member"
      | .method | .classMethod | .staticMethod => "method"
      | .slotWrapper => "slot wrapper") ++
      " " ++ Text.quoted n ++ " of " ++ Text.quoted c.name ++ " objects>"
  | .bound w n _ self =>
    (if w then "<method-wrapper " ++ Text.quoted n else "<built-in method " ++ n) ++ " of " ++
      (match self with
        | .cls _ => "type"
        | _ => typeName self) ++ " object>"
termination_by v => sizeOf v
decreasing_by
  all_goals simp_wf
  · have := List.sizeOf_lt_of_mem ‹_ ∈ items›
    omega
  · have := List.sizeOf_lt_of_mem ‹_ ∈ entries›
    simp at this
    omega
  · have := List.sizeOf_lt_of_mem ‹_ ∈ items›
    omega
  · have := List.sizeOf_lt_of_mem ‹_ ∈ entries›
    simp at this
    omega

/-- The plain text of a value: a text itself, and the written form of anything else. -/
def text : Value → String
  | .str s => s
  | v => v.repr

/-- The truth value: false for nothing, false, zero and empty texts, lists and mappings. -/
def truthy : Value → Bool
  | .none => false
  | .bool b => b
  | .int n => n != 0
  | .float x => !x.isZero
  | .str s => !s.isEmpty
  | .list items => !items.isEmpty
  | .map entries => !entries.isEmpty
  | .tuple items => !items.isEmpty
  | .proxy entries => !entries.isEmpty
  | .inst _ _ | .cls _ | .descriptor _ _ _ | .bound _ _ _ _ => true

/-- The class of a value: the built-in class of its kind, an instance's own class, and for a
class the class of classes. -/
def classOf : Value → ClassInfo
  | .none => .builtin "NoneType"
  | .bool _ => .builtin "bool"
  | .int _ => .builtin "int"
  | .float _ => .builtin "float"
  | .str _ => .builtin "str"
  | .list _ => .builtin "list"
  | .map _ => .builtin "dict"
  | .tuple _ => .builtin "tuple"
  | .proxy _ => .builtin "mappingproxy"
  | .inst c _ => c
  | .cls _ => .builtin "type"
  | .descriptor k _ _ => .builtin k.typeName
  | .bound w _ _ _ => .builtin (if w then "method-wrapper" else "builtin_function_or_method")

/-- The type name of the first part of a value that is not plain data, if there is one: plain
data is nothing, truth values, numbers, texts, and lists, tuples and mappings of plain data,
and an instance with a namespace of plain data. -/
def unencodable? : Value → Option String
  | .list items | .tuple items => items.attach.findSome? fun ⟨v, _⟩ => unencodable? v
  | .map entries | .inst _ (some entries) =>
    entries.attach.findSome? fun ⟨(_, v), _⟩ => unencodable? v
  | .none | .bool _ | .int _ | .float _ | .str _ => Option.none
  | v => some v.typeName
termination_by v => sizeOf v
decreasing_by
  all_goals simp_wf
  · have := List.sizeOf_lt_of_mem ‹_ ∈ items›
    omega
  · have := List.sizeOf_lt_of_mem ‹_ ∈ items›
    omega
  · have := List.sizeOf_lt_of_mem ‹_ ∈ entries›
    simp at this
    omega
  · have := List.sizeOf_lt_of_mem ‹_ ∈ entries›
    simp at this
    omega

/-- The integer a number is: a truth value is `0` or `1`, and a floating value counts when it
is whole. -/
def toInt? : Value → Option Int
  | .bool b => some (if b then 1 else 0)
  | .int n => some n
  | .float x => x.toInt?
  | _ => Option.none

/-- Whether two values are the same key of a mapping: texts by their characters, nothing with
nothing, and numbers by their value, so that `1`, `1.0` and `True` are one key. Requests carry
a single not-a-number value, so not-a-number is one key as well, though it equals nothing. -/
def sameKey : Value → Value → Bool
  | .str a, .str b => a == b
  | .none, .none => true
  | .float (.finite x), .float (.finite y) => x.sameNumber y
  | .float (.inf a), .float (.inf b) => a == b
  | .float .nan, .float .nan => true
  | a, b =>
    match a.toInt?, b.toInt? with
    | some m, some n => m == n
    | _, _ => false

/-- The value at key `k` of an entry list, the first entry with that key. -/
def lookup (k : String) : List (String × Value) → Option Value
  | [] => Option.none
  | (k', v) :: rest => if k' == k then some v else lookup k rest

end Value

end UrlRouting
