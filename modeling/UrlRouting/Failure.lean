import UrlRouting.Method.Basic
import UrlRouting.Text.Utf8
import UrlRouting.Value

/-!
# Failures

Every way an operation of the library can refuse its input is one constructor of `Failure`,
named for its cause. `Failure.kind` names the class of the failure as callers catch it, and
`Failure.message` is its text; a template failure also reports the position and the reason.

Template failures quote the template; a value that is not text is quoted by its written
form, so the message quotes that written form once more.

Messages about an object's attributes name its class by at most the first 100 octets of the
class's name, read back as text (`Text.Utf8.clip`).

## Main definitions

* `UrlRouting.TemplateFault`, `UrlRouting.TemplateFault.reason`
* `UrlRouting.NameRole`
* `UrlRouting.Failure`, `UrlRouting.Failure.kind`, `UrlRouting.Failure.message`
-/

namespace UrlRouting

/-- Why a template text is refused. -/
inductive TemplateFault where
  /-- The template is not a text at all. -/
  | notText
  /-- A `{` with no `}` after it. -/
  | unclosed
  /-- A `{` between a `{` and the next `}`. -/
  | nested
  /-- Nothing between `{` and `}`. -/
  | emptyExpression
  /-- A `}` with no `{` before it. -/
  | unmatched
  /-- An operator kept for later extensions. -/
  | reservedOperator (c : Char)
  /-- An operator with no variable after it. -/
  | missingName
  /-- A variable specification that is not one. -/
  | invalidName (text : String)
  deriving DecidableEq, Repr

/-- The reason a template fault gives in messages. -/
def TemplateFault.reason : TemplateFault → String
  | .notText => "Template must be a string"
  | .unclosed => "Unclosed '\x7b'"
  | .nested => "Nested '\x7b'"
  | .emptyExpression => "Empty expression '\x7b\x7d'"
  | .unmatched => "Unmatched '\x7d'"
  | .reservedOperator c => "Unsupported operator " ++ Text.quoted (String.singleton c)
  | .missingName => "Missing variable name"
  | .invalidName text => "Invalid variable name " ++ Text.quoted text

/-- Which name of a route a check is about. -/
inductive NameRole where
  /-- The name of a named route. -/
  | route
  /-- The relationship name of a relationship route. -/
  | relationship
  deriving DecidableEq, Repr

/-- How a name of the role is called in messages. -/
def NameRole.title : NameRole → String
  | .route => "Route name"
  | .relationship => "Relationship name"

/-- The causes for which an operation refuses its input. -/
inductive Failure where
  /-- A method mask with no bit. -/
  | emptyMask
  /-- A method mask with bits outside the known ones. -/
  | unknownBits (bits : Nat)
  /-- A method text with no method word in it. -/
  | noMethod (text : String)
  /-- A method word that names no method. -/
  | unknownMethod (word : String)
  /-- A value that is no method mask. -/
  | notAMethod (given : Value)
  /-- A template text refused at a position. -/
  | template (source : String) (position : Nat) (fault : TemplateFault)
  /-- A route name or relationship name that is not a non-empty text. -/
  | blankName (role : NameRole) (given : Value)
  /-- A route method that is neither a text nor a non-negative integer. -/
  | methodType (given : Value)
  /-- A named route whose mask is not exactly one concrete method. -/
  | notSpecific (name : String) (mask : Method)
  /-- A route class that is not a class. -/
  | notAClass (given : Value)
  /-- A route built without one of its three constructions. -/
  | directRoute
  /-- A route that conflicts with a registered one; both by their written forms. -/
  | duplicate (added registered : String)
  /-- A value offered to a route store that is not a route. -/
  | notARoute (given : Value)
  /-- A route to remove that is not registered, by its written form. -/
  | notRegistered (route : String)
  /-- A lookup that found no route, described. -/
  | notFound (what : String)
  /-- An attribute asked of a value whose type has none of that name. -/
  | noAttribute (typeName attr : String)
  /-- A public name that the library does not export. -/
  | noExport (name : Value)
  /-- A key a mapping does not have: an undeclared class, a route id never given, a missing
  field of a request. -/
  | missingKey (key : Value)
  /-- A class listing one base twice. -/
  | duplicateBase (name : String)
  /-- Bases that admit no linearisation, by the names that could not be placed. -/
  | noLinearisation (names : List String)
  /-- An item asked of a value that has no items, by its type's name. -/
  | notSubscriptable (typeName : String)
  /-- A search in a text for a value that is not a text, by its type's name. -/
  | notTextOperand (typeName : String)
  /-- Two values that cannot be added, by their types' names. -/
  | badAddition (left right : String)
  /-- A list or mapping used as a key, by its type's name. -/
  | unhashable (typeName : String)
  /-- A class name with a null character in it. -/
  | nullInName
  /-- A text or list indexed by a text, by its type's name. -/
  | textIndex (typeName : String)
  /-- A value that cannot be iterated over, by its type's name. -/
  | notIterable (typeName : String)
  /-- A key that a router configuration does not have. -/
  | unexpectedKeyword (name : String)
  /-- A router configuration that is not a mapping, by its type's name. -/
  | notAMapping (typeName : String)
  /-- An attribute name that is not a text, by its type's name. -/
  | attributeNameType (typeName : String)
  /-- An attribute a module does not have. -/
  | moduleAttribute (moduleName attr : String)
  /-- A value that an answer cannot carry, by its type's name. -/
  | notSerializable (typeName : String)
  /-- An instance's class set to a value that is not a class, by its type's name. -/
  | classAssignment (typeName : String)
  /-- An instance's namespace set to a value that is not a mapping, by its type's name. -/
  | namespaceAssignment (typeName : String)
  /-- A slot that cannot be set, by its name and the class that defines it. -/
  | readOnlySlot (name owner : String)
  /-- An attribute that an instance without a namespace cannot be given, by the instance's
  type name and the attribute. -/
  | readOnlyAttribute (typeName attr : String)
  /-- A route specification of no known kind. -/
  | unknownRouteKind (kind : Value)

namespace Failure

/-- The text of a failed linearisation in full: the remaining heads after the preamble. -/
def linearisationText (names : List String) : String :=
  "Cannot create a consistent method resolution\norder (MRO) for bases " ++ ", ".intercalate names

/-- The text of a failed linearisation as it is reported: its first 999 octets, and, when
that cuts a character, the position and octets of the piece that cannot be decoded. -/
def linearisationCut (names : List String) : String × Option (Nat × List Nat) :=
  let (cs, cut) := Text.Utf8.cutChars 999 0 (linearisationText names).toList
  (String.ofList cs, cut)

/-- The decoding failure of a piece of a character at the end of octets. -/
def endOfData (position : Nat) (octets : List Nat) : String :=
  let decimal := fun (n : Nat) => String.ofList (Nat.toDigits 10 n)
  match octets with
  | [b] =>
    "'utf-8' codec can't decode byte 0x" ++ Text.hexPadded 2 b ++ " in position " ++
      decimal position ++ ": unexpected end of data"
  | _ =>
    "'utf-8' codec can't decode bytes in position " ++ decimal position ++ "-" ++
      decimal (position + octets.length - 1) ++ ": unexpected end of data"

/-- The class of the failure, as callers catch it. -/
def kind : Failure → String
  | .emptyMask | .unknownBits _ | .noMethod _ | .unknownMethod _ | .blankName _ _
  | .methodType _ | .notSpecific _ _ | .notAClass _ => "InvalidRouteError"
  | .notAMethod _ | .nullInName | .unknownRouteKind _ => "ValueError"
  | .template _ _ _ => "TemplateSyntaxError"
  | .noLinearisation names =>
    if (linearisationCut names).2.isSome then "UnicodeDecodeError" else "TypeError"
  | .directRoute | .notARoute _ | .duplicateBase _
  | .notSubscriptable _ | .notTextOperand _ | .badAddition _ _ | .unhashable _
  | .textIndex _ | .notIterable _ | .unexpectedKeyword _ | .notAMapping _
  | .attributeNameType _ | .notSerializable _ | .classAssignment _
  | .namespaceAssignment _ => "TypeError"
  | .duplicate _ _ => "DuplicateRouteError"
  | .notRegistered _ | .notFound _ => "RouteNotFound"
  | .noAttribute _ _ | .noExport _ | .moduleAttribute _ _ | .readOnlySlot _ _
  | .readOnlyAttribute _ _ => "AttributeError"
  | .missingKey _ => "KeyError"

/-- The text of the failure. -/
def message : Failure → String
  | .emptyMask => "HTTP method mask must not be empty"
  | .unknownBits bits =>
    "Unknown bits in HTTP method mask 0x" ++ String.ofList (Nat.toDigits 16 bits)
  | .noMethod text => "No HTTP method in " ++ Text.quoted text
  | .unknownMethod word => "Unknown HTTP method " ++ Text.quoted word
  | .notAMethod given => given.repr ++ " is not a valid HTTPMethod"
  | .template source position fault =>
    fault.reason ++ " at position " ++ String.ofList (Nat.toDigits 10 position) ++ " in " ++
      Text.quoted source
  | .blankName role given => role.title ++ " must be a non-empty string, got " ++ given.repr
  | .methodType given => "Route method must be an HTTPMethod, got " ++ given.repr
  | .notSpecific name mask =>
    "Named route " ++ Text.quoted name ++ " needs exactly one HTTP method, got " ++ mask.repr
  | .notAClass given => "Route object class must be a class, got " ++ given.repr
  | .directRoute =>
    "Route cannot be instantiated directly. " ++
      "Use Route.named(), Route.for_class() or Route.for_relationship()."
  | .duplicate added registered =>
    "Cannot add " ++ added ++ ": conflicts with registered " ++ registered
  | .notARoute given => "Expected a Route, got " ++ given.repr
  | .notRegistered route => route ++ " is not registered"
  | .notFound what => what
  | .noAttribute typeName attr =>
    "'" ++ Text.Utf8.clip 100 typeName ++ "' object has no attribute '" ++ attr ++ "'"
  | .noExport name => "module 'routekit' has no attribute " ++ name.repr
  | .missingKey key => key.repr
  | .duplicateBase name => "duplicate base class " ++ name
  | .noLinearisation names =>
    match linearisationCut names with
    | (text, none) => text
    | (_, some (position, octets)) => endOfData position octets
  | .notSubscriptable typeName => "'" ++ typeName ++ "' object is not subscriptable"
  | .notTextOperand typeName => "'in <string>' requires string as left operand, not " ++ typeName
  | .unhashable typeName => "unhashable type: '" ++ typeName ++ "'"
  | .badAddition left right =>
    if left == "str" || left == "list" then
      "can only concatenate " ++ left ++ " (not \"" ++ right ++ "\") to " ++ left
    else "unsupported operand type(s) for +: '" ++ left ++ "' and '" ++ right ++ "'"
  | .nullInName => "type name must not contain null characters"
  | .textIndex typeName =>
    if typeName == "str" then "string indices must be integers, not 'str'"
    else typeName ++ " indices must be integers or slices, not str"
  | .notIterable typeName => "'" ++ typeName ++ "' object is not iterable"
  | .unexpectedKeyword name =>
    "RouterConfig.__init__() got an unexpected keyword argument '" ++ name ++ "'"
  | .notAMapping typeName =>
    "routekit.config.RouterConfig() argument after ** must be a mapping, not " ++ typeName
  | .attributeNameType typeName => "attribute name must be string, not '" ++ typeName ++ "'"
  | .moduleAttribute moduleName attr =>
    "module '" ++ moduleName ++ "' has no attribute '" ++ attr ++ "'"
  | .notSerializable typeName => "Object of type " ++ typeName ++ " is not JSON serializable"
  | .classAssignment typeName =>
    "__class__ must be set to a class, not '" ++ typeName ++ "' object"
  | .namespaceAssignment typeName =>
    "__dict__ must be set to a dictionary, not a '" ++ typeName ++ "'"
  | .readOnlySlot name owner =>
    "attribute '" ++ name ++ "' of '" ++ Text.Utf8.clip 100 owner ++ "' objects is not writable"
  | .readOnlyAttribute typeName attr =>
    "'" ++ Text.Utf8.clip 100 typeName ++ "' object attribute '" ++ attr ++ "' is read-only"
  | .unknownRouteKind kind => "unknown route kind " ++ kind.repr

end Failure

end UrlRouting
