import UrlRouting.Failure
import UrlRouting.Template.Basic

/-!
# Reading templates

The grammar of a template, over characters:

* template := (literal character | `{` expression `}` | `:` colon name)*, where a literal
  character is anything but `{` and `}`, and a `:` starts a colon variable exactly when a
  letter or `_` follows it;
* colon name := [A-Za-z_] [A-Za-z0-9_]*, as long as it goes;
* expression := [operator] spec (`,` spec)*, with the operators `+ # . / ; ? &`;
* spec := name [`:` [1-9] [0-9]{0,3} | `*`];
* name := unit+ (`.` unit+)*, where a unit is [A-Za-z0-9_] or `%` and two hexadecimal digits.

Reading goes left to right and stops at the first fault, at its position (counted in
characters from 0): a `{` with no `}` after it; the first `{` between a `{` and the next `}`;
an empty `{}` at its `{`; a `}` with no `{`; a kept operator, or an operator with no variable,
at the character after the `{`; and a specification that is not one at its first character.
Adjacent literal characters form one literal part.

## Main definitions

* `UrlRouting.Template.parseSpec?`: a variable specification, if the text is one.
* `UrlRouting.Template.parseExpression`: the part of the text between `{` and `}`.
* `UrlRouting.Template.parse`: the template of a text.
-/

namespace UrlRouting.Template

/-- ASCII letters, digits and `_`: the characters of names. -/
def isWordChar (c : Char) : Bool :=
  ('a' ≤ c && c ≤ 'z') || ('A' ≤ c && c ≤ 'Z') || ('0' ≤ c && c ≤ '9') || c == '_'

/-- ASCII letters and `_`: the characters a colon name starts with. -/
def isNameStart (c : Char) : Bool :=
  ('a' ≤ c && c ≤ 'z') || ('A' ≤ c && c ≤ 'Z') || c == '_'

/-- ASCII hexadecimal digits. -/
def isHexDigit (c : Char) : Bool :=
  ('0' ≤ c && c ≤ '9') || ('a' ≤ c && c ≤ 'f') || ('A' ≤ c && c ≤ 'F')

/-- ASCII decimal digits. -/
def isDecimalDigit (c : Char) : Bool := '0' ≤ c && c ≤ '9'

/-- Whether a list is made of name units: word characters and `%` with two hexadecimal
digits. -/
def isUnits : List Char → Bool
  | [] => true
  | '%' :: a :: b :: rest => isHexDigit a && isHexDigit b && isUnits rest
  | c :: rest => isWordChar c && isUnits rest

/-- Whether a text is a variable name: non-empty runs of units joined by single dots. -/
def isVarName (cs : List Char) : Bool :=
  (cs.splitOn '.').all fun seg => !seg.isEmpty && isUnits seg

/-- The value of a list of decimal digits. -/
def digitsValue (ds : List Char) : Nat :=
  ds.foldl (fun n d => n * 10 + (d.toNat - '0'.toNat)) 0

/-- The modifier written after a name, if the text is one: nothing, `*`, or `:` and one to
four digits not starting with `0`. -/
def parseModifier? : List Char → Option Modifier
  | [] => some .plain
  | ['*'] => some .explode
  | ':' :: ds =>
    if !ds.isEmpty && ds.length ≤ 4 && ds.all isDecimalDigit && ds.head? != some '0' then
      some (.maxLength (digitsValue ds))
    else none
  | _ => none

/-- The variable specification a text writes, if it writes one. -/
def parseSpec? (cs : List Char) : Option VarSpec :=
  let name := cs.takeWhile fun c => c != ':' && c != '*'
  let rest := cs.dropWhile fun c => c != ':' && c != '*'
  if isVarName name then
    (parseModifier? rest).map fun m => { name := String.ofList name, modifier := m }
  else none

/-- The specifications of the comma-separated pieces, the first starting at `offset`. -/
def parseSpecs (src : String) : Nat → List (List Char) → Except Failure (List VarSpec)
  | _, [] => .ok []
  | offset, piece :: pieces =>
    match parseSpec? piece with
    | some v => (v :: ·) <$> parseSpecs src (offset + piece.length + 1) pieces
    | none => .error (.template src offset (.invalidName (String.ofList piece)))

/-- The expression part for the text `inner` between a `{` at `start` and its `}`. -/
def parseExpression (src : String) (start : Nat) (inner : List Char) :
    Except Failure Part :=
  match inner with
  | [] => .error (.template src start .emptyExpression)
  | c :: rest =>
    if isReservedOperator c then .error (.template src (start + 1) (.reservedOperator c))
    else
      let (op, body, width) :=
        match Operator.ofChar? c with
        | some op => (op, rest, 1)
        | none => (Operator.simple, c :: rest, 0)
      if body.isEmpty then .error (.template src (start + 1) .missingName)
      else (Part.expression op ·) <$> parseSpecs src (start + 1 + width) (body.splitOn ',')

/-- The parts so far with the pending literal, kept reversed in `lit`, put in front. -/
def withLiteral (lit : List Char) (parts : List Part) : List Part :=
  if lit.isEmpty then parts else .literal (String.ofList lit.reverse) :: parts

/-- The parts of the characters `cs`, which start at position `pos` of the text `src`, after
the pending literal `lit` (reversed). -/
def scan (src : String) (cs : List Char) (pos : Nat) (lit : List Char) :
    Except Failure (List Part) :=
  match cs with
  | [] => .ok (withLiteral lit [])
  | '{' :: rest =>
    let inner := rest.takeWhile (· != '}')
    match h : rest.dropWhile (· != '}') with
    | [] => .error (.template src pos .unclosed)
    | _ :: after =>
      match inner.idxOf? '{' with
      | some k => .error (.template src (pos + 1 + k) .nested)
      | none => do
        let part ← parseExpression src pos inner
        have : after.length < rest.length + 1 := by
          have hle := (List.dropWhile_suffix (l := rest) (· != '}')).length_le
          rw [h] at hle
          simp at hle
          omega
        let more ← scan src after (pos + inner.length + 2) []
        pure (withLiteral lit (part :: more))
  | '}' :: _ => .error (.template src pos .unmatched)
  | ':' :: c :: rest =>
    if isNameStart c then
      let name := c :: rest.takeWhile isWordChar
      have : (rest.dropWhile isWordChar).length < rest.length + 2 := by
        have := (List.dropWhile_suffix (l := rest) isWordChar).length_le
        omega
      match scan src (rest.dropWhile isWordChar) (pos + 1 + name.length) [] with
      | .ok more => .ok (withLiteral lit (.colon (String.ofList name) :: more))
      | .error e => .error e
    else scan src (c :: rest) (pos + 1) (':' :: lit)
  | c :: rest => scan src rest (pos + 1) (c :: lit)
termination_by cs.length

/-- The template a text writes, or the first fault of the text. -/
def parse (src : String) : Except Failure Template :=
  (fun parts => { parts }) <$> scan src src.toList 0 []

/-- The template a value writes: a text is read, any other value is refused, quoted by its
written form. -/
def ofValue : Value → Except Failure Template
  | .str s => parse s
  | v => .error (.template v.repr 0 .notText)

end UrlRouting.Template
