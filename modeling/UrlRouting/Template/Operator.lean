/-!
# Expression operators

An expression of a URI template starts with an optional operator that fixes how its
variables expand (RFC 6570, appendix A) and which characters a matched value may hold:

| operator | first | separator | named | if empty | reserved kept | a value may hold |
|---|---|---|---|---|---|---|
| none | | `,` | no | | no | no `/`, `?`, `#` |
| `+` | | `,` | no | | yes | no `?`, `#` |
| `#` | `#` | `,` | no | | yes | anything |
| `.` | `.` | `.` | no | | no | no `/`, `?`, `#` |
| `/` | `/` | `/` | no | | no | no `?`, `#` |
| `;` | `;` | `;` | yes | | no | no `/`, `?`, `#` |
| `?` | `?` | `&` | yes | `=` | no | no `#` |
| `&` | `&` | `&` | yes | `=` | no | no `#` |

The characters `=`, `,`, `!`, `@` and `|` are kept for later operators and refused.

## Main definitions

* `UrlRouting.Template.Operator` with `symbol`, `first`, `separator`, `named`, `ifEmpty`,
  `keepsReserved`, `allows`.
* `UrlRouting.Template.Operator.ofChar?`, `UrlRouting.Template.isReservedOperator`
-/

namespace UrlRouting.Template

/-- The operator of an expression. -/
inductive Operator where
  /-- No operator: simple expansion. -/
  | simple
  /-- `+`: reserved expansion. -/
  | reserved
  /-- `#`: a fragment. -/
  | fragment
  /-- `.`: labels. -/
  | label
  /-- `/`: path segments. -/
  | segment
  /-- `;`: path parameters. -/
  | parameter
  /-- `?`: a query. -/
  | query
  /-- `&`: a query continued. -/
  | continuation
  deriving DecidableEq, Repr, Inhabited

namespace Operator

/-- The character that writes the operator; none for simple expansion. -/
def symbol? : Operator → Option Char
  | .simple => none
  | .reserved => some '+'
  | .fragment => some '#'
  | .label => some '.'
  | .segment => some '/'
  | .parameter => some ';'
  | .query => some '?'
  | .continuation => some '&'

/-- The operator a character writes, if it writes one. -/
def ofChar? : Char → Option Operator
  | '+' => some .reserved
  | '#' => some .fragment
  | '.' => some .label
  | '/' => some .segment
  | ';' => some .parameter
  | '?' => some .query
  | '&' => some .continuation
  | _ => none

/-- The text that writes the operator. -/
def symbol (op : Operator) : String :=
  match op.symbol? with
  | some c => String.singleton c
  | none => ""

/-- The character put before a non-empty expansion; none for simple and reserved expansion. -/
def first? : Operator → Option Char
  | .simple | .reserved => none
  | .fragment => some '#'
  | .label => some '.'
  | .segment => some '/'
  | .parameter => some ';'
  | .query => some '?'
  | .continuation => some '&'

/-- The character between the pieces of an expansion. -/
def separator : Operator → Char
  | .simple | .reserved | .fragment => ','
  | .label => '.'
  | .segment => '/'
  | .parameter => ';'
  | .query | .continuation => '&'

/-- Whether pieces are written `name=value`. -/
def named : Operator → Bool
  | .parameter | .query | .continuation => true
  | _ => false

/-- What follows the name of a named piece whose value is empty. -/
def ifEmpty : Operator → String
  | .query | .continuation => "="
  | _ => ""

/-- Whether escaping keeps the reserved characters of URIs. -/
def keepsReserved : Operator → Bool
  | .reserved | .fragment => true
  | _ => false

/-- Whether a matched value of the expression may hold the character. -/
def allows : Operator → Char → Bool
  | .simple, c | .label, c | .parameter, c => c != '/' && c != '?' && c != '#'
  | .reserved, c | .segment, c => c != '?' && c != '#'
  | .fragment, _ => true
  | .query, c | .continuation, c => c != '#'

end Operator

/-- Characters kept for later operators. -/
def isReservedOperator (c : Char) : Bool :=
  c == '=' || c == ',' || c == '!' || c == '@' || c == '|'

end UrlRouting.Template
