import UrlRouting.Text.Utf8

/-!
# Percent-encoding

Encoding keeps the unreserved characters of URIs, the ASCII letters and digits and `_ . - ~`,
and, when asked, the reserved characters `: / ? # [ ] @ ! $ & ' ( ) * + , ; =`; it writes
every other character as its UTF-8 octets, each `%` and two upper-case hexadecimal digits.
The `%` itself is never kept.

Decoding reads `%` and two hexadecimal digits of either case as one octet and keeps every
other `%`. Each run of ASCII characters becomes octets that are read as UTF-8, with
ill-formed pieces replaced (`Utf8.decode`); a character outside ASCII stands for itself and
ends the run.

## Main definitions

* `UrlRouting.Text.Percent.encode`
* `UrlRouting.Text.Percent.decode`
-/

namespace UrlRouting.Text.Percent

/-- The unreserved characters: ASCII letters and digits, `_`, `.`, `-` and `~`. -/
def isUnreserved (c : Char) : Bool :=
  ('a' ≤ c && c ≤ 'z') || ('A' ≤ c && c ≤ 'Z') || ('0' ≤ c && c ≤ '9') ||
    c == '_' || c == '.' || c == '-' || c == '~'

/-- The reserved characters of URIs, the general and the sub-delimiters. -/
def isReserved (c : Char) : Bool :=
  c == ':' || c == '/' || c == '?' || c == '#' || c == '[' || c == ']' || c == '@' ||
    c == '!' || c == '$' || c == '&' || c == '\'' || c == '(' || c == ')' || c == '*' ||
    c == '+' || c == ',' || c == ';' || c == '='

/-- An upper-case hexadecimal digit. -/
def hexDigit (n : Nat) : Char :=
  if n < 10 then Char.ofNat ('0'.toNat + n) else Char.ofNat ('A'.toNat + n - 10)

/-- An octet as `%` and two upper-case hexadecimal digits. -/
def octetText (b : Nat) : List Char := ['%', hexDigit (b / 16), hexDigit (b % 16)]

/-- How encoding writes one character. -/
def encodeChar (keepReserved : Bool) (c : Char) : List Char :=
  if isUnreserved c || (keepReserved && isReserved c) then [c]
  else (Utf8.encodeChar c).flatMap octetText

/-- The percent-encoding of a text, keeping the reserved characters when asked. -/
def encode (keepReserved : Bool) (s : String) : String :=
  String.ofList (s.toList.flatMap (encodeChar keepReserved))

/-- The value of a hexadecimal digit of either case. -/
def hexValue? (c : Char) : Option Nat :=
  if '0' ≤ c && c ≤ '9' then some (c.toNat - '0'.toNat)
  else if 'a' ≤ c && c ≤ 'f' then some (c.toNat - 'a'.toNat + 10)
  else if 'A' ≤ c && c ≤ 'F' then some (c.toNat - 'A'.toNat + 10)
  else none

/-- Decodes characters after the octets `run` (reversed) of the current ASCII run. -/
def decodeFrom (run : List Nat) : List Char → List Char
  | [] => Utf8.decode run.reverse
  | '%' :: a :: b :: more =>
    match hexValue? a, hexValue? b with
    | some x, some y => decodeFrom ((x * 16 + y) :: run) more
    | _, _ => decodeFrom ('%'.toNat :: run) (a :: b :: more)
  | c :: rest =>
    if c.toNat < 0x80 then decodeFrom (c.toNat :: run) rest
    else Utf8.decode run.reverse ++ c :: decodeFrom [] rest
termination_by cs => cs.length

/-- The percent-decoding of a text. -/
def decode (s : String) : String := String.ofList (decodeFrom [] s.toList)

end UrlRouting.Text.Percent
