import UrlRouting.Failure

/-!
# Method masks as text

A method text is a list of words separated by runs of `|`, `,` and blank characters. The word
`*` is the wildcard; any other word names the member whose name is its full upper case, so
`get`, `Get` and `GET` name GET, and `any` names the wildcard. The mask of a text is the
union of its words. A text with no word, or with a word that names nothing, is refused; the
first such word is the one reported.

A valid mask is written back as `ANY` when it carries the wildcard, and otherwise as the
names of its concrete methods in declaration order joined by `|`.

The blank characters and the full upper case into ASCII that words are read with come first.

## Main definitions

* `UrlRouting.Text.isBlank`, `UrlRouting.Text.words`
* `UrlRouting.Text.upperAscii?`, `UrlRouting.Text.upperWord?`
* `UrlRouting.Method.validate`: refuses the empty mask and masks with unknown bits.
* `UrlRouting.Method.ofString`, `UrlRouting.Method.toText`
* `UrlRouting.Method.ofValue`: the mask a dynamic value stands for, given the masks the process
  has built (`UrlRouting.Method.everyKnownMask` when it has built them all).
-/

namespace UrlRouting.Text

/-!
### Blank characters and words

The blank characters are the Unicode white space of the character database together with
the four information separators U+001C to U+001F: the tab, line feed, vertical tab, form
feed and carriage return, the space, U+0085, the no-break space, U+1680, the spaces U+2000 to
U+200A, the line and paragraph separators, U+202F, U+205F and U+3000.

`words sep cs` cuts a character list into its maximal runs of characters that are not
separators. Splitting at every run of separators and dropping the empty pieces gives the
same list, so stripping blanks from the ends first changes nothing when blanks separate.
-/

/-- A character is blank when it is one of the white space characters listed above. -/
def isBlank (c : Char) : Bool :=
  let n := c.toNat
  (0x09 ≤ n && n ≤ 0x0D) || (0x1C ≤ n && n ≤ 0x20) || n == 0x85 || n == 0xA0 ||
    n == 0x1680 || (0x2000 ≤ n && n ≤ 0x200A) || n == 0x2028 || n == 0x2029 ||
    n == 0x202F || n == 0x205F || n == 0x3000

/-- The runs of non-separators, with `acc` the reversed run read so far. -/
def wordsFrom (sep : Char → Bool) : List Char → List Char → List (List Char)
  | acc, [] => if acc.isEmpty then [] else [acc.reverse]
  | acc, c :: cs =>
    if sep c then
      if acc.isEmpty then wordsFrom sep [] cs else acc.reverse :: wordsFrom sep [] cs
    else wordsFrom sep (c :: acc) cs

/-- The maximal runs of characters that are not separators, in order; none is empty. -/
def words (sep : Char → Bool) (cs : List Char) : List (List Char) :=
  wordsFrom sep [] cs

/-!
### Upper case into ASCII

Method names are ASCII capitals, so a word names a method exactly when the full Unicode
upper case of each of its characters is ASCII and the pieces spell the name. Outside ASCII,
ten characters have such an upper case: the sharp s (`SS`), the dotless i (`I`), the long s
(`S`) and the seven Latin ligatures U+FB00 to U+FB06.
-/

/-- The full upper case of `c` when all of it is ASCII, and `none` otherwise. -/
def upperAscii? (c : Char) : Option String :=
  let n := c.toNat
  if n < 0x80 then some (String.singleton c.toUpper)
  else if n == 0xDF then some "SS"
  else if n == 0x131 then some "I"
  else if n == 0x17F then some "S"
  else if n == 0xFB00 then some "FF"
  else if n == 0xFB01 then some "FI"
  else if n == 0xFB02 then some "FL"
  else if n == 0xFB03 then some "FFI"
  else if n == 0xFB04 then some "FFL"
  else if n == 0xFB05 || n == 0xFB06 then some "ST"
  else none

/-- The full upper case of a word when all of it is ASCII, and `none` otherwise. -/
def upperWord? : List Char → Option String
  | [] => some ""
  | c :: cs => do
    let head ← upperAscii? c
    let tail ← upperWord? cs
    pure (head ++ tail)

end UrlRouting.Text

/-! ### Method texts -/

namespace UrlRouting.Method

/-- The mask itself when it is not empty and carries only known bits. -/
def validate (m : Method) : Except Failure Method :=
  if m.bits = 0 then .error .emptyMask
  else if m.bits &&& knownBits ≠ m.bits then .error (.unknownBits m.bits)
  else .ok m

/-- Separators of method words: `|`, `,` and blank characters. -/
def isSeparator (c : Char) : Bool := c == '|' || c == ',' || Text.isBlank c

/-- The mask a single word names: the wildcard for `*`, else the member named by its upper
case. -/
def ofWord? (w : List Char) : Option Method :=
  if w = ['*'] then some any
  else do
    let upper ← Text.upperWord? w
    let member ← members.find? fun p => p.1 == upper
    pure ⟨member.2⟩

/-- The union of the masks named by the words, refusing the first word that names none. -/
def unionOfWords : Method → List (List Char) → Except Failure Method
  | m, [] => .ok m
  | m, w :: ws =>
    match ofWord? w with
    | some k => unionOfWords ⟨m.bits ||| k.bits⟩ ws
    | none => .error (.unknownMethod (String.ofList w))

/-- The mask of a method text. -/
def ofString (s : String) : Except Failure Method :=
  match Text.words isSeparator s.toList with
  | [] => .error (.noMethod s)
  | ws => unionOfWords ⟨0⟩ ws

/-- The text of a valid mask: `ANY`, or the concrete names joined by `|`. -/
def toText (m : Method) : Except Failure String :=
  (·.text) <$> validate m

/-- The mask of an integer, read as a flag type with 32 bit positions reads it: a non-negative
integer is its own bits; a negative one from `-2 ^ 32` on wraps around `2 ^ 32`, and one below
that around the least power of two above its magnitude. -/
def ofInt (n : Int) : Method :=
  if 0 ≤ n then ⟨n.toNat⟩
  else
    let m := (-n).toNat
    if m ≤ 4294967296 then ⟨4294967296 - m⟩
    else ⟨Nat.pow 2 (Nat.log2 m + 1) - m⟩

/-- The integers a process has built masks of, when every mask of known bits alone has been
built: the non-negative integers with known bits alone. The flag type keeps each mask it builds
under its integer only when the mask has known bits alone, so no process holds more than these
(up to the negative integers a mask was built from); a process that has just loaded the
flag type holds only the members, their concrete union and that union with the wildcard. -/
def everyKnownMask (n : Int) : Bool := 0 ≤ n && n.toNat &&& knownBits == n.toNat

/-- The mask a value stands for, when the masks built so far in the process are those of the
integers `built` holds: an integer or a truth value as its bits (`ofInt`), and a floating value
only when it is whole and a mask of its integer has been built before, since the flag type finds
a floating value among the masks it holds and builds none from it. -/
def ofValue (v : Value) (built : Int → Bool := everyKnownMask) : Except Failure Method :=
  match v with
  | .int n => .ok (ofInt n)
  | .bool b => .ok ⟨if b then 1 else 0⟩
  | .float x =>
    match x.toInt? with
    | some n => if built n then .ok (ofInt n) else .error (.notAMethod (.float x))
    | none => .error (.notAMethod (.float x))
  | v => .error (.notAMethod v)

/-- The mask a method argument stands for: a text is read as a method text, and any other
value as in `ofValue`. -/
def ofArgument (v : Value) (built : Int → Bool := everyKnownMask) : Except Failure Method :=
  match v with
  | .str s => ofString s
  | v => ofValue v built

end UrlRouting.Method
