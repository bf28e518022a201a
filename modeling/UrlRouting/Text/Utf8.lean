/-!
# UTF-8

`encodeChar` writes a code point as one to four octets (RFC 3629). `decode` reads octets back
into characters; where the octets are not UTF-8, each maximal piece that starts a character
but cannot be completed, and each octet that starts none, becomes one replacement character
U+FFFD, and reading goes on at the octet that broke the character.

The octet after a lead octet is narrowed as the RFC requires: after `E0` it is `A0`–`BF`,
after `ED` it is `80`–`9F`, after `F0` it is `90`–`BF`, after `F4` it is `80`–`8F`, and
otherwise `80`–`BF`; `C0`, `C1` and `F5`–`FF` lead nothing.

A text cut to a number of octets keeps the characters that fit whole (`cutChars`); the
character cut through leaves its first octets, which no longer decode. Clipping a text to a
number of octets (`clip`) reads those octets back, so that a character cut through at the end
becomes one replacement character.

## Main definitions

* `UrlRouting.Text.Utf8.encodeChar`
* `UrlRouting.Text.Utf8.decode`
* `UrlRouting.Text.Utf8.cutChars`, `UrlRouting.Text.Utf8.clip`
-/

namespace UrlRouting.Text.Utf8

/-- The UTF-8 octets of a character. -/
def encodeChar (c : Char) : List Nat :=
  let n := c.toNat
  if n < 0x80 then [n]
  else if n < 0x800 then [0xC0 + n / 0x40, 0x80 + n % 0x40]
  else if n < 0x10000 then [0xE0 + n / 0x1000, 0x80 + n / 0x40 % 0x40, 0x80 + n % 0x40]
  else [0xF0 + n / 0x40000, 0x80 + n / 0x1000 % 0x40, 0x80 + n / 0x40 % 0x40, 0x80 + n % 0x40]

/-- The UTF-8 octets of a text. -/
def encode (s : String) : List Nat := s.toList.flatMap encodeChar

/-- What a lead octet starts: the number of octets still owed, the range of the next octet,
and the bits the lead octet carries. -/
def lead? (b : Nat) : Option (Nat × Nat × Nat × Nat) :=
  if 0xC2 ≤ b && b ≤ 0xDF then some (1, 0x80, 0xBF, b - 0xC0)
  else if b == 0xE0 then some (2, 0xA0, 0xBF, 0)
  else if 0xE1 ≤ b && b ≤ 0xEC then some (2, 0x80, 0xBF, b - 0xE0)
  else if b == 0xED then some (2, 0x80, 0x9F, 0xD)
  else if 0xEE ≤ b && b ≤ 0xEF then some (2, 0x80, 0xBF, b - 0xE0)
  else if b == 0xF0 then some (3, 0x90, 0xBF, 0)
  else if 0xF1 ≤ b && b ≤ 0xF3 then some (3, 0x80, 0xBF, b - 0xF0)
  else if b == 0xF4 then some (3, 0x80, 0x8F, 4)
  else none

/-- Reads `need` continuation octets, the first in `lo`–`hi`, onto the bits `v`: the code
point and the rest, or nothing and the rest from the octet that broke the character. -/
def takeTail : Nat → Nat → Nat → Nat → List Nat → Option Nat × List Nat
  | 0, _, _, v, bs => (some v, bs)
  | need + 1, lo, hi, v, b :: bs =>
    if lo ≤ b && b ≤ hi then takeTail need 0x80 0xBF (v * 0x40 + (b - 0x80)) bs
    else (none, b :: bs)
  | _ + 1, _, _, _, [] => (none, [])

theorem takeTail_length_le (need lo hi v : Nat) (bs : List Nat) :
    (takeTail need lo hi v bs).2.length ≤ bs.length := by
  induction bs generalizing need lo hi v with
  | nil => cases need <;> simp [takeTail]
  | cons b bs ih =>
    cases need with
    | zero => simp [takeTail]
    | succ need =>
      simp only [takeTail]
      split
      · exact Nat.le_succ_of_le (ih ..)
      · simp

/-- The replacement character. -/
def replacement : Char := Char.ofNat 0xFFFD

/-- The characters of UTF-8 octets, with ill-formed pieces replaced. -/
def decode (bytes : List Nat) : List Char :=
  match bytes with
  | [] => []
  | b :: bs =>
    if b < 0x80 then Char.ofNat b :: decode bs
    else
      match lead? b with
      | none => replacement :: decode bs
      | some (need, lo, hi, v) =>
        match h : takeTail need lo hi v bs with
        | (c, rest) =>
          have : rest.length < bs.length + 1 := by
            have hle := takeTail_length_le need lo hi v bs
            rw [h] at hle
            exact Nat.lt_succ_of_le hle
          (match c with
            | some n => Char.ofNat n
            | none => replacement) :: decode rest
termination_by bytes.length

/-- The characters that fit whole into `room` octets, and, when a character is cut through, its
position in octets (counted from `pos`) and the octets of it that fit. -/
def cutChars (room pos : Nat) : List Char → List Char × Option (Nat × List Nat)
  | [] => ([], none)
  | c :: cs =>
    let bs := encodeChar c
    if bs.length ≤ room then
      let (rest, cut) := cutChars (room - bs.length) (pos + bs.length) cs
      (c :: rest, cut)
    else if room = 0 then ([], none)
    else ([], some (pos, bs.take room))

/-- The text of the first `room` octets of a text's UTF-8 form. -/
def clip (room : Nat) (s : String) : String := String.ofList (decode ((encode s).take room))

end UrlRouting.Text.Utf8
