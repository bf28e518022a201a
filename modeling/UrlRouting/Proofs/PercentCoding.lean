import Mathlib
import UrlRouting.Text.Percent

/-!
# Percent-decoding undoes percent-encoding

UTF-8 reads every character back from its octets (`Utf8.decode_encodeChar`): the lead octet
says how many continuation octets follow and in which range the first of them lies, and the
ranges that RFC 3629 narrows hold exactly the octets of characters, since a character is never a
surrogate and never beyond U+10FFFF.

Decoding reads ASCII characters as octets and reads the octets back as UTF-8; an ASCII octet is
its own character, so a run of ASCII characters comes back as it was (`decode_ascii`). Only a
`%` starts an escape, so a text without `%` decodes to itself (`decodeFrom_eq_self`). Encoding
keeps ASCII characters other than `%` and writes every other character as the escapes of its
UTF-8 octets, so decoding an encoded text reads back the octets of the text
(`decodeFrom_encodeChars`) and gives the text (`decode_encode`).

Encoding that keeps no reserved character writes only ASCII letters and digits, `%`, and the
marks `_ . - ~` of the text itself (`mem_encode`).

## Main results

* `UrlRouting.Text.Utf8.decode_encodeChar`, `UrlRouting.Text.Utf8.decode_encode`
* `UrlRouting.Text.Percent.decode_ascii`, `UrlRouting.Text.Percent.decodeFrom_eq_self`
* `UrlRouting.Text.Percent.decode_encode`
* `UrlRouting.Text.Percent.mem_encode`
-/

namespace UrlRouting.Text

namespace Utf8

/-- A lead octet and continuation octets that complete a character decode to that character. -/
theorem decode_of_lead {b need lo hi v n : Nat} {bs rest : List Nat} (hb : 0x80 ≤ b)
    (hl : lead? b = some (need, lo, hi, v)) (ht : takeTail need lo hi v bs = (some n, rest)) :
    decode (b :: bs) = Char.ofNat n :: decode rest := by
  rw [decode.eq_2, if_neg (by omega)]
  split
  · rename_i heq
    rw [hl] at heq
    cases heq
  · rename_i heq
    rw [hl] at heq
    cases heq
    split
    rename_i c r heq
    rw [ht] at heq
    cases heq
    rfl

theorem takeTail_cont {need lo hi v b : Nat} {bs : List Nat} (h1 : lo ≤ b) (h2 : b ≤ hi) :
    takeTail (need + 1) lo hi v (b :: bs) =
      takeTail need 0x80 0xBF (v * 0x40 + (b - 0x80)) bs := by
  rw [takeTail.eq_2]
  simp [h1, h2]

theorem takeTail_zero (lo hi v : Nat) (bs : List Nat) : takeTail 0 lo hi v bs = (some v, bs) := by
  rw [takeTail.eq_1]

/-- The lead octet of a character of three octets, and the range of the octet after it, which
holds that octet: after `E0` only characters from U+0800 on, after `ED` none of the
surrogates. -/
theorem lead?_three {n : Nat} (h1 : 0x800 ≤ n) (h2 : n < 0x10000)
    (hv : n < 0xd800 ∨ (0xdfff < n ∧ n < 0x110000)) :
    ∃ lo hi, lead? (0xE0 + n / 0x1000) = some (2, lo, hi, n / 0x1000) ∧
      lo ≤ 0x80 + n / 0x40 % 0x40 ∧ 0x80 + n / 0x40 % 0x40 ≤ hi := by
  rw [lead?.eq_1, if_neg (by simp only [Bool.and_eq_true, decide_eq_true_eq]; omega)]
  by_cases h0 : n / 0x1000 = 0
  · rw [if_pos (by simp only [beq_iff_eq]; omega)]
    exact ⟨0xA0, 0xBF, by simp [h0], by omega, by omega⟩
  rw [if_neg (by simp only [beq_iff_eq]; omega)]
  by_cases h12 : n / 0x1000 ≤ 12
  · rw [if_pos (by simp only [Bool.and_eq_true, decide_eq_true_eq]; omega)]
    exact ⟨0x80, 0xBF, by simp, by omega, by omega⟩
  rw [if_neg (by simp only [Bool.and_eq_true, decide_eq_true_eq]; omega)]
  by_cases h13 : n / 0x1000 = 13
  · rw [if_pos (by simp only [beq_iff_eq]; omega)]
    exact ⟨0x80, 0x9F, by simp [h13], by omega, by omega⟩
  rw [if_neg (by simp only [beq_iff_eq]; omega),
    if_pos (by simp only [Bool.and_eq_true, decide_eq_true_eq]; omega)]
  exact ⟨0x80, 0xBF, by simp, by omega, by omega⟩

/-- The lead octet of a character of four octets, and the range of the octet after it, which
holds that octet: after `F0` only characters from U+10000 on, after `F4` none beyond
U+10FFFF. -/
theorem lead?_four {n : Nat} (h1 : 0x10000 ≤ n) (h2 : n < 0x110000) :
    ∃ lo hi, lead? (0xF0 + n / 0x40000) = some (3, lo, hi, n / 0x40000) ∧
      lo ≤ 0x80 + n / 0x1000 % 0x40 ∧ 0x80 + n / 0x1000 % 0x40 ≤ hi := by
  rw [lead?.eq_1, if_neg (by simp only [Bool.and_eq_true, decide_eq_true_eq]; omega),
    if_neg (by simp only [beq_iff_eq]; omega),
    if_neg (by simp only [Bool.and_eq_true, decide_eq_true_eq]; omega),
    if_neg (by simp only [beq_iff_eq]; omega),
    if_neg (by simp only [Bool.and_eq_true, decide_eq_true_eq]; omega)]
  by_cases h0 : n / 0x40000 = 0
  · rw [if_pos (by simp only [beq_iff_eq]; omega)]
    exact ⟨0x90, 0xBF, by simp [h0], by omega, by omega⟩
  rw [if_neg (by simp only [beq_iff_eq]; omega)]
  by_cases h3 : n / 0x40000 ≤ 3
  · rw [if_pos (by simp only [Bool.and_eq_true, decide_eq_true_eq]; omega)]
    exact ⟨0x80, 0xBF, by simp, by omega, by omega⟩
  rw [if_neg (by simp only [Bool.and_eq_true, decide_eq_true_eq]; omega),
    if_pos (by simp only [beq_iff_eq]; omega)]
  exact ⟨0x80, 0x8F, by simp; omega, by omega, by omega⟩

/-- Every character is read back from its octets. -/
theorem decode_encodeChar (c : Char) (bs : List Nat) :
    decode (encodeChar c ++ bs) = c :: decode bs := by
  have hv : c.toNat < 0xd800 ∨ (0xdfff < c.toNat ∧ c.toNat < 0x110000) := c.valid
  conv => rhs; rw [← Char.ofNat_toNat c]
  unfold encodeChar
  generalize c.toNat = n at hv ⊢
  dsimp only
  split_ifs with h1 h2 h3
  · -- one octet
    rw [List.singleton_append, decode.eq_2, if_pos h1]
  · -- two octets
    have hl : lead? (0xC0 + n / 0x40) = some (1, 0x80, 0xBF, n / 0x40) := by
      rw [lead?.eq_1, if_pos (by simp only [Bool.and_eq_true, decide_eq_true_eq]; omega)]
      simp
    simp only [List.cons_append, List.nil_append]
    refine decode_of_lead (by omega) hl ?_
    rw [takeTail_cont (by omega) (by omega), takeTail_zero]
    simp only [Prod.mk.injEq, Option.some.injEq, and_true]
    omega
  · -- three octets
    obtain ⟨lo, hi, hl, hlo, hhi⟩ := lead?_three (by omega) h3 hv
    simp only [List.cons_append, List.nil_append]
    refine decode_of_lead (by omega) hl ?_
    rw [takeTail_cont hlo hhi, takeTail_cont (by omega) (by omega), takeTail_zero]
    simp only [Prod.mk.injEq, Option.some.injEq, and_true]
    omega
  · -- four octets
    obtain ⟨lo, hi, hl, hlo, hhi⟩ := lead?_four (n := n) (by omega) (by omega)
    simp only [List.cons_append, List.nil_append]
    refine decode_of_lead (by omega) hl ?_
    rw [takeTail_cont hlo hhi, takeTail_cont (by omega) (by omega),
      takeTail_cont (by omega) (by omega), takeTail_zero]
    simp only [Prod.mk.injEq, Option.some.injEq, and_true]
    omega

theorem decode_encode (cs : List Char) : decode (cs.flatMap encodeChar) = cs := by
  induction cs with
  | nil => exact decode.eq_1
  | cons c cs ih => rw [List.flatMap_cons, decode_encodeChar, ih]

theorem encodeChar_lt (c : Char) : ∀ b ∈ encodeChar c, b < 0x100 := by
  have hv : c.toNat < 0xd800 ∨ (0xdfff < c.toNat ∧ c.toNat < 0x110000) := c.valid
  unfold encodeChar
  generalize c.toNat = n at hv
  dsimp only
  split_ifs <;> simp <;> omega

end Utf8

namespace Percent

/-- ASCII octets are read back as the characters they code. -/
theorem decode_ascii (bs : List Nat) (h : ∀ b ∈ bs, b < 0x80) :
    Utf8.decode bs = bs.map Char.ofNat := by
  induction bs with
  | nil => exact Utf8.decode.eq_1
  | cons b bs ih =>
    have hb : b < 128 := h b List.mem_cons_self
    rw [Utf8.decode.eq_2, if_pos hb, ih fun x hx => h x (List.mem_cons_of_mem b hx)]
    rfl

/-- Characters without `%` after an ASCII run are the run and then themselves: an ASCII character
joins the run, and any other closes it and stands for itself. -/
theorem decodeFrom_of_not_mem (run : List Nat) (cs : List Char) (hrun : ∀ b ∈ run, b < 0x80)
    (h : '%' ∉ cs) : decodeFrom run cs = run.reverse.map Char.ofNat ++ cs := by
  fun_induction decodeFrom run cs with
  | case1 run => simpa using decode_ascii run.reverse (by simpa using hrun)
  | case2 => simp at h
  | case3 => simp at h
  | case4 run c rest _ hc ih =>
    rw [ih (List.forall_mem_cons.2 ⟨hc, hrun⟩) fun hm => h (List.mem_cons_of_mem c hm)]
    simp [Char.ofNat_toNat]
  | case5 run c rest _ _ ih =>
    rw [decode_ascii _ (by simpa using hrun), ih (by simp) fun hm => h (List.mem_cons_of_mem c hm)]
    simp

theorem decodeFrom_eq_self {cs : List Char} (h : '%' ∉ cs) : decodeFrom [] cs = cs := by
  simpa using decodeFrom_of_not_mem [] cs (by simp) h

theorem hexValue?_hexDigit : ∀ k < 16, hexValue? (hexDigit k) = some k := by decide

/-- The escape of an octet is read as that octet. -/
theorem decodeFrom_octetText (run : List Nat) {b : Nat} (hb : b < 0x100) (rest : List Char) :
    decodeFrom run (octetText b ++ rest) = decodeFrom (b :: run) rest := by
  rw [octetText, List.cons_append, List.cons_append, List.cons_append, List.nil_append,
    decodeFrom.eq_2, hexValue?_hexDigit (b / 16) (by omega),
    hexValue?_hexDigit (b % 16) (by omega)]
  simp only
  rw [show b / 16 * 16 + b % 16 = b by omega]

theorem decodeFrom_octets (run : List Nat) (rest : List Char) :
    ∀ bs : List Nat, (∀ b ∈ bs, b < 0x100) →
      decodeFrom run (bs.flatMap octetText ++ rest) = decodeFrom (bs.reverse ++ run) rest := by
  intro bs
  induction bs generalizing run with
  | nil => simp
  | cons b bs ih =>
    intro hbs
    rw [List.flatMap_cons, List.append_assoc,
      decodeFrom_octetText run (hbs b List.mem_cons_self),
      ih (b :: run) fun x hx => hbs x (List.mem_cons_of_mem b hx)]
    simp

/-- The characters encoding keeps are ASCII, and none of them is `%`. -/
theorem kept_ascii {keep : Bool} {c : Char}
    (h : (isUnreserved c || (keep && isReserved c)) = true) : c.toNat < 0x80 ∧ c ≠ '%' := by
  refine ⟨?_, ?_⟩
  · -- every kept character is an ASCII range or an ASCII character: compare code points
    have hle : ∀ a b : Char, a ≤ b ↔ a.toNat ≤ b.toNat := fun _ _ => Iff.rfl
    simp only [isUnreserved, isReserved, Bool.or_eq_true, Bool.and_eq_true, decide_eq_true_eq,
      beq_iff_eq, hle, ← Char.toNat_inj] at h
    simp [Char.toNat_ofNat, Nat.isValidChar] at h
    omega
  · rintro rfl
    revert h
    cases keep <;> decide

/-- Decoding an encoded text reads back the UTF-8 octets of the text, after the octets of the
run. -/
theorem decodeFrom_encodeChars (keep : Bool) :
    ∀ (cs : List Char) (run : List Nat),
      decodeFrom run (cs.flatMap (encodeChar keep)) =
        Utf8.decode (run.reverse ++ cs.flatMap Utf8.encodeChar)
  | [], run => by simp [decodeFrom.eq_1]
  | c :: cs, run => by
    rw [List.flatMap_cons, List.flatMap_cons, encodeChar]
    split
    · -- a kept character is one ASCII octet
      rename_i hkeep
      obtain ⟨hascii, hne⟩ := kept_ascii hkeep
      rw [List.singleton_append, decodeFrom.eq_3 _ _ _ fun _ _ _ h _ => hne h, if_pos hascii,
        decodeFrom_encodeChars keep cs]
      simp [Utf8.encodeChar, hascii]
    · -- any other character is the escapes of its octets
      rw [decodeFrom_octets run _ _ (Utf8.encodeChar_lt c), decodeFrom_encodeChars keep cs]
      simp

/-- Decoding undoes encoding, whichever characters encoding keeps. -/
theorem decode_encode (keep : Bool) (s : String) : decode (encode keep s) = s := by
  rw [decode, encode, String.toList_ofList, decodeFrom_encodeChars keep s.toList [],
    List.reverse_nil, List.nil_append, Utf8.decode_encode, String.ofList_toList]

theorem encode_eq_empty {keep : Bool} {s : String} (h : encode keep s = "") : s = "" := by
  rw [← decode_encode keep s, h]
  simp [decode, decodeFrom.eq_1, Utf8.decode.eq_1]

/-! ### The characters encoding writes -/

theorem isUnreserved_iff (c : Char) :
    isUnreserved c = true ↔ c.isAlphanum = true ∨ c = '_' ∨ c = '.' ∨ c = '-' ∨ c = '~' := by
  have hle : ∀ a b : Char, a ≤ b ↔ a.toNat ≤ b.toNat := fun _ _ => Iff.rfl
  have hlo : ∀ n : UInt32, n ≤ c.val ↔ n.toNat ≤ c.toNat := fun _ => UInt32.le_iff_toNat_le
  have hhi : ∀ n : UInt32, c.val ≤ n ↔ c.toNat ≤ n.toNat := fun _ => UInt32.le_iff_toNat_le
  simp only [isUnreserved, Char.isAlphanum, Char.isAlpha, Char.isUpper, Char.isLower,
    Char.isDigit, Bool.or_eq_true, Bool.and_eq_true, decide_eq_true_eq, beq_iff_eq, hle,
    ge_iff_le, hlo, hhi, ← Char.toNat_inj]
  simp [Char.toNat_ofNat, Nat.isValidChar]
  omega

theorem hexDigit_isAlphanum : ∀ k < 16, (hexDigit k).isAlphanum = true := by decide

/-- Encoding without keeping the reserved characters writes ASCII letters and digits, `%`, and
the unreserved marks of the text. -/
theorem mem_encodeChar {d c : Char} (h : c ∈ encodeChar false d) :
    c.isAlphanum = true ∨ c = '%' ∨ (c = d ∧ (d = '_' ∨ d = '.' ∨ d = '-' ∨ d = '~')) := by
  unfold encodeChar at h
  split at h
  · rename_i hkeep
    rw [List.mem_singleton] at h
    subst h
    simp only [Bool.false_and, Bool.or_false] at hkeep
    rcases (isUnreserved_iff c).1 hkeep with h | h
    · exact .inl h
    · exact .inr (.inr ⟨rfl, h⟩)
  · -- an escape: `%` and two hexadecimal digits of an octet
    obtain ⟨b, hb, hc⟩ := List.mem_flatMap.1 h
    have hb' := Utf8.encodeChar_lt d b hb
    simp only [octetText, List.mem_cons, List.not_mem_nil, or_false] at hc
    rcases hc with rfl | rfl | rfl
    · exact .inr (.inl rfl)
    · exact .inl (hexDigit_isAlphanum _ (by omega))
    · exact .inl (hexDigit_isAlphanum _ (by omega))

theorem mem_encode {s : String} {c : Char} (h : c ∈ (encode false s).toList) :
    c.isAlphanum = true ∨ c = '%' ∨ (c ∈ s.toList ∧ (c = '_' ∨ c = '.' ∨ c = '-' ∨ c = '~')) := by
  rw [encode, String.toList_ofList] at h
  obtain ⟨d, hd, hc⟩ := List.mem_flatMap.1 h
  rcases mem_encodeChar hc with h | h | ⟨rfl, h⟩
  · exact .inl h
  · exact .inr (.inl h)
  · exact .inr (.inr ⟨hd, h⟩)

end Percent

end UrlRouting.Text
