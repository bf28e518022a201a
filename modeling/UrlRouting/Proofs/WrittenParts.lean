import Mathlib
import UrlRouting.Proofs.ExpandMatched
import UrlRouting.Proofs.TemplateReading

/-!
# What an expansion writes for plain values

Expand a template against a mapping that gives each variable a plain value: a non-empty text
for a variable that is not exploded, a non-empty list of non-empty texts for an exploded one,
every text made of ASCII letters and digits, or, when escaping, of any characters but the
unreserved marks `_ . - ~` that escaping would keep (`PlainText`, `Fits`).

Each variable then gives one piece per text, escaped and, under a named operator, named
(`specPieces_fits`); a variable part writes its first character and its pieces joined by the
separator (`Part.written`), and the template writes its parts in order
(`expandParts_written`). The body of a variable part holds only the characters it may write
(`Part.writes`): letters and digits, `%` when escaping, the separator when it has several
variables or an exploded one, and under a named operator `=` and the characters of its names
(`mem_body_writes`). Its operator allows all of them (`allows_of_writes`).

## Main definitions

* `UrlRouting.Template.PlainText`, `UrlRouting.Template.Fits`
* `UrlRouting.Template.Part.pieces`, `UrlRouting.Template.Part.body`,
  `UrlRouting.Template.Part.written`, `UrlRouting.Template.Part.writes`

## Main results

* `UrlRouting.Template.expandParts_written`
* `UrlRouting.Template.mem_body_writes`, `UrlRouting.Template.allows_of_writes`
-/

namespace UrlRouting.Template

open Grammar

/-! ### Plain values -/

/-- A text that expands and matches back as it is: not empty, and made of ASCII letters and
digits, or, when escaping, of any characters but the unreserved marks, which escaping keeps. -/
def PlainText (escape : Bool) (x : String) : Prop :=
  x ≠ "" ∧ ∀ c ∈ x.toList,
    if escape then c ≠ '_' ∧ c ≠ '.' ∧ c ≠ '-' ∧ c ≠ '~' else c.isAlphanum = true

instance (escape : Bool) (x : String) : Decidable (PlainText escape x) := by
  unfold PlainText
  infer_instance

/-- An item of an exploded list that expands and matches back as it is: a plain text. -/
def PlainItem (escape : Bool) : Value → Prop
  | .str y => PlainText escape y
  | _ => False

instance (escape : Bool) : DecidablePred (PlainItem escape) := fun v => by
  cases v <;> unfold PlainItem <;> infer_instance

/-- The value a variable has fits it: a plain text for a variable that is not exploded, a
non-empty list of plain texts for an exploded one. -/
def Fits (escape : Bool) (v : VarSpec) : Option Value → Prop
  | some (.str x) => v.explodes = false ∧ PlainText escape x
  | some (.list xs) => v.explodes = true ∧ xs ≠ [] ∧ ∀ x ∈ xs, PlainItem escape x
  | _ => False

instance (escape : Bool) (v : VarSpec) : DecidablePred (Fits escape v) := fun o => by
  rcases o with _ | ⟨_ | _ | _ | _ | _ | _ | _ | _ | _⟩ <;> unfold Fits <;> infer_instance

/-- The texts a value gives: a text, or the texts of the items of a list. -/
def valueTexts : Value → List String
  | .str x => [x]
  | .list xs => xs.map Value.text
  | _ => []

theorem PlainItem.eq_str {escape : Bool} {x : Value} (h : PlainItem escape x) :
    x = .str x.text := by
  cases x <;> first | rfl | exact absurd h id

/-- The items of a list of plain texts are the texts it gives. -/
theorem map_str_valueTexts {escape : Bool} {xs : List Value} (h : ∀ x ∈ xs, PlainItem escape x) :
    (valueTexts (.list xs)).map Value.str = xs := by
  simp only [valueTexts, List.map_map]
  conv_rhs => rw [← List.map_id xs]
  exact List.map_congr_left fun x hx => (h x hx).eq_str.symm

/-- The texts the value of a variable in `entries` gives, none when it has no value. -/
def VarSpec.texts (entries : List (String × Value)) (v : VarSpec) : List String :=
  ((Value.lookup v.name entries).map valueTexts).getD []

section Texts

variable {escape : Bool} {entries : List (String × Value)} {v : VarSpec}

theorem VarSpec.texts_plain (h : Fits escape v (Value.lookup v.name entries)) :
    ∀ x ∈ v.texts entries, PlainText escape x := by
  unfold VarSpec.texts
  generalize Value.lookup v.name entries = o at h
  rcases o with _ | ⟨_ | _ | _ | _ | x | xs | _ | _ | _⟩ <;> simp only [Fits] at h
  · simpa [valueTexts] using h.2
  · intro y hy
    simp only [Option.map_some, Option.getD_some, valueTexts, List.mem_map] at hy
    obtain ⟨x, hx, rfl⟩ := hy
    rw [(h.2.2 x hx).eq_str] at hx
    exact h.2.2 _ hx

theorem VarSpec.texts_ne_nil (h : Fits escape v (Value.lookup v.name entries)) :
    v.texts entries ≠ [] := by
  unfold VarSpec.texts
  generalize Value.lookup v.name entries = o at h
  rcases o with _ | ⟨_ | _ | _ | _ | x | xs | _ | _ | _⟩ <;> simp only [Fits] at h
  · simp [valueTexts]
  · simpa [valueTexts] using h.2.1

/-- A variable that is not exploded has a text, and gives it. -/
theorem VarSpec.texts_of_not_explodes (h : Fits escape v (Value.lookup v.name entries))
    (hv : v.explodes = false) :
    ∃ x, Value.lookup v.name entries = some (.str x) ∧ v.texts entries = [x] := by
  unfold VarSpec.texts
  generalize Value.lookup v.name entries = o at h
  rcases o with _ | ⟨_ | _ | _ | _ | x | xs | _ | _ | _⟩ <;> simp only [Fits] at h
  · exact ⟨x, rfl, rfl⟩
  · simp [hv] at h

/-- An exploded variable has a list, and gives the texts of its items. -/
theorem VarSpec.texts_of_explodes (h : Fits escape v (Value.lookup v.name entries))
    (hv : v.explodes = true) :
    Value.lookup v.name entries = some (.list ((v.texts entries).map Value.str)) := by
  unfold VarSpec.texts
  generalize Value.lookup v.name entries = o at h
  rcases o with _ | ⟨_ | _ | _ | _ | x | xs | _ | _ | _⟩ <;> simp only [Fits] at h
  · simp [hv] at h
  · simp [map_str_valueTexts h.2.2]

end Texts

/-! ### Escaped plain texts -/

section Escaped

variable {escape : Bool} {op : Operator} {x : String}

/-- An escaped plain text is written with letters and digits, and `%` when escaping. -/
theorem mem_escapeText (hx : PlainText escape x) (hkeep : escape = true → op.keepsReserved = false)
    {c : Char} (hc : c ∈ (op.escapeText escape x).toList) :
    c.isAlphanum = true ∨ (escape = true ∧ c = '%') := by
  cases escape with
  | false =>
    simp only [Operator.escapeText, Bool.false_eq_true, if_false] at hc
    simpa using (hx.2 c hc)
  | true =>
    simp only [Operator.escapeText, if_true, hkeep rfl] at hc
    rcases Text.Percent.mem_encode hc with h | h | ⟨hmem, hmark⟩
    · exact .inl h
    · exact .inr ⟨rfl, h⟩
    · have hnot := hx.2 c hmem
      simp only [if_true] at hnot
      rcases hmark with rfl | rfl | rfl | rfl <;> simp at hnot

theorem decoded_escapeText (hx : PlainText escape x) :
    decoded (op.escapeText escape x).toList = x := by
  cases escape with
  | false =>
    have hpct : '%' ∉ x.toList := fun h => by simpa using hx.2 '%' h
    simp [Operator.escapeText, decoded_eq_ofList hpct]
  | true =>
    rw [Operator.escapeText, if_pos rfl]
    exact Text.Percent.decode_encode op.keepsReserved x

theorem escapeText_ne_empty (hx : PlainText escape x) : op.escapeText escape x ≠ "" := by
  cases escape with
  | false => simpa [Operator.escapeText] using hx.1
  | true =>
    simp only [Operator.escapeText, if_true]
    exact fun h => hx.1 (Text.Percent.encode_eq_empty h)

end Escaped

/-! ### The pieces and the body of a part -/

section Written

variable (escape : Bool) (entries : List (String × Value))

/-- The pieces a variable part writes when each variable has its value in `entries`: each
text of the value, escaped, and named by the variable under a named operator. -/
def Part.pieces (p : Part) : List String :=
  p.specs.flatMap fun v =>
    (v.texts entries).map fun x => p.operator.piece v.name (p.operator.escapeText escape x)

/-- The body a variable part writes: its pieces joined by the operator's separator. -/
def Part.body (p : Part) : List Char :=
  [p.operator.separator].intercalate ((p.pieces escape entries).map String.toList)

/-- The characters a part writes: a literal's text, and a variable part's first character
and body. -/
def Part.written (p : Part) : List Char :=
  if p.isVariable then p.operator.first?.toList ++ p.body escape entries else p.value.toList

end Written

/-- The characters a variable part may write: ASCII letters and digits, `%` when escaping,
its separator when it has several variables or an exploded one, and under a named operator
`=` and the characters of its names. -/
def Part.writes (escape : Bool) (p : Part) (c : Char) : Bool :=
  c.isAlphanum || (escape && c == '%') ||
    ((decide (2 ≤ p.specs.length) || p.specs.any VarSpec.explodes) &&
      c == p.operator.separator) ||
    (p.operator.named && (c == '=' || p.specs.any fun v => v.name.toList.contains c))

/-- The variables of a part, as they expand and match back: declared by the reader, without
length modifiers, an exploded one alone in its part, each with a value that fits it; names
without `%` under a named operator, and no operator that keeps reserved characters when
escaping. -/
structure Part.Faithful (escape : Bool) (entries : List (String × Value)) (p : Part) : Prop where
  declared : p.Declared
  plain : ∀ v ∈ p.specs, v.maxLength? = none
  sole : ∀ v ∈ p.specs, v.explodes = true → p.specs = [v]
  fits : ∀ v ∈ p.specs, Fits escape v (Value.lookup v.name entries)
  names : p.operator.named = true → ∀ v ∈ p.specs, '%' ∉ v.name.toList
  keeps : escape = true → p.operator.keepsReserved = false

section Faithful

variable {escape : Bool} {entries : List (String × Value)}

/-- A variable with a value that fits it gives one piece for each text of the value, whatever
was asked before it. -/
theorem specPieces_fits {op : Operator} {v : VarSpec} (asked : List ClassRef)
    (hfit : Fits escape v (Value.lookup v.name entries)) (hplain : v.maxLength? = none) :
    specPieces op escape asked (.map entries) v =
      (v.texts entries).map fun x => op.piece v.name (op.escapeText escape x) := by
  cases hv : Value.lookup v.name entries with
  | none => simp [hv, Fits] at hfit
  | some val =>
    have hres : Value.resolve asked (.map entries) v.name = val := by
      simp [Value.resolve, hv]
    rw [hv] at hfit
    rcases val with _ | _ | _ | _ | x | xs | _ | _ | _ <;> simp only [Fits] at hfit
    · simp [specPieces, hres, hplain, expansionText, Value.text, VarSpec.texts, hv, valueTexts]
    · -- an exploded list of texts: one piece per item
      have hkeep : xs.filter (fun v => !isNothing v) = xs := by
        apply List.filter_eq_self.2
        intro x hx
        rw [(hfit.2.2 x hx).eq_str]
        rfl
      have hitems : ∀ x ∈ xs, expansionText x = x.text := by
        intro x hx
        rw [(hfit.2.2 x hx).eq_str]
        rfl
      simp only [specPieces, hres, hkeep, hfit.1, List.isEmpty_eq_false_iff.2 hfit.2.1,
        Bool.false_eq_true, if_false, if_true, VarSpec.texts, hv, Option.map_some,
        Option.getD_some, valueTexts, List.map_map]
      exact List.map_congr_left fun x hx => by simp [hitems x hx]

theorem Part.Faithful.pieces_ne_nil {p : Part} (h : p.Faithful escape entries) :
    p.pieces escape entries ≠ [] := by
  obtain ⟨v, hv⟩ := List.exists_mem_of_ne_nil _ h.declared.specs_ne_nil
  obtain ⟨x, hx⟩ := List.exists_mem_of_ne_nil _ (VarSpec.texts_ne_nil (h.fits v hv))
  exact List.ne_nil_of_mem (List.mem_flatMap.2 ⟨v, hv, List.mem_map_of_mem hx⟩)

/-- A variable part writes its first character and its body. -/
theorem expandIn_written {p : Part} (hv : p.isVariable = true) (h : p.Faithful escape entries)
    (asked : List ClassRef) :
    (p.expandIn (.map entries) escape asked).1.toList = p.written escape entries := by
  have hpieces : (specsPieces p.operator escape (.map entries) asked p.specs).1 =
      p.pieces escape entries :=
    specsPieces_fst_eq_flatMap _ p.specs asked fun v hv a =>
      specPieces_fits a (h.fits v hv) (h.plain v hv)
  rw [expandIn_fst_toList hv, hpieces, if_neg h.pieces_ne_nil, Part.written, if_pos hv,
    Part.body]

/-- Parts whose variable parts are faithful write their characters in order. -/
theorem expandParts_written :
    ∀ (parts : List Part) (asked : List ClassRef),
      (∀ p ∈ parts, p.isVariable = true → p.Faithful escape entries) →
        (expandParts (.map entries) escape asked parts).1.toList =
          parts.flatMap (Part.written escape entries)
  | [], _, _ => rfl
  | p :: ps, asked, h => by
    have ih := expandParts_written ps (p.expandIn (.map entries) escape asked).2
      fun q hq => h q (List.mem_cons_of_mem p hq)
    have hhead : (p.expandIn (.map entries) escape asked).1.toList = p.written escape entries := by
      cases hv : p.isVariable with
      | true => exact expandIn_written hv (h p List.mem_cons_self hv) asked
      | false =>
        obtain ⟨text, rfl⟩ := Part.eq_literal_of_isVariable_eq_false hv
        simp [Part.expandIn, Part.written, Part.isVariable, Part.value]
    show ((p.expandIn (.map entries) escape asked).1 ++
      (expandParts (.map entries) escape (p.expandIn (.map entries) escape asked).2 ps).1).toList = _
    rw [String.toList_append, hhead, ih, List.flatMap_cons]

/-- A character of pieces joined by a separator is the separator, between two pieces, or a
character of a piece. -/
theorem mem_intercalate_cases {sep : Char} :
    ∀ {L : List (List Char)} {c : Char}, c ∈ [sep].intercalate L →
      (c = sep ∧ 2 ≤ L.length) ∨ ∃ l ∈ L, c ∈ l
  | [], _, h => by simp at h
  | [x], _, h => .inr ⟨x, List.mem_singleton_self x, by simpa using h⟩
  | x :: y :: rest, c, h => by
    rw [List.intercalate_cons_cons] at h
    simp only [List.mem_append, List.mem_singleton] at h
    rcases h with (h | rfl) | h
    · exact .inr ⟨x, List.mem_cons_self, h⟩
    · exact .inl ⟨rfl, by simp⟩
    · rcases mem_intercalate_cases h with ⟨rfl, _⟩ | ⟨l, hl, hc⟩
      · exact .inl ⟨rfl, by simp⟩
      · exact .inr ⟨l, List.mem_cons_of_mem x hl, hc⟩

/-- A declared part with fewer than two variables has exactly one. -/
theorem Part.Declared.eq_singleton {p : Part} (hd : p.Declared) (hone : p.specs.length < 2) :
    ∃ v, p.specs = [v] := by
  rcases hs : p.specs with _ | ⟨v, _ | ⟨w, ws⟩⟩
  · exact absurd hs hd.specs_ne_nil
  · exact ⟨v, rfl⟩
  · rw [hs] at hone
    simp at hone

/-- A single variable that is not exploded writes one piece. -/
theorem Part.Faithful.pieces_length {p : Part} (h : p.Faithful escape entries)
    (hone : p.specs.length < 2) (hx : ∀ v ∈ p.specs, v.explodes = false) :
    (p.pieces escape entries).length = 1 := by
  obtain ⟨v, hspecs⟩ := h.declared.eq_singleton hone
  have hv : v ∈ p.specs := by simp [hspecs]
  obtain ⟨x, _, htexts⟩ := VarSpec.texts_of_not_explodes (h.fits v hv) (hx v hv)
  simp [Part.pieces, hspecs, htexts]

/-- The body of a faithful part holds only characters the part may write. -/
theorem mem_body_writes {p : Part} (h : p.Faithful escape entries) {c : Char}
    (hc : c ∈ p.body escape entries) : p.writes escape c = true := by
  rcases mem_intercalate_cases hc with ⟨rfl, hlen⟩ | ⟨l, hl, hcl⟩
  · -- the separator stands between two pieces, so the part has several of them
    have hmany : 2 ≤ p.specs.length ∨ ∃ v ∈ p.specs, v.explodes = true := by
      by_contra hnot
      simp only [not_or, not_le, not_exists, not_and, Bool.not_eq_true] at hnot
      have hone := h.pieces_length hnot.1 hnot.2
      simp [hone] at hlen
    simp only [Part.writes, beq_self_eq_true, Bool.and_true, Bool.or_eq_true, decide_eq_true_eq,
      List.any_eq_true]
    exact .inl (.inr hmany)
  · obtain ⟨q, hq, rfl⟩ := List.mem_map.1 hl
    obtain ⟨v, hv, hq⟩ := List.mem_flatMap.1 hq
    obtain ⟨x, hx, rfl⟩ := List.mem_map.1 hq
    have hplain := VarSpec.texts_plain (h.fits v hv) x hx
    have hval : ∀ d ∈ (p.operator.escapeText escape x).toList, p.writes escape d = true := by
      intro d hd
      rcases mem_escapeText hplain h.keeps hd with hd | ⟨rfl, rfl⟩ <;> simp [Part.writes, hd]
    cases hn : p.operator.named with
    | false =>
      simp only [Operator.piece, hn, Bool.false_eq_true, if_false] at hcl
      exact hval c hcl
    | true =>
      have hne : (p.operator.escapeText escape x).isEmpty = false := by
        simpa using escapeText_ne_empty hplain
      simp only [Operator.piece, hn, if_true, Operator.namedPiece, hne, Bool.false_eq_true,
        if_false, String.toList_append, List.mem_append] at hcl
      rcases hcl with (hcl | hcl) | hcl
      · simp only [Part.writes, hn, Bool.true_and, Bool.or_eq_true, List.any_eq_true,
          List.contains_iff_mem]
        exact .inr (.inr ⟨v, hv, hcl⟩)
      · have heq : c = '=' := by simpa using hcl
        subst heq
        simp [Part.writes, hn]
      · exact hval c hcl

/-- The body of a faithful part is not empty. -/
theorem Part.Faithful.body_ne_nil {p : Part} (h : p.Faithful escape entries) :
    p.body escape entries ≠ [] := by
  obtain ⟨q, hq⟩ := List.exists_mem_of_ne_nil _ h.pieces_ne_nil
  obtain ⟨v, hv, hq⟩ := List.mem_flatMap.1 hq
  obtain ⟨x, hx, rfl⟩ := List.mem_map.1 hq
  have hplain := VarSpec.texts_plain (h.fits v hv) x hx
  have hpiece : (p.operator.piece v.name (p.operator.escapeText escape x)).toList ≠ [] := by
    have hne : p.operator.escapeText escape x ≠ "" := escapeText_ne_empty hplain
    simp only [Operator.piece, Operator.namedPiece]
    split <;> simp_all
  obtain ⟨c, hc⟩ := List.exists_mem_of_ne_nil _ hpiece
  exact List.ne_nil_of_mem (mem_intercalate_of_mem (List.mem_map_of_mem
    (List.mem_flatMap.2 ⟨v, hv, List.mem_map_of_mem hx⟩)) c hc)

end Faithful

/-- An operator allows every character but `/`, `?` and `#`. -/
theorem Operator.allows_of_ne {op : Operator} {c : Char} (h1 : c ≠ '/') (h2 : c ≠ '?')
    (h3 : c ≠ '#') : op.allows c = true := by
  cases op <;> simp [Operator.allows, h1, h2, h3]

theorem Operator.allows_separator (op : Operator) : op.allows op.separator = true := by
  cases op <;> decide

/-- A character a declared part may write is its separator, or none of `/`, `?` and `#`. -/
theorem Part.writes_delims {escape : Bool} {p : Part} (hd : p.Declared) {c : Char}
    (h : p.writes escape c = true) : c = p.operator.separator ∨ (c ≠ '/' ∧ c ≠ '?' ∧ c ≠ '#') := by
  simp only [Part.writes, Bool.or_eq_true, Bool.and_eq_true, beq_iff_eq, List.any_eq_true,
    List.contains_iff_mem] at h
  rcases h with ((halnum | ⟨_, rfl⟩) | ⟨_, rfl⟩) | ⟨_, rfl | ⟨v, hv, hc⟩⟩
  · -- letters and digits are none of the three
    refine .inr ⟨?_, ?_, ?_⟩ <;> rintro rfl <;> revert halnum <;> decide
  · exact .inr (by decide)
  · exact .inl rfl
  · exact .inr (by decide)
  · rcases hd.name_chars v hv c hc with hu | rfl
    · have hop := hu.not_operator
      simp only [IsOperatorChar, List.mem_cons, List.not_mem_nil, or_false, not_or] at hop
      exact .inr ⟨hop.2.2.2.1, hop.2.2.2.2.2.1, hop.2.1⟩
    · exact .inr (by decide)

/-- The operator of a declared part allows every character the part may write. -/
theorem allows_of_writes {escape : Bool} {p : Part} (hd : p.Declared) {c : Char}
    (h : p.writes escape c = true) : p.operator.allows c = true := by
  rcases p.writes_delims hd h with rfl | ⟨h1, h2, h3⟩
  · exact p.operator.allows_separator
  · exact Operator.allows_of_ne h1 h2 h3

end UrlRouting.Template
