import Mathlib
import UrlRouting.Proofs.TemplateReading

/-!
# Reading a template is lossless and canonical

Reading a text gives a template exactly when the text is the template's text and its parts
have the shape reading gives (`parse_eq_ok_iff`). So reading loses no character, and reading
the text of parts of that shape gives the same parts back.

The shape (`Canonical`) is said part by part and between neighbours. A literal part is not
empty and holds no brace and no `:` before a letter or `_`; a colon variable has a colon name;
an expression declares at least one variable, each with a name of the grammar and a prefix
length, if any, from 1 to 9999 (`Part.WellFormed`). No two literal parts are adjacent, and the
text does not go on with a letter, digit or `_` after a colon variable (`Part.MayPrecede`). A
part's operator, its specifications and its text are computed from the part itself
(`Part.operatorText`, `Part.specs`, `Part.value`), so they need no condition of their own.

An expression must declare a variable: the text `{}` of an expression with none is refused
(`parse_expression_without_variables`).

The proof goes up the reader's layers. A prefix length is written in decimal and read back
(`digitsValue_toDigits`, `toDigits_digitsValue`); a specification is read back from its text and
written back from what is read (`parseSpec?_render`, `render_of_parseSpec?`); an expression
likewise (`parseExpression_written`, `exprChars_of_parseExpression`). The scanner is followed
once in each direction: by induction on the parts for writing then reading (`scan_written`),
and by the scanner's own recursion for reading then writing (`scan_chars`, `scan_canonical`).

## Main definitions

* `UrlRouting.Template.LiteralText`, `UrlRouting.Template.VarSpec.WellFormed`
* `UrlRouting.Template.Part.WellFormed`, `UrlRouting.Template.Part.MayPrecede`
* `UrlRouting.Template.Canonical`

## Main results

* `UrlRouting.Template.parse_eq_ok_iff`
* `UrlRouting.Template.parse_expression_without_variables`
-/

namespace UrlRouting.Template

open Grammar

/-! ### Canonical parts -/

/-- ASCII letters and `_`: the characters a colon name starts with. -/
def IsColonStart (c : Char) : Prop := ('a' ≤ c ∧ c ≤ 'z') ∨ ('A' ≤ c ∧ c ≤ 'Z') ∨ c = '_'

instance (c : Char) : Decidable (IsColonStart c) := inferInstanceAs (Decidable (_ ∨ _ ∨ _))

/-- A colon name: a letter or `_`, then letters, digits and `_`. -/
def IsColonName : List Char → Prop
  | [] => False
  | c :: rest => IsColonStart c ∧ ∀ d ∈ rest, IsNameChar d

/-- Literal text as reading leaves it: no brace, and no `:` followed by a letter or `_`. -/
def LiteralText (cs : List Char) : Prop :=
  '{' ∉ cs ∧ '}' ∉ cs ∧ cs.IsChain fun a b => a = ':' → ¬IsColonStart b

/-- A variable specification as the grammar writes one: its name is a name of the grammar, and
a prefix length, if any, is from 1 to 9999. -/
def VarSpec.WellFormed (v : VarSpec) : Prop :=
  Name v.name.toList ∧ ∀ n, v.modifier = .maxLength n → 1 ≤ n ∧ n ≤ 9999

/-- A part as reading gives it: a literal is literal text and not empty, a colon variable has
a colon name, and an expression declares at least one variable, each written as the grammar
writes it. -/
def Part.WellFormed : Part → Prop
  | .literal text => text ≠ "" ∧ LiteralText text.toList
  | .colon name => IsColonName name.toList
  | .expression _ specs => specs ≠ [] ∧ ∀ v ∈ specs, v.WellFormed

/-- What may follow a part in a template as reading gives it: a variable part after a literal,
so that literals are never adjacent, and after a colon variable no part whose text goes on with
a letter, digit or `_`. -/
def Part.MayPrecede : Part → Part → Prop
  | .literal _, q => q.isVariable = true
  | .colon _, q => ∀ c ∈ q.value.toList.head?, ¬IsNameChar c
  | .expression _ _, _ => True

/-- The parts of a template in the shape reading gives them. -/
structure Canonical (parts : List Part) : Prop where
  /-- Each part is one reading gives. -/
  wellFormed : ∀ p ∈ parts, p.WellFormed
  /-- Each part may follow the one before it. -/
  mayPrecede : parts.IsChain Part.MayPrecede

theorem isNameStart_iff (c : Char) : isNameStart c = true ↔ IsColonStart c := by
  simp [isNameStart, IsColonStart, or_assoc]

/-! ### Prefix lengths in decimal -/

theorem digitsValue_eq_ofDigitChars (ds : List Char) :
    digitsValue ds = Nat.ofDigitChars 10 ds 0 := by
  simp only [digitsValue, Nat.ofDigitChars, Nat.mul_comm]

theorem digitsValue_toDigits (n : Nat) : digitsValue (Nat.toDigits 10 n) = n := by
  rw [digitsValue_eq_ofDigitChars, Nat.ofDigitChars_ten_toDigits]

theorem digitsValue_append_digit (ds : List Char) (d : Char) :
    digitsValue (ds ++ [d]) = 10 * digitsValue ds + (d.toNat - '0'.toNat) := by
  simp [digitsValue_eq_ofDigitChars, Nat.ofDigitChars_append, Nat.ofDigitChars_cons]

theorem digit_toNat_lt {d : Char} (hd : IsDigit d) : d.toNat - '0'.toNat < 10 := by
  obtain ⟨h1, h2⟩ := hd
  rw [char_le_iff_toNat] at h1 h2
  simp only [Char.reduceToNat] at h1 h2 ⊢
  omega

theorem digitChar_digit {d : Char} (hd : IsDigit d) : Nat.digitChar (d.toNat - '0'.toNat) = d := by
  obtain ⟨h1, h2⟩ := hd
  rw [char_le_iff_toNat] at h1 h2
  apply Char.toNat_inj.mp
  rw [Nat.toNat_digitChar_of_lt_ten (digit_toNat_lt ⟨h1, h2⟩)]
  simp only [Char.reduceToNat] at h1 h2 ⊢
  omega

/-- A digit text that does not start with `0` has a positive value. -/
theorem digitsValue_pos {d : Char} {ds : List Char} (hd : IsDigit d) (h0 : d ≠ '0') :
    0 < digitsValue (d :: ds) := by
  have hd' : 0 < d.toNat - '0'.toNat := by
    obtain ⟨h1, -⟩ := hd
    rw [char_le_iff_toNat] at h1
    have hne : d.toNat ≠ '0'.toNat := fun h => h0 (Char.toNat_inj.mp h)
    omega
  rw [digitsValue_eq_ofDigitChars, Nat.ofDigitChars_cons, Nat.ofDigitChars_eq_ofDigitChars_zero]
  have hpow : 0 < 10 ^ ds.length := Nat.pow_pos (by decide)
  simp only [Nat.mul_zero, Nat.zero_add]
  exact Nat.lt_of_lt_of_le (Nat.mul_pos hpow hd') (Nat.le_add_right _ _)

/-- A digit text has a value below ten to its length. -/
theorem digitsValue_lt {ds : List Char} (hds : ∀ d ∈ ds, IsDigit d) :
    digitsValue ds < 10 ^ ds.length := by
  induction ds using List.reverseRecOn with
  | nil => decide
  | append_singleton ds d ih =>
    have hd := digit_toNat_lt (hds d (by simp))
    have ih' := ih fun x hx => hds x (List.mem_append_left _ hx)
    rw [digitsValue_append_digit, List.length_append, List.length_singleton, Nat.pow_succ]
    omega

/-- A digit text that does not start with `0` is the decimal text of its value. -/
theorem toDigits_digitsValue {ds : List Char} (hne : ds ≠ []) (hds : ∀ d ∈ ds, IsDigit d)
    (h0 : ds.head? ≠ some '0') : Nat.toDigits 10 (digitsValue ds) = ds := by
  induction ds using List.reverseRecOn with
  | nil => contradiction
  | append_singleton ds d ih =>
    have hd : IsDigit d := hds d (by simp)
    rw [digitsValue_append_digit]
    cases ds with
    | nil =>
      simp only [List.nil_append, digitsValue, List.foldl_nil, Nat.mul_zero, Nat.zero_add]
      rw [Nat.toDigits_of_lt_base (digit_toNat_lt hd), digitChar_digit hd]
    | cons e es =>
      have he : IsDigit e := hds e (by simp)
      have he0 : e ≠ '0' := fun h => h0 (by simp [h])
      have hpos := @digitsValue_pos e es he he0
      rw [← Nat.toDigits_append_toDigits (by decide) hpos (digit_toNat_lt hd),
        ih (List.cons_ne_nil e es) (fun x hx => hds x (List.mem_append_left _ hx))
          (by simpa using he0),
        Nat.toDigits_of_lt_base (digit_toNat_lt hd), digitChar_digit hd]

theorem isDigit_of_mem_toDigits {n : Nat} {c : Char} (h : c ∈ Nat.toDigits 10 n) : IsDigit c := by
  have hc := Nat.isDigit_of_mem_toDigits (by decide) (by decide) h
  simp only [Char.isDigit, Bool.and_eq_true, decide_eq_true_eq] at hc
  exact ⟨hc.1, hc.2⟩

/-- The decimal text of a positive number does not start with `0`. -/
theorem toDigits_head_ne_zero {n : Nat} (hn : 0 < n) : (Nat.toDigits 10 n).head? ≠ some '0' := by
  induction n using Nat.strong_induction_on with
  | _ n ih =>
    rw [Nat.toDigits_eq_if (by decide)]
    split
    · simp [Nat.digitChar_eq_zero, Nat.pos_iff_ne_zero.1 hn]
    · have hdiv : 0 < n / 10 := Nat.div_pos (by omega) (by decide)
      have hne := Nat.toDigits_ne_nil (n := n / 10) (b := 10)
      rw [List.head?_append_of_ne_nil _ hne]
      exact ih (n / 10) (Nat.div_lt_self hn (by decide)) hdiv

/-! ### Specifications -/

/-- The characters a modifier is written with after the name. -/
def Modifier.chars : Modifier → List Char
  | .plain => []
  | .maxLength n => ':' :: Nat.toDigits 10 n
  | .explode => ['*']

theorem VarSpec.render_toList (v : VarSpec) :
    v.render.toList = v.name.toList ++ v.modifier.chars := by
  rcases v with ⟨name, _ | n | _⟩ <;> simp [VarSpec.render, Modifier.chars]

/-- A modifier is written from `:` or `*` on, where the name of a specification stops. -/
theorem Modifier.chars_stop (m : Modifier) :
    m.chars.takeWhile (fun c => c != ':' && c != '*') = [] ∧
      m.chars.dropWhile (fun c => c != ':' && c != '*') = m.chars := by
  cases m <;> simp [Modifier.chars]

/-- The modifier text of a length from 1 to 9999 is read back as that length. -/
theorem parseModifier?_maxLength {n : Nat} (h1 : 1 ≤ n) (h2 : n ≤ 9999) :
    parseModifier? (':' :: Nat.toDigits 10 n) = some (.maxLength n) := by
  have hlen : (Nat.toDigits 10 n).length ≤ 4 :=
    (Nat.length_toDigits_le_iff (by decide) (by decide)).2 (by omega)
  have hall : (Nat.toDigits 10 n).all isDecimalDigit = true := by
    rw [List.all_eq_true]
    intro c hc
    exact (isDecimalDigit_iff c).2 (isDigit_of_mem_toDigits hc)
  have hhead : ((Nat.toDigits 10 n).head? != some '0') = true := by
    simpa using toDigits_head_ne_zero (show 0 < n by omega)
  simp [parseModifier?, hlen, hall, hhead, digitsValue_toDigits]

theorem parseModifier?_chars {m : Modifier} (hm : ∀ n, m = .maxLength n → 1 ≤ n ∧ n ≤ 9999) :
    parseModifier? m.chars = some m := by
  cases m with
  | plain => rfl
  | maxLength n =>
    obtain ⟨h1, h2⟩ := hm n rfl
    exact parseModifier?_maxLength h1 h2
  | explode => rfl

/-- What is read as a modifier is the modifier's text, and a length read is from 1 to 9999. -/
theorem chars_of_parseModifier? {cs : List Char} {m : Modifier} (h : parseModifier? cs = some m) :
    m.chars = cs ∧ ∀ n, m = .maxLength n → 1 ≤ n ∧ n ≤ 9999 := by
  unfold parseModifier? at h
  split at h
  · cases h
    exact ⟨rfl, fun _ h => nomatch h⟩
  · cases h
    exact ⟨rfl, fun _ h => nomatch h⟩
  · rename_i ds
    split at h
    · rename_i hcond
      cases h
      simp only [Bool.and_eq_true, Bool.not_eq_true', List.isEmpty_eq_false_iff, decide_eq_true_eq,
        List.all_eq_true, bne_iff_ne, ne_eq] at hcond
      obtain ⟨⟨⟨hne, hlen⟩, hall⟩, h0⟩ := hcond
      have hdigits : ∀ d ∈ ds, IsDigit d := fun d hd => (isDecimalDigit_iff d).1 (hall d hd)
      obtain ⟨d, ds', rfl⟩ := List.exists_cons_of_ne_nil hne
      refine ⟨by rw [Modifier.chars, toDigits_digitsValue hne hdigits h0], ?_⟩
      rintro n ⟨⟩
      refine ⟨digitsValue_pos (hdigits d (by simp)) (fun e => h0 (by simp [e])), ?_⟩
      have hlt := digitsValue_lt hdigits
      have hpow : 10 ^ (d :: ds').length ≤ 10 ^ 4 := Nat.pow_le_pow_right (by decide) hlen
      omega
    · cases h
  · cases h

/-- A specification the grammar writes is read back from its text: its name holds no `:` and no `*`,
so reading the name stops exactly where the modifier starts. -/
theorem parseSpec?_render {v : VarSpec} (hv : v.WellFormed) :
    parseSpec? v.render.toList = some v := by
  obtain ⟨hname, hmod⟩ := hv
  have hpass : ∀ c ∈ v.name.toList, (fun c => c != ':' && c != '*') c = true := by
    intro c hc
    rcases hname.mem c hc with h | rfl
    · have h1 : c ≠ ':' := fun e => absurd (e ▸ h) (by decide)
      have h2 : c ≠ '*' := fun e => absurd (e ▸ h) (by decide)
      simp [h1, h2]
    · decide
  simp only [parseSpec?, VarSpec.render_toList, List.takeWhile_append_of_pos hpass,
    List.dropWhile_append_of_pos hpass, (Modifier.chars_stop _).1, (Modifier.chars_stop _).2,
    List.append_nil, (isVarName_iff _).2 hname, if_true, parseModifier?_chars hmod,
    Option.map_some, String.ofList_toList]

/-- A specification that is read is one the grammar writes, and writing it gives the text
back. -/
theorem render_of_parseSpec? {cs : List Char} {v : VarSpec} (h : parseSpec? cs = some v) :
    v.render.toList = cs ∧ v.WellFormed := by
  simp only [parseSpec?] at h
  split at h
  · rename_i hname
    obtain ⟨m, hm, rfl⟩ := Option.map_eq_some_iff.1 h
    obtain ⟨hchars, hlen⟩ := chars_of_parseModifier? hm
    refine ⟨?_, ?_, hlen⟩
    · rw [VarSpec.render_toList, String.toList_ofList, hchars, List.takeWhile_append_dropWhile]
    · rw [String.toList_ofList]
      exact (isVarName_iff _).1 hname
  · cases h

theorem VarSpec.WellFormed.specText {v : VarSpec} (hv : v.WellFormed) : SpecText v.render.toList :=
  (parseSpec?_isSome_iff _).1 (by rw [parseSpec?_render hv]; rfl)

/-- Specifications the grammar writes, joined by commas, are read back one by one. -/
theorem parseSpecs_render (src : String) :
    ∀ (off : Nat) (vs : List VarSpec), (∀ v ∈ vs, v.WellFormed) →
      parseSpecs src off (vs.map (·.render.toList)) = .ok vs
  | _, [], _ => rfl
  | off, v :: vs, hvs => by
    have hrest := parseSpecs_render src (off + v.render.toList.length + 1) vs
      fun w hw => hvs w (List.mem_cons_of_mem v hw)
    simp only [List.map_cons, parseSpecs, parseSpec?_render (hvs v List.mem_cons_self), hrest]
    rfl

theorem render_of_parseSpecs (src : String) :
    ∀ {off : Nat} {pieces : List (List Char)} {vs : List VarSpec},
      parseSpecs src off pieces = .ok vs →
        vs.map (·.render.toList) = pieces ∧ ∀ v ∈ vs, v.WellFormed
  | _, [], vs, h => by
    simp only [parseSpecs, Except.ok.injEq] at h
    simp [← h]
  | off, piece :: pieces, vs, h => by
    cases hp : parseSpec? piece with
    | none => simp [parseSpecs, hp] at h
    | some v =>
      cases hr : parseSpecs src (off + piece.length + 1) pieces with
      | error e => simp [parseSpecs, hp, hr, Functor.map, Except.map] at h
      | ok vs' =>
        simp only [parseSpecs, hp, hr, Functor.map, Except.map, Except.ok.injEq] at h
        subst h
        obtain ⟨hv, hwf⟩ := render_of_parseSpec? hp
        obtain ⟨hvs, hwfs⟩ := render_of_parseSpecs src hr
        refine ⟨by rw [List.map_cons, hv, hvs], ?_⟩
        rintro w (_ | ⟨_, hw⟩)
        · exact hwf
        · exact hwfs w hw

/-! ### Expressions -/

/-- The characters between the braces of an expression: its operator, then its specifications
joined by commas. -/
def exprChars (op : Operator) (specs : List VarSpec) : List Char :=
  op.symbol.toList ++ [','].intercalate (specs.map (·.render.toList))

theorem Part.value_expression_toList (op : Operator) (specs : List VarSpec) :
    (Part.expression op specs).value.toList = '{' :: (exprChars op specs ++ ['}']) := by
  simp [Part.value, exprChars, String.toList_intercalate, List.map_map, Function.comp_def]

theorem Operator.symbol_toList (op : Operator) : op.symbol.toList = op.symbol?.toList := by
  cases op <;> rfl

theorem Operator.ofChar?_of_symbol? {op : Operator} {c : Char} (h : op.symbol? = some c) :
    Operator.ofChar? c = some op := by
  cases op <;> cases h <;> rfl

theorem Operator.symbol?_of_ofChar? {c : Char} {op : Operator} (h : Operator.ofChar? c = some op) :
    op.symbol? = some c := by
  unfold Operator.ofChar? at h
  split at h <;> cases h <;> rfl

theorem Part.value_colon_toList (name : String) :
    (Part.colon name).value.toList = ':' :: name.toList := by
  simp [Part.value]

/-- Specifications joined by commas start with the first character of the first one, a unit
character. -/
theorem joined_head {specs : List VarSpec} (hne : specs ≠ []) (hwf : ∀ v ∈ specs, v.WellFormed) :
    ∃ c rest, [','].intercalate (specs.map (·.render.toList)) = c :: rest ∧ IsUnitStart c := by
  obtain ⟨v, vs, rfl⟩ := List.exists_cons_of_ne_nil hne
  obtain ⟨c, r, hcr, hc⟩ := (hwf v List.mem_cons_self).specText.head
  have hfirst :
      ∃ t, [','].intercalate ((v :: vs).map (·.render.toList)) = v.render.toList ++ t := by
    cases vs with
    | nil => exact ⟨[], by simp⟩
    | cons w ws =>
      exact ⟨_, by rw [List.map_cons, List.map_cons, List.intercalate_cons_cons, List.append_assoc]⟩
  obtain ⟨t, ht⟩ := hfirst
  exact ⟨c, r ++ t, by rw [ht, hcr, List.cons_append], hc⟩

/-- The text between the braces of an expression that declares variables the grammar writes is
read as that expression. -/
theorem parseExpression_written (src : String) (start : Nat) (op : Operator) {specs : List VarSpec}
    (hne : specs ≠ []) (hwf : ∀ v ∈ specs, v.WellFormed) :
    parseExpression src start (exprChars op specs) = .ok (.expression op specs) := by
  have hsplit : ([','].intercalate (specs.map (·.render.toList))).splitOn ',' =
      specs.map (·.render.toList) := by
    refine List.splitOn_intercalate ',' ?_ (by simpa using hne)
    intro l hl
    obtain ⟨v, hv, rfl⟩ := List.mem_map.1 hl
    exact (hwf v hv).specText.comma_not_mem
  have hread : ∀ off, parseSpecs src off (specs.map (·.render.toList)) = .ok specs :=
    fun off => parseSpecs_render src off specs hwf
  obtain ⟨c, rest, hbody, hc⟩ := joined_head hne hwf
  rw [hbody] at hsplit
  have hcnr : isReservedOperator c = false :=
    Bool.eq_false_iff.2 fun h => hc.not_reserved ((isReservedOperator_iff c).1 h)
  simp only [exprChars, Operator.symbol_toList, hbody]
  cases hsym : op.symbol? with
  | none =>
    have hop : op = .simple := by cases op <;> simp_all [Operator.symbol?]
    subst hop
    have hno : Operator.ofChar? c = none := by
      simpa [← ofChar?_isSome_iff] using hc.not_operator
    simp [parseExpression, hcnr, hno, hsplit, hread, Functor.map, Except.map]
  | some o =>
    have hop := Operator.ofChar?_of_symbol? hsym
    have ho : IsOperatorChar o := (ofChar?_isSome_iff o).1 (by simp [hop])
    have honr : isReservedOperator o = false :=
      Bool.eq_false_iff.2 fun h => ho.not_reserved ((isReservedOperator_iff o).1 h)
    simp [parseExpression, honr, hop, hsplit, hread, Functor.map, Except.map]

/-- An expression that is read writes back the text between its braces, and declares variables
written as the grammar writes them. -/
theorem exprChars_of_parseExpression {src : String} {start : Nat} {inner : List Char} {p : Part}
    (h : parseExpression src start inner = .ok p) :
    ∃ op specs, p = .expression op specs ∧ exprChars op specs = inner ∧ p.WellFormed := by
  have hne := (parseExpression_declared h).2.specs_ne_nil
  have hbody : ∀ (op : Operator) (body : List Char) (off : Nat),
      (Part.expression op ·) <$> parseSpecs src off (body.splitOn ',') = .ok p →
        op.symbol.toList ++ body = inner →
          ∃ op specs, p = .expression op specs ∧ exprChars op specs = inner ∧ p.WellFormed := by
    intro op body off hp hinner
    cases hs : parseSpecs src off (body.splitOn ',') with
    | error e => simp [hs, Functor.map, Except.map] at hp
    | ok vs =>
      simp only [hs, Functor.map, Except.map, Except.ok.injEq] at hp
      subst hp
      obtain ⟨hvs, hwf⟩ := render_of_parseSpecs src hs
      refine ⟨op, vs, rfl, ?_, hne, hwf⟩
      rw [exprChars, hvs, List.intercalate_splitOn, hinner]
  cases inner with
  | nil => simp [parseExpression] at h
  | cons c rest =>
    by_cases hres : isReservedOperator c = true
    · simp [parseExpression, hres] at h
    cases hop : Operator.ofChar? c with
    | some op =>
      cases rest with
      | nil => simp [parseExpression, hres, hop] at h
      | cons d more =>
        simp only [parseExpression, hres, hop, Bool.false_eq_true, if_false, List.isEmpty_cons]
          at h
        refine hbody op (d :: more) _ h ?_
        rw [Operator.symbol_toList, Operator.symbol?_of_ofChar? hop]
        rfl
    | none =>
      simp only [parseExpression, hres, hop, Bool.false_eq_true, if_false, List.isEmpty_cons] at h
      exact hbody .simple (c :: rest) _ h rfl

/-! ### Canonical lists of parts -/

theorem canonical_nil : Canonical [] := ⟨by simp, .nil⟩

theorem canonical_cons {p : Part} {parts : List Part} :
    Canonical (p :: parts) ↔
      p.WellFormed ∧ (∀ q ∈ parts.head?, p.MayPrecede q) ∧ Canonical parts := by
  constructor
  · rintro ⟨hwf, hchain⟩
    rw [List.isChain_cons] at hchain
    exact ⟨hwf p List.mem_cons_self, hchain.1,
      fun q hq => hwf q (List.mem_cons_of_mem p hq), hchain.2⟩
  · rintro ⟨hp, hnext, hwf, hchain⟩
    refine ⟨?_, List.isChain_cons.2 ⟨hnext, hchain⟩⟩
    rintro q (_ | ⟨_, hq⟩)
    · exact hp
    · exact hwf q hq

theorem literalText_nil : LiteralText [] := ⟨by simp, by simp, .nil⟩

/-- Literal text, character by character from the front. -/
theorem literalText_cons {c : Char} {cs : List Char} :
    LiteralText (c :: cs) ↔
      (c ≠ '{' ∧ c ≠ '}' ∧ (c = ':' → ∀ d ∈ cs.head?, ¬IsColonStart d)) ∧ LiteralText cs := by
  simp only [LiteralText, List.mem_cons, not_or, List.isChain_cons]
  grind

/-- Literal text grows at the back by a character that is no brace and that no `:` before it
turns into a colon name. -/
theorem LiteralText.snoc {cs : List Char} {c : Char} (h : LiteralText cs) (hl : c ≠ '{')
    (hr : c ≠ '}') (hcolon : cs.getLast? = some ':' → ¬IsColonStart c) :
    LiteralText (cs ++ [c]) := by
  obtain ⟨hnl, hnr, hchain⟩ := h
  refine ⟨by simp [hnl, Ne.symm hl], by simp [hnr, Ne.symm hr], ?_⟩
  rw [List.isChain_append]
  refine ⟨hchain, .singleton c, ?_⟩
  intro a ha b hb
  cases hb
  rintro rfl
  exact hcolon ha

/-- Reading keeps the pending literal in front of the parts after it. -/
theorem canonical_withLiteral {lit : List Char} {parts : List Part} (hlit : LiteralText lit.reverse)
    (h : Canonical parts) (hvar : ∀ q ∈ parts.head?, q.isVariable = true) :
    Canonical (withLiteral lit parts) := by
  unfold withLiteral
  split
  · exact h
  · next hne =>
    have hne' : lit.reverse ≠ [] := by simpa [List.isEmpty_iff] using hne
    refine canonical_cons.2 ⟨⟨?_, ?_⟩, hvar, h⟩
    · simpa [String.ofList_eq_empty_iff] using hne'
    · rwa [String.toList_ofList]

theorem withLiteral_nil (parts : List Part) : withLiteral [] parts = parts := rfl

theorem flatMap_withLiteral (lit : List Char) (parts : List Part) :
    (withLiteral lit parts).flatMap (·.value.toList) =
      lit.reverse ++ parts.flatMap (·.value.toList) := by
  unfold withLiteral
  split
  · next h => simp [List.isEmpty_iff.1 h]
  · simp [Part.value]

theorem Part.WellFormed.value_ne_nil {p : Part} (hp : p.WellFormed) : p.value.toList ≠ [] := by
  cases p with
  | literal text => simpa [Part.value] using hp.1
  | colon name => simp [Part.value]
  | expression op specs => simp [Part.value_expression_toList]

/-- The text of well-formed parts starts with the text of the first. -/
theorem head?_flatMap_value {parts : List Part} (h : ∀ p ∈ parts, p.WellFormed) :
    (parts.flatMap (·.value.toList)).head? = parts.head?.bind (·.value.toList.head?) := by
  cases parts with
  | nil => rfl
  | cons q qs =>
    rw [List.flatMap_cons, List.head?_append_of_ne_nil _ (h q List.mem_cons_self).value_ne_nil]
    rfl

/-- The text of a variable part starts with `{` or `:`, neither of which starts a colon name. -/
theorem Part.head_not_colonStart_of_isVariable {q : Part} (hq : q.isVariable = true) :
    ∀ c ∈ q.value.toList.head?, ¬IsColonStart c := by
  cases q with
  | literal text => simp [Part.isVariable] at hq
  | colon name => simp [Part.value, IsColonStart]
  | expression op specs => simp [Part.value_expression_toList, IsColonStart]

/-! ### Writing then reading -/

theorem takeWhile_append_stop {α : Type*} {p : α → Bool} {body rest : List α}
    (inside : ∀ a ∈ body, p a = true) (stop : ∀ a ∈ rest.head?, p a = false) :
    (body ++ rest).takeWhile p = body := by
  rw [List.takeWhile_append_of_pos inside]
  cases rest with
  | nil => simp
  | cons a tail => simp [stop a rfl]

theorem dropWhile_append_stop {α : Type*} {p : α → Bool} {body rest : List α}
    (inside : ∀ a ∈ body, p a = true) (stop : ∀ a ∈ rest.head?, p a = false) :
    (body ++ rest).dropWhile p = rest := by
  rw [List.dropWhile_append_of_pos inside]
  cases rest with
  | nil => rfl
  | cons a tail => simp [stop a rfl]

/-- A character that is no brace, and no `:` before a letter or `_`, joins the pending
literal. -/
theorem scan_literal_char (src : String) (pos : Nat) (lit : List Char) {c : Char}
    {cs : List Char} (hl : c ≠ '{') (hr : c ≠ '}')
    (hcolon : c = ':' → ∀ d ∈ cs.head?, ¬IsColonStart d) :
    scan src (c :: cs) pos lit = scan src cs (pos + 1) (c :: lit) := by
  by_cases hc : c = ':'
  · subst hc
    cases cs with
    | nil =>
      exact scan.eq_5 src pos lit ':' [] hl hr fun _ _ _ h => List.cons_ne_nil _ _ h.symm
    | cons d r =>
      have hd : isNameStart d = false :=
        Bool.eq_false_iff.2 fun h => hcolon rfl d rfl ((isNameStart_iff d).1 h)
      rw [scan.eq_4, if_neg (by simp [hd])]
  · exact scan.eq_5 src pos lit c cs hl hr (fun _ _ h => absurd h hc)

/-- Literal text is read into the pending literal, up to what follows it. -/
theorem scan_literal (src : String) {cs : List Char} (hcs : LiteralText cs) (more : List Char)
    (hend : cs.getLast? = some ':' → ∀ d ∈ more.head?, ¬IsColonStart d) (pos : Nat)
    (lit : List Char) :
    scan src (cs ++ more) pos lit = scan src more (pos + cs.length) (cs.reverse ++ lit) := by
  induction cs generalizing pos lit with
  | nil => simp
  | cons c cs ih =>
    obtain ⟨⟨hl, hr, hcolon⟩, hcs'⟩ := literalText_cons.1 hcs
    have hnext : c = ':' → ∀ d ∈ (cs ++ more).head?, ¬IsColonStart d := by
      cases cs with
      | nil => simpa using hend
      | cons e es => simpa using hcolon
    have hend' : cs.getLast? = some ':' → ∀ d ∈ more.head?, ¬IsColonStart d := by
      cases cs with
      | nil => simp
      | cons e es => simpa using hend
    rw [List.cons_append, scan_literal_char src pos lit hl hr hnext, ih hcs' hend']
    simp [Nat.add_assoc, Nat.add_comm 1]

/-- A colon variable is read as far as its name goes, when no name character follows. -/
theorem scan_colon (src : String) (pos : Nat) (lit : List Char) {name : String}
    (hname : IsColonName name.toList) {more : List Char}
    (hstop : ∀ d ∈ more.head?, ¬IsNameChar d) :
    scan src ((Part.colon name).value.toList ++ more) pos lit =
      (fun parts => withLiteral lit (.colon name :: parts)) <$>
        scan src more (pos + 1 + name.toList.length) [] := by
  cases hn : name.toList with
  | nil => simp [hn, IsColonName] at hname
  | cons c nrest =>
    rw [hn] at hname
    obtain ⟨hc, hnrest⟩ := hname
    have hword : ∀ d ∈ nrest, isWordChar d = true :=
      fun d hd => (isWordChar_iff d).2 (hnrest d hd)
    have hstop' : ∀ d ∈ more.head?, isWordChar d = false :=
      fun d hd => Bool.eq_false_iff.2 fun h => hstop d hd ((isWordChar_iff d).1 h)
    rw [Part.value_colon_toList, hn, List.cons_append, List.cons_append, scan.eq_4,
      if_pos ((isNameStart_iff c).2 hc)]
    simp only [takeWhile_append_stop hword hstop', dropWhile_append_stop hword hstop', ← hn,
      String.ofList_toList]
    cases scan src more (pos + 1 + name.toList.length) [] <;> rfl

/-- An expression that declares variables the grammar writes is read up to its `}`. -/
theorem scan_expression (src : String) (pos : Nat) (lit : List Char) {op : Operator}
    {specs : List VarSpec} (hp : (Part.expression op specs).WellFormed) (more : List Char) :
    scan src ((Part.expression op specs).value.toList ++ more) pos lit =
      (fun parts => withLiteral lit (.expression op specs :: parts)) <$>
        scan src more (pos + (exprChars op specs).length + 2) [] := by
  obtain ⟨hne, hwf⟩ := hp
  have hread := parseExpression_written src pos op hne hwf
  have hbrace := ((parseExpression_spec src pos _).1 _ hread).not_brace
  rw [Part.value_expression_toList, List.cons_append, List.append_assoc, List.singleton_append,
    scan.eq_2]
  split
  · next h => simp [dropWhile_ne_append hbrace.2] at h
  · next head after h =>
    rw [dropWhile_ne_append hbrace.2] at h
    obtain ⟨-, rfl⟩ := List.cons.inj h
    have hidx : (exprChars op specs).idxOf? '{' = none := List.idxOf?_eq_none_iff.2 hbrace.1
    simp only [takeWhile_ne_append hbrace.2, hidx, hread]
    cases scan src more (pos + (exprChars op specs).length + 2) [] <;> rfl

/-- Reading the text of canonical parts gives the parts back, after the pending literal when they
start with a variable part. After each part the next character, if any, is the first of the next
part's text; a variable part starts with `{` or `:`, which starts no colon name, so a colon name
stops where the next part starts. -/
theorem scan_written (src : String) :
    ∀ (parts : List Part), Canonical parts →
      ∀ pos lit, (lit = [] ∨ ∀ p ∈ parts.head?, p.isVariable = true) →
        scan src (parts.flatMap (·.value.toList)) pos lit = .ok (withLiteral lit parts)
  | [], _, pos, lit, _ => by rw [List.flatMap_nil, scan.eq_1]
  | p :: rest, hc, pos, lit, hlit => by
    obtain ⟨hp, hnext, hrest⟩ := canonical_cons.1 hc
    have ih : ∀ pos, scan src (rest.flatMap (·.value.toList)) pos [] = .ok rest :=
      fun pos => scan_written src rest hrest pos [] (.inl rfl)
    have hfirst : ∀ d ∈ (rest.flatMap (·.value.toList)).head?,
        ∃ q ∈ rest.head?, d ∈ q.value.toList.head? := by
      intro d hd
      rwa [head?_flatMap_value hrest.wellFormed, Option.mem_bind_iff] at hd
    rw [List.flatMap_cons]
    cases p with
    | literal text =>
      obtain ⟨hne, htext⟩ := hp
      have hlit0 : lit = [] := by simpa [Part.isVariable] using hlit
      subst hlit0
      have hend : ∀ d ∈ (rest.flatMap (·.value.toList)).head?, ¬IsColonStart d := by
        intro d hd
        obtain ⟨q, hq, hd⟩ := hfirst d hd
        exact Part.head_not_colonStart_of_isVariable (hnext q hq) d hd
      have hread := scan_written src rest hrest (pos + text.toList.length) text.toList.reverse
        (.inr hnext)
      rw [Part.value, scan_literal src htext _ (fun _ => hend), List.append_nil, hread]
      have hne' : text.toList.reverse.isEmpty = false := by simpa using hne
      simp [withLiteral, hne']
    | colon name =>
      have hstop : ∀ d ∈ (rest.flatMap (·.value.toList)).head?, ¬IsNameChar d := by
        intro d hd
        obtain ⟨q, hq, hd⟩ := hfirst d hd
        exact hnext q hq d hd
      rw [scan_colon src pos lit hp hstop, ih]
      rfl
    | expression op specs =>
      rw [scan_expression src pos lit hp, ih]
      rfl

/-! ### Reading then writing -/

/-- An expression and the parts after it are read: both readings succeeded. -/
theorem eq_ok_of_bind_bind {α β γ : Type} {x : Except Failure α} {y : Except Failure β}
    {f : α → β → γ} {r : γ} (h : (x >>= fun a => y >>= fun b => pure (f a b)) = .ok r) :
    ∃ a b, x = .ok a ∧ y = .ok b ∧ r = f a b := by
  cases x with
  | error e => cases h
  | ok a =>
    cases y with
    | error e => cases h
    | ok b => exact ⟨a, b, rfl, rfl, (Except.ok.inj h).symm⟩

/-- Reading loses no character: the texts of the parts read are the pending literal, then the
characters read. -/
theorem scan_chars (src : String) (cs : List Char) (pos : Nat) (lit : List Char) :
    ∀ parts, scan src cs pos lit = .ok parts →
      parts.flatMap (·.value.toList) = lit.reverse ++ cs := by
  fun_induction scan src cs pos lit with
  | case1 pos lit =>
    intro parts h
    simp only [Except.ok.injEq] at h
    subst h
    simp [flatMap_withLiteral]
  | case4 pos lit rest inner head after hsome hnone ih =>
    intro parts h
    obtain ⟨part, more, he, hs, rfl⟩ := eq_ok_of_bind_bind h
    obtain ⟨op, specs, rfl, hinner, -⟩ := exprChars_of_parseExpression he
    obtain ⟨hrest, -⟩ := eq_takeWhile_append_of_dropWhile hsome
    rw [flatMap_withLiteral, List.flatMap_cons, ih more hs, Part.value_expression_toList,
      hinner]
    conv => rhs; rw [hrest]
    simp [inner]
  | case6 pos lit c rest hstart name _ more hmore ih =>
    intro parts h
    simp only [Except.ok.injEq] at h
    subst h
    rw [flatMap_withLiteral, List.flatMap_cons, ih more hmore, Part.value_colon_toList,
      String.toList_ofList]
    simp [name]
  | case8 pos lit c rest hstart ih =>
    intro parts h
    simp [ih parts h]
  | case9 pos lit c rest h1 h2 h3 ih =>
    intro parts h
    simp [ih parts h]
  | _ => intro parts h; simp at h

/-- Reading gives canonical parts. The pending literal is literal text, and when it ends with a
`:` the characters left do not start with a letter or `_`: that `:` was read as literal text
because no colon name follows it. -/
theorem scan_canonical (src : String) (cs : List Char) (pos : Nat) (lit : List Char) :
    LiteralText lit.reverse → (lit.head? = some ':' → ∀ c ∈ cs.head?, ¬IsColonStart c) →
      ∀ parts, scan src cs pos lit = .ok parts → Canonical parts := by
  fun_induction scan src cs pos lit with
  | case1 pos lit =>
    intro hlit _ parts h
    simp only [Except.ok.injEq] at h
    subst h
    exact canonical_withLiteral hlit canonical_nil (by simp)
  | case4 pos lit rest inner head after hsome hnone ih =>
    intro hlit _ parts h
    obtain ⟨part, more, he, hs, rfl⟩ := eq_ok_of_bind_bind h
    obtain ⟨op, specs, rfl, -, hwf⟩ := exprChars_of_parseExpression he
    have hmore := ih literalText_nil (by simp) more hs
    exact canonical_withLiteral hlit (canonical_cons.2 ⟨hwf, fun _ _ => trivial, hmore⟩)
      (by simp [Part.isVariable])
  | case6 pos lit c rest hstart name _ more hmore ih =>
    intro hlit _ parts h
    simp only [Except.ok.injEq] at h
    subst h
    have hcan := ih literalText_nil (by simp) more hmore
    have hchars := scan_chars src _ _ [] more hmore
    have hname : (Part.colon (String.ofList name)).WellFormed := by
      simp only [Part.WellFormed, String.toList_ofList, name, IsColonName]
      exact ⟨(isNameStart_iff c).1 hstart,
        fun d hd => (isWordChar_iff d).1 (List.mem_takeWhile_imp hd)⟩
    have hnext : ∀ q ∈ more.head?, (Part.colon (String.ofList name)).MayPrecede q := by
      intro q hq d hd hnd
      have hfirst : (rest.dropWhile isWordChar).head? = some d := by
        rw [List.reverse_nil, List.nil_append] at hchars
        rw [← hchars, head?_flatMap_value hcan.wellFormed]
        exact Option.mem_bind_iff.2 ⟨q, hq, hd⟩
      have hstop := List.head?_dropWhile_not isWordChar rest
      rw [hfirst] at hstop
      exact absurd ((isWordChar_iff d).2 hnd) (by simp [hstop])
    exact canonical_withLiteral hlit (canonical_cons.2 ⟨hname, hnext, hcan⟩)
      (by simp [Part.isVariable])
  | case8 pos lit c rest hstart ih =>
    intro hlit _ parts h
    refine ih ?_ ?_ parts h
    · rw [List.reverse_cons]
      exact hlit.snoc (by decide) (by decide) (fun _ => by decide)
    · intro _ d hd hc
      cases hd
      exact hstart ((isNameStart_iff _).2 hc)
  | case9 pos lit c rest h1 h2 h3 ih =>
    intro hlit hcolon parts h
    refine ih ?_ ?_ parts h
    · rw [List.reverse_cons]
      exact hlit.snoc h1 h2 fun hl => hcolon (by rwa [List.getLast?_reverse] at hl) c rfl
    · -- a `:` read as a literal character here is the last character of the text
      intro hc d hd
      cases rest with
      | nil => cases hd
      | cons e es => exact absurd (h3 e es (by simpa using hc) rfl) id
  | _ => intro _ _ parts h; simp at h

theorem source_toList (t : Template) :
    t.source.toList = t.parts.flatMap (·.value.toList) := by
  simp [Template.source, String.toList_join, List.flatMap_map]

/-- A text is read as a template exactly when it is the text of the template and the parts are
canonical: reading loses no character, gives parts of one shape only, and gives back the parts
of every template of that shape from its text. -/
theorem parse_eq_ok_iff (s : String) (t : Template) :
    parse s = .ok t ↔ t.source = s ∧ Canonical t.parts := by
  constructor
  · intro h
    cases hs : scan s s.toList 0 [] with
    | error e => simp [parse, hs, Functor.map, Except.map] at h
    | ok parts =>
      simp only [parse, hs, Functor.map, Except.map, Except.ok.injEq] at h
      subst h
      refine ⟨String.ext ?_, scan_canonical s s.toList 0 [] literalText_nil (by simp) parts hs⟩
      rw [source_toList]
      simpa using scan_chars s s.toList 0 [] parts hs
  · rintro ⟨rfl, hc⟩
    have hscan := scan_written t.source t.parts hc 0 [] (.inl rfl)
    rw [← source_toList, withLiteral_nil] at hscan
    simp [parse, hscan, Functor.map, Except.map]

/-- An expression that declares no variable is refused: its text `{}` is read as an empty
expression. -/
theorem parse_expression_without_variables :
    parse (Template.mk [.expression .simple []]).source =
      .error (.template "{}" 0 .emptyExpression) := by
  rw [show (Template.mk [.expression .simple []]).source = "{}" from rfl, parse,
    show "{}".toList = ['{', '}'] from rfl, scan.eq_2]
  rfl

end UrlRouting.Template
