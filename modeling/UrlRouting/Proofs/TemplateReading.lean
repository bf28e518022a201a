import Mathlib
import UrlRouting.Proofs.TemplateGrammar

/-!
# Reading templates follows the grammar

Reading a text (`Template.parse`) succeeds exactly when the grammar of
`UrlRouting.Proofs.TemplateGrammar` generates the text, and when it fails, it fails at the
first malformed construct met from the left: the text is a generated text, then a malformed
construct, and the reported position is the fault's offset within that construct after the
generated text. The position is always inside the text.

The proof follows the reader's own layers. Each test on characters is the grammar's class
(`isWordChar_iff`, …); a name test is the grammar's names (`isVarName_iff`), through the
items between dots; a specification is read exactly when the grammar has one
(`parseSpec?_isSome_iff`); the specifications between commas are read up to the first that is
not one (`parseSpecs_ok_iff`, `parseSpecs_error`); an expression is read exactly when it is one, and otherwise has a
fault (`parseExpression_spec`). The scanner is then followed step by step
(`scan_readsAs`): a colon variable is literal characters to the grammar, and a `{` is an
expression up to the next `}`.

## Main definitions

* `UrlRouting.Template.ReadsAs`: what a reading of characters may give.

## Main results

* `UrlRouting.Template.parseSpec?_isSome_iff`, `UrlRouting.Template.parseExpression_spec`
* `UrlRouting.Template.scan_readsAs`
* `UrlRouting.Template.parse_follows_grammar`
-/

namespace UrlRouting.Template

open Grammar

/-! ### Character tests -/

theorem isWordChar_iff (c : Char) : isWordChar c = true ↔ IsNameChar c := by
  simp [isWordChar, IsNameChar, or_assoc]

theorem isHexDigit_iff (c : Char) : isHexDigit c = true ↔ IsHexDigit c := by
  simp [isHexDigit, Grammar.IsHexDigit, or_assoc]

theorem isDecimalDigit_iff (c : Char) : isDecimalDigit c = true ↔ IsDigit c := by
  simp [isDecimalDigit, IsDigit]

theorem isReservedOperator_iff (c : Char) : isReservedOperator c = true ↔ IsReservedChar c := by
  simp [isReservedOperator, IsReservedChar, or_assoc]

theorem ofChar?_isSome_iff (c : Char) : (Operator.ofChar? c).isSome ↔ IsOperatorChar c := by
  unfold Operator.ofChar?
  split <;> simp_all [IsOperatorChar]

theorem IsNameChar.of_isNameStart {c : Char} (h : isNameStart c = true) : IsNameChar c := by
  simp only [isNameStart, Bool.or_eq_true, Bool.and_eq_true, decide_eq_true_eq,
    beq_iff_eq] at h
  rcases h with (h | h) | h
  · exact .inl h
  · exact .inr (.inl h)
  · exact .inr (.inr (.inr h))

/-! ### Names and specifications -/

theorem isUnits_iff (cs : List Char) : isUnits cs = true ↔ Units cs := by
  fun_induction isUnits cs with
  | case1 => exact ⟨fun _ => .nil, fun _ => rfl⟩
  | case2 a b rest ih =>
    simp only [Bool.and_eq_true, isHexDigit_iff, ih]
    constructor
    · rintro ⟨⟨ha, hb⟩, hr⟩
      exact .escape ha hb hr
    · intro h
      cases h with
      | char hc _ => exact absurd hc (by decide)
      | escape ha hb hr => exact ⟨⟨ha, hb⟩, hr⟩
  | case3 c rest hpct ih =>
    simp only [Bool.and_eq_true, isWordChar_iff, ih]
    constructor
    · rintro ⟨hc, hr⟩
      exact .char hc hr
    · intro h
      cases h with
      | char hc hr => exact ⟨hc, hr⟩
      | escape _ _ _ => exact (hpct _ _ _ rfl rfl).elim

theorem isVarName_iff (cs : List Char) : isVarName cs = true ↔ Name cs := by
  simp [isVarName, name_iff_splitOn, isUnits_iff]

theorem Grammar.ModifierText.head {m : List Char} (h : ModifierText m) :
    m = [] ∨ ∃ r, m = ':' :: r ∨ m = '*' :: r := by
  cases h with
  | plain => exact .inl rfl
  | explode => exact .inr ⟨[], .inr rfl⟩
  | maxLength _ _ _ _ => exact .inr ⟨_, .inl rfl⟩

theorem char_le_iff_toNat {a b : Char} : a ≤ b ↔ a.toNat ≤ b.toNat := Iff.rfl

/-- A first digit of a length is a digit other than `0`. -/
theorem isDigit_ne_zero_iff {d : Char} : (IsDigit d ∧ d ≠ '0') ↔ ('1' ≤ d ∧ d ≤ '9') := by
  have hne : d ≠ '0' ↔ d.toNat ≠ 48 := by
    constructor
    · exact fun h e => h (Char.toNat_inj.1 e)
    · exact fun h e => h (e ▸ rfl)
  rw [hne]
  simp only [IsDigit, char_le_iff_toNat]
  have h0 : ('0' : Char).toNat = 48 := rfl
  have h1 : ('1' : Char).toNat = 49 := rfl
  have h9 : ('9' : Char).toNat = 57 := rfl
  omega

theorem modifierText_length_iff {d : Char} {ds : List Char} :
    ModifierText (':' :: d :: ds) ↔ '1' ≤ d ∧ d ≤ '9' ∧ ds.length ≤ 3 ∧ ∀ x ∈ ds, IsDigit x := by
  constructor
  · intro h
    cases h with
    | maxLength h1 h9 hlen hds => exact ⟨h1, h9, hlen, hds⟩
  · rintro ⟨h1, h9, hlen, hds⟩
    exact .maxLength h1 h9 hlen hds

theorem parseModifier?_isSome_iff (m : List Char) :
    (parseModifier? m).isSome ↔ ModifierText m := by
  unfold parseModifier?
  split
  · exact ⟨fun _ => .plain, fun _ => rfl⟩
  · exact ⟨fun _ => .explode, fun _ => rfl⟩
  · rename_i ds
    cases ds with
    | nil =>
      constructor
      · simp
      · intro h
        cases h
    | cons d ds =>
      have hcond : (!(d :: ds).isEmpty && decide ((d :: ds).length ≤ 4) &&
          (d :: ds).all isDecimalDigit && (d :: ds).head? != some '0') = true ↔
          ('1' ≤ d ∧ d ≤ '9') ∧ ds.length ≤ 3 ∧ ∀ x ∈ ds, IsDigit x := by
        rw [← isDigit_ne_zero_iff]
        simp only [List.isEmpty_cons, Bool.not_false, List.length_cons, List.all_cons,
          List.head?_cons, Bool.true_and, Bool.and_eq_true, decide_eq_true_eq,
          isDecimalDigit_iff, List.all_eq_true, bne_iff_ne, ne_eq, Option.some.injEq]
        constructor
        · rintro ⟨⟨hlen, hd, hds⟩, h0⟩
          exact ⟨⟨hd, h0⟩, by omega, hds⟩
        · rintro ⟨⟨hd, h0⟩, hlen, hds⟩
          exact ⟨⟨by omega, hd, hds⟩, h0⟩
      rw [modifierText_length_iff, ← and_assoc, ← hcond]
      split <;> simp_all
  · rename_i hnil hstar hcolon
    constructor
    · simp
    · intro h
      rcases h.head with rfl | ⟨r, rfl | rfl⟩
      · exact absurd rfl hnil
      · exact absurd rfl (hcolon r)
      · cases h
        exact absurd rfl hstar

/-- A specification is read exactly when the text is one: a name, read up to the first `:` or
`*`, and then its modifier. -/
theorem parseSpec?_isSome_iff (cs : List Char) : (parseSpec? cs).isSome ↔ SpecText cs := by
  constructor
  · intro h
    simp only [parseSpec?] at h
    split at h
    · rename_i hname
      refine ⟨_, _, List.takeWhile_append_dropWhile.symm, (isVarName_iff _).1 hname, ?_⟩
      exact (parseModifier?_isSome_iff _).1 (by simpa using h)
    · simp at h
  · rintro ⟨n, m, rfl, hn, hm⟩
    have hpass : ∀ c ∈ n, (fun c => c != ':' && c != '*') c = true := by
      intro c hc
      rcases hn.mem c hc with h | rfl
      · have h1 : c ≠ ':' := fun e => absurd (e ▸ h) (by decide)
        have h2 : c ≠ '*' := fun e => absurd (e ▸ h) (by decide)
        simp [h1, h2]
      · decide
    have hstop : m.takeWhile (fun c => c != ':' && c != '*') = [] ∧
        m.dropWhile (fun c => c != ':' && c != '*') = m := by
      rcases hm.head with rfl | ⟨r, rfl | rfl⟩ <;> simp
    simp only [parseSpec?, @List.takeWhile_append_of_pos _ _ n m hpass,
      @List.dropWhile_append_of_pos _ _ n m hpass, hstop.1, hstop.2, List.append_nil,
      (isVarName_iff n).2 hn, if_true, Option.isSome_map]
    exact (parseModifier?_isSome_iff m).2 hm

/-- The specifications between commas are read when each is one. -/
theorem parseSpecs_ok_iff (src : String) :
    ∀ (off : Nat) (pieces : List (List Char)),
      (∃ vs, parseSpecs src off pieces = .ok vs) ↔ ∀ p ∈ pieces, SpecText p
  | _, [] => by simp [parseSpecs]
  | off, piece :: pieces => by
    have ih := parseSpecs_ok_iff src (off + piece.length + 1) pieces
    cases hp : parseSpec? piece with
    | none =>
      have hbad : ¬SpecText piece := by
        rw [← parseSpec?_isSome_iff, hp]
        simp
      simp [parseSpecs, hp, hbad]
    | some v =>
      have hgood : SpecText piece := by
        rw [← parseSpec?_isSome_iff, hp]
        rfl
      cases hr : parseSpecs src (off + piece.length + 1) pieces <;>
        simp_all [parseSpecs, Functor.map, Except.map]

/-- Otherwise reading stops at the first item that is not one, at its first character. -/
theorem parseSpecs_error (src : String) :
    ∀ {off : Nat} {pieces : List (List Char)} {e : Failure}, parseSpecs src off pieces = .error e →
      ∃ goods bad rest, pieces = goods ++ bad :: rest ∧ (∀ g ∈ goods, SpecText g) ∧
        ¬SpecText bad ∧
        e = .template src (off + (goods.map (·.length + 1)).sum) (.invalidName (String.ofList bad))
  | _, [], _, h => by simp [parseSpecs] at h
  | off, piece :: pieces, e, h => by
    cases hp : parseSpec? piece with
    | none =>
      have hbad : ¬SpecText piece := by
        rw [← parseSpec?_isSome_iff, hp]
        simp
      simp only [parseSpecs, hp, Except.error.injEq] at h
      exact ⟨[], piece, pieces, rfl, by simp, hbad, by simp [h]⟩
    | some v =>
      have hgood : SpecText piece := by
        rw [← parseSpec?_isSome_iff, hp]
        rfl
      cases hr : parseSpecs src (off + piece.length + 1) pieces with
      | ok vs => simp [parseSpecs, hp, hr, Functor.map, Except.map] at h
      | error e' =>
        simp only [parseSpecs, hp, hr, Functor.map, Except.map, Except.error.injEq] at h
        obtain ⟨goods, bad, rest, rfl, hgoods, hb, he⟩ := parseSpecs_error src hr
        refine ⟨piece :: goods, bad, rest, rfl, List.forall_mem_cons.2 ⟨hgood, hgoods⟩, hb, ?_⟩
        rw [← h, he]
        simp only [List.map_cons, List.sum_cons]
        congr 1
        omega

/-! ### Expressions -/

/-- The specifications of a non-empty body, after the operator if there is one and starting at
`off`: read exactly when the body is a list of specifications, and otherwise refused at the first
item that is not one. -/
theorem parseSpecs_body (src : String) (off : Nat) (body : List Char) :
    ((∃ vs, parseSpecs src off (body.splitOn ',') = .ok vs) ↔ SpecList body) ∧
      ∀ e, parseSpecs src off (body.splitOn ',') = .error e →
        ¬SpecList body ∧ ∃ goods bad rest, body.splitOn ',' = goods ++ bad :: rest ∧
          (∀ g ∈ goods, SpecText g) ∧ ¬SpecText bad ∧
          e = .template src (off + (goods.map (·.length + 1)).sum)
            (.invalidName (String.ofList bad)) := by
  refine ⟨(parseSpecs_ok_iff src off _).trans specList_iff_splitOn.symm, fun e h => ?_⟩
  obtain ⟨goods, bad, rest, hsplit, hgoods, hbad, he⟩ := parseSpecs_error src h
  refine ⟨fun hb => hbad (specList_iff_splitOn.1 hb bad ?_), goods, bad, rest, hsplit, hgoods,
    hbad, he⟩
  rw [hsplit]
  exact List.mem_append_right goods List.mem_cons_self

/-- An expression is read exactly when the text between the braces is one, and otherwise
reading fails with the text's fault, at its offset from the `{` at `start`. -/
theorem parseExpression_spec (src : String) (start : Nat) (inner : List Char) :
    (∀ p, parseExpression src start inner = .ok p → Expression inner) ∧
      ∀ e, parseExpression src start inner = .error e →
        ¬Expression inner ∧ ∃ off f, BadExpression inner off f ∧
          e = .template src (start + off) f := by
  cases inner with
  | nil =>
    refine ⟨fun p h => by simp [parseExpression] at h, fun e h => ?_⟩
    simp only [parseExpression, Except.error.injEq] at h
    exact ⟨not_expression_nil, 0, _, .empty, by simp [h]⟩
  | cons c rest =>
    by_cases hres : isReservedOperator c = true
    · -- a reserved operator is refused before anything else is read
      have hr := (isReservedOperator_iff c).1 hres
      refine ⟨fun p h => by simp [parseExpression, hres] at h, fun e h => ?_⟩
      simp only [parseExpression, hres, if_true, Except.error.injEq] at h
      exact ⟨not_expression_reserved hr, 1, _, .reserved hr, h.symm⟩
    · have hnr : ¬IsReservedChar c := fun hr => hres ((isReservedOperator_iff c).2 hr)
      cases hop : Operator.ofChar? c with
      | some op =>
        have ho : IsOperatorChar c := (ofChar?_isSome_iff c).1 (by simp [hop])
        cases rest with
        | nil =>
          have hnot : ¬Expression [c] := by
            rw [expression_operator_iff ho]
            intro hb
            obtain ⟨d, r, hdr, -⟩ := hb.head
            cases hdr
          refine ⟨fun p h => by simp [parseExpression, hres, hop] at h, fun e h => ?_⟩
          simp only [parseExpression, hres, hop, Bool.false_eq_true, if_false, List.isEmpty_nil,
            if_true, Except.error.injEq] at h
          exact ⟨hnot, 1, _, .missing ho, h.symm⟩
        | cons d ds =>
          have hbody := parseSpecs_body src (start + 1 + 1) (d :: ds)
          rw [expression_operator_iff ho]
          cases hs : parseSpecs src (start + 1 + 1) ((d :: ds).splitOn ',') with
          | ok vs =>
            refine ⟨fun _ _ => hbody.1.1 ⟨vs, hs⟩, fun e h => ?_⟩
            simp [parseExpression, hres, hop, hs, Functor.map, Except.map] at h
          | error e' =>
            obtain ⟨hnot, goods, bad, rest, hsplit, hgoods, hbad, he⟩ := hbody.2 e' hs
            refine ⟨fun p h => by simp [parseExpression, hres, hop, hs, Functor.map,
              Except.map] at h, fun e h => ?_⟩
            simp only [parseExpression, hres, hop, Bool.false_eq_true, if_false,
              List.isEmpty_cons, hs, Functor.map, Except.map, Except.error.injEq] at h
            refine ⟨hnot, _, _, .operatorItem ho (List.cons_ne_nil d ds) hsplit hgoods hbad, ?_⟩
            rw [← h, he]
            congr 1
            omega
      | none =>
        have hno : ¬IsOperatorChar c := fun ho => by
          simpa [hop] using (ofChar?_isSome_iff c).2 ho
        have hbody := parseSpecs_body src (start + 1 + 0) (c :: rest)
        rw [expression_plain_iff hno]
        cases hs : parseSpecs src (start + 1 + 0) ((c :: rest).splitOn ',') with
        | ok vs =>
          refine ⟨fun _ _ => hbody.1.1 ⟨vs, hs⟩, fun e h => ?_⟩
          simp [parseExpression, hres, hop, hs, Functor.map, Except.map] at h
        | error e' =>
          obtain ⟨hnot, goods, bad, rest', hsplit, hgoods, hbad, he⟩ := hbody.2 e' hs
          refine ⟨fun p h => by simp [parseExpression, hres, hop, hs, Functor.map,
            Except.map] at h, fun e h => ?_⟩
          simp only [parseExpression, hres, hop, Bool.false_eq_true, if_false,
            List.isEmpty_cons, hs, Functor.map, Except.map, Except.error.injEq] at h
          have hfirst : ∀ c' r, c :: rest = c' :: r → ¬IsOperatorChar c' ∧ ¬IsReservedChar c' := by
            intro c' r hcr
            cases hcr
            exact ⟨hno, hnr⟩
          refine ⟨hnot, _, _, .plainItem (List.cons_ne_nil c rest) hfirst hsplit hgoods hbad, ?_⟩
          rw [← h, he]
          congr 1
          omega

/-! ### The scanner -/

/-- What reading the characters `cs`, which start at position `pos` of the text `src`, may
give: a result exactly when the grammar generates `cs`, and otherwise a refusal at the first
malformed construct, after a generated text. -/
def ReadsAs {α : Type} (src : String) (cs : List Char) (pos : Nat) : Except Failure α → Prop
  | .ok _ => Generated cs
  | .error e => ¬Generated cs ∧ ∃ u v off f, cs = u ++ v ∧ Generated u ∧ Malformed v off f ∧
      e = .template src (pos + u.length + off) f

/-- Literal characters in front of a text: a reading of the text is a reading of the whole. -/
theorem ReadsAs.prepend {α : Type} {src : String} {l cs : List Char} {pos : Nat}
    {r : Except Failure α} (hl : ∀ c ∈ l, c ≠ '{' ∧ c ≠ '}')
    (h : ReadsAs src cs (pos + l.length) r) : ReadsAs src (l ++ cs) pos r := by
  cases r with
  | ok a => exact (generated_append_iff hl).2 h
  | error e =>
    obtain ⟨hng, u, v, off, f, rfl, hu, hv, rfl⟩ := h
    refine ⟨fun hg => hng ((generated_append_iff hl).1 hg), l ++ u, v, off, f, by simp,
      (generated_append_iff hl).2 hu, hv, ?_⟩
    simp only [List.length_append]
    congr 1
    omega

/-- A refusal at a construct at the head of the text. -/
theorem ReadsAs.of_malformed {α : Type} {src : String} {v : List Char} {pos off : Nat}
    {f : TemplateFault} (hv : Malformed v off f) (hng : ¬Generated v) :
    ReadsAs src v pos (.error (.template src (pos + off) f) : Except Failure α) :=
  ⟨hng, [], v, off, f, rfl, .nil, hv, rfl⟩

theorem idxOf?_eq_some_split {l : List Char} {a : Char} {k : Nat} (h : l.idxOf? a = some k) :
    ∃ x z, l = x ++ a :: z ∧ a ∉ x ∧ x.length = k := by
  obtain ⟨hk, hget, hbefore⟩ := List.idxOf?_eq_some_iff.1 h
  refine ⟨l.take k, l.drop (k + 1), ?_, ?_, by simp; omega⟩
  · rw [← hget, List.getElem_cons_drop, List.take_append_drop]
  · intro hm
    obtain ⟨j, hj, hjget⟩ := List.getElem_of_mem hm
    simp only [List.length_take] at hj
    rw [List.getElem_take] at hjget
    exact hbefore j (by omega) hjget

/-- A colon and the name after it are literal characters to the grammar. -/
theorem colon_not_brace {c : Char} (rest : List Char) (hc : isNameStart c = true) :
    ∀ x ∈ ':' :: c :: rest.takeWhile isWordChar, x ≠ '{' ∧ x ≠ '}' := by
  intro x hx
  simp only [List.mem_cons] at hx
  rcases hx with rfl | rfl | hx
  · decide
  · have h := IsNameChar.of_isNameStart hc
    exact ⟨h.ne (by decide), h.ne (by decide)⟩
  · have h := (isWordChar_iff x).1 (List.mem_takeWhile_imp hx)
    exact ⟨h.ne (by decide), h.ne (by decide)⟩

/-- A colon variable is literal text to the grammar: what reads the text after its name reads
the text from its colon on. -/
theorem ReadsAs.colon {α : Type} {src : String} {c : Char} {rest : List Char} {pos : Nat}
    {r : Except Failure α} (hc : isNameStart c = true)
    (h : ReadsAs src (rest.dropWhile isWordChar)
      (pos + 1 + (c :: rest.takeWhile isWordChar).length) r) :
    ReadsAs src (':' :: c :: rest) pos r := by
  have hpos : pos + 1 + (c :: rest.takeWhile isWordChar).length =
      pos + (':' :: c :: rest.takeWhile isWordChar).length := by
    simp only [List.length_cons]
    omega
  rw [hpos] at h
  have h' := ReadsAs.prepend (colon_not_brace rest hc) h
  rwa [List.cons_append, List.cons_append, List.takeWhile_append_dropWhile] at h'

/-- The scanner reads as the grammar says, at every step: literal characters and colon
variables are literal characters to the grammar, and a `{` opens an expression up to the next
`}`. -/
theorem scan_readsAs (src : String) (cs : List Char) (pos : Nat) (lit : List Char) :
    ReadsAs src cs pos (scan src cs pos lit) := by
  fun_induction scan src cs pos lit with
  | case1 => exact .nil
  | case2 pos lit rest hnone =>
    have hclose : '}' ∉ rest := fun hm => by
      simpa using List.dropWhile_eq_nil_iff.1 hnone '}' hm
    exact .of_malformed (.unclosed hclose) (not_generated_open hclose)
  | case3 pos lit rest inner head after hsome k hk =>
    obtain ⟨hrest, hclose⟩ := eq_takeWhile_append_of_dropWhile hsome
    obtain ⟨x, z, hxz, hx, rfl⟩ := idxOf?_eq_some_split hk
    replace hxz : rest.takeWhile (· != '}') = x ++ '{' :: z := hxz
    have hxclose : '}' ∉ x := fun hm => hclose (hxz ▸ List.mem_append_left _ hm)
    have hnot : ¬Generated ('{' :: rest) := by
      rw [hrest, generated_open_iff hclose]
      rintro ⟨he, -⟩
      exact he.not_brace.1 (hxz ▸ List.mem_append_right x List.mem_cons_self)
    have hm : Malformed ('{' :: rest) (x.length + 1) .nested := by
      have hv : '{' :: rest = '{' :: (x ++ '{' :: (z ++ '}' :: after)) := by
        rw [hrest]
        simp [hxz]
      rw [hv]
      exact .nested hx hxclose (List.mem_append_right z List.mem_cons_self)
    have hr : ReadsAs src ('{' :: rest) pos
        (.error (.template src (pos + (x.length + 1)) .nested) : Except Failure (List Part)) :=
      .of_malformed hm hnot
    rwa [show pos + (x.length + 1) = pos + 1 + x.length by omega] at hr
  | case4 pos lit rest inner head after hsome hnone ih =>
    obtain ⟨hrest, hclose⟩ := eq_takeWhile_append_of_dropWhile hsome
    have hopen : '{' ∉ inner := List.idxOf?_eq_none_iff.1 hnone
    have hspec := parseExpression_spec src pos inner
    cases hp : parseExpression src pos inner with
    | error e =>
      obtain ⟨hne, off, f, hbad, rfl⟩ := hspec.2 e hp
      have hm : Malformed ('{' :: rest) off f := by
        rw [hrest]
        exact .expression hopen hclose hbad
      have hng : ¬Generated ('{' :: rest) := by
        rw [hrest, generated_open_iff hclose]
        exact fun h => hne h.1
      exact .of_malformed hm hng
    | ok part =>
      have he := hspec.1 part hp
      cases hs : scan src after (pos + inner.length + 2) [] with
      | ok more =>
        rw [hs] at ih
        show Generated ('{' :: rest)
        rw [hrest]
        exact .expression he ih
      | error e =>
        rw [hs] at ih
        obtain ⟨hng, u, v, off, f, rfl, hu, hv, rfl⟩ := ih
        refine ⟨?_, '{' :: (inner ++ '}' :: u), v, off, f, ?_, .expression he hu, hv, ?_⟩
        · rw [hrest, generated_open_iff hclose]
          exact fun h => hng h.2
        · rw [hrest]
          simp [inner]
        · simp only [List.length_cons, List.length_append]
          congr 1
          omega
  | case5 => exact .of_malformed .unmatched not_generated_close
  | case6 pos lit c rest hstart name _ more hmore ih =>
    rw [hmore] at ih
    exact ReadsAs.colon hstart ih
  | case7 pos lit c rest hstart name _ e he ih =>
    rw [he] at ih
    exact ReadsAs.colon hstart ih
  | case8 pos lit c rest hstart ih =>
    exact ReadsAs.prepend (by simp : ∀ x ∈ [':'], x ≠ '{' ∧ x ≠ '}') ih
  | case9 pos lit c rest h1 h2 h3 ih =>
    exact ReadsAs.prepend (by simpa using And.intro h1 h2 : ∀ x ∈ [c], x ≠ '{' ∧ x ≠ '}') ih

/-! ### Reading a template -/

/-- Reading a text fails exactly when the grammar does not generate it. A refused text is a
generated text followed by a malformed construct, and the refusal reports the position of the
construct's fault, which lies inside the text. -/
theorem parse_follows_grammar (t : String) :
    ((∃ e, parse t = .error e) ↔ ¬Generated t.toList) ∧
    ∀ e, parse t = .error e → ∃ u v off f, t.toList = u ++ v ∧ Generated u ∧
      Malformed v off f ∧ u.length + off < t.length ∧ e = .template t (u.length + off) f := by
  have h := scan_readsAs t t.toList 0 []
  cases hs : scan t t.toList 0 [] with
  | ok parts =>
    rw [hs] at h
    have hp : parse t = .ok { parts } := by simp [parse, hs]
    simp only [hp, reduceCtorEq, exists_false, false_iff, not_not, false_implies, implies_true,
      and_true]
    exact h
  | error e =>
    rw [hs] at h
    obtain ⟨hng, u, v, off, f, hcs, hu, hv, he⟩ := h
    have hp : parse t = .error e := by simp [parse, hs]
    have hlen : u.length + off < t.length := by
      have hoff := hv.off_lt
      have ht : t.length = u.length + v.length := by
        rw [← String.length_toList, hcs, List.length_append]
      omega
    refine ⟨⟨fun _ => hng, fun _ => ⟨e, hp⟩⟩, ?_⟩
    intro e' he'
    rw [hp, Except.error.injEq] at he'
    subst he'
    exact ⟨u, v, off, f, hcs, hu, hv, hlen, by simpa using he⟩

/-! ### The parts of a read template -/

theorem parseSpecs_length (src : String) :
    ∀ {off : Nat} {pieces : List (List Char)} {vs : List VarSpec},
      parseSpecs src off pieces = .ok vs → vs.length = pieces.length
  | _, [], vs, h => by
    simp only [parseSpecs, Except.ok.injEq] at h
    simp [← h]
  | off, piece :: pieces, vs, h => by
    cases hp : parseSpec? piece with
    | none => simp [parseSpecs, hp] at h
    | some v =>
      cases hr : parseSpecs src (off + piece.length + 1) pieces with
      | error e => simp [parseSpecs, hp, hr, Functor.map, Except.map] at h
      | ok vs' =>
        simp only [parseSpecs, hp, hr, Functor.map, Except.map, Except.ok.injEq] at h
        simp [← h, parseSpecs_length src hr]

theorem parseSpec?_name_chars {cs : List Char} {v : VarSpec} (h : parseSpec? cs = some v) :
    ∀ c ∈ v.name.toList, IsUnitStart c ∨ c = '.' := by
  simp only [parseSpec?] at h
  split at h
  · rename_i hname
    obtain ⟨m, _, rfl⟩ := Option.map_eq_some_iff.1 h
    simpa using ((isVarName_iff _).1 hname).mem
  · cases h

theorem parseSpecs_name_chars (src : String) :
    ∀ {off : Nat} {pieces : List (List Char)} {vs : List VarSpec},
      parseSpecs src off pieces = .ok vs → ∀ v ∈ vs, ∀ c ∈ v.name.toList, IsUnitStart c ∨ c = '.'
  | _, [], vs, h => by
    simp only [parseSpecs, Except.ok.injEq] at h
    simp [← h]
  | off, piece :: pieces, vs, h => by
    cases hp : parseSpec? piece with
    | none => simp [parseSpecs, hp] at h
    | some v =>
      cases hr : parseSpecs src (off + piece.length + 1) pieces with
      | error e => simp [parseSpecs, hp, hr, Functor.map, Except.map] at h
      | ok vs' =>
        simp only [parseSpecs, hp, hr, Functor.map, Except.map, Except.ok.injEq] at h
        subst h
        intro w hw
        rcases List.mem_cons.1 hw with rfl | hw
        · exact parseSpec?_name_chars hp
        · exact parseSpecs_name_chars src hr w hw

/-- The variables of a read variable part: at least one, each named by name characters, `%`
and dots. -/
structure Part.Declared (p : Part) : Prop where
  specs_ne_nil : p.specs ≠ []
  name_chars : ∀ v ∈ p.specs, ∀ c ∈ v.name.toList, IsUnitStart c ∨ c = '.'

/-- An expression that is read is a variable part with declared variables. -/
theorem parseExpression_declared {src : String} {start : Nat} {inner : List Char} {p : Part}
    (h : parseExpression src start inner = .ok p) : p.isVariable = true ∧ p.Declared := by
  cases inner with
  | nil => simp [parseExpression] at h
  | cons c rest =>
    by_cases hres : isReservedOperator c = true
    · simp [parseExpression, hres] at h
    · have hbody : ∀ (op : Operator) (body : List Char) (off : Nat), body ≠ [] →
          (Part.expression op ·) <$> parseSpecs src off (body.splitOn ',') = .ok p →
            p.isVariable = true ∧ p.Declared := by
        intro op body off _ hp
        cases hs : parseSpecs src off (body.splitOn ',') with
        | error e => simp [hs, Functor.map, Except.map] at hp
        | ok vs =>
          simp only [hs, Functor.map, Except.map, Except.ok.injEq] at hp
          subst hp
          have hlen := parseSpecs_length src hs
          refine ⟨rfl, ⟨fun hnil => List.splitOn_ne_nil ',' body ?_, parseSpecs_name_chars src hs⟩⟩
          rw [← List.length_eq_zero_iff, ← hlen]
          simpa [Part.specs] using hnil
      cases hop : Operator.ofChar? c with
      | some op =>
        cases rest with
        | nil => simp [parseExpression, hres, hop] at h
        | cons d more =>
          simp only [parseExpression, hres, hop, Bool.false_eq_true, if_false, List.isEmpty_cons]
            at h
          exact hbody op (d :: more) _ (List.cons_ne_nil d more) h
      | none =>
        simp only [parseExpression, hres, hop, Bool.false_eq_true, if_false, List.isEmpty_cons] at h
        exact hbody .simple (c :: rest) _ (List.cons_ne_nil c rest) h

/-- A colon variable is a variable part with one declared variable. -/
theorem colon_declared {c : Char} (rest : List Char) (hc : isNameStart c = true) :
    (Part.colon (String.ofList (c :: rest.takeWhile isWordChar))).Declared := by
  refine ⟨by simp [Part.specs], ?_⟩
  intro v hv
  rw [Part.specs, List.mem_singleton] at hv
  subst hv
  rw [String.toList_ofList]
  rintro d (_ | ⟨_, hd⟩)
  · exact Or.inl (Or.inl (IsNameChar.of_isNameStart hc))
  · exact Or.inl (Or.inl ((isWordChar_iff d).1 (List.mem_takeWhile_imp hd)))

theorem mem_withLiteral {lit : List Char} {parts : List Part} {p : Part}
    (h : p ∈ withLiteral lit parts) : p ∈ parts ∨ p.isVariable = false := by
  unfold withLiteral at h
  split at h
  · exact .inl h
  · rcases List.mem_cons.1 h with rfl | h
    · exact .inr rfl
    · exact .inl h

theorem scan_declared (src : String) (cs : List Char) (pos : Nat) (lit : List Char) :
    ∀ parts, scan src cs pos lit = .ok parts → ∀ p ∈ parts, p.isVariable = true → p.Declared := by
  fun_induction scan src cs pos lit with
  | case1 pos lit =>
    intro parts h p hp hv
    simp only [Except.ok.injEq] at h
    subst h
    rcases mem_withLiteral hp with hp | hp
    · cases hp
    · simp [hp] at hv
  | case4 pos lit rest inner head after hsome hnone ih =>
    intro parts h p hp hv
    cases he : parseExpression src pos inner with
    | error e => simp [he, bind, Except.bind] at h
    | ok part =>
      cases hs : scan src after (pos + inner.length + 2) [] with
      | error e => simp [he, hs, bind, Except.bind] at h
      | ok more =>
        simp only [he, hs, bind, Except.bind, pure, Except.pure, Except.ok.injEq] at h
        subst h
        rcases mem_withLiteral hp with hp | hp
        · rcases List.mem_cons.1 hp with rfl | hp
          · exact (parseExpression_declared he).2
          · exact ih more hs p hp hv
        · simp [hp] at hv
  | case6 pos lit c rest hstart name _ more hmore ih =>
    intro parts h p hp hv
    simp only [Except.ok.injEq] at h
    subst h
    rcases mem_withLiteral hp with hp | hp
    · rcases List.mem_cons.1 hp with rfl | hp
      · exact colon_declared rest hstart
      · exact ih more hmore p hp hv
    · simp [hp] at hv
  | case8 pos lit c rest hstart ih => exact ih
  | case9 pos lit c rest h1 h2 h3 ih => exact ih
  | _ => intro parts h; simp at h

/-- A text is read as the template its reading gives; this turns a computed reading into an
equation. -/
theorem parse_eq_ok_of_toOption {s : String} {t : Template} (h : (parse s).toOption = some t) :
    parse s = .ok t := by
  cases hp : parse s <;> simp_all [Except.toOption]

/-- Every variable part of a read template declares at least one variable, each named by name
characters, `%` and dots. -/
theorem parse_declared {s : String} {t : Template} (h : parse s = .ok t) :
    ∀ p ∈ t.parts, p.isVariable = true → p.Declared := by
  cases hs : scan s s.toList 0 [] with
  | error e => simp [parse, hs, Functor.map, Except.map] at h
  | ok parts =>
    simp only [parse, hs, Functor.map, Except.map, Except.ok.injEq] at h
    subst h
    exact scan_declared s s.toList 0 [] parts hs

end UrlRouting.Template
