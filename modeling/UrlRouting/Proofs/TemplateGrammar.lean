import Mathlib
import UrlRouting.Template.Parse

/-!
# The grammar of templates

The texts a template may be, as a grammar over characters:

* template := (literal character | `{` expression `}`)*, where a literal character is any
  character but `{` and `}`; a colon variable `:name` is literal characters to the grammar;
* expression := [operator] spec (`,` spec)*, with the operators `+ # . / ; ? &`;
* spec := name [`:` [1-9] [0-9]{0,3} | `*`];
* name := unit+ (`.` unit+)*, where a unit is an ASCII letter or digit, `_`, or `%` and two
  hexadecimal digits.

The character classes are stated here on their own, not through the reader's tests. Items
joined by a separator (`Joined`) serve both names and lists of specifications; such a text is
the items that splitting it at the separator gives (`joined_iff_splitOn`).

A text outside the grammar has a first malformed construct, met reading from the left: a text
the grammar generates (`Generated`), then a construct at which reading stops (`Malformed`), at
an offset within it: an unclosed `{`, the inner `{` of a nested pair, an unmatched `}`, or an
expression that is empty, starts with a reserved operator, has an operator and nothing else, or
has an item between commas that is no specification (`BadExpression`).

## Main definitions

* `UrlRouting.Template.Grammar.Units`, `UrlRouting.Template.Grammar.Joined`,
  `UrlRouting.Template.Grammar.Name`, `UrlRouting.Template.Grammar.ModifierText`,
  `UrlRouting.Template.Grammar.SpecText`, `UrlRouting.Template.Grammar.SpecList`,
  `UrlRouting.Template.Grammar.Expression`, `UrlRouting.Template.Grammar.Generated`
* `UrlRouting.Template.Grammar.BadExpression`, `UrlRouting.Template.Grammar.Malformed`

## Main results

* `UrlRouting.Template.Grammar.joined_iff_splitOn`
* `UrlRouting.Template.Grammar.Expression.not_brace`: an expression holds no brace.
* `UrlRouting.Template.Grammar.generated_open_iff`: how a generated text goes on after `{`.
-/

namespace UrlRouting.Template.Grammar

/-! ### Character classes -/

/-- The characters of names besides escapes: ASCII letters and digits, and `_`. -/
def IsNameChar (c : Char) : Prop :=
  ('a' ≤ c ∧ c ≤ 'z') ∨ ('A' ≤ c ∧ c ≤ 'Z') ∨ ('0' ≤ c ∧ c ≤ '9') ∨ c = '_'

/-- ASCII hexadecimal digits of either case. -/
def IsHexDigit (c : Char) : Prop := ('0' ≤ c ∧ c ≤ '9') ∨ ('a' ≤ c ∧ c ≤ 'f') ∨ ('A' ≤ c ∧ c ≤ 'F')

/-- ASCII decimal digits. -/
def IsDigit (c : Char) : Prop := '0' ≤ c ∧ c ≤ '9'

/-- The characters that write operators. -/
def IsOperatorChar (c : Char) : Prop := c ∈ ['+', '#', '.', '/', ';', '?', '&']

/-- The characters kept for later operators. -/
def IsReservedChar (c : Char) : Prop := c ∈ ['=', ',', '!', '@', '|']

instance (c : Char) : Decidable (IsNameChar c) := inferInstanceAs (Decidable (_ ∨ _ ∨ _ ∨ _))
instance (c : Char) : Decidable (IsHexDigit c) := inferInstanceAs (Decidable (_ ∨ _ ∨ _))
instance (c : Char) : Decidable (IsDigit c) := inferInstanceAs (Decidable (_ ∧ _))
instance (c : Char) : Decidable (IsOperatorChar c) := inferInstanceAs (Decidable (c ∈ _))
instance (c : Char) : Decidable (IsReservedChar c) := inferInstanceAs (Decidable (c ∈ _))

/-! ### The grammar -/

/-- Runs of name units: name characters, and `%` with two hexadecimal digits. -/
inductive Units : List Char → Prop
  | nil : Units []
  | char {c : Char} {cs : List Char} : IsNameChar c → Units cs → Units (c :: cs)
  | escape {a b : Char} {cs : List Char} : IsHexDigit a → IsHexDigit b → Units cs →
      Units ('%' :: a :: b :: cs)

/-- Items of the kind `P` joined by single separators `sep`. -/
inductive Joined (P : List Char → Prop) (sep : Char) : List Char → Prop
  | one {x : List Char} : P x → Joined P sep x
  | cons {x xs : List Char} : P x → Joined P sep xs → Joined P sep (x ++ sep :: xs)

/-- A name: non-empty runs of units joined by single dots. -/
def Name : List Char → Prop := Joined (fun u => u ≠ [] ∧ Units u) '.'

/-- What may follow a name: nothing, `*`, or `:` and one to four digits, the first not `0`. -/
inductive ModifierText : List Char → Prop
  | plain : ModifierText []
  | explode : ModifierText ['*']
  | maxLength {d : Char} {ds : List Char} : '1' ≤ d → d ≤ '9' → ds.length ≤ 3 →
      (∀ x ∈ ds, IsDigit x) → ModifierText (':' :: d :: ds)

/-- A variable specification: a name and its modifier. -/
def SpecText (cs : List Char) : Prop := ∃ n m, cs = n ++ m ∧ Name n ∧ ModifierText m

/-- Specifications joined by commas. -/
def SpecList : List Char → Prop := Joined SpecText ','

/-- The text between the braces of an expression: an optional operator, then specifications. -/
inductive Expression : List Char → Prop
  | plain {b : List Char} : SpecList b → Expression b
  | operator {o : Char} {b : List Char} : IsOperatorChar o → SpecList b → Expression (o :: b)

/-- The texts the grammar of templates generates. -/
inductive Generated : List Char → Prop
  | nil : Generated []
  | literal {c : Char} {cs : List Char} : c ≠ '{' → c ≠ '}' → Generated cs → Generated (c :: cs)
  | expression {e cs : List Char} : Expression e → Generated cs →
      Generated ('{' :: e ++ '}' :: cs)

/-! ### The first malformed construct -/

/-- A fault of the text between the braces of an expression, at its offset from the `{`: the
expression is empty; it starts with a reserved operator; it is an operator alone; or, after the
operator if there is one, one of the items between commas is no specification, every item
before it being one, and the fault is at the item's first character. -/
inductive BadExpression : List Char → Nat → TemplateFault → Prop
  | empty : BadExpression [] 0 .emptyExpression
  | reserved {c : Char} {b : List Char} : IsReservedChar c →
      BadExpression (c :: b) 1 (.reservedOperator c)
  | missing {o : Char} : IsOperatorChar o → BadExpression [o] 1 .missingName
  | plainItem {goods rest : List (List Char)} {bad body : List Char} :
      body ≠ [] → (∀ c r, body = c :: r → ¬IsOperatorChar c ∧ ¬IsReservedChar c) →
      body.splitOn ',' = goods ++ bad :: rest → (∀ g ∈ goods, SpecText g) → ¬SpecText bad →
      BadExpression body (1 + (goods.map (·.length + 1)).sum) (.invalidName (String.ofList bad))
  | operatorItem {goods rest : List (List Char)} {o : Char} {bad body : List Char} :
      IsOperatorChar o → body ≠ [] → body.splitOn ',' = goods ++ bad :: rest →
      (∀ g ∈ goods, SpecText g) → ¬SpecText bad →
      BadExpression (o :: body) (2 + (goods.map (·.length + 1)).sum)
        (.invalidName (String.ofList bad))

/-- A construct at the head of a text at which reading stops, with the offset of the fault in
it: a `{` with no `}` after it; a `{` between a `{` and the next `}`; a `}` with no `{`; or an
expression between braces with a fault. -/
inductive Malformed : List Char → Nat → TemplateFault → Prop
  | unclosed {w : List Char} : '}' ∉ w → Malformed ('{' :: w) 0 .unclosed
  | nested {x y : List Char} : '{' ∉ x → '}' ∉ x → '}' ∈ y →
      Malformed ('{' :: x ++ '{' :: y) (x.length + 1) .nested
  | unmatched {w : List Char} : Malformed ('}' :: w) 0 .unmatched
  | expression {e w : List Char} {off : Nat} {f : TemplateFault} : '{' ∉ e → '}' ∉ e →
      BadExpression e off f → Malformed ('{' :: e ++ '}' :: w) off f

/-! ### Which characters the pieces hold -/

theorem IsNameChar.ne {c d : Char} (h : IsNameChar c) (hd : ¬IsNameChar d) : c ≠ d :=
  fun e => hd (e ▸ h)

theorem IsNameChar.not_operator {c : Char} (h : IsNameChar c) : ¬IsOperatorChar c := by
  intro ho
  simp only [IsOperatorChar, List.mem_cons, List.not_mem_nil, or_false] at ho
  rcases ho with rfl | rfl | rfl | rfl | rfl | rfl | rfl <;> exact absurd h (by decide)

theorem IsNameChar.not_reserved {c : Char} (h : IsNameChar c) : ¬IsReservedChar c := by
  intro hr
  simp only [IsReservedChar, List.mem_cons, List.not_mem_nil, or_false] at hr
  rcases hr with rfl | rfl | rfl | rfl | rfl <;> exact absurd h (by decide)

theorem IsOperatorChar.not_reserved {c : Char} (h : IsOperatorChar c) : ¬IsReservedChar c := by
  simp only [IsOperatorChar, List.mem_cons, List.not_mem_nil, or_false] at h
  rcases h with rfl | rfl | rfl | rfl | rfl | rfl | rfl <;> decide

/-- The characters a name starts with: name characters and the `%` of an escape. -/
def IsUnitStart (c : Char) : Prop := IsNameChar c ∨ c = '%'

theorem IsUnitStart.not_operator {c : Char} (h : IsUnitStart c) : ¬IsOperatorChar c := by
  rcases h with h | rfl
  · exact h.not_operator
  · decide

theorem IsUnitStart.not_reserved {c : Char} (h : IsUnitStart c) : ¬IsReservedChar c := by
  rcases h with h | rfl
  · exact h.not_reserved
  · decide

theorem IsHexDigit.isNameChar {c : Char} (h : IsHexDigit c) : IsNameChar c := by
  rcases h with h | ⟨ha, hf⟩ | ⟨hA, hF⟩
  · exact .inr (.inr (.inl h))
  · exact .inl ⟨ha, Char.le_trans hf (by decide)⟩
  · exact .inr (.inl ⟨hA, Char.le_trans hF (by decide)⟩)

theorem Units.mem {u : List Char} (h : Units u) : ∀ c ∈ u, IsUnitStart c := by
  induction h with
  | nil => simp
  | char hc _ ih => simpa [IsUnitStart, hc] using ih
  | escape ha hb _ ih =>
    intro c hc
    simp only [List.mem_cons] at hc
    rcases hc with rfl | rfl | rfl | hc
    · exact .inr rfl
    · exact .inl ha.isNameChar
    · exact .inl hb.isNameChar
    · exact ih c hc

theorem Units.head {u : List Char} (h : Units u) (hne : u ≠ []) :
    ∃ c r, u = c :: r ∧ IsUnitStart c := by
  cases h with
  | nil => exact absurd rfl hne
  | char hc _ => exact ⟨_, _, rfl, .inl hc⟩
  | escape _ _ _ => exact ⟨_, _, rfl, .inr rfl⟩

theorem Joined.mem {P : List Char → Prop} {sep : Char} {Q : Char → Prop}
    (hP : ∀ x, P x → ∀ c ∈ x, Q c) {l : List Char} (h : Joined P sep l) :
    ∀ c ∈ l, Q c ∨ c = sep := by
  induction h with
  | one hx => exact fun c hc => .inl (hP _ hx c hc)
  | cons hx _ ih =>
    intro c hc
    simp only [List.mem_append, List.mem_cons] at hc
    rcases hc with hc | rfl | hc
    · exact .inl (hP _ hx c hc)
    · exact .inr rfl
    · exact ih c hc

theorem Joined.head {P : List Char → Prop} {sep : Char} {Q : Char → Prop}
    (hP : ∀ x, P x → ∃ c r, x = c :: r ∧ Q c) {l : List Char} (h : Joined P sep l) :
    ∃ c r, l = c :: r ∧ Q c := by
  cases h with
  | one hx => exact hP _ hx
  | cons hx _ =>
    obtain ⟨c, r, rfl, hc⟩ := hP _ hx
    exact ⟨c, _, rfl, hc⟩

theorem Name.mem {n : List Char} (h : Name n) : ∀ c ∈ n, IsUnitStart c ∨ c = '.' :=
  Joined.mem (fun _ hu => hu.2.mem) h

theorem Name.head {n : List Char} (h : Name n) : ∃ c r, n = c :: r ∧ IsUnitStart c :=
  Joined.head (fun _ hu => hu.2.head hu.1) h

theorem ModifierText.mem {m : List Char} (h : ModifierText m) :
    ∀ c ∈ m, IsNameChar c ∨ c = ':' ∨ c = '*' := by
  cases h with
  | plain => simp
  | explode => simp
  | maxLength h1 h9 _ hds =>
    intro c hc
    simp only [List.mem_cons] at hc
    rcases hc with rfl | rfl | hc
    · exact .inr (.inl rfl)
    · exact .inl (.inr (.inr (.inl ⟨Char.le_trans (by decide) h1, h9⟩)))
    · exact .inl (.inr (.inr (.inl (hds c hc))))

/-- The characters of a specification: those of names, and `:` and `*`. -/
def IsSpecChar (c : Char) : Prop := IsUnitStart c ∨ c = '.' ∨ c = ':' ∨ c = '*'

theorem SpecText.mem {v : List Char} (h : SpecText v) : ∀ c ∈ v, IsSpecChar c := by
  obtain ⟨n, m, rfl, hn, hm⟩ := h
  intro c hc
  rcases List.mem_append.1 hc with hc | hc
  · rcases hn.mem c hc with h | h
    · exact .inl h
    · exact .inr (.inl h)
  · rcases hm.mem c hc with h | h | h
    · exact .inl (.inl h)
    · exact .inr (.inr (.inl h))
    · exact .inr (.inr (.inr h))

theorem SpecText.head {v : List Char} (h : SpecText v) : ∃ c r, v = c :: r ∧ IsUnitStart c := by
  obtain ⟨n, m, rfl, hn, -⟩ := h
  obtain ⟨c, r, rfl, hc⟩ := hn.head
  exact ⟨c, r ++ m, rfl, hc⟩

theorem SpecList.head {b : List Char} (h : SpecList b) : ∃ c r, b = c :: r ∧ IsUnitStart c :=
  Joined.head (fun _ hv => hv.head) h

theorem SpecList.mem {b : List Char} (h : SpecList b) : ∀ c ∈ b, IsSpecChar c ∨ c = ',' :=
  Joined.mem (fun _ hv => hv.mem) h

theorem IsSpecChar.ne {c d : Char} (h : IsSpecChar c) (hd : ¬IsSpecChar d) : c ≠ d :=
  fun e => hd (e ▸ h)

instance (c : Char) : Decidable (IsUnitStart c) := inferInstanceAs (Decidable (_ ∨ _))
instance (c : Char) : Decidable (IsSpecChar c) := inferInstanceAs (Decidable (_ ∨ _ ∨ _ ∨ _))

/-! ### Items joined by a separator -/

theorem joined_intercalate {P : List Char → Prop} {sep : Char} :
    ∀ {items : List (List Char)}, items ≠ [] → (∀ x ∈ items, P x) →
      Joined P sep ([sep].intercalate items)
  | [], hne, _ => absurd rfl hne
  | [x], _, h => by
    rw [List.intercalate_singleton]
    exact .one (h x List.mem_cons_self)
  | x :: y :: ys, _, h => by
    rw [List.intercalate_cons_cons, List.append_assoc, List.singleton_append]
    exact .cons (h x List.mem_cons_self)
      (joined_intercalate (List.cons_ne_nil y ys) fun z hz => h z (List.mem_cons_of_mem x hz))

/-- A text of items joined by a separator that no item holds is the items that splitting it at
the separator gives. -/
theorem joined_iff_splitOn {P : List Char → Prop} {sep : Char} (hP : ∀ x, P x → sep ∉ x)
    {l : List Char} : Joined P sep l ↔ ∀ x ∈ l.splitOn sep, P x := by
  constructor
  · intro h
    induction h with
    | one hx =>
      rw [List.splitOn_eq_singleton (hP _ hx)]
      simpa using hx
    | cons hx _ ih =>
      rw [List.splitOn_append_cons_self_of_not_mem (hP _ hx)]
      exact List.forall_mem_cons.2 ⟨hx, ih⟩
  · intro h
    have hl : [sep].intercalate (l.splitOn sep) = l := List.intercalate_splitOn sep
    rw [← hl]
    exact joined_intercalate (List.splitOn_ne_nil sep l) h

theorem name_iff_splitOn {n : List Char} : Name n ↔ ∀ x ∈ n.splitOn '.', x ≠ [] ∧ Units x :=
  joined_iff_splitOn fun _ hu hdot => absurd (hu.2.mem '.' hdot) (by decide)

theorem SpecText.comma_not_mem {v : List Char} (h : SpecText v) : ',' ∉ v :=
  fun hc => absurd (h.mem ',' hc) (by decide)

theorem specList_iff_splitOn {b : List Char} : SpecList b ↔ ∀ x ∈ b.splitOn ',', SpecText x :=
  joined_iff_splitOn fun _ hv => hv.comma_not_mem

/-! ### Expressions -/

theorem not_expression_nil : ¬Expression [] := by
  rintro (h | ⟨-, h⟩)
  obtain ⟨c, r, hcr, -⟩ := h.head
  cases hcr

/-- An expression starts with an operator exactly when its first character writes one; without
one, its first character starts a name. -/
theorem expression_cons_iff {c : Char} {b : List Char} :
    Expression (c :: b) ↔
      (IsOperatorChar c ∧ SpecList b) ∨ (¬IsOperatorChar c ∧ SpecList (c :: b)) := by
  constructor
  · rintro (h | ⟨ho, h⟩)
    · obtain ⟨d, r, hdr, hd⟩ := h.head
      cases hdr
      exact .inr ⟨hd.not_operator, h⟩
    · exact .inl ⟨ho, h⟩
  · rintro (⟨ho, h⟩ | ⟨-, h⟩)
    · exact .operator ho h
    · exact .plain h

/-- After an operator, an expression is the list of specs that follows it. -/
theorem expression_operator_iff {c : Char} {b : List Char} (ho : IsOperatorChar c) :
    Expression (c :: b) ↔ SpecList b := by
  rw [expression_cons_iff]
  constructor
  · rintro (⟨-, h⟩ | ⟨hno, -⟩)
    · exact h
    · exact absurd ho hno
  · exact fun h => .inl ⟨ho, h⟩

/-- Without an operator, an expression is a list of specs from its first character on. -/
theorem expression_plain_iff {c : Char} {b : List Char} (hno : ¬IsOperatorChar c) :
    Expression (c :: b) ↔ SpecList (c :: b) := by
  rw [expression_cons_iff]
  constructor
  · rintro (⟨ho, -⟩ | ⟨-, h⟩)
    · exact absurd ho hno
    · exact h
  · exact fun h => .inr ⟨hno, h⟩

/-- No expression starts with a reserved operator. -/
theorem not_expression_reserved {c : Char} {b : List Char} (hr : IsReservedChar c) :
    ¬Expression (c :: b) := by
  rw [expression_cons_iff]
  rintro (⟨ho, -⟩ | ⟨-, hb⟩)
  · exact ho.not_reserved hr
  · obtain ⟨d, r, hdr, hd⟩ := hb.head
    cases hdr
    exact hd.not_reserved hr

theorem Expression.mem {e : List Char} (h : Expression e) :
    ∀ c ∈ e, IsSpecChar c ∨ c = ',' ∨ IsOperatorChar c := by
  cases h with
  | plain hb =>
    intro c hc
    rcases hb.mem c hc with h | h
    · exact .inl h
    · exact .inr (.inl h)
  | operator ho hb =>
    intro c hc
    rcases List.mem_cons.1 hc with rfl | hc
    · exact .inr (.inr ho)
    · rcases hb.mem c hc with h | h
      · exact .inl h
      · exact .inr (.inl h)

/-- An expression holds no brace, so the first `}` after a `{` closes it. -/
theorem Expression.not_brace {e : List Char} (h : Expression e) : '{' ∉ e ∧ '}' ∉ e :=
  ⟨fun hc => absurd (h.mem '{' hc) (by decide), fun hc => absurd (h.mem '}' hc) (by decide)⟩

/-! ### Generated texts -/

theorem generated_cons_iff {c : Char} {cs : List Char} (h1 : c ≠ '{') (h2 : c ≠ '}') :
    Generated (c :: cs) ↔ Generated cs := by
  constructor
  · intro h
    cases h with
    | literal _ _ h => exact h
    | expression _ _ => exact absurd rfl h1
  · exact Generated.literal h1 h2

/-- Literal characters in front of a text change nothing about whether it is generated. -/
theorem generated_append_iff {l cs : List Char} (h : ∀ c ∈ l, c ≠ '{' ∧ c ≠ '}') :
    Generated (l ++ cs) ↔ Generated cs := by
  induction l with
  | nil => rfl
  | cons c l ih =>
    have hc := h c List.mem_cons_self
    rw [List.cons_append, generated_cons_iff hc.1 hc.2]
    exact ih fun d hd => h d (List.mem_cons_of_mem c hd)

theorem not_generated_close {cs : List Char} : ¬Generated ('}' :: cs) := by
  intro h
  cases h with
  | literal _ h2 _ => exact h2 rfl

theorem Generated.open_inv {rest : List Char} (h : Generated ('{' :: rest)) :
    ∃ e w, rest = e ++ '}' :: w ∧ Expression e ∧ Generated w := by
  generalize hx : '{' :: rest = x at h
  cases h with
  | nil => cases hx
  | literal h1 _ _ =>
    cases hx
    exact absurd rfl h1
  | @expression e w he hw =>
    cases hx
    exact ⟨e, w, rfl, he, hw⟩

theorem takeWhile_ne_append {x : Char} {a b : List Char} (ha : x ∉ a) :
    (a ++ x :: b).takeWhile (· != x) = a := by
  rw [List.takeWhile_append_of_pos (fun c hc => by simpa using fun (e : c = x) => ha (e ▸ hc))]
  simp

theorem dropWhile_ne_append {x : Char} {a b : List Char} (ha : x ∉ a) :
    (a ++ x :: b).dropWhile (· != x) = x :: b := by
  rw [List.dropWhile_append_of_pos (fun c hc => by simpa using fun (e : c = x) => ha (e ▸ hc))]
  simp

/-- A list whose part from the first `x` on is not empty: the part before the first `x`, which
holds no `x`, then `x` and the rest. -/
theorem eq_takeWhile_append_of_dropWhile {l after : List Char} {x head : Char}
    (h : l.dropWhile (· != x) = head :: after) :
    l = l.takeWhile (· != x) ++ x :: after ∧ x ∉ l.takeWhile (· != x) := by
  have hhead : head = x := by
    have hh := @List.head_dropWhile_not _ (· != x) l (by simp [h])
    simpa [h] using hh
  refine ⟨?_, fun hm => by simpa using List.mem_takeWhile_imp hm⟩
  calc l = l.takeWhile (· != x) ++ l.dropWhile (· != x) := List.takeWhile_append_dropWhile.symm
    _ = l.takeWhile (· != x) ++ x :: after := by rw [h, hhead]

/-- After a `{`, a generated text is the expression up to the next `}`, and a generated text
after that. -/
theorem generated_open_iff {inner after : List Char} (h : '}' ∉ inner) :
    Generated ('{' :: (inner ++ '}' :: after)) ↔ Expression inner ∧ Generated after := by
  constructor
  · intro hg
    obtain ⟨e, w, hew, he, hw⟩ := hg.open_inv
    have hclose := he.not_brace.2
    have hinner : inner = e := by
      simpa [takeWhile_ne_append h, takeWhile_ne_append hclose] using
        congrArg (List.takeWhile (· != '}')) hew
    have hafter : after = w := by
      simpa [dropWhile_ne_append h, dropWhile_ne_append hclose] using
        congrArg (List.dropWhile (· != '}')) hew
    exact ⟨hinner ▸ he, hafter ▸ hw⟩
  · rintro ⟨he, hw⟩
    exact .expression he hw

theorem not_generated_open {rest : List Char} (h : '}' ∉ rest) : ¬Generated ('{' :: rest) := by
  intro hg
  obtain ⟨e, w, rfl, -, -⟩ := hg.open_inv
  exact h (List.mem_append_right e List.mem_cons_self)

/-! ### Where a malformed construct is reported -/

/-- The items before `bad`, each with the separator after it, fit in the joined text. -/
theorem items_length_le (sep : Char) :
    ∀ (goods : List (List Char)) (bad : List Char) (rest : List (List Char)),
      (goods.map (·.length + 1)).sum ≤ ([sep].intercalate (goods ++ bad :: rest)).length
  | [], _, _ => Nat.zero_le _
  | g :: gs, bad, rest => by
    have ih := items_length_le sep gs bad rest
    rw [List.cons_append, List.intercalate_cons_of_ne_nil (by simp)]
    simp only [List.map_cons, List.sum_cons, List.length_append, List.length_singleton]
    omega

theorem splitOn_items_length_le {body bad : List Char} {goods rest : List (List Char)}
    (h : body.splitOn ',' = goods ++ bad :: rest) :
    (goods.map (·.length + 1)).sum ≤ body.length :=
  calc (goods.map (·.length + 1)).sum
      ≤ ([','].intercalate (goods ++ bad :: rest)).length := items_length_le ',' goods bad rest
    _ = body.length := by rw [← h, List.intercalate_splitOn]

/-- A bad expression is reported at most one character past its end: at the `}` closing it. -/
theorem BadExpression.off_le {e : List Char} {off : Nat} {f : TemplateFault}
    (h : BadExpression e off f) : off ≤ e.length + 1 := by
  cases h with
  | empty => simp
  | reserved => simp
  | missing => simp
  | plainItem _ _ hsplit =>
    have := splitOn_items_length_le hsplit
    omega
  | operatorItem _ _ hsplit =>
    have := splitOn_items_length_le hsplit
    simp only [List.length_cons]
    omega

/-- A malformed construct is reported at one of its own characters. -/
theorem Malformed.off_lt {v : List Char} {off : Nat} {f : TemplateFault} (h : Malformed v off f) :
    off < v.length := by
  cases h with
  | unclosed => simp
  | nested => simp
  | unmatched => simp
  | expression _ _ hb =>
    have := hb.off_le
    simp only [List.length_cons, List.length_append]
    omega

end UrlRouting.Template.Grammar
