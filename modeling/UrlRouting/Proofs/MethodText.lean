import Mathlib
import UrlRouting.Method.Text

/-!
# Reading and writing method texts

A method text is cut into its words, the pieces between its separators with the empty pieces
dropped (`Text.words_eq_filter_splitOnP`); a text of separators alone has no word
(`Text.words_eq_nil_iff`). A word denotes at most one member (`Method.Denotes`): `*` the
wildcard, and any other word the member whose name is its upper case. Reading a text refuses the
first word that denotes nothing (`Method.unionOfWords_unknown`), and otherwise gives the union
of the members its words denote (`Method.unionOfWords_of_forall₂`).

A mask with known bits alone is determined by the members it shares a bit with
(`Method.eq_of_and_members`). So the union of denoted members passes validation, carries the
wildcard exactly when a word denotes it, and is written as its concrete names in declaration
order (`Method.text_union`); and reading the text of a valid mask gives the mask back, or the
wildcard alone when the mask carries it (`Method.ofString_text`).

## Main definitions

* `UrlRouting.Method.tokens`, `UrlRouting.Method.Denotes`, `UrlRouting.Method.union`

## Main results

* `UrlRouting.Text.words_eq_filter_splitOnP`, `UrlRouting.Text.words_eq_nil_iff`
* `UrlRouting.Method.eq_of_and_members`
* `UrlRouting.Method.ofString_canonical`
-/

namespace UrlRouting

/-! ### Words -/

namespace Text

variable (sep : Char → Bool)

theorem wordsFrom_eq_filter_splitOnPPrepend : ∀ (acc cs : List Char),
    wordsFrom sep acc cs = (cs.splitOnPPrepend sep acc).filter (!·.isEmpty)
  | acc, [] => by cases acc <;> simp [wordsFrom]
  | acc, c :: cs => by
    rw [wordsFrom, List.splitOnPPrepend_cons_eq_if]
    by_cases h : sep c
    · have ih := wordsFrom_eq_filter_splitOnPPrepend [] cs
      rw [List.splitOnPPrepend_nil_right] at ih
      cases acc <;> simp [h, ih]
    · simp [h, wordsFrom_eq_filter_splitOnPPrepend (c :: acc) cs]

/-- The words are the pieces between separators, with the empty pieces dropped. -/
theorem words_eq_filter_splitOnP (cs : List Char) :
    words sep cs = (cs.splitOnP sep).filter (!·.isEmpty) :=
  wordsFrom_eq_filter_splitOnPPrepend sep [] cs

theorem wordsFrom_eq_nil_iff : ∀ (acc cs : List Char),
    wordsFrom sep acc cs = [] ↔ acc = [] ∧ ∀ c ∈ cs, sep c
  | acc, [] => by cases acc <;> simp [wordsFrom]
  | acc, c :: cs => by
    rw [wordsFrom]
    by_cases h : sep c
    · cases acc <;> simp [h, wordsFrom_eq_nil_iff [] cs]
    · simp [h, wordsFrom_eq_nil_iff (c :: acc) cs]

/-- A list has no word exactly when all its characters are separators. -/
theorem words_eq_nil_iff (cs : List Char) : words sep cs = [] ↔ ∀ c ∈ cs, sep c := by
  rw [words, wordsFrom_eq_nil_iff]
  simp

theorem splitOnP_intercalate {c : Char} (hc : sep c) :
    ∀ (ls : List (List Char)), ls ≠ [] → (∀ l ∈ ls, ∀ x ∈ l, sep x = false) →
      ([c].intercalate ls).splitOnP sep = ls
  | [l], _, hls => by simpa using List.splitOnP_eq_singleton (hls l List.mem_cons_self)
  | l :: l' :: ls, _, hls => by
    rw [List.intercalate_cons_cons, List.append_assoc, List.singleton_append,
      List.splitOnP_append_cons_of_forall_mem (hls l List.mem_cons_self) c hc,
      splitOnP_intercalate hc (l' :: ls) (List.cons_ne_nil _ _)
        fun l hl => hls l (List.mem_cons_of_mem _ hl)]

/-- Non-empty pieces with no separator, joined by a separator, are the words of the join. -/
theorem words_intercalate {c : Char} (hc : sep c) (ls : List (List Char))
    (hls : ∀ l ∈ ls, l ≠ [] ∧ ∀ x ∈ l, sep x = false) : words sep ([c].intercalate ls) = ls := by
  rw [words_eq_filter_splitOnP]
  cases ls with
  | nil => simp
  | cons l ls =>
    rw [splitOnP_intercalate sep hc (l :: ls) (List.cons_ne_nil _ _) fun l hl => (hls l hl).2,
      List.filter_eq_self]
    intro l hl
    simpa using (hls l hl).1

end Text

namespace Method

/-- The words of a method text: the pieces between its separators, empty pieces dropped. -/
def tokens (s : String) : List (List Char) :=
  (s.toList.splitOnP isSeparator).filter (!·.isEmpty)

theorem words_eq_tokens (s : String) : Text.words isSeparator s.toList = tokens s :=
  Text.words_eq_filter_splitOnP isSeparator s.toList

/-- A word denotes a member: `*` the wildcard, and any other word the member whose name is the
word's upper case. -/
def Denotes (w : List Char) (k : String × Nat) : Prop :=
  k ∈ members ∧ (w = ['*'] ∧ k.1 = "ANY" ∨ Text.upperWord? w = some k.1)

/-- The bits of the union of members. -/
def union (ks : List (String × Nat)) : Nat := (ks.map (·.2)).foldl (· ||| ·) 0

/-! ### The member table -/

theorem members_names_nodup : (members.map (·.1)).Nodup := by decide

/-- Two members share a bit only when they are the same member. -/
theorem and_ne_zero_iff_of_mem {k p : String × Nat} (hk : k ∈ members) (hp : p ∈ members) :
    k.2 &&& p.2 ≠ 0 ↔ k = p := by
  have h : ∀ k ∈ members, ∀ p ∈ members, (k.2 &&& p.2 ≠ 0 ↔ k = p) := by decide
  exact h k hk p hp

theorem and_knownBits_of_mem {k : String × Nat} (hk : k ∈ members) :
    k.2 &&& knownBits = k.2 := by
  have h : ∀ k ∈ members, k.2 &&& knownBits = k.2 := by decide
  exact h k hk

theorem mem_members_of_mem_concrete {p : String × Nat} (hp : p ∈ concrete) : p ∈ members :=
  List.mem_append_left _ hp

theorem any_mem_members : ("ANY", anyBit) ∈ members := by decide

/-- Every known bit is the bit of a member. -/
theorem exists_member_of_testBit {i : Nat} (hi : knownBits.testBit i = true) :
    ∃ p ∈ members, p.2 = 2 ^ i := by
  have hlt : i < 32 := by
    by_contra hge
    have hsmall : knownBits < 2 ^ i :=
      lt_of_lt_of_le (by decide : knownBits < 2 ^ 32)
        (Nat.pow_le_pow_right (by norm_num) (by omega))
    rw [Nat.testBit_lt_two_pow hsmall] at hi
    exact Bool.false_ne_true hi
  have h : ∀ i < 32, knownBits.testBit i = true → ∃ p ∈ members, p.2 = 2 ^ i := by decide
  exact h i hlt hi

/-- A mask with known bits alone is determined by the members it shares a bit with: a known bit is a
member's bit, on which the two masks agree. -/
theorem eq_of_and_members {x y : Nat} (hx : x &&& knownBits = x) (hy : y &&& knownBits = y)
    (h : ∀ p ∈ members, (x &&& p.2 = 0 ↔ y &&& p.2 = 0)) : x = y := by
  apply Nat.eq_of_testBit_eq
  intro i
  cases hi : knownBits.testBit i with
  | true =>
    obtain ⟨p, hp, hbit⟩ := exists_member_of_testBit hi
    have hxy := h p hp
    have hpow : 2 ^ i ≠ 0 := by positivity
    rw [hbit, Nat.and_two_pow, Nat.and_two_pow] at hxy
    simp only [Nat.mul_eq_zero, hpow, or_false, Bool.toNat_eq_zero] at hxy
    cases hxi : x.testBit i <;> cases hyi : y.testBit i <;> simp_all
  | false =>
    rw [← hx, ← hy, Nat.testBit_and, Nat.testBit_and, hi, Bool.and_false, Bool.and_false]

/-! ### What a word denotes -/

theorem find?_name_eq_some_iff {u : String} {k : String × Nat} :
    members.find? (fun p => p.1 == u) = some k ↔ k ∈ members ∧ k.1 = u := by
  constructor
  · intro h
    exact ⟨List.mem_of_find?_eq_some h, by simpa using List.find?_some h⟩
  · rintro ⟨hk, rfl⟩
    obtain ⟨k', hk'⟩ : ∃ k', members.find? (fun p => p.1 == k.1) = some k' :=
      Option.isSome_iff_exists.1 (List.find?_isSome.2 ⟨k, hk, by simp⟩)
    have hname : k'.1 = k.1 := by simpa using List.find?_some hk'
    rw [hk', List.inj_on_of_nodup_map members_names_nodup (List.mem_of_find?_eq_some hk') hk
      hname]

/-- The word of a member's name denotes it; `*` denotes the wildcard and nothing else. -/
theorem ofWord?_of_denotes {w : List Char} {k : String × Nat} (h : Denotes w k) :
    ofWord? w = some ⟨k.2⟩ := by
  obtain ⟨hk, ⟨rfl, hname⟩ | hupper⟩ := h
  · have hany : k = ("ANY", anyBit) :=
      List.inj_on_of_nodup_map members_names_nodup hk any_mem_members hname
    subst hany
    rfl
  · by_cases hstar : w = ['*']
    · -- the upper case of `*` is no member's name
      subst hstar
      have hnone : ∀ k ∈ members, Text.upperWord? ['*'] ≠ some k.1 := by decide
      exact absurd hupper (hnone k hk)
    · simp [ofWord?, hstar, hupper, find?_name_eq_some_iff.2 ⟨hk, rfl⟩]

theorem denotes_of_ofWord? {w : List Char} {m : Method} (h : ofWord? w = some m) :
    ∃ k, Denotes w k ∧ m = ⟨k.2⟩ := by
  unfold ofWord? at h
  split_ifs at h with hstar
  · exact ⟨("ANY", anyBit), ⟨any_mem_members, .inl ⟨hstar, rfl⟩⟩, (Option.some.inj h).symm⟩
  · simp only [Option.bind_eq_bind, Option.pure_def, Option.bind_eq_some_iff,
      Option.some.injEq] at h
    obtain ⟨u, hu, k, hk, rfl⟩ := h
    obtain ⟨hmem, rfl⟩ := find?_name_eq_some_iff.1 hk
    exact ⟨k, ⟨hmem, .inr hu⟩, rfl⟩

theorem ofWord?_eq_none_iff {w : List Char} : ofWord? w = none ↔ ∀ k, ¬Denotes w k := by
  constructor
  · intro h k hk
    rw [ofWord?_of_denotes hk] at h
    cases h
  · intro h
    cases hw : ofWord? w with
    | none => rfl
    | some m =>
      obtain ⟨k, hk, -⟩ := denotes_of_ofWord? hw
      exact absurd hk (h k)

theorem exists_forall₂_denotes :
    ∀ {ws : List (List Char)}, (∀ w ∈ ws, ∃ k, Denotes w k) → ∃ ks, List.Forall₂ Denotes ws ks
  | [], _ => ⟨[], .nil⟩
  | w :: ws, h => by
    obtain ⟨k, hk⟩ := h w List.mem_cons_self
    obtain ⟨ks, hks⟩ := exists_forall₂_denotes fun v hv => h v (List.mem_cons_of_mem w hv)
    exact ⟨k :: ks, .cons hk hks⟩

theorem mem_members_of_forall₂ {ws : List (List Char)} {ks : List (String × Nat)}
    (h : List.Forall₂ Denotes ws ks) : ∀ k ∈ ks, k ∈ members := by
  induction h with
  | nil => simp
  | cons hd _ ih =>
    intro k hk
    rcases List.mem_cons.1 hk with rfl | hk
    · exact hd.1
    · exact ih k hk

/-! ### Reading words -/

/-- Words that all denote members read as the union of those members. -/
theorem unionOfWords_of_forall₂ {ws : List (List Char)} {ks : List (String × Nat)}
    (h : List.Forall₂ Denotes ws ks) (m : Method) :
    unionOfWords m ws = .ok ⟨(ks.map (·.2)).foldl (· ||| ·) m.bits⟩ := by
  induction h generalizing m with
  | nil => rfl
  | cons hd _ ih => simp [unionOfWords, ofWord?_of_denotes hd, ih]

/-- After words that denote members, a word that denotes none is refused. -/
theorem unionOfWords_unknown {pre : List (List Char)} {ks : List (String × Nat)}
    (h : List.Forall₂ Denotes pre ks) {w : List Char} (hw : ∀ k, ¬Denotes w k)
    (post : List (List Char)) (m : Method) :
    unionOfWords m (pre ++ w :: post) = .error (.unknownMethod (String.ofList w)) := by
  induction h generalizing m with
  | nil => simp [unionOfWords, ofWord?_eq_none_iff.2 hw]
  | cons hd _ ih => simp [unionOfWords, ofWord?_of_denotes hd, ih]

example : ofString "get, PUSH|*" = .error (.unknownMethod "PUSH") := by rfl

/-- Reading words refuses only a word that names nothing. -/
theorem unionOfWords_ne_noMethod (s : String) :
    ∀ (m : Method) (ws : List (List Char)), unionOfWords m ws ≠ .error (.noMethod s)
  | _, [] => by simp [unionOfWords]
  | m, w :: ws => by
    unfold unionOfWords
    cases ofWord? w with
    | some k => exact unionOfWords_ne_noMethod s _ ws
    | none => simp

theorem ofString_of_tokens_eq_nil {s : String} (h : tokens s = []) :
    ofString s = .error (.noMethod s) := by
  rw [ofString, words_eq_tokens, h]

theorem ofString_of_tokens_ne_nil {s : String} (h : tokens s ≠ []) :
    ofString s = unionOfWords ⟨0⟩ (tokens s) := by
  rw [ofString, words_eq_tokens]
  cases hs : tokens s with
  | nil => exact absurd hs h
  | cons w ws => rfl

/-! ### The union of members -/

theorem foldl_lor_and_ne_zero (b : Nat) : ∀ (ks : List Nat) (acc : Nat),
    ks.foldl (· ||| ·) acc &&& b ≠ 0 ↔ acc &&& b ≠ 0 ∨ ∃ k ∈ ks, k &&& b ≠ 0
  | [], acc => by simp
  | k :: ks, acc => by
    rw [List.foldl_cons, foldl_lor_and_ne_zero b ks, Nat.and_or_distrib_right, Ne,
      Nat.or_eq_zero_iff]
    simp only [List.mem_cons, exists_eq_or_imp]
    tauto

theorem foldl_lor_and_knownBits : ∀ (ks : List Nat) (acc : Nat), acc &&& knownBits = acc →
    (∀ k ∈ ks, k &&& knownBits = k) → ks.foldl (· ||| ·) acc &&& knownBits = ks.foldl (· ||| ·) acc
  | [], _, hacc, _ => hacc
  | k :: ks, acc, hacc, hks => by
    have hk := hks k List.mem_cons_self
    refine foldl_lor_and_knownBits ks (acc ||| k) ?_
      fun k' hk' => hks k' (List.mem_cons_of_mem k hk')
    rw [Nat.and_or_distrib_right, hacc, hk]

variable {ks : List (String × Nat)}

/-- The union of members shares a bit with a member exactly when it holds that member. -/
theorem union_and_ne_zero_iff (hks : ∀ k ∈ ks, k ∈ members) {p : String × Nat}
    (hp : p ∈ members) : union ks &&& p.2 ≠ 0 ↔ p ∈ ks := by
  rw [union, foldl_lor_and_ne_zero, Nat.zero_and]
  simp only [ne_eq, not_true_eq_false, List.mem_map, false_or]
  constructor
  · rintro ⟨_, ⟨k, hk, rfl⟩, hkp⟩
    rwa [← (and_ne_zero_iff_of_mem (hks k hk) hp).1 hkp]
  · intro hpk
    exact ⟨p.2, ⟨p, hpk, rfl⟩, (and_ne_zero_iff_of_mem hp hp).2 rfl⟩

theorem union_and_knownBits (hks : ∀ k ∈ ks, k ∈ members) :
    union ks &&& knownBits = union ks := by
  refine foldl_lor_and_knownBits _ 0 rfl ?_
  intro b hb
  obtain ⟨k, hk, rfl⟩ := List.mem_map.1 hb
  exact and_knownBits_of_mem (hks k hk)

/-- A union of members, at least one, passes validation. -/
theorem validate_union (hks : ∀ k ∈ ks, k ∈ members) (hne : ks ≠ []) :
    validate ⟨union ks⟩ = .ok ⟨union ks⟩ := by
  obtain ⟨k, hk⟩ := List.exists_mem_of_ne_nil ks hne
  have hbit : union ks &&& k.2 ≠ 0 := (union_and_ne_zero_iff hks (hks k hk)).2 hk
  have hzero : union ks ≠ 0 := fun h => hbit (by rw [h, Nat.zero_and])
  simp [validate, hzero, union_and_knownBits hks]

/-- The text of a union of members: `ANY` when it holds the wildcard, and otherwise the names of
its concrete members in declaration order. -/
theorem text_union (hks : ∀ k ∈ ks, k ∈ members) :
    text ⟨union ks⟩ = if ("ANY", anyBit) ∈ ks then "ANY"
      else "|".intercalate ((concrete.filter (· ∈ ks)).map (·.1)) := by
  have hany : isAny ⟨union ks⟩ = decide (("ANY", anyBit) ∈ ks) := by
    rw [isAny, Bool.eq_iff_iff, bne_iff_ne, decide_eq_true_iff]
    exact union_and_ne_zero_iff hks any_mem_members
  have hnames : concrete.filter (fun p => union ks &&& p.2 != 0) = concrete.filter (· ∈ ks) := by
    refine List.filter_congr fun p hp => ?_
    rw [Bool.eq_iff_iff, bne_iff_ne, decide_eq_true_iff]
    exact union_and_ne_zero_iff hks (mem_members_of_mem_concrete hp)
  by_cases h : ("ANY", anyBit) ∈ ks
  · simp [text, hany, h]
  · simp [text, concreteNames, hany, h, hnames]

/-! ### The text of a valid mask read back -/

/-- A valid mask has known bits alone and at least one. -/
theorem validate_eq_ok_iff {m : Method} :
    validate m = .ok m ↔ m.bits ≠ 0 ∧ m.bits &&& knownBits = m.bits := by
  unfold validate
  split_ifs <;> simp_all

/-- The concrete members of a mask, in declaration order. -/
theorem concreteNames_eq_map {m : Method} (hm : m.isAny = false) :
    m.concreteNames = (concrete.filter fun p => m.bits &&& p.2 != 0).map (·.1) := by
  simp [concreteNames, hm]

/-- The text of a valid mask without the wildcard lists the words of its concrete members. -/
theorem tokens_text {m : Method} (hm : m.isAny = false) :
    tokens m.text = (concrete.filter fun p => m.bits &&& p.2 != 0).map (·.1.toList) := by
  have hwords : ∀ p ∈ concrete, p.1.toList ≠ [] ∧ ∀ x ∈ p.1.toList, isSeparator x = false := by
    have h : ∀ p ∈ concrete,
        (!p.1.toList.isEmpty && p.1.toList.all fun x => !isSeparator x) = true := by decide
    intro p hp
    simpa [List.all_eq_true] using h p hp
  rw [← words_eq_tokens, text, if_neg (by simp [hm]), concreteNames_eq_map hm,
    String.toList_intercalate, List.map_map]
  refine Text.words_intercalate isSeparator (by decide) _ fun l hl => ?_
  obtain ⟨p, hp, rfl⟩ := List.mem_map.1 hl
  exact hwords p (List.mem_filter.1 hp).1

theorem denotes_name {p : String × Nat} (hp : p ∈ concrete) : Denotes p.1.toList p := by
  have hupper : ∀ p ∈ concrete, Text.upperWord? p.1.toList = some p.1 := by decide
  exact ⟨mem_members_of_mem_concrete hp, .inr (hupper p hp)⟩

/-- A mask with known bits alone and at least one shares a bit with a member. -/
theorem exists_member_and_ne_zero {x : Nat} (hzero : x ≠ 0) (hknown : x &&& knownBits = x) :
    ∃ p ∈ members, x &&& p.2 ≠ 0 := by
  obtain ⟨i, hi⟩ := Nat.exists_testBit_of_ne_zero hzero
  have hki : knownBits.testBit i = true := by
    rw [← hknown, Nat.testBit_and] at hi
    exact (Bool.and_eq_true_iff.1 hi).2
  obtain ⟨p, hp, hbit⟩ := exists_member_of_testBit hki
  exact ⟨p, hp, by rw [hbit, Nat.and_two_pow, hi]; simp⟩

section Concrete

variable {m : Method}

/-- A member is among the concrete members a mask without the wildcard shares a bit with exactly
when the mask shares a bit with it. -/
theorem mem_filter_concrete_iff (hany : m.isAny = false) {p : String × Nat} (hp : p ∈ members) :
    p ∈ concrete.filter (fun p => m.bits &&& p.2 != 0) ↔ m.bits &&& p.2 ≠ 0 := by
  rcases List.mem_append.1 hp with hc | hw
  · simp [hc]
  · -- the wildcard is no concrete member, and the mask does not carry it
    obtain rfl := List.mem_singleton.1 hw
    have hnot : ("ANY", anyBit) ∉ concrete := by decide
    simp only [isAny, bne_eq_false_iff_eq] at hany
    simp [hnot, hany]

/-- A mask of known bits without the wildcard is the union of the concrete members it shares a
bit with. -/
theorem union_filter_concrete (hknown : m.bits &&& knownBits = m.bits) (hany : m.isAny = false) :
    union (concrete.filter fun p => m.bits &&& p.2 != 0) = m.bits := by
  have hks : ∀ k ∈ concrete.filter (fun p => m.bits &&& p.2 != 0), k ∈ members :=
    fun k hk => mem_members_of_mem_concrete (List.mem_filter.1 hk).1
  refine eq_of_and_members (union_and_knownBits hks) hknown fun p hp => ?_
  rw [← not_iff_not, ← Ne, ← Ne, ← mem_filter_concrete_iff hany hp]
  exact union_and_ne_zero_iff hks hp

/-- Reading the text of a valid mask gives the mask back, or the wildcard alone when the mask
carries it: the text `ANY` reads as the wildcard, and otherwise the words of the text are the
concrete members the mask shares a bit with. -/
theorem ofString_text (hm : validate m = .ok m) :
    ofString m.text = .ok (if m.isAny then any else m) := by
  obtain ⟨hzero, hknown⟩ := validate_eq_ok_iff.1 hm
  cases hany : m.isAny with
  | true =>
    simp only [text, hany, if_true]
    rfl
  | false =>
    have hforall : List.Forall₂ Denotes (tokens m.text)
        (concrete.filter fun p => m.bits &&& p.2 != 0) := by
      rw [tokens_text hany, List.forall₂_map_left_iff, List.forall₂_same]
      exact fun p hp => denotes_name (List.mem_filter.1 hp).1
    have hne : tokens m.text ≠ [] := by
      obtain ⟨p, hp, hbit⟩ := exists_member_and_ne_zero hzero hknown
      intro h
      rw [h, List.forall₂_nil_left_iff] at hforall
      exact List.not_mem_nil (hforall ▸ (mem_filter_concrete_iff hany hp).2 hbit)
    rw [ofString_of_tokens_ne_nil hne, unionOfWords_of_forall₂ hforall]
    simp only [Bool.false_eq_true, if_false]
    exact congrArg (fun b => (Except.ok ⟨b⟩ : Except Failure Method))
      (union_filter_concrete hknown hany)

end Concrete

/-! ### The main statement -/

/-- Reading a method text: a text of separators alone has no method; otherwise the first word
that denotes no member is refused; otherwise the text reads as the union of the members its
words denote, which passes validation and is written as `ANY` when a word denotes the wildcard
and as the concrete names denoted, in declaration order, otherwise. Reading the text of a valid
mask gives the mask back, or the wildcard alone when the mask carries it. -/
theorem ofString_canonical :
    (∀ s : String,
      (ofString s = .error (.noMethod s) ↔ ∀ c ∈ s.toList, isSeparator c) ∧
      (∀ pre w post, tokens s = pre ++ w :: post → (∀ v ∈ pre, ∃ k, Denotes v k) →
        (∀ k, ¬Denotes w k) → ofString s = .error (.unknownMethod (String.ofList w))) ∧
      (tokens s ≠ [] → (∀ w ∈ tokens s, ∃ k, Denotes w k) →
        ∃ ks m, List.Forall₂ Denotes (tokens s) ks ∧ ofString s = .ok m ∧
          m.bits = (ks.map (·.2)).foldl (· ||| ·) 0 ∧ validate m = .ok m ∧
          toText m = .ok (if ("ANY", anyBit) ∈ ks then "ANY"
            else "|".intercalate ((concrete.filter (· ∈ ks)).map (·.1))))) ∧
    ∀ m : Method, validate m = .ok m →
      (toText m >>= ofString) = .ok (if m.isAny then any else m) := by
  refine ⟨fun s => ⟨?_, ?_, ?_⟩, ?_⟩
  · -- no word exactly when every character separates
    rw [← Text.words_eq_nil_iff, words_eq_tokens]
    constructor
    · intro h
      by_contra hne
      exact unionOfWords_ne_noMethod s _ _ (ofString_of_tokens_ne_nil hne ▸ h)
    · exact ofString_of_tokens_eq_nil
  · intro pre w post hs hpre hw
    obtain ⟨ks, hks⟩ := exists_forall₂_denotes hpre
    rw [ofString_of_tokens_ne_nil (by simp [hs]), hs]
    exact unionOfWords_unknown hks hw post _
  · intro hne hall
    obtain ⟨ks, hks⟩ := exists_forall₂_denotes hall
    have hmem := mem_members_of_forall₂ hks
    have hks_ne : ks ≠ [] := by
      rintro rfl
      exact hne (List.forall₂_nil_right_iff.1 hks)
    refine ⟨ks, ⟨union ks⟩, hks, ?_, rfl, validate_union hmem hks_ne, ?_⟩
    · rw [ofString_of_tokens_ne_nil hne, unionOfWords_of_forall₂ hks]
      rfl
    · rw [toText, validate_union hmem hks_ne]
      simp [text_union hmem]
  · intro m hm
    rw [toText, hm]
    exact ofString_text hm

end Method

end UrlRouting
