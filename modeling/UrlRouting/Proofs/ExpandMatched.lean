import Mathlib
import UrlRouting.Template.Expand
import UrlRouting.Proofs.MatchBindings
import UrlRouting.Proofs.PatternReading
import UrlRouting.Proofs.TemplateReading

/-!
# Expanding what a path matched gives the path back

Take a read template whose variables all have distinct names, none of them a dotted extension
of another, with no length modifier and no named operator. For a path without `%`, the
bindings that matching finds expand back to the part of the path that matching read, its
`candidate` (`expand_matchPath_eq_candidate`).

The search found a way through the pattern (`search_reading`), and binding its captures bound
each name to what its own part captured (`capturedAll_get?`). A name that was not bound does
not start with a bound name and a dot, so it resolves to nothing (`resolve_toValue`). Each part
then writes back what it read (`expandIn_captured`): an absent part nothing, a present part its
first character and pieces that, joined by its separator, are its body, whether one variable
took the whole body, an exploded one its pieces, or several variables the pieces up to the
first separators.

## Main definitions

* `UrlRouting.Template.Part.readText`: what a variable part read for its capture.
* `UrlRouting.Template.Part.Positional`: a variable part that expands as it matches.

## Main results

* `UrlRouting.Template.resolve_toValue`
* `UrlRouting.Template.expandIn_captured`, `UrlRouting.Template.expandParts_reading`
* `UrlRouting.Template.expand_matchPath_eq_candidate`
-/

namespace UrlRouting.Template

/-! ### Resolving names in matched bindings -/

theorem lookup_toValue (bs : Bindings) (n : String) :
    Value.lookup n (bs.map fun e => (e.1, e.2.toValue)) = (bs.get? n).map Capture.toValue := by
  induction bs with
  | nil => rfl
  | cons e bs ih =>
    obtain ⟨m, c⟩ := e
    rw [List.map_cons, Value.lookup, Bindings.get?_cons, ih]
    by_cases h : m = n <;> simp [h]

/-- A name resolves in matched bindings to its capture. A name that is not bound resolves to
nothing, as long as no bound name followed by a dot starts it. -/
theorem resolve_toValue (asked : List ClassRef) (bs : Bindings) (n : String)
    (hfirst : bs.get? n = none → ∀ m r, n = m ++ "." ++ r → bs.get? m = none) :
    Value.resolve asked bs.toValue n = ((bs.get? n).map Capture.toValue).getD .none := by
  rw [Bindings.toValue, Value.resolve, lookup_toValue]
  cases hget : bs.get? n with
  | some c => rfl
  | none =>
    simp only [Option.map_none, Option.getD_none]
    by_cases hdot : '.' ∈ n.toList
    · -- the key before the first dot is bound to nothing, and nothing stays nothing
      cases hd : n.toList.dropWhile (· != '.') with
      | nil => exact absurd (List.dropWhile_eq_nil_iff.1 hd '.' hdot) (by simp)
      | cons head after =>
        obtain ⟨hsplit, hx⟩ := Grammar.eq_takeWhile_append_of_dropWhile hd
        have hn : n = String.ofList (n.toList.takeWhile (· != '.')) ++ "." ++
            String.ofList after := by
          apply String.ext
          rw [String.toList_append, String.toList_append, String.toList_ofList,
            String.toList_ofList]
          simpa using hsplit
        have hm := hfirst hget _ _ hn
        rw [hn, Value.keys_append_dot, Value.keys_of_not_mem _ (by simpa using hx),
          List.singleton_append, Value.walk, List.foldl_cons]
        simp only [Value.member, lookup_toValue, hm, Option.map_none, Option.getD_none]
        exact Value.walk_none asked _
    · rw [Value.keys_of_not_mem n hdot]
      simp [Value.walk, Value.member, lookup_toValue, hget]

/-! ### The pieces of a variable -/

section Pieces

variable {op : Operator} {asked : List ClassRef} {b : Value} {s : VarSpec}

theorem specPieces_of_none {esc : Bool} (h : Value.resolve asked b s.name = .none) :
    specPieces op esc asked b s = [] := by
  simp [specPieces, h]

theorem specPieces_of_str {x : String} (hop : op.named = false) (hs : s.maxLength? = none)
    (h : Value.resolve asked b s.name = .str x) : specPieces op false asked b s = [x] := by
  simp [specPieces, h, hs, expansionText, Value.text, Operator.piece, hop, Operator.escapeText]

theorem specPieces_of_strs {xs : List String} (hop : op.named = false) (hx : s.explodes = true)
    (hne : xs ≠ []) (h : Value.resolve asked b s.name = .list (xs.map .str)) :
    specPieces op false asked b s = xs := by
  have hkeep : (xs.map Value.str).filter (fun v => !isNothing v) = xs.map Value.str := by
    rw [List.filter_eq_self]
    intro v hv
    obtain ⟨x, -, rfl⟩ := List.mem_map.1 hv
    rfl
  simp [specPieces, h, hx, hkeep, hne, expansionText, Value.text, Operator.piece, hop,
    Operator.escapeText, Function.comp_def]

theorem specsPieces_cons_fst {esc : Bool} (rest : List VarSpec) :
    (specsPieces op esc b asked (s :: rest)).1 =
      specPieces op esc asked b s ++ (specsPieces op esc b (asked ++ b.askedBy asked s.name) rest).1 :=
  rfl

/-- When each variable gives the same pieces whatever was asked before it, the pieces of the
variables are theirs in order. -/
theorem specsPieces_fst_eq_flatMap {esc : Bool} (f : VarSpec → List String) :
    ∀ (specs : List VarSpec) (asked : List ClassRef),
      (∀ s ∈ specs, ∀ a, specPieces op esc a b s = f s) →
        (specsPieces op esc b asked specs).1 = specs.flatMap f
  | [], _, _ => rfl
  | s :: rest, asked, h => by
    rw [specsPieces_cons_fst, h s List.mem_cons_self asked,
      specsPieces_fst_eq_flatMap f rest _ fun s' hs' => h s' (List.mem_cons_of_mem s hs'),
      List.flatMap_cons]

/-- Variables bound in order to the texts of pieces, the later ones to nothing once the pieces
run out, give those pieces. -/
theorem specsPieces_zip (hop : op.named = false) :
    ∀ (specs : List VarSpec) (P : List (List Char)) (asked : List ClassRef),
      P.length ≤ specs.length → (specs.map (·.name)).Nodup → (∀ s ∈ specs, s.maxLength? = none) →
      (∀ s ∈ specs, ∀ a, Value.resolve a b s.name =
        ((Bindings.get? ((specs.zip P).map fun e : VarSpec × List Char =>
          (e.1.name, Capture.text (String.ofList e.2))) s.name).map Capture.toValue).getD .none) →
      (specsPieces op false b asked specs).1 = P.map String.ofList
  | [], P, _, hlen, _, _, _ => by
    rw [List.length_eq_zero_iff.1 (Nat.le_zero.1 hlen)]
    rfl
  | s :: rest, [], asked, _, hnd, hplain, hres => by
    rw [List.map_cons, List.nodup_cons] at hnd
    rw [specsPieces_cons_fst, specPieces_of_none (by simpa using hres s List.mem_cons_self asked),
      specsPieces_zip hop rest [] _ (Nat.zero_le _) hnd.2
        (fun s' hs' => hplain s' (List.mem_cons_of_mem s hs'))
        (fun s' hs' a => by simpa using hres s' (List.mem_cons_of_mem s hs') a)]
    rfl
  | s :: rest, x :: xs, asked, hlen, hnd, hplain, hres => by
    rw [List.map_cons, List.nodup_cons] at hnd
    have hhead : ∀ a, Value.resolve a b s.name = .str (String.ofList x) := by
      intro a
      simpa [Bindings.get?_cons, Capture.toValue] using hres s List.mem_cons_self a
    have htail : ∀ s' ∈ rest, ∀ a, Value.resolve a b s'.name =
        ((Bindings.get? ((rest.zip xs).map fun e : VarSpec × List Char =>
          (e.1.name, Capture.text (String.ofList e.2))) s'.name).map Capture.toValue).getD
          .none := by
      intro s' hs' a
      have hne : s.name ≠ s'.name := fun h => hnd.1 (h ▸ List.mem_map_of_mem hs')
      simpa [Bindings.get?_cons, hne] using hres s' (List.mem_cons_of_mem s hs') a
    rw [specsPieces_cons_fst, specPieces_of_str hop (hplain s List.mem_cons_self) (hhead asked),
      specsPieces_zip hop rest xs _ (by simpa using hlen) hnd.2
        (fun s' hs' => hplain s' (List.mem_cons_of_mem s hs')) htail]
    rfl

end Pieces

/-! ### What a part writes back -/

/-- What a variable part read for its capture: its first character and its body, or nothing
when it was absent. -/
def Part.readText (p : Part) : Option (List Char) → List Char
  | some body => p.operator.first?.toList ++ body
  | none => []

/-- A variable part that expands as it matches: positional, without length modifiers, with at
least one variable and distinct names. -/
structure Part.Positional (p : Part) : Prop where
  unnamed : p.operator.named = false
  plain : ∀ s ∈ p.specs, s.maxLength? = none
  specs_ne_nil : p.specs ≠ []
  names_nodup : p.names.Nodup

theorem expandIn_fst_toList {p : Part} (hv : p.isVariable = true) (b : Value) (esc : Bool)
    (asked : List ClassRef) :
    (p.expandIn b esc asked).1.toList =
      if (specsPieces p.operator esc b asked p.specs).1 = [] then []
      else p.operator.first?.toList ++
        [p.operator.separator].intercalate
          ((specsPieces p.operator esc b asked p.specs).1.map String.toList) := by
  have hlit : ∀ text, p = .literal text → False := by
    intro text h
    subst h
    simp [Part.isVariable] at hv
  rw [Part.expandIn.eq_2 b esc asked p hlit]
  split
  · rename_i a' heq
    simp [heq]
  · rename_i pieces a' hne heq
    have hpieces : pieces ≠ [] := by
      rintro rfl
      simp at hne
    rw [heq]
    cases p.operator.first? <;> simp [hpieces, String.toList_intercalate]

/-- When the variables of a positional part take the pieces up to the first separators, one
each, those pieces are what it writes. -/
theorem captured_pieces_of_zip {p : Part} {body : List Char} {b : Value} {asked : List ClassRef}
    (hp : p.Positional)
    (hres : ∀ s ∈ p.specs, ∀ a, Value.resolve a b s.name =
      (((p.captured (some body)).get? s.name).map Capture.toValue).getD .none)
    (hcap : p.captured (some body) = (p.specs.zip (splitAtMost p.operator.separator
      (p.specs.length - 1) body)).map (fun e => (e.1.name, Capture.text (String.ofList e.2)))) :
    ∃ pieces : List (List Char), (specsPieces p.operator false b asked p.specs).1 =
      pieces.map String.ofList ∧ pieces ≠ [] ∧ [p.operator.separator].intercalate pieces = body := by
  refine ⟨splitAtMost p.operator.separator (p.specs.length - 1) body, ?_,
    splitAtMost_ne_nil _ _ _, intercalate_splitAtMost _ _ _⟩
  have hlen := splitAtMost_length_le p.operator.separator (p.specs.length - 1) body
  have hpos := List.length_pos_iff.2 hp.specs_ne_nil
  exact specsPieces_zip hp.unnamed p.specs _ asked (by omega) hp.names_nodup hp.plain
    fun s hs a => hcap ▸ hres s hs a

/-- The pieces a present positional part writes for its bindings: joined by the separator, they
are its body. -/
theorem captured_pieces {p : Part} {body : List Char} {b : Value} {asked : List ClassRef}
    (hp : p.Positional) (hpct : '%' ∉ body)
    (hres : ∀ s ∈ p.specs, ∀ a, Value.resolve a b s.name =
      (((p.captured (some body)).get? s.name).map Capture.toValue).getD .none) :
    ∃ pieces : List (List Char), (specsPieces p.operator false b asked p.specs).1 =
      pieces.map String.ofList ∧ pieces ≠ [] ∧ [p.operator.separator].intercalate pieces = body := by
  have hdec : ∀ piece ∈ splitAtMost p.operator.separator (p.specs.length - 1) body,
      decoded piece = String.ofList piece := fun piece h =>
    decoded_eq_ofList fun hm => hpct (mem_of_mem_splitAtMost h '%' hm)
  have hzip := @captured_pieces_of_zip p body b asked hp hres
  cases hs : p.specs with
  | nil => exact absurd hs hp.specs_ne_nil
  | cons spec rest =>
    rw [hs] at hzip
    cases rest with
    | cons spec' rest =>
      refine hzip ?_
      rw [Part.captured, hs, positionalCaptures]
      · refine List.map_congr_left fun e he => ?_
        rw [hdec e.2 (hs ▸ (List.of_mem_zip he).2)]
      · simp
    | nil =>
      by_cases hx : spec.explodes = true
      · -- one exploded variable takes the pieces between all separators
        have hdec' : ∀ piece ∈ body.splitOn p.operator.separator,
            decoded piece = String.ofList piece := fun piece h =>
          decoded_eq_ofList fun hm => hpct (mem_of_mem_splitOn h '%' hm)
        have hres' : ∀ a, Value.resolve a b spec.name =
            .list (((body.splitOn p.operator.separator).map String.ofList).map .str) := by
          intro a
          have h := hres spec (by simp [hs]) a
          rw [Part.captured, hs, positionalCaptures, if_pos hx, List.map_congr_left hdec'] at h
          simpa [Bindings.get?_cons, Capture.toValue] using h
        refine ⟨body.splitOn p.operator.separator, ?_, List.splitOn_ne_nil _ _,
          List.intercalate_splitOn _⟩
        rw [specsPieces_fst_eq_flatMap (fun _ => (body.splitOn p.operator.separator).map
            String.ofList) [spec] asked
          fun s' hs' a => by
            rw [List.mem_singleton.1 hs']
            exact specPieces_of_strs hp.unnamed hx (by simp [List.splitOn_ne_nil]) (hres' a)]
        simp
      · -- one variable takes the whole body
        refine hzip ?_
        rw [Part.captured, hs, positionalCaptures, if_neg hx]
        simp [splitAtMost, decoded_eq_ofList hpct]

/-- A positional part writes back what it read; an absent one binds nothing and writes nothing. -/
theorem expandIn_captured {p : Part} {c : Option (List Char)} {b : Value} {asked : List ClassRef}
    (hv : p.isVariable = true) (hp : p.Positional) (hpct : ∀ body, c = some body → '%' ∉ body)
    (hres : ∀ s ∈ p.specs, ∀ a, Value.resolve a b s.name =
      (((p.captured c).get? s.name).map Capture.toValue).getD .none) :
    (p.expandIn b false asked).1 = String.ofList (p.readText c) := by
  apply String.ext
  rw [expandIn_fst_toList hv, String.toList_ofList]
  cases c with
  | none =>
    have hnil : (specsPieces p.operator false b asked p.specs).1 = [] := by
      rw [specsPieces_fst_eq_flatMap (fun _ => []) p.specs asked
        fun s hs a => specPieces_of_none (by simpa [Part.captured] using hres s hs a)]
      simp
    simp [hnil, Part.readText]
  | some body =>
    obtain ⟨pieces, hpieces, hne, hjoin⟩ := captured_pieces hp (hpct body rfl) hres
    rw [hpieces, if_neg (by simpa using hne)]
    simp [Part.readText, List.map_map, hjoin]

/-! ### A way through the pattern, written back -/

theorem Reading.cons_variable {p : Part} {ps : List Piece} {caps : List (Option (List Char))}
    {cs : List Char} (hv : p.isVariable = true) (h : Reading (p.piece :: ps) caps cs) :
    ∃ c caps' cs', caps = c :: caps' ∧ cs = p.readText c ++ cs' ∧ Reading ps caps' cs' := by
  cases p with
  | literal => simp [Part.isVariable] at hv
  | colon name =>
    have hpiece : (Part.colon name).piece = .required .simple := rfl
    rw [hpiece] at h
    cases h with
    | required _ _ hr => exact ⟨_, _, _, rfl, rfl, hr⟩
  | expression op specs =>
    cases hf : op.first? with
    | none =>
      have hpiece : (Part.expression op specs).piece = .required op := by
        simp [Part.piece, Part.operator, hf]
      rw [hpiece] at h
      cases h with
      | required _ _ hr => exact ⟨_, _, _, rfl, by simp [Part.readText, Part.operator, hf], hr⟩
    | some f =>
      have hpiece : (Part.expression op specs).piece = .optional f op := by
        simp [Part.piece, Part.operator, hf]
      rw [hpiece] at h
      cases h with
      | present _ hr => exact ⟨_, _, _, rfl, by simp [Part.readText, Part.operator, hf], hr⟩
      | absent hr => exact ⟨none, _, _, rfl, rfl, hr⟩

/-- Parts that expand as they match, over bindings that give each variable the capture of its part,
write back the characters of a way through their pattern: a literal reads and writes its text, and a
variable part its capture. -/
theorem expandParts_reading (b : Value) :
    ∀ (parts : List Part) (caps : List (Option (List Char))) (cs : List Char)
      (asked : List ClassRef), Reading (parts.map Part.piece) caps cs →
      (∀ p ∈ parts, p.isVariable = true → p.Positional) → '%' ∉ cs →
      (∀ pc ∈ (parts.filter Part.isVariable).zip caps, ∀ s ∈ pc.1.specs, ∀ a,
        Value.resolve a b s.name = (((pc.1.captured pc.2).get? s.name).map Capture.toValue).getD
          .none) →
      (expandParts b false asked parts).1 = String.ofList cs
  | [], caps, cs, asked, h, _, _, _ => by
    cases h
    rfl
  | p :: ps, caps, cs, asked, h, hfit, hpct, hres => by
    cases hv : p.isVariable with
    | false =>
      obtain ⟨text, rfl⟩ := Part.eq_literal_of_isVariable_eq_false hv
      cases h with
      | literal hr =>
        have ih := expandParts_reading b ps caps _ asked hr
          (fun q hq => hfit q (List.mem_cons_of_mem _ hq))
          (fun hm => hpct (List.mem_append_right _ hm)) (by simpa [Part.isVariable] using hres)
        show text ++ (expandParts b false asked ps).1 = _
        rw [ih, String.ofList_append, String.ofList_toList]
    | true =>
      obtain ⟨c, caps', cs', rfl, rfl, hr⟩ := Reading.cons_variable hv h
      have hzip : ((p :: ps).filter Part.isVariable).zip (c :: caps') =
          (p, c) :: (ps.filter Part.isVariable).zip caps' := by
        rw [List.filter_cons_of_pos hv, List.zip_cons_cons]
      rw [hzip] at hres
      have hhead : (p.expandIn b false asked).1 = String.ofList (p.readText c) :=
        expandIn_captured hv (hfit p List.mem_cons_self hv)
        (fun body hc hm => hpct (List.mem_append_left _ (by subst hc; simp [Part.readText, hm])))
        (hres (p, c) List.mem_cons_self)
      have ih := expandParts_reading b ps caps' cs' (p.expandIn b false asked).2 hr
        (fun q hq => hfit q (List.mem_cons_of_mem _ hq))
        (fun hm => hpct (List.mem_append_right _ hm))
        (fun pc hpc => hres pc (List.mem_cons_of_mem _ hpc))
      show (p.expandIn b false asked).1 ++
        (expandParts b false (p.expandIn b false asked).2 ps).1 = _
      rw [hhead, ih, String.ofList_append]

/-! ### Matching, then expanding -/

theorem flatMap_names_filter_isVariable (ps : List Part) :
    (ps.filter Part.isVariable).flatMap Part.names = ps.flatMap Part.names := by
  induction ps with
  | nil => rfl
  | cons p ps ih =>
    cases p with
    | literal text =>
      rw [List.filter_cons_of_neg (by simp [Part.isVariable]), List.flatMap_cons, ih]
      simp [Part.names, Part.specs]
    | colon name => rw [List.filter_cons_of_pos rfl, List.flatMap_cons, List.flatMap_cons, ih]
    | expression op specs =>
      rw [List.filter_cons_of_pos rfl, List.flatMap_cons, List.flatMap_cons, ih]

theorem mem_candidate {t : Template} {path : String} {c : Char} (h : c ∈ t.candidate path) :
    c ∈ path.toList := by
  simp only [candidate] at h
  have hbase : ∀ x ∈ (if t.keepsQuery then path.toList.takeWhile (· != '#')
      else (path.toList.takeWhile (· != '#')).takeWhile (· != '?')), x ∈ path.toList := by
    intro x hx
    split at hx
    · exact (List.takeWhile_sublist _).subset hx
    · exact (List.takeWhile_sublist _).subset ((List.takeWhile_sublist _).subset hx)
  split at h
  · rcases List.mem_append.1 h with h | h
    · exact hbase c h
    · exact (List.dropWhile_sublist _).subset h
  · exact hbase c h

/-- Matching undone by expansion. For a read template whose variables have distinct names, none
of them a dotted extension of another, with no length modifier and no named operator, the
bindings matched from a path without `%` expand to the part of the path that was matched. -/
theorem expand_matchPath_eq_candidate {s path : String} {t : Template} {bs : Bindings}
    (ht : parse s = .ok t) (hnd : t.specNames.Nodup)
    (hext : ∀ n ∈ t.specNames, ∀ m ∈ t.specNames, ∀ r, n ≠ m ++ "." ++ r)
    (hplain : ∀ p ∈ t.parts, ∀ v ∈ p.specs, v.maxLength? = none)
    (hpos : ∀ p ∈ t.parts, p.operator.named = false)
    (hpct : '%' ∉ path.toList) (hm : t.matchPath path = some bs) :
    t.expand bs.toValue false = String.ofList (t.candidate path) := by
  obtain ⟨caps, hsearch, hbind⟩ : ∃ caps, search (pattern t) (t.candidate path) = some caps ∧
      bindAll (t.parts.filter Part.isVariable) caps [] = some bs := by
    simpa [matchPath, Option.bind_eq_some_iff] using hm
  have hvnd : ((t.parts.filter Part.isVariable).flatMap Part.names).Nodup := by
    rw [flatMap_names_filter_isVariable]
    exact hnd
  have hbs : bs = capturedAll (t.parts.filter Part.isVariable) caps := by
    have h := bindAll_eq_capturedAll (t.parts.filter Part.isVariable) caps []
      (fun p hp => hpos p (List.mem_filter.1 hp).1) hvnd (fun _ _ => rfl)
    rw [hbind] at h
    simpa using h
  have hres : ∀ pc ∈ (t.parts.filter Part.isVariable).zip caps, ∀ v ∈ pc.1.specs, ∀ a,
      Value.resolve a bs.toValue v.name =
        (((pc.1.captured pc.2).get? v.name).map Capture.toValue).getD .none := by
    intro pc hpc v hv a
    have hp := (List.mem_filter.1 (List.of_mem_zip hpc).1).1
    have hvn : v.name ∈ t.specNames := List.mem_flatMap.2 ⟨pc.1, hp, List.mem_map_of_mem hv⟩
    rw [resolve_toValue a bs v.name ?_, hbs,
      capturedAll_get? _ caps hvnd pc.1 pc.2 hpc v.name (List.mem_map_of_mem hv)]
    -- a bound name followed by a dot would make `v.name` a dotted extension
    intro _ m r hmr
    rw [Bindings.get?_eq_none_iff]
    intro hk
    obtain ⟨e, he, rfl⟩ := List.mem_map.1 hk
    rw [hbs] at he
    have hmn := capturedAll_keys he
    rw [flatMap_names_filter_isVariable] at hmn
    exact hext v.name hvn e.1 hmn r hmr
  have hfit : ∀ p ∈ t.parts, p.isVariable = true → p.Positional := fun p hp hv =>
    { unnamed := hpos p hp
      plain := hplain p hp
      specs_ne_nil := (parse_declared ht p hp hv).specs_ne_nil
      names_nodup := (List.nodup_flatMap.1 hnd).1 p hp }
  exact expandParts_reading bs.toValue t.parts caps _ [] (search_reading hsearch) hfit
    (fun h => hpct (mem_candidate h)) hres

/-- Under `/files{/dir}{.ext}`, the path `/files/docs.txt?x=1` binds `dir` to `docs` and `ext` to
`txt`, and these expand to the path without its query. -/
theorem expand_matchPath_files :
    (Template.mk [.literal "/files", .expression .segment [{ name := "dir" }],
      .expression .label [{ name := "ext" }]]).expand
      (Bindings.toValue [("dir", .text "docs"), ("ext", .text "txt")]) false = "/files/docs.txt" := by
  have ht : parse "/files{/dir}{.ext}" = .ok (Template.mk [.literal "/files",
      .expression .segment [{ name := "dir" }], .expression .label [{ name := "ext" }]]) := by
    apply parse_eq_ok_of_toOption
    decide +kernel
  have hc : (Template.mk [.literal "/files", .expression .segment [{ name := "dir" }],
      .expression .label [{ name := "ext" }]]).candidate "/files/docs.txt?x=1" =
      "/files/docs.txt".toList := by
    simp [candidate, keepsQuery, keepsFragment, Part.asksQuery, Part.asksFragment]
  have hm : (Template.mk [.literal "/files", .expression .segment [{ name := "dir" }],
      .expression .label [{ name := "ext" }]]).matchPath "/files/docs.txt?x=1" =
      some [("dir", .text "docs"), ("ext", .text "txt")] := by
    have hs : search (pattern (Template.mk [.literal "/files",
        .expression .segment [{ name := "dir" }], .expression .label [{ name := "ext" }]]))
        "/files/docs.txt".toList = some [some "docs".toList, some "txt".toList] := by decide
    have hf : (Template.mk [.literal "/files", .expression .segment [{ name := "dir" }],
        .expression .label [{ name := "ext" }]]).parts.filter Part.isVariable =
        [.expression .segment [{ name := "dir" }], .expression .label [{ name := "ext" }]] := by
      decide
    simp only [matchPath, hc, hs, hf]
    simp [bindAll, Part.bind, bindPositional, Bindings.assign, Bindings.get?,
      Part.operator, Part.specs, Operator.named, VarSpec.explodes, decoded_eq_ofList]
  have hext : ∀ n ∈ ["dir", "ext"], ∀ m ∈ ["dir", "ext"], ∀ r : String, n ≠ m ++ "." ++ r := by
    intro n hn m hm r h
    have hl := congrArg String.toList h
    simp only [List.mem_cons, List.not_mem_nil, or_false] at hn hm
    rcases hn with rfl | rfl <;> rcases hm with rfl | rfl <;> simp at hl
  rw [expand_matchPath_eq_candidate ht (by decide) hext (by decide) (by decide) (by decide) hm,
    hc, String.ofList_toList]

end UrlRouting.Template
