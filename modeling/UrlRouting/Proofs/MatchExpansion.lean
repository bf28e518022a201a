import Mathlib
import UrlRouting.Proofs.WrittenParts
import UrlRouting.Proofs.AgreeingBindings
import UrlRouting.Proofs.PatternReading
import UrlRouting.Proofs.KeyPaths

/-!
# Matching undoes expansion

Expand a read template against a mapping `entries` whose values fit their variables
(`Part.Faithful`), and match the result against the template. Matching finds the mapping
again, up to the form of its values, when no part writes a character that could start what
follows it (`writesClear`): the lazy search of the pattern takes each body whole
(`lazyReading_written`), since a shorter body would leave a rest that the following parts
cannot start with. Each body then binds the variables of its part to their values
(`bind_body_within`): a positional body is cut at its separators and decoded, a named body
is read as `key=value` items; a name bound twice is bound to the same value both times.
Whatever the path keeps of the query and fragment is all of it (`candidate_written`).

Without the condition on what follows, matching can stop a body early: the template
`/search{?q,lang}{&page}` expands `q`, `lang` and `page` to
`/search?q=kiwi&lang=en&page=2`, but the lazy body of `{?q,lang}` stops at the first `&`,
leaving `lang=en` to `{&page}`, which does not declare it, so the path does not match
(`matchPath_expand_stops_early`).

## Main definitions

* `UrlRouting.Template.Part.namedItems`: the `key=value` items of a named body
* `UrlRouting.Template.writesClear`

## Main results

* `UrlRouting.Template.lazyReading_written`, `UrlRouting.Template.bind_body_within`
* `UrlRouting.Template.matchPath_expand`
* `UrlRouting.Template.matchPath_expand_stops_early`
-/

namespace UrlRouting.Template

open Grammar

/-! ### Separators and names -/

theorem Operator.separator_not_written (op : Operator) :
    op.separator ≠ '=' ∧ op.separator ≠ '%' ∧ op.separator.isAlphanum = false := by
  cases op <;> decide

theorem Operator.separator_ne_query (op : Operator) : op.separator ≠ '#' ∧ op.separator ≠ '?' := by
  cases op <;> decide

/-- The separator of a named operator is no character of a name. -/
theorem Operator.separator_not_name {op : Operator} (hn : op.named = true) :
    op.separator ≠ '.' ∧ ¬IsUnitStart op.separator := by
  cases op <;> simp only [Operator.named, Bool.false_eq_true] at hn <;> decide

/-- The separator is no character of an escaped plain text. -/
theorem separator_not_mem_escapeText {escape : Bool} {op : Operator} {x : String}
    (hx : PlainText escape x) (hkeep : escape = true → op.keepsReserved = false) :
    op.separator ∉ (op.escapeText escape x).toList := by
  intro hmem
  have hsep := Operator.separator_not_written op
  rcases mem_escapeText hx hkeep hmem with ha | ⟨_, hp⟩
  · rw [hsep.2.2] at ha
    cases ha
  · exact hsep.2.1 hp

theorem not_mem_name_of_not_name {p : Part} (hd : p.Declared) {v : VarSpec} (hv : v ∈ p.specs)
    {c : Char} (h1 : c ≠ '.') (h2 : ¬IsUnitStart c) : c ∉ v.name.toList := fun hc =>
  (hd.name_chars v hv c hc).elim h2 h1

/-! ### Binding what a part wrote -/

section Binding

variable {escape : Bool} {entries : List (String × Value)}

/-- The values the pairs of each variable's name and texts give a name: the texts of the
variables of that name. -/
theorem valuesOf_flatMap {α : Type} (name : α → String) (U : α → List String) (n : String) :
    ∀ l : List α, valuesOf n (l.flatMap fun w => (U w).map fun x => (name w, x)) =
      (l.filter fun w => name w == n).flatMap U
  | [] => rfl
  | w :: l => by
    rw [List.flatMap_cons, valuesOf_append, valuesOf_flatMap name U n l, List.filter_cons]
    by_cases hw : name w = n
    · simp [valuesOf, hw, List.filter_map, Function.comp_def]
    · simp [valuesOf, hw, List.filter_map, Function.comp_def]

/-- Variables of one name give the same texts. -/
theorem VarSpec.texts_of_name_eq {v w : VarSpec} (h : w.name = v.name) :
    w.texts entries = v.texts entries := by
  simp [VarSpec.texts, h]

/-! #### Named parts -/

/-- The `key=value` items a named part writes: the name of each variable with each of its
escaped texts. -/
def Part.namedItems (escape : Bool) (entries : List (String × Value)) (p : Part) :
    List (List Char × List Char) :=
  p.specs.flatMap fun v =>
    (v.texts entries).map fun x => (v.name.toList, (p.operator.escapeText escape x).toList)

/-- A named body is its items `name=text` between separators. -/
theorem Part.body_named {p : Part} (h : p.Faithful escape entries)
    (hn : p.operator.named = true) :
    p.body escape entries = [p.operator.separator].intercalate
      ((p.namedItems escape entries).map fun e => e.1 ++ '=' :: e.2) := by
  unfold Part.body Part.pieces Part.namedItems
  congr 1
  simp only [List.map_flatMap, List.map_map]
  apply List.flatMap_congr
  intro v hv
  apply List.map_congr_left
  intro x hx
  have hne : p.operator.escapeText escape x ≠ "" :=
    escapeText_ne_empty (VarSpec.texts_plain (h.fits v hv) x hx)
  simp [Operator.piece, hn, Operator.namedPiece, hne]

/-- No key of a named item holds `=`, and no item holds the separator. -/
theorem Part.namedItems_clear {p : Part} (h : p.Faithful escape entries)
    (hn : p.operator.named = true) :
    ∀ e ∈ p.namedItems escape entries,
      '=' ∉ e.1 ∧ p.operator.separator ∉ e.1 ∧ p.operator.separator ∉ e.2 := by
  intro e he
  obtain ⟨v, hv, he⟩ := List.mem_flatMap.1 he
  obtain ⟨x, hx, rfl⟩ := List.mem_map.1 he
  have hname := Operator.separator_not_name hn
  exact ⟨not_mem_name_of_not_name h.declared hv (by decide) (by decide),
    not_mem_name_of_not_name h.declared hv hname.1 hname.2,
    separator_not_mem_escapeText (VarSpec.texts_plain (h.fits v hv) x hx) h.keeps⟩

theorem Part.Faithful.namedItems_ne_nil {p : Part} (h : p.Faithful escape entries) :
    p.namedItems escape entries ≠ [] := by
  obtain ⟨v, hv⟩ := List.exists_mem_of_ne_nil _ h.declared.specs_ne_nil
  obtain ⟨x, hx⟩ := List.exists_mem_of_ne_nil _ (VarSpec.texts_ne_nil (h.fits v hv))
  exact List.ne_nil_of_mem (List.mem_flatMap.2 ⟨v, hv, List.mem_map_of_mem hx⟩)

/-- Decoded, the named items are the names of the variables with their texts. -/
theorem Part.namedItems_decoded {p : Part} (h : p.Faithful escape entries)
    (hn : p.operator.named = true) :
    (p.namedItems escape entries).map (fun e => (decoded e.1, decoded e.2)) =
      p.specs.flatMap fun v => (v.texts entries).map fun x => (v.name, x) := by
  simp only [Part.namedItems, List.map_flatMap, List.map_map]
  apply List.flatMap_congr
  intro v hv
  apply List.map_congr_left
  intro x hx
  simp [decoded_eq_ofList (h.names hn v hv),
    decoded_escapeText (VarSpec.texts_plain (h.fits v hv) x hx)]

/-- The parameters of a named body collect the names of the variables with their texts. -/
theorem Part.collects_body {p : Part} (h : p.Faithful escape entries)
    (hn : p.operator.named = true) :
    Collects (p.specs.flatMap fun v => (v.texts entries).map fun x => (v.name, x))
      (paramsOf p.operator.separator (p.body escape entries)) := by
  have hcol := collects_paramsOf (Operator.separator_not_written p.operator).1 _
    h.namedItems_ne_nil (Part.namedItems_clear h hn)
  rwa [Part.namedItems_decoded h hn, ← Part.body_named h hn] at hcol

/-- A variable of a named part finds the texts of its name, and the capture they make has its value:
its text, or the list of its texts when exploded. Every variable of the name gives the texts of `v`,
and an exploded variable is alone in its part. -/
theorem Part.Faithful.valuesOf_name {p : Part} (h : p.Faithful escape entries) {v : VarSpec}
    (hv : v ∈ p.specs) :
    valuesOf v.name (p.specs.flatMap fun w => (w.texts entries).map fun x => (w.name, x)) ≠ [] ∧
      Value.lookup v.name entries = some (if v.explodes then
        Capture.items (valuesOf v.name
          (p.specs.flatMap fun w => (w.texts entries).map fun x => (w.name, x)))
        else .text ((valuesOf v.name
          (p.specs.flatMap fun w => (w.texts entries).map fun x => (w.name, x))).headD "")).toValue := by
  rw [valuesOf_flatMap]
  have hmem : v ∈ p.specs.filter fun w => w.name == v.name := List.mem_filter.2 ⟨hv, by simp⟩
  have hsame : (p.specs.filter fun w => w.name == v.name).flatMap (VarSpec.texts entries) =
      (p.specs.filter fun w => w.name == v.name).flatMap fun _ => v.texts entries := by
    apply List.flatMap_congr
    intro w hw
    exact VarSpec.texts_of_name_eq (by simpa using (List.mem_filter.1 hw).2)
  rw [hsame]
  cases hx : v.explodes with
  | false =>
    obtain ⟨x, hlook, htexts⟩ := VarSpec.texts_of_not_explodes (h.fits v hv) hx
    obtain ⟨w, ws, hws⟩ := List.exists_cons_of_ne_nil (List.ne_nil_of_mem hmem)
    rw [htexts, hws]
    simp [hlook, Capture.toValue]
  | true =>
    have hfilter : (p.specs.filter fun w => w.name == v.name) = [v] := by
      rw [h.sole v hv hx]
      simp
    rw [hfilter]
    refine ⟨by simpa using VarSpec.texts_ne_nil (h.fits v hv), ?_⟩
    simp [VarSpec.texts_of_explodes (h.fits v hv) hx, Capture.toValue]

/-- A named part binds its body to the values of its variables. -/
theorem bindNamed_body {p : Part} (h : p.Faithful escape entries) (hn : p.operator.named = true)
    {bs : Bindings} (hbs : bs.Within (Value.lookup · entries)) :
    ∃ bs', bindNamed p.specs p.operator.separator (p.body escape entries) bs = some bs' ∧
      bs'.Within (Value.lookup · entries) ∧
        ∀ m, m ∈ bs'.map (·.1) ↔ m ∈ bs.map (·.1) ∨ ∃ v ∈ p.specs, v.name = m := by
  refine bindNamed_within (Part.collects_body h hn) ?_ (fun v hv => h.valuesOf_name hv) hbs
  intro e he
  obtain ⟨v, hv, he⟩ := List.mem_flatMap.1 he
  obtain ⟨x, -, rfl⟩ := List.mem_map.1 he
  exact ⟨v, hv, rfl⟩

/-! #### Positional parts -/

/-- A positional body is the escaped texts of its variables between separators. -/
theorem Part.body_positional {p : Part} (hn : p.operator.named = false) :
    p.body escape entries = [p.operator.separator].intercalate
      (p.specs.flatMap fun v => (v.texts entries).map fun x =>
        (p.operator.escapeText escape x).toList) := by
  simp [Part.body, Part.pieces, Operator.piece, hn, List.map_flatMap, Function.comp_def]

/-- A single positional variable takes the whole body, or when exploded the pieces between
separators: the pieces hold no separator, so cutting at separators gives them back. -/
theorem bindPositional_single {p : Part} (h : p.Faithful escape entries)
    (hn : p.operator.named = false) {v : VarSpec} (hs : p.specs = [v]) {bs : Bindings}
    (hbs : bs.Within (Value.lookup · entries)) :
    ∃ bs', bindPositional [v] p.operator.separator (p.body escape entries) bs = some bs' ∧
      bs'.Within (Value.lookup · entries) ∧
        ∀ m, m ∈ bs'.map (·.1) ↔ m ∈ bs.map (·.1) ∨ m = v.name := by
  have hv : v ∈ p.specs := by simp [hs]
  have hbody : p.body escape entries = [p.operator.separator].intercalate
      ((v.texts entries).map fun x => (p.operator.escapeText escape x).toList) := by
    rw [Part.body_positional hn, hs, List.flatMap_singleton]
  rw [bindPositional.eq_1]
  cases hx : v.explodes with
  | false =>
    obtain ⟨x, hlook, htexts⟩ := VarSpec.texts_of_not_explodes (h.fits v hv) hx
    have hdec : decoded (p.body escape entries) = x := by
      rw [hbody, htexts]
      simpa using decoded_escapeText (VarSpec.texts_plain (h.fits v hv) x (by simp [htexts]))
    obtain ⟨bs', hassign, hw, hk⟩ := assign_within (n := v.name) (c := .text x) hbs
      (by simp [hlook, Capture.toValue]) (by simp)
    exact ⟨bs', by simpa [hdec] using hassign, hw, hk⟩
  | true =>
    have hsplit : (p.body escape entries).splitOn p.operator.separator =
        (v.texts entries).map fun x => (p.operator.escapeText escape x).toList := by
      rw [hbody]
      apply List.splitOn_intercalate
      · intro l hl
        obtain ⟨x, hx, rfl⟩ := List.mem_map.1 hl
        exact separator_not_mem_escapeText (VarSpec.texts_plain (h.fits v hv) x hx) h.keeps
      · simpa using VarSpec.texts_ne_nil (h.fits v hv)
    have hdec : ((p.body escape entries).splitOn p.operator.separator).map decoded =
        v.texts entries := by
      rw [hsplit, List.map_map]
      conv_rhs => rw [← List.map_id (v.texts entries)]
      exact List.map_congr_left fun x hx =>
        decoded_escapeText (VarSpec.texts_plain (h.fits v hv) x hx)
    obtain ⟨bs', hassign, hw, hk⟩ := assign_within (n := v.name) (c := .items (v.texts entries))
      hbs (by simp [VarSpec.texts_of_explodes (h.fits v hv) hx, Capture.toValue]) (by simp)
    exact ⟨bs', by simpa [hdec] using hassign, hw, hk⟩

/-- A variable that is not exploded writes one piece: the escaped text of its value. -/
theorem VarSpec.piece_of_not_explodes {v : VarSpec}
    (h : Fits escape v (Value.lookup v.name entries)) (hv : v.explodes = false) :
    ∃ x, Value.lookup v.name entries = some (.str x) ∧ PlainText escape x ∧
      (v.texts entries).headD "" = x := by
  obtain ⟨x, hlook, htexts⟩ := VarSpec.texts_of_not_explodes h hv
  exact ⟨x, hlook, VarSpec.texts_plain h x (by simp [htexts]), by simp [htexts]⟩

/-- With no exploded variable, the first separators of a positional body cut it back into the
pieces of its variables, one each. -/
theorem Part.splitAtMost_body {p : Part} (h : p.Faithful escape entries)
    (hn : p.operator.named = false) (hnot : ∀ v ∈ p.specs, v.explodes = false) :
    splitAtMost p.operator.separator (p.specs.length - 1) (p.body escape entries) =
      p.specs.map fun v => (p.operator.escapeText escape ((v.texts entries).headD "")).toList := by
  have hpieces : (p.specs.flatMap fun v => (v.texts entries).map fun x =>
      (p.operator.escapeText escape x).toList) =
      p.specs.map fun v => (p.operator.escapeText escape ((v.texts entries).headD "")).toList := by
    rw [List.map_eq_flatMap]
    apply List.flatMap_congr
    intro v hv
    obtain ⟨x, -, htexts⟩ := VarSpec.texts_of_not_explodes (h.fits v hv) (hnot v hv)
    simp [htexts]
  have hcut := @splitAtMost_intercalate p.operator.separator
    (p.specs.map fun v => (p.operator.escapeText escape ((v.texts entries).headD "")).toList)
    (by simpa using h.declared.specs_ne_nil) (by
      intro l hl
      obtain ⟨v, hv, rfl⟩ := List.mem_map.1 hl
      obtain ⟨x, -, hx, hhead⟩ := VarSpec.piece_of_not_explodes (h.fits v hv) (hnot v hv)
      rw [hhead]
      exact separator_not_mem_escapeText hx h.keeps)
  rw [Part.body_positional hn, hpieces]
  simpa using hcut

/-- Several positional variables, none exploded, take the pieces up to the first separators,
one each. -/
theorem bindPositional_several {p : Part} (h : p.Faithful escape entries)
    (hn : p.operator.named = false) (hmany : ¬p.specs.length < 2) {bs : Bindings}
    (hbs : bs.Within (Value.lookup · entries)) :
    ∃ bs', bindPositional p.specs p.operator.separator (p.body escape entries) bs = some bs' ∧
      bs'.Within (Value.lookup · entries) ∧
        ∀ m, m ∈ bs'.map (·.1) ↔ m ∈ bs.map (·.1) ∨ ∃ v ∈ p.specs, v.name = m := by
  have hnot : ∀ v ∈ p.specs, v.explodes = false := by
    intro v hv
    cases hx : v.explodes with
    | false => rfl
    | true =>
      rw [h.sole v hv hx] at hmany
      simp at hmany
  have hsingle : ∀ spec, p.specs = [spec] → False := by
    intro spec hs
    rw [hs] at hmany
    simp at hmany
  rw [bindPositional.eq_2 _ _ _ _ hsingle, Part.splitAtMost_body h hn hnot,
    ← List.map_prod_left_eq_zip]
  obtain ⟨bs', hfold, hw, hk⟩ := foldlM_assign_within
    (fun bs e => bs.assign e.1.name (.text (decoded e.2)))
    (fun e : VarSpec × List Char => (e.1.name, .text (decoded e.2)))
    (p.specs.map fun v => (v, (p.operator.escapeText escape ((v.texts entries).headD "")).toList))
    bs (fun _ _ _ => rfl) (by
      intro e he
      obtain ⟨v, hv, rfl⟩ := List.mem_map.1 he
      obtain ⟨x, hlook, hx, hhead⟩ := VarSpec.piece_of_not_explodes (h.fits v hv) (hnot v hv)
      rw [hhead]
      simp [decoded_escapeText hx, hlook, Capture.toValue]) hbs
  refine ⟨bs', hfold, hw, fun m => ?_⟩
  rw [hk]
  simp

/-- A positional part binds its body to the values of its variables. -/
theorem bindPositional_body {p : Part} (h : p.Faithful escape entries)
    (hn : p.operator.named = false) {bs : Bindings} (hbs : bs.Within (Value.lookup · entries)) :
    ∃ bs', bindPositional p.specs p.operator.separator (p.body escape entries) bs = some bs' ∧
      bs'.Within (Value.lookup · entries) ∧
        ∀ m, m ∈ bs'.map (·.1) ↔ m ∈ bs.map (·.1) ∨ ∃ v ∈ p.specs, v.name = m := by
  by_cases hone : p.specs.length < 2
  · obtain ⟨v, hs⟩ := h.declared.eq_singleton hone
    obtain ⟨bs', hb, hw, hk⟩ := bindPositional_single h hn hs hbs
    exact ⟨bs', by rw [hs]; exact hb, hw, fun m => by simp [hk, hs, eq_comm]⟩
  · exact bindPositional_several h hn hone hbs

/-- A variable part binds the body it wrote to the values of its variables. -/
theorem bind_body_within {p : Part} (h : p.Faithful escape entries) {bs : Bindings}
    (hbs : bs.Within (Value.lookup · entries)) :
    ∃ bs', p.bind (p.body escape entries) bs = some bs' ∧ bs'.Within (Value.lookup · entries) ∧
      ∀ m, m ∈ bs'.map (·.1) ↔ m ∈ bs.map (·.1) ∨ m ∈ p.names := by
  have hnames : ∀ m, m ∈ p.names ↔ ∃ v ∈ p.specs, v.name = m := by
    simp [Part.names]
  unfold Part.bind
  cases hn : p.operator.named with
  | true =>
    obtain ⟨bs', hb, hw, hk⟩ := bindNamed_body h hn hbs
    exact ⟨bs', by simpa using hb, hw, fun m => by rw [hk, hnames]⟩
  | false =>
    obtain ⟨bs', hb, hw, hk⟩ := bindPositional_body h hn hbs
    exact ⟨bs', by simpa using hb, hw, fun m => by rw [hk, hnames]⟩

/-- Binding the bodies that faithful parts wrote, one after the other, never fails, keeps the
bindings within `entries`, and binds the names of all the parts. -/
theorem bindAll_written :
    ∀ (ps : List Part) (bs : Bindings), (∀ p ∈ ps, p.Faithful escape entries) →
      bs.Within (Value.lookup · entries) →
        ∃ bs', bindAll ps (ps.map fun p => some (p.body escape entries)) bs = some bs' ∧
          bs'.Within (Value.lookup · entries) ∧
            ∀ m, m ∈ bs'.map (·.1) ↔ m ∈ bs.map (·.1) ∨ m ∈ ps.flatMap Part.names
  | [], bs, _, hbs => ⟨bs, rfl, hbs, by simp⟩
  | p :: ps, bs, h, hbs => by
    obtain ⟨bs₁, h₁, hw₁, hk₁⟩ := bind_body_within (h p List.mem_cons_self) hbs
    obtain ⟨bs₂, h₂, hw₂, hk₂⟩ := bindAll_written ps bs₁
      (fun q hq => h q (List.mem_cons_of_mem p hq)) hw₁
    refine ⟨bs₂, by simp [bindAll, h₁, h₂], hw₂, fun m => ?_⟩
    rw [hk₂, hk₁, List.flatMap_cons, List.mem_append, or_assoc]

end Binding

/-! ### Reading what the parts wrote -/

/-- Whether no variable part may write a character that could start the parts after it: the
first characters of the optional parts that follow, up to the next literal, and that
literal's first character; a required part after it could start with any character. -/
def writesClear (escape : Bool) : List Part → Bool
  | [] => true
  | p :: ps =>
    (!p.isVariable ||
      (startChars (ps.map Part.piece)).elim false fun S => S.all fun c => !p.writes escape c) &&
      writesClear escape ps

section Reading

variable {escape : Bool} {entries : List (String × Value)}

theorem writesClear_head {p : Part} {ps : List Part} (h : writesClear escape (p :: ps) = true)
    (hv : p.isVariable = true) :
    ∃ S, startChars (ps.map Part.piece) = some S ∧ ∀ c ∈ S, p.writes escape c = false := by
  simp only [writesClear, hv, Bool.not_true, Bool.false_or, Bool.and_eq_true] at h
  cases hS : startChars (ps.map Part.piece) with
  | none => simp [hS] at h
  | some S =>
    simp only [hS, Option.elim_some, List.all_eq_true, Bool.not_eq_true'] at h
    exact ⟨S, rfl, h.1⟩

theorem writesClear_tail {p : Part} {ps : List Part} (h : writesClear escape (p :: ps) = true) :
    writesClear escape ps = true := by
  simp only [writesClear, Bool.and_eq_true] at h
  exact h.2

theorem Part.piece_of_first?_none {p : Part} (hv : p.isVariable = true)
    (hf : p.operator.first? = none) : p.piece = .required p.operator := by
  cases p with
  | literal => simp [Part.isVariable] at hv
  | colon => simp [Part.piece, hf]
  | expression => simp [Part.piece, hf]

theorem Part.piece_of_first?_some {p : Part} {f : Char} (hv : p.isVariable = true)
    (hf : p.operator.first? = some f) : p.piece = .optional f p.operator := by
  cases p with
  | literal => simp [Part.isVariable] at hv
  | colon => simp [Part.piece, hf]
  | expression => simp [Part.piece, hf]

/-- What faithful parts write is a way through their pattern with every variable part present
and no body stopped early, when no part writes what could start the parts after it. -/
theorem lazyReading_written :
    ∀ parts : List Part, (∀ p ∈ parts, p.isVariable = true → p.Faithful escape entries) →
      writesClear escape parts = true →
        LazyReading (parts.map Part.piece)
          ((parts.filter Part.isVariable).map fun p => some (p.body escape entries))
          (parts.flatMap (Part.written escape entries))
  | [], _, _ => .nil
  | p :: ps, hf, hc => by
    have ih := lazyReading_written ps (fun q hq => hf q (List.mem_cons_of_mem p hq))
      (writesClear_tail hc)
    cases hv : p.isVariable with
    | false =>
      obtain ⟨text, rfl⟩ := Part.eq_literal_of_isVariable_eq_false hv
      simpa [Part.piece, Part.written, Part.isVariable, Part.value] using
        @LazyReading.literal text.toList _ _ _ ih
    | true =>
      have hp := hf p List.mem_cons_self hv
      obtain ⟨S, hS, hnot⟩ := writesClear_head hc hv
      have hout : ∀ c ∈ p.body escape entries, c ∉ S := by
        intro c hc' hcS
        have hw := hnot c hcS
        rw [mem_body_writes hp hc'] at hw
        cases hw
      have hok : ∀ c ∈ p.body escape entries, p.operator.allows c = true :=
        fun c hc' => allows_of_writes hp.declared (mem_body_writes hp hc')
      rw [List.map_cons, List.filter_cons_of_pos hv, List.map_cons, List.flatMap_cons]
      cases hfirst : p.operator.first? with
      | none =>
        rw [Part.piece_of_first?_none hv hfirst]
        obtain ⟨c₀, body, hbody⟩ := List.exists_cons_of_ne_nil hp.body_ne_nil
        have hw : p.written escape entries = c₀ :: body := by
          simp [Part.written, hv, hfirst, hbody]
        rw [hw, hbody, List.cons_append]
        rw [hbody] at hok hout
        exact .required hok hS (fun c hc' => hout c (List.mem_cons_of_mem c₀ hc')) ih
      | some f =>
        rw [Part.piece_of_first?_some hv hfirst]
        have hw : p.written escape entries = f :: p.body escape entries := by
          simp [Part.written, hv, hfirst]
        rw [hw, List.cons_append]
        exact .present hok hS hout ih

end Reading

/-! ### The path a template sees -/

/-- A path is seen whole when its `?` and `#`, if any, are kept. -/
theorem candidate_ofList (t : Template) (cs : List Char) (hq : '?' ∈ cs → t.keepsQuery = true)
    (hf : '#' ∈ cs → t.keepsFragment = true) : t.candidate (String.ofList cs) = cs := by
  simp only [candidate, String.toList_ofList]
  have hbase : (if t.keepsQuery then cs.takeWhile (· != '#')
      else (cs.takeWhile (· != '#')).takeWhile (· != '?')) = cs.takeWhile (· != '#') := by
    split
    · rfl
    · rename_i hnq
      apply List.takeWhile_eq_self_iff.2
      intro c hc
      have hcs : c ∈ cs := (List.takeWhile_sublist _).subset hc
      simp only [bne_iff_ne, ne_eq]
      rintro rfl
      exact hnq (hq hcs)
  rw [hbase]
  split
  · exact List.takeWhile_append_dropWhile
  · rename_i hnf
    apply List.takeWhile_eq_self_iff.2
    intro c hc
    simp only [bne_iff_ne, ne_eq]
    rintro rfl
    exact hnf (hf hc)

theorem Part.writes_ne_query {escape : Bool} {p : Part} (hd : p.Declared) {c : Char}
    (h : p.writes escape c = true) : c ≠ '#' ∧ c ≠ '?' := by
  rcases p.writes_delims hd h with rfl | ⟨_, h2, h3⟩
  · exact p.operator.separator_ne_query
  · exact ⟨h3, h2⟩

/-- A part writes a `#` only when it asks for the fragment, and a `?` only when it asks for the
query. -/
theorem Part.asks_of_mem_written {escape : Bool} {entries : List (String × Value)} {p : Part}
    (hp : p.isVariable = true → p.Faithful escape entries) {c : Char}
    (hc : c ∈ p.written escape entries) :
    (c = '#' → p.asksFragment = true) ∧ (c = '?' → p.asksQuery = true) := by
  cases hv : p.isVariable with
  | false =>
    obtain ⟨text, rfl⟩ := Part.eq_literal_of_isVariable_eq_false hv
    simp only [Part.written, hv, Bool.false_eq_true, if_false, Part.value] at hc
    constructor <;> rintro rfl <;> simp [Part.asksFragment, Part.asksQuery, String.contains_char_eq, hc]
  | true =>
    simp only [Part.written, hv, if_true, List.mem_append] at hc
    rcases hc with hc | hc
    · -- the first character of the operator
      cases p with
      | literal => simp [Part.isVariable] at hv
      | colon => simp [Part.operator, Operator.first?] at hc
      | expression op specs =>
        cases op <;> simp_all [Part.operator, Operator.first?, Part.asksFragment, Part.asksQuery]
    · have hne := p.writes_ne_query (hp hv).declared (mem_body_writes (hp hv) hc)
      exact ⟨fun h => absurd h hne.1, fun h => absurd h hne.2⟩

/-- What faithful parts write is seen whole by their template. -/
theorem candidate_written {escape : Bool} {entries : List (String × Value)} (t : Template)
    (h : ∀ p ∈ t.parts, p.isVariable = true → p.Faithful escape entries) :
    t.candidate (String.ofList (t.parts.flatMap (Part.written escape entries))) =
      t.parts.flatMap (Part.written escape entries) := by
  apply candidate_ofList
  · intro hq
    obtain ⟨p, hp, hc⟩ := List.mem_flatMap.1 hq
    exact List.any_eq_true.2 ⟨p, hp, (Part.asks_of_mem_written (h p hp) hc).2 rfl⟩
  · intro hf
    obtain ⟨p, hp, hc⟩ := List.mem_flatMap.1 hf
    exact List.any_eq_true.2 ⟨p, hp, (Part.asks_of_mem_written (h p hp) hc).1 rfl⟩

/-! ### Matching an expansion -/

theorem mem_addNew (m : String) :
    ∀ (names seen : List String), m ∈ addNew seen names ↔ m ∈ seen ∨ m ∈ names
  | [], seen => by simp [addNew]
  | n :: names, seen => by
    have ih := mem_addNew m names (if seen.contains n then seen else seen ++ [n])
    simp only [addNew, List.foldl_cons] at ih ⊢
    rw [ih]
    by_cases hn : n ∈ seen
    · simp only [List.contains_iff_mem, hn, if_true, List.mem_cons]
      constructor
      · rintro (h | h)
        · exact .inl h
        · exact .inr (.inr h)
      · rintro (h | rfl | h)
        · exact .inl h
        · exact .inl hn
        · exact .inr h
    · simp only [List.contains_iff_mem, hn, if_false, List.mem_append, List.mem_cons]
      tauto

theorem mem_variableNames {t : Template} {m : String} :
    m ∈ t.variableNames ↔ ∃ p ∈ t.parts, m ∈ p.names := by
  simp [variableNames, mem_addNew, Part.names]

/-- Matching undoes expansion. Take a read template whose variables have no length modifier
and are exploded only alone in their part, and a mapping that gives exactly its variables
values that fit them: non-empty plain texts, or for an exploded variable non-empty lists of
them. Under a named operator no name holds `%`, and when escaping no operator keeps reserved
characters. When no part writes a character that could start what follows it, matching the
expansion binds every variable, to its value. -/
theorem matchPath_expand {s : String} {t : Template} {entries : List (String × Value)}
    {escape : Bool} (ht : parse s = .ok t)
    (hplain : ∀ p ∈ t.parts, ∀ v ∈ p.specs, v.maxLength? = none)
    (hsole : ∀ p ∈ t.parts, ∀ v ∈ p.specs, v.explodes = true → p.specs = [v])
    (hfits : ∀ p ∈ t.parts, ∀ v ∈ p.specs, Fits escape v (Value.lookup v.name entries))
    (hdom : ∀ e ∈ entries, e.1 ∈ t.variableNames)
    (hnames : ∀ p ∈ t.parts, p.operator.named = true → ∀ v ∈ p.specs, '%' ∉ v.name.toList)
    (hkeep : escape = true → ∀ p ∈ t.parts, p.operator.keepsReserved = false)
    (hclear : writesClear escape t.parts = true) :
    ∃ bs, t.matchPath (t.expand (.map entries) escape) = some bs ∧
      ∀ n, (bs.get? n).map Capture.toValue = Value.lookup n entries := by
  have hfaith : ∀ p ∈ t.parts, p.isVariable = true → p.Faithful escape entries :=
    fun p hp hv => ⟨parse_declared ht p hp hv, hplain p hp, hsole p hp, hfits p hp, hnames p hp,
      fun he => hkeep he p hp⟩
  have hexp : t.expand (.map entries) escape =
      String.ofList (t.parts.flatMap (Part.written escape entries)) := by
    rw [← expandParts_written t.parts [] hfaith, String.ofList_toList]
    rfl
  have hsearch := (lazyReading_written t.parts hfaith hclear).search_eq
  obtain ⟨bs, hbind, hw, hk⟩ := bindAll_written (t.parts.filter Part.isVariable) []
    (fun p hp => hfaith p (List.mem_filter.1 hp).1 (List.mem_filter.1 hp).2) (fun _ he => by
      cases he)
  refine ⟨bs, ?_, fun n => ?_⟩
  · simp only [matchPath, hexp, candidate_written t hfaith, pattern, hsearch, Option.bind_eq_bind,
      Option.bind_some, hbind]
  · cases hget : bs.get? n with
    | some c => exact (hw.get? hget).symm
    | none =>
      -- a name left unbound is no variable, so the mapping has no value for it
      cases hlook : Value.lookup n entries with
      | none => rfl
      | some val =>
        obtain ⟨e, he, rfl⟩ := Value.lookup_key_mem hlook
        obtain ⟨p, hp, hm⟩ := mem_variableNames.1 (hdom e he)
        have hv : p.isVariable = true := by
          cases p with
          | literal => simp [Part.names, Part.specs] at hm
          | colon => rfl
          | expression => rfl
        have hmem : e.1 ∈ bs.map (·.1) :=
          (hk e.1).2 (.inr (List.mem_flatMap.2 ⟨p, List.mem_filter.2 ⟨hp, hv⟩, hm⟩))
        exact absurd hmem (Bindings.get?_eq_none_iff.1 hget)

/-- Under `/files{/dir}{.ext}{?q,lang}`, the expansion of `dir`, `ext`, `q` and `lang` matches
back to them. -/
theorem matchPath_expand_files :
    ∃ bs, (Template.mk [.literal "/files", .expression .segment [{ name := "dir" }],
        .expression .label [{ name := "ext" }],
        .expression .query [{ name := "q" }, { name := "lang" }]]).matchPath
      ((Template.mk [.literal "/files", .expression .segment [{ name := "dir" }],
        .expression .label [{ name := "ext" }],
        .expression .query [{ name := "q" }, { name := "lang" }]]).expand
        (.map [("dir", .str "docs"), ("ext", .str "txt"), ("q", .str "kiwi"), ("lang", .str "en")])
        false) = some bs ∧
      ∀ n, (bs.get? n).map Capture.toValue = Value.lookup n
        [("dir", .str "docs"), ("ext", .str "txt"), ("q", .str "kiwi"), ("lang", .str "en")] := by
  have ht : parse "/files{/dir}{.ext}{?q,lang}" = .ok (Template.mk [.literal "/files",
      .expression .segment [{ name := "dir" }], .expression .label [{ name := "ext" }],
      .expression .query [{ name := "q" }, { name := "lang" }]]) := by
    apply parse_eq_ok_of_toOption
    decide +kernel
  have hfits : ∀ p ∈ (Template.mk [.literal "/files", .expression .segment [{ name := "dir" }],
      .expression .label [{ name := "ext" }],
      .expression .query [{ name := "q" }, { name := "lang" }]]).parts, ∀ v ∈ p.specs,
      Fits false v (Value.lookup v.name
        [("dir", .str "docs"), ("ext", .str "txt"), ("q", .str "kiwi"), ("lang", .str "en")]) := by
    simp [Fits, PlainText, Value.lookup, VarSpec.explodes, Part.specs]
  have hclear : writesClear false [.literal "/files", .expression .segment [{ name := "dir" }],
      .expression .label [{ name := "ext" }],
      .expression .query [{ name := "q" }, { name := "lang" }]] = true := by
    decide
  exact matchPath_expand ht (by decide) (by decide) hfits (by decide) (by decide) (by decide)
    hclear

/-- Under `/search{?q,lang}{&page}`, whose variable parts are followed by nothing or by an
expression with a first character, the expansion of `q`, `lang` and `page` to letters and
digits does not match back: the lazy body of `{?q,lang}` stops at its own separator `&`, where
`{&page}` can start, and `{&page}` then reads a `lang` it does not declare. -/
theorem matchPath_expand_stops_early :
    parse "/search{?q,lang}{&page}" = .ok (Template.mk [.literal "/search",
        .expression .query [{ name := "q" }, { name := "lang" }],
        .expression .continuation [{ name := "page" }]]) ∧
      (Template.mk [.literal "/search", .expression .query [{ name := "q" }, { name := "lang" }],
        .expression .continuation [{ name := "page" }]]).expand
        (.map [("q", .str "kiwi"), ("lang", .str "en"), ("page", .str "2")]) false =
        "/search?q=kiwi&lang=en&page=2" ∧
      (Template.mk [.literal "/search", .expression .query [{ name := "q" }, { name := "lang" }],
        .expression .continuation [{ name := "page" }]]).matchPath
        "/search?q=kiwi&lang=en&page=2" = none := by
  refine ⟨?_, ?_, ?_⟩
  · apply parse_eq_ok_of_toOption
    decide +kernel
  · decide +kernel
  · -- the lazy search gives `q=kiwi` to the first part and `lang=en&page=2` to the second
    have hc : (Template.mk [.literal "/search",
        .expression .query [{ name := "q" }, { name := "lang" }],
        .expression .continuation [{ name := "page" }]]).candidate "/search?q=kiwi&lang=en&page=2" =
        "/search?q=kiwi&lang=en&page=2".toList := by
      have h := candidate_ofList (Template.mk [.literal "/search",
        .expression .query [{ name := "q" }, { name := "lang" }],
        .expression .continuation [{ name := "page" }]]) "/search?q=kiwi&lang=en&page=2".toList
        (fun _ => by simp [keepsQuery, Part.asksQuery]) (fun h => absurd h (by decide))
      rwa [String.ofList_toList] at h
    have hs : search (pattern (Template.mk [.literal "/search",
        .expression .query [{ name := "q" }, { name := "lang" }],
        .expression .continuation [{ name := "page" }]])) "/search?q=kiwi&lang=en&page=2".toList =
        some [some "q=kiwi".toList, some "lang=en&page=2".toList] := by
      decide
    have hf : (Template.mk [.literal "/search",
        .expression .query [{ name := "q" }, { name := "lang" }],
        .expression .continuation [{ name := "page" }]]).parts.filter Part.isVariable =
        [.expression .query [{ name := "q" }, { name := "lang" }],
          .expression .continuation [{ name := "page" }]] := by
      decide
    have hpage : ∀ bs, (Part.expression .continuation [{ name := "page" }]).bind
        "lang=en&page=2".toList bs = none := by
      intro bs
      have hbody : "lang=en&page=2".toList = ['&'].intercalate
          ([("lang".toList, "en".toList), ("page".toList, "2".toList)].map
            fun e => e.1 ++ '=' :: e.2) := by
        decide
      have hcol := @collects_paramsOf '&' (by decide)
        [("lang".toList, "en".toList), ("page".toList, "2".toList)] (by simp) (by decide)
      rw [← hbody] at hcol
      simp only [Part.bind, Part.operator, Operator.named, Operator.separator, if_true, Part.specs]
      refine bindNamed_undeclared hcol ⟨_, List.mem_cons_self, ?_⟩ (by decide)
      simp [decoded_eq_ofList]
    simp only [matchPath, hc, hs, hf, Option.bind_eq_bind, Option.bind_some, bindAll, hpage,
      Option.bind_none]
    cases (Part.expression .query [{ name := "q" }, { name := "lang" }]).bind "q=kiwi".toList [] <;>
      rfl

end UrlRouting.Template
