import FieldRules.Proofs.Rule.Reading

/-!
# Reading depends on kinds of tokens

Where tokens stand only matters for source texts and for the offsets of faults. A reader without either takes the same
tokens (`RuleReader.advance?_bare`), so the kinds of tokens decide whether a text is a rule, and which one up to
source texts (`Rule.parse_of_reads`).
-/

namespace FieldRules

/-- A token of this kind at no place. -/
def Token.ofKind (kind : TokenKind) : Token :=
  ⟨kind, 0, 0⟩

/-- The token without its place. -/
def Token.bare (t : Token) : Token :=
  .ofKind t.kind

/-- The draft without offsets and source texts. -/
def Draft.bare (d : Draft) : Draft :=
  ⟨0, d.rule.bare⟩

/-- The params without offsets and source texts. -/
def OpenParams.bare (p : OpenParams) : OpenParams :=
  ⟨p.draft.bare, 0, Param.bareAll p.done⟩

/-- The state without offsets and source texts. -/
def ReaderState.bare : ReaderState → ReaderState
  | .start => .start
  | .name _ => .name 0
  | .modifier d => .modifier d.bare
  | .slot p => .slot p.bare
  | .slotEnd p => .slotEnd p.bare
  | .rangeMin d _ exclusiveMin => .rangeMin d.bare 0 exclusiveMin
  | .rangeComma d _ exclusiveMin min => .rangeComma d.bare 0 exclusiveMin min
  | .rangeMax d _ exclusiveMin min => .rangeMax d.bare 0 exclusiveMin min
  | .rangeEnd d _ exclusiveMin min max => .rangeEnd d.bare 0 exclusiveMin min max
  | .value d _ done => .value d.bare 0 done
  | .valueEnd d _ done => .valueEnd d.bare 0 done
  | .default d => .default d.bare

namespace RuleReader

/-- The reader without offsets and source texts. -/
def bare (r : RuleReader) : RuleReader :=
  ⟨r.state.bare, r.outer.map OpenParams.bare, 0⟩

variable {source : List Char} {d : Draft} {p : OpenParams} {param : Param} {kind : TokenKind}

private theorem finish_bare (d : Draft) (stop : Nat) : (d.finish source stop).bare = d.rule.bare := by
  simp [Draft.finish, Rule.bare_eq_iff]

private theorem bare_finish (d : Draft) (stop : Nat) : d.bare.finish [] stop = d.rule.bare := by
  obtain ⟨start, raw, name, params, range, values, pattern, presence⟩ := d
  cases stop <;> rfl

private theorem bareAll_reverse (ps : List Param) : Param.bareAll ps.reverse = (Param.bareAll ps).reverse := by
  rw [Param.bareAll_eq_map, Param.bareAll_eq_map, List.map_reverse]

private theorem isEmpty_params_bare (r : Rule) : r.bare.params.isEmpty = r.params.isEmpty := by
  obtain ⟨raw, name, params, range, values, pattern, presence⟩ := r
  cases params <;> rfl

private theorem modifier_bare {rule : Rule} {start : Nat} :
    (ReaderState.modifier ⟨start, rule⟩).bare = .modifier ⟨0, rule.bare⟩ :=
  rfl

private theorem afterParam_bare :
    afterParam p.bare param.bare kind = (afterParam p param kind).map ReaderState.bare := by
  obtain ⟨⟨start, raw, name, params, range, values, pattern, presence⟩, opened, done⟩ := p
  unfold afterParam
  split
  · rfl
  · simp only [OpenParams.bare, Draft.bare, Rule.bare, Option.map_some, modifier_bare, bareAll_reverse, Param.bareAll]
  · rfl

private theorem withRange_bare (range : Range) : withRange d.bare range = (withRange d range).bare := by
  obtain ⟨start, raw, name, params, range', values, pattern, presence⟩ := d
  rfl

private theorem afterMin_bare (opened : Nat) (exclusiveMin : Bool) (min : Option String) :
    afterMin d.bare 0 exclusiveMin min kind = (afterMin d opened exclusiveMin min kind).map ReaderState.bare := by
  unfold afterMin
  split
  · rfl
  · cases exclusiveMin <;> cases min <;> simp [withRange_bare]
  · rfl

private theorem afterMax_bare (exclusiveMin : Bool) (min max : Option String) :
    afterMax d.bare exclusiveMin min max kind = (afterMax d exclusiveMin min max kind).map ReaderState.bare := by
  unfold afterMax
  split <;> simp [withRange_bare]

private theorem afterValue_bare (opened : Nat) (done : List String) :
    afterValue d.bare 0 done kind = (afterValue d opened done kind).map ReaderState.bare := by
  obtain ⟨start, raw, name, params, range, values, pattern, presence⟩ := d
  unfold afterValue
  split <;> rfl

private theorem beginModifier_bare (start : Nat) :
    beginModifier d.bare 0 kind = (beginModifier d start kind).map ReaderState.bare := by
  have hparams := isEmpty_params_bare d.rule
  obtain ⟨start', raw, name, params, range, values, pattern, presence⟩ := d
  unfold beginModifier
  split
  · simp only [Draft.bare, hparams]
    cases params <;> rfl
  · cases range <;> rfl
  · cases range <;> rfl
  · rfl
  next text => cases pattern <;> cases Pattern.ofSource? text <;> rfl
  · cases presence <;> rfl
  · cases presence <;> rfl
  · rfl

/-- Without offsets and source texts, the reader takes the same tokens and comes to the same states. -/
theorem advance?_bare (r : RuleReader) (t : Token) : r.bare.advance? [] t.bare = (r.advance? source t).map bare := by
  obtain ⟨state, outer, last⟩ := r
  obtain ⟨kind, start, stop⟩ := t
  have hstay (outer : List OpenParams) (state? : Option ReaderState) :
      (state?.map ReaderState.bare).map (fun state => (⟨state, outer.map OpenParams.bare, 0⟩ : RuleReader)) =
        (state?.map fun state => (⟨state, outer, stop⟩ : RuleReader)).map bare := by
    cases state? <;> rfl
  cases state with
  | start =>
    by_cases hkind : kind = .atSign
    · subst hkind
      rfl
    · simp [bare, ReaderState.bare, advance?, Token.bare, Token.ofKind, hkind]
  | name start =>
    cases kind with
    | literal text =>
      cases hname : isRuleName text <;> simp [bare, ReaderState.bare, advance?, Token.bare, Token.ofKind, hname]
      rfl
    | _ => rfl
  | modifier d =>
    simp only [bare, ReaderState.bare, advance?, Token.bare, Token.ofKind]
    by_cases hkind : startsModifier kind = true
    · simp only [hkind, if_true]
      rw [beginModifier_bare start]
      exact hstay outer _
    · simp only [hkind, if_false, Bool.false_eq_true]
      cases outer with
      | nil => rfl
      | cons p outer =>
        have hparam : Param.rule (d.bare.finish [] 0) = (Param.rule (d.finish source last)).bare := by
          rw [bare_finish, Param.bare, finish_bare]
        simp only [List.map_cons, hparam, afterParam_bare]
        exact hstay outer _
  | slot p =>
    cases kind with
    | atSign => rfl
    | literal text => rfl
    | _ =>
      have hblank : Param.blank = Param.blank.bare := rfl
      simp only [bare, ReaderState.bare, advance?, Token.bare, Token.ofKind]
      rw [hblank, afterParam_bare]
      exact hstay outer _
  | slotEnd p =>
    obtain ⟨draft, opened, done⟩ := p
    cases done with
    | nil => rfl
    | cons param done =>
      have hparam := @afterParam_bare ⟨draft, opened, done⟩ param kind
      simp only [bare, ReaderState.bare, advance?, Token.bare, Token.ofKind, OpenParams.bare,
        Param.bareAll] at hparam ⊢
      rw [hparam]
      exact hstay outer _
  | rangeMin d opened exclusiveMin =>
    cases kind with
    | literal text => rfl
    | _ =>
      simp only [bare, ReaderState.bare, advance?, Token.bare, Token.ofKind]
      rw [afterMin_bare opened]
      exact hstay outer _
  | rangeComma d opened exclusiveMin min =>
    simp only [bare, ReaderState.bare, advance?, Token.bare, Token.ofKind]
    rw [afterMin_bare opened]
    exact hstay outer _
  | rangeMax d opened exclusiveMin min =>
    cases kind with
    | literal text => rfl
    | _ =>
      simp only [bare, ReaderState.bare, advance?, Token.bare, Token.ofKind]
      rw [afterMax_bare]
      exact hstay outer _
  | rangeEnd d opened exclusiveMin min max =>
    simp only [bare, ReaderState.bare, advance?, Token.bare, Token.ofKind]
    rw [afterMax_bare]
    exact hstay outer _
  | value d opened done =>
    cases kind with
    | literal text => rfl
    | _ =>
      simp only [bare, ReaderState.bare, advance?, Token.bare, Token.ofKind]
      rw [afterValue_bare opened]
      exact hstay outer _
  | valueEnd d opened done =>
    simp only [bare, ReaderState.bare, advance?, Token.bare, Token.ofKind]
    rw [afterValue_bare opened]
    exact hstay outer _
  | default d =>
    obtain ⟨start', raw, name, params, range, values, pattern, presence⟩ := d
    cases kind <;> rfl

private theorem advanceAll?_bare (r : RuleReader) (ts : List Token) :
    advanceAll? [] r.bare (ts.map Token.bare) = (advanceAll? source r ts).map bare := by
  induction ts generalizing r with
  | nil => rfl
  | cons t ts ih =>
    have hstep : r.bare.advance? [] t.bare = (r.advance? source t).map bare := advance?_bare r t
    simp only [List.map_cons, advanceAll?, hstep]
    cases r.advance? source t with
    | none => rfl
    | some r' => exact ih r'

theorem result?_bare (r : RuleReader) : r.bare.result? [] = (r.result? source).map Rule.bare := by
  obtain ⟨state, outer, last⟩ := r
  cases state with
  | modifier d =>
    cases outer with
    | nil =>
      simp only [bare, ReaderState.bare, List.map_nil, result?, Option.map_some, bare_finish, finish_bare]
    | cons p outer => rfl
  | _ => rfl

end RuleReader

/-- The rule that tokens of these kinds make, without source texts. -/
def Rule.ofKinds (ks : List TokenKind) : Option Rule :=
  (RuleReader.advanceAll? [] {} (ks.map Token.ofKind)).bind (RuleReader.result? [])

private theorem Token.map_bare (ts : List Token) : ts.map bare = (ts.map kind).map ofKind := by
  simp [bare]

@[simp] theorem Token.map_kind_ofKind (ks : List TokenKind) : (ks.map ofKind).map kind = ks := by
  simp [ofKind, Function.comp_def]

private theorem RuleReader.toOption_run (source : List Char) (r : RuleReader) (ts : List Token) :
    (run source r ts).toOption = (advanceAll? source r ts).bind (result? source) := by
  ext rule
  simp only [Option.bind_eq_some_iff, ← run_eq_ok_iff]
  cases run source r ts <;> simp [Except.toOption]

theorem Rule.ofKinds_eq (source : List Char) (ts : List Token) : ofKinds (ts.map Token.kind) =
    ((RuleReader.advanceAll? source {} ts).bind (RuleReader.result? source)).map Rule.bare := by
  have hread : RuleReader.advanceAll? [] {} (ts.map Token.bare) =
      (RuleReader.advanceAll? source {} ts).map RuleReader.bare := RuleReader.advanceAll?_bare {} ts
  rw [ofKinds, ← Token.map_bare, hread]
  cases RuleReader.advanceAll? source {} ts with
  | none => rfl
  | some r => exact r.result?_bare

theorem Rule.toOption_parse_eq_some_iff {text : String} {r : Rule} :
    (parse text).toOption = some r ↔ parse text = .ok r := by
  cases parse text <;> simp [Except.toOption]

/-- Whether a text is a rule, and which one up to source texts, is decided by the kinds of its tokens. -/
theorem Rule.parse_of_reads {text : String} {ks : List TokenKind} (h : Lexer.Reads text.toList ks) :
    (parse text).toOption.map Rule.bare = ofKinds ks := by
  obtain ⟨ts, hts, rfl⟩ := h 0
  have hparse : (parse text).toOption = (RuleReader.run text.toList {} ts).toOption := by
    simp only [parse, Lexer.tokens, hts, bind, Except.bind]
    cases RuleReader.run text.toList {} ts <;> rfl
  rw [hparse, RuleReader.toOption_run, ofKinds_eq text.toList]

end FieldRules
