import FieldRules.Proofs.Rule.Acceptance

/-!
# The reader reads the grammar only

Every state of the reader tells how the tokens so far begin a derivation (`RuleReader.Follows`), which one
token after the other keeps (`RuleReader.Follows.advance`): each rule under construction has its name and whole
clauses behind it, each list of params whole params, and at most one clause of the innermost rule has just
begun. So the rule that the reader ends with is derived, and a text is read as a rule exactly if its tokens
derive it (`Rule.parse_eq_ok_iff_derives`).
-/

namespace FieldRules

variable {source : List Char} {ts us : List Token} {d : Draft}

private theorem ClausesDerive.snoc {c : Rule.Clause} {cs : List Rule.Clause} (hlast : ClauseDerives source us c)
    {ts : List Token} (h : ClausesDerive source ts cs) : ClausesDerive source (ts ++ us) (cs ++ [c]) := by
  cases h with
  | nil => simpa using ClausesDerive.cons hlast .nil
  | cons first others =>
    rw [List.append_assoc]
    exact .cons first (others.snoc hlast)

/-- The tokens of one of the clauses stand together. -/
theorem ClausesDerive.clause_of_mem {c : Rule.Clause} {cs : List Rule.Clause} {ts : List Token} :
    ClausesDerive source ts cs → c ∈ cs → ∃ us, us <:+: ts ∧ ClauseDerives source us c
  | .nil, hc => absurd hc List.not_mem_nil
  | @ClausesDerive.cons _ ts us _ _ first others, hc => by
    rcases List.mem_cons.1 hc with rfl | hc
    · exact ⟨ts, (List.prefix_append ts us).isInfix, first⟩
    · obtain ⟨vs, hvs, hclause⟩ := others.clause_of_mem hc
      exact ⟨vs, hvs.trans (List.suffix_append ts us).isInfix, hclause⟩

private theorem ClausesDerive.isPresent {c : Rule.Clause} {cs : List Rule.Clause} {ts : List Token}
    (h : ClausesDerive source ts cs) (hc : c ∈ cs) : c.IsPresent := by
  obtain ⟨_, -, hclause⟩ := h.clause_of_mem hc
  exact hclause.isPresent

/-! ### Rules and params under construction -/

/-- The tokens derive the rule under construction, as far as it goes. -/
inductive Draft.Follows (source : List Char) : Draft → List Token → Prop
  | rule {sign word : Token} {ts : List Token} {name : String} {cs : List Rule.Clause}
      (sign_kind : sign.kind = .atSign) (word_kind : word.kind = .literal name) (valid : IsName name)
      (clauses : ClausesDerive source ts cs) (once : Rule.AtMostOnce cs) :
      Draft.Follows source ⟨sign.start, .ofClauses "" name cs⟩ (sign :: word :: ts)

/-- The rule is derived if it ends here, whatever stands before it. -/
theorem Draft.Follows.derives (h : d.Follows source ts) (before : List Token) :
    (d.finish source (lastStop 0 (before ++ ts))).Derives source ts := by
  cases h with
  | rule sign_kind word_kind valid clauses once =>
    rw [RuleReader.lastStop_append_cons, RuleReader.lastStop_cons, Draft.finish_ofClauses]
    exact .rule sign_kind word_kind valid clauses once

/-- A draft takes a clause that it has room for. -/
private theorem Draft.Follows.withClause {c : Rule.Clause} (h : d.Follows source ts) (hc : ClauseDerives source us c)
    (hlacks : d.rule.Lacks c) : (d.withClause c).Follows source (ts ++ us) := by
  cases h with
  | rule sign_kind word_kind valid clauses once =>
    rw [Draft.withClause, ← Rule.ofClauses_snoc]
    have once' := (Rule.atMostOnce_snoc_iff fun _ => clauses.isPresent).2 ⟨once, hlacks⟩
    exact .rule sign_kind word_kind valid (clauses.snoc hc) once'

/-- Each of the params, of which the last comes first, is derived by tokens and followed by a comma. -/
inductive SlotsBegin (source : List Char) : List Token → List Param → Prop
  | nil : SlotsBegin source [] []
  | snoc {ts us : List Token} {comma : Token} {p : Param} {done : List Param} (h : SlotsBegin source ts done)
      (slot : SlotDerives source us p) (comma_kind : comma.kind = .comma) :
      SlotsBegin source (ts ++ (us ++ [comma])) (p :: done)

theorem SlotsBegin.derive {done ps : List Param} (h : SlotsBegin source ts done)
    (hrest : SlotsDerive source us ps) : SlotsDerive source (ts ++ us) (done.reverse ++ ps) := by
  induction h generalizing us ps with
  | nil => exact hrest
  | snoc _ slot comma_kind ih => simpa using ih (.more slot comma_kind hrest)

/-- The tokens derive a rule under construction, which has no params yet, and begin its params. -/
inductive OpenParams.Follows (source : List Char) : OpenParams → List Token → Prop
  | params {d : Draft} {ts us : List Token} {left : Token} {done : List Param} (draft : d.Follows source ts)
      (lacks : d.rule.params = []) (left_kind : left.kind = .leftAngle) (slots : SlotsBegin source us done) :
      OpenParams.Follows source ⟨d, left.start, done⟩ (ts ++ left :: us)

/-- Behind a comma the next param begins. -/
private theorem OpenParams.Follows.comma {p : OpenParams} {param : Param} {t : Token} (h : p.Follows source ts)
    (hslot : SlotDerives source us param) (ht : t.kind = .comma) :
    OpenParams.Follows source { p with done := param :: p.done } (ts ++ us ++ [t]) := by
  cases h with
  | params draft lacks left_kind slots =>
    simpa using OpenParams.Follows.params draft lacks left_kind (slots.snoc hslot ht)

/-- The closing bracket makes a clause of the params. -/
private theorem OpenParams.Follows.close {p : OpenParams} {param : Param} {t : Token} (h : p.Follows source ts)
    (hslot : SlotDerives source us param) (ht : t.kind = .rightAngle) :
    (p.draft.withClause (.params (param :: p.done).reverse)).Follows source (ts ++ us ++ [t]) := by
  cases h with
  | params draft lacks left_kind slots =>
    have hclause := ClauseDerives.params left_kind (slots.derive (.last hslot)) ht
    simpa using draft.withClause hclause lacks

namespace RuleReader

/-! ### Clauses that have begun -/

/-- Each of the values, of which the last comes first, is derived by tokens and followed by a comma. -/
inductive ValuesBegin : List TokenKind → List String → Prop
  | nil : ValuesBegin [] []
  | snoc {ks ls : List TokenKind} {value : Option String} {done : List String} (h : ValuesBegin ks done)
      (literal : OptionalLiteral ls value) : ValuesBegin (ks ++ (ls ++ [.comma])) (value.getD "" :: done)

private theorem ValuesBegin.derive {ks ls : List TokenKind} {done group : List String} (h : ValuesBegin ks done)
    (hrest : ValuesDerive ls group) : ValuesDerive (ks ++ ls) (done.reverse ++ group) := by
  induction h generalizing ls group with
  | nil => exact hrest
  | snoc _ literal ih => simpa using ih (.more literal hrest)

/-- In this state the tokens have begun one more clause of the draft, but not one of params. -/
inductive ClauseBegins (d : Draft) : ReaderState → List TokenKind → Prop
  | rangeMin {opened : Nat} {exclusiveMin : Bool} (lacks : d.rule.range = none) :
      ClauseBegins d (.rangeMin d opened exclusiveMin) [opening exclusiveMin]
  | rangeComma {opened : Nat} {exclusiveMin : Bool} {text : String} (lacks : d.rule.range = none) :
      ClauseBegins d (.rangeComma d opened exclusiveMin (some text)) [opening exclusiveMin, .literal text]
  | rangeMax {opened : Nat} {exclusiveMin : Bool} {ks : List TokenKind} {min : Option String}
      (lacks : d.rule.range = none) (lower : OptionalLiteral ks min) :
      ClauseBegins d (.rangeMax d opened exclusiveMin min) (opening exclusiveMin :: ks ++ [.comma])
  | rangeEnd {opened : Nat} {exclusiveMin : Bool} {ks : List TokenKind} {min : Option String} {text : String}
      (lacks : d.rule.range = none) (lower : OptionalLiteral ks min) :
      ClauseBegins d (.rangeEnd d opened exclusiveMin min (some text))
        (opening exclusiveMin :: ks ++ [.comma, .literal text])
  | value {opened : Nat} {ks : List TokenKind} {done : List String} (before : ValuesBegin ks done) :
      ClauseBegins d (.value d opened done) (.leftBrace :: ks)
  | valueEnd {opened : Nat} {ks : List TokenKind} {done : List String} {text : String}
      (before : ValuesBegin ks done) :
      ClauseBegins d (.valueEnd d opened (text :: done)) (.leftBrace :: ks ++ [.literal text])
  | default (lacks : d.rule.presence = .required) : ClauseBegins d (.default d) [.equals]

/-- In this state the tokens have begun one more clause of the draft or derived all of it. -/
def ClauseGrows (source : List Char) (d : Draft) (state : ReaderState) (ts : List Token) : Prop :=
  ClauseBegins d state (ts.map Token.kind) ∨
    ∃ c, ClauseDerives source ts c ∧ d.rule.Lacks c ∧ state = .modifier (d.withClause c)

variable {t : Token} {ks : List TokenKind} {state state' : ReaderState} {exclusiveMin : Bool} {min : Option String}
  {opened : Nat}

private theorem grows_withRange {range : Range} (lacks : d.rule.range = none)
    (h : range.Derives (ts.map Token.kind)) : ClauseGrows source d (withRange d range) ts :=
  .inr ⟨.range range, .range h, lacks, rfl⟩

private theorem grows_afterMin (lacks : d.rule.range = none) (lower : OptionalLiteral ks min)
    (hts : ts.map Token.kind = opening exclusiveMin :: ks)
    (h : afterMin d opened exclusiveMin min t.kind = some state) :
    ClauseGrows source d state (ts ++ [t]) := by
  rcases afterMin_eq_some_iff.1 h with ⟨ht, rfl⟩ | ⟨ht, rfl, text, rfl, rfl⟩
  · refine .inl ?_
    rw [List.map_append, hts, List.map_singleton, ht]
    exact .rangeMax lacks lower
  · cases lower
    refine grows_withRange lacks ?_
    rw [List.map_append, hts, List.map_singleton, ht]
    exact .exact text

private theorem grows_afterMax {ls : List TokenKind} {max : Option String} (lacks : d.rule.range = none)
    (lower : OptionalLiteral ks min) (upper : OptionalLiteral ls max)
    (hts : ts.map Token.kind = opening exclusiveMin :: ks ++ .comma :: ls)
    (h : afterMax d exclusiveMin min max t.kind = some state) :
    ClauseGrows source d state (ts ++ [t]) := by
  obtain ⟨exclusiveMax, ht, rfl⟩ := afterMax_eq_some_iff.1 h
  refine grows_withRange lacks ?_
  rw [List.map_append, hts, List.map_singleton, ht]
  exact .span exclusiveMin exclusiveMax lower upper

private theorem grows_afterValue {ls : List TokenKind} {done : List String} {value : Option String}
    (before : ValuesBegin ks done) (literal : OptionalLiteral ls value)
    (hts : ts.map Token.kind = .leftBrace :: (ks ++ ls))
    (h : afterValue d opened (value.getD "" :: done) t.kind = some state) :
    ClauseGrows source d state (ts ++ [t]) := by
  rcases afterValue_eq_some_iff.1 h with ⟨ht, rfl⟩ | ⟨ht, rfl⟩
  · refine .inl ?_
    rw [List.map_append, hts, List.map_singleton, ht, List.cons_append, List.append_assoc]
    exact .value (before.snoc literal)
  · obtain ⟨left, us, rfl, hleft, hus⟩ := List.map_eq_cons_iff.1 hts
    have hvalues := before.derive (.last literal)
    rw [← hus] at hvalues
    exact .inr ⟨.values (value.getD "" :: done).reverse, by simpa using .values hleft hvalues ht, trivial, rfl⟩

/-- One more token continues a clause that has begun, or ends it. -/
private theorem ClauseBegins.takes (h : ClauseBegins d state (ts.map Token.kind))
    (htakes : StateTakes t state state') : ClauseGrows source d state' (ts ++ [t]) := by
  generalize hts : ts.map Token.kind = ks at h
  have hbegun {state : ReaderState} {kind : TokenKind} (hkind : t.kind = kind)
      (h : ClauseBegins d state (ks ++ [kind])) :
      ClauseGrows source d state (ts ++ [t]) := by
    refine .inl ?_
    rwa [List.map_append, hts, List.map_singleton, hkind]
  cases h with
  | rangeMin lacks =>
    cases htakes with
    | minText hkind => exact hbegun hkind (.rangeComma lacks)
    | noMin h => exact grows_afterMin lacks .absent hts h
  | rangeComma lacks =>
    cases htakes with
    | min h => exact grows_afterMin lacks (.literal _) hts h
  | rangeMax lacks lower =>
    cases htakes with
    | maxText hkind =>
      refine hbegun hkind ?_
      simpa using ClauseBegins.rangeEnd lacks lower
    | noMax h => exact grows_afterMax lacks lower .absent hts h
  | rangeEnd lacks lower =>
    cases htakes with
    | max h => exact grows_afterMax lacks lower (.literal _) hts h
  | value before =>
    cases htakes with
    | valueText hkind => exact hbegun hkind (.valueEnd before)
    | noValue h => exact grows_afterValue before .absent (by rw [hts, List.append_nil]) h
  | valueEnd before =>
    cases htakes with
    | value h => exact grows_afterValue before (.literal _) hts h
  | default lacks =>
    cases htakes with
    | @default _ text hkind =>
      have hpresence : (Presence.default text).Derives ((ts ++ [t]).map Token.kind) := by
        rw [List.map_append, hts, List.map_singleton]
        rcases hkind with hkind | hkind
        · exact hkind ▸ .quoted text
        · exact hkind ▸ .literal text
      exact .inr ⟨.marker (.default text), .marker hpresence, lacks, rfl⟩

theorem ClauseBegins.advance {outer : List OpenParams} {last : Nat} {r : RuleReader}
    (h : ClauseBegins d state (ts.map Token.kind)) (hr : advance? source ⟨state, outer, last⟩ t = some r) :
    r.outer = outer ∧ ClauseGrows source d r.state (ts ++ [t]) := by
  cases advance?_eq_some_iff.1 hr with
  | within htakes => exact ⟨rfl, h.takes htakes⟩
  | nests | ends => nomatch h

/-- A token that starts a modifier begins a clause or is one, unless it opens params. -/
private theorem grows_begins (h : Begins d t.start t.kind state) :
    (t.kind = .leftAngle ∧ d.rule.params = [] ∧ state = .slot ⟨d, t.start, []⟩) ∨
      ClauseGrows source d state [t] := by
  have hbegun {state : ReaderState} {kind : TokenKind} (hkind : t.kind = kind) (h : ClauseBegins d state [kind]) :
      ClauseGrows source d state [t] := .inl (by rwa [List.map_singleton, hkind])
  cases h with
  | params hkind lacks => exact .inl ⟨hkind, lacks, rfl⟩
  | range hkind lacks => exact .inr (hbegun hkind (.rangeMin lacks))
  | values hkind => exact .inr (hbegun hkind (.value .nil))
  | pattern hkind lacks compiles => exact .inr (.inr ⟨.pattern _, .pattern hkind compiles, lacks, rfl⟩)
  | optional hkind lacks =>
    refine .inr (.inr ⟨.marker .optional, .marker ?_, lacks, rfl⟩)
    rw [List.map_singleton, hkind]
    exact .optional
  | default hkind lacks => exact .inr (hbegun hkind (.default lacks))

/-! ### The reader as a whole -/

/-- The tokens behind the params around the current rule begin it as the state says. -/
inductive StateFollows (source : List Char) : ReaderState → List Token → Prop
  | start : StateFollows source .start []
  | name {sign : Token} (sign_kind : sign.kind = .atSign) : StateFollows source (.name sign.start) [sign]
  | modifier {d : Draft} {ts : List Token} (draft : d.Follows source ts) : StateFollows source (.modifier d) ts
  | slot {p : OpenParams} {ts : List Token} (params : p.Follows source ts) : StateFollows source (.slot p) ts
  | slotEnd {p : OpenParams} {ts : List Token} {t : Token} {text : String} (params : p.Follows source ts)
      (kind : t.kind = .literal text) :
      StateFollows source (.slotEnd { p with done := .literal text :: p.done }) (ts ++ [t])
  | clause {d : Draft} {state : ReaderState} {ts us : List Token} (draft : d.Follows source ts)
      (begun : ClauseBegins d state (us.map Token.kind)) : StateFollows source state (ts ++ us)

/-- The tokens begin the params around the current rule, the innermost params last. -/
inductive OuterFollows (source : List Char) : List OpenParams → List Token → Prop
  | nil : OuterFollows source [] []
  | cons {p : OpenParams} {outer : List OpenParams} {ts us : List Token} (others : OuterFollows source outer ts)
      (params : p.Follows source us) : OuterFollows source (p :: outer) (ts ++ us)

/-- The tokens begin rules inside rules, as far as the reader has come. -/
structure Follows (source : List Char) (r : RuleReader) (ts : List Token) : Prop where
  last : r.last = lastStop 0 ts
  parts : ∃ us vs, ts = us ++ vs ∧ OuterFollows source r.outer us ∧ StateFollows source r.state vs

private theorem follows_of_grows (draft : d.Follows source ts) (h : ClauseGrows source d state us) :
    StateFollows source state (ts ++ us) := by
  rcases h with begun | ⟨c, hc, hlacks, rfl⟩
  · exact .clause draft begun
  · exact .modifier (draft.withClause hc hlacks)

private theorem follows_afterParam {p : OpenParams} {param : Param} (h : p.Follows source ts)
    (hslot : SlotDerives source us param) (hstate : afterParam p param t.kind = some state) :
    StateFollows source state (ts ++ us ++ [t]) := by
  rcases afterParam_eq_some_iff.1 hstate with ⟨ht, rfl⟩ | ⟨ht, rfl⟩
  · exact .slot (h.comma hslot ht)
  · exact .modifier (h.close hslot ht)

private theorem StateFollows.takes (h : StateFollows source state ts) (htakes : StateTakes t state state') :
    StateFollows source state' (ts ++ [t]) := by
  cases h with
  | start =>
    cases htakes with
    | sign hkind => exact .name hkind
  | name sign_kind =>
    cases htakes with
    | name hkind valid => exact .modifier (.rule sign_kind hkind (isRuleName_iff.1 valid) .nil List.nodup_nil)
  | modifier draft =>
    cases htakes with
    | begins h =>
      rcases grows_begins h with ⟨hkind, hlacks, rfl⟩ | hgrows
      · exact .slot (.params draft hlacks hkind .nil)
      · exact follows_of_grows draft hgrows
  | slot params =>
    cases htakes with
    | paramText hkind => exact .slotEnd params hkind
    | noParam h => simpa using follows_afterParam params .blank h
  | slotEnd params kind =>
    cases htakes with
    | param h => exact follows_afterParam params (.literal kind) h
  | clause draft begun =>
    rw [List.append_assoc]
    exact follows_of_grows draft (begun.takes htakes)

/-- A token that the reader takes continues what the tokens before it begin. -/
theorem Follows.advance {r r' : RuleReader} (h : r.Follows source ts) (hr : r.advance? source t = some r') :
    r'.Follows source (ts ++ [t]) := by
  obtain ⟨hlast, us, vs, rfl, houter, hstate⟩ := h
  refine ⟨by rw [last_advance hr, lastStop_append_cons]; rfl, ?_⟩
  cases advance?_eq_some_iff.1 hr with
  | within htakes => exact ⟨us, vs ++ [t], List.append_assoc us vs [t], houter, hstate.takes htakes⟩
  | nests hkind =>
    cases hstate with
    | slot params => exact ⟨us ++ vs, [t], rfl, .cons houter params, .name hkind⟩
    | clause draft begun => nomatch begun
  | @ends d p outer last state hclose =>
    -- The tokens of the rule derive a param of the rule around it.
    obtain rfl : last = _ := hlast
    cases hstate with
    | clause draft begun => nomatch begun
    | modifier draft =>
      cases houter with
      | @cons _ _ us ws others params =>
        have hrule := SlotDerives.rule (draft.derives (us ++ ws))
        exact ⟨us, ws ++ vs ++ [t], by simp, others, follows_afterParam params hrule hclose⟩

private theorem Follows.advanceAll {r r' : RuleReader} (h : r.Follows source ts)
    (hr : advanceAll? source r us = some r') : r'.Follows source (ts ++ us) := by
  induction us generalizing r ts with
  | nil =>
    obtain rfl := Option.some.inj hr
    rwa [List.append_nil]
  | cons t us ih =>
    obtain ⟨next, hnext, hr⟩ := Option.bind_eq_some_iff.1 hr
    simpa using ih (h.advance hnext) hr

theorem follows_start (source : List Char) : Follows source {} [] :=
  ⟨rfl, [], [], rfl, .nil, .start⟩

/-- The reader succeeds on the tokens that derive a rule, with the rule that they denote. -/
theorem run_eq_ok_iff_derives {rule : Rule} : run source {} ts = .ok rule ↔ rule.Derives source ts := by
  rw [run_eq_ok_iff]
  constructor
  · rintro ⟨⟨state, outer, last⟩, hread, hresult⟩
    obtain ⟨hlast, us, vs, hts, houter, hstate⟩ := (follows_start source).advanceAll hread
    unfold result? at hresult
    split at hresult
    next d hmodifier hnil =>
      obtain rfl := Option.some.inj hresult
      obtain rfl : state = .modifier d := hmodifier
      obtain rfl : outer = [] := hnil
      obtain rfl : last = _ := hlast
      cases houter
      obtain rfl : ts = vs := hts
      cases hstate with
      | modifier draft => exact draft.derives []
      | clause _ begun => cases begun
    next => cases hresult
  · intro h
    obtain ⟨sign, us, rfl, hsign, hread⟩ := h.comes
    obtain ⟨_, hr, d, last, rfl, hd⟩ := hread [] sign.stop
    refine ⟨⟨.modifier d, [], last⟩, ?_, congrArg some hd⟩
    have hstart : advance? source {} sign = some ⟨.name sign.start, [], sign.stop⟩ := if_pos hsign
    rw [advanceAll?, hstart]
    exact hr

end RuleReader

/-- A text is read as a rule exactly if it has tokens of which all but the one for its end derive the rule. -/
theorem Rule.parse_eq_ok_iff_derives (text : String) (r : Rule) : parse text = .ok r ↔
    ∃ ts, tokenize text = .ok (ts ++ [Lexer.endToken text.toList]) ∧ r.Derives text.toList ts := by
  simp only [parse, tokenize, bind, Except.bind, ← RuleReader.run_eq_ok_iff_derives]
  cases Lexer.tokens text.toList with
  | error fault => simp
  | ok ts => cases hrun : RuleReader.run text.toList {} ts <;> simp [hrun]

end FieldRules
