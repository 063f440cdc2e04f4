import FieldRules.Rule.Parser

/-!
# What one token does

The reader takes a token in one of few ways (`RuleReader.Takes`). Most change its state alone
(`RuleReader.StateTakes`); only a rule that begins or ends inside of params changes what stands around it. These are
all the steps of the reader (`RuleReader.advance?_eq_some_iff`), so what every step keeps is shown once for each of
them.
-/

namespace FieldRules

namespace RuleReader

variable {source : List Char} {r r' : RuleReader} {t : Token} {d : Draft} {p : OpenParams} {param : Param}
  {kind : TokenKind} {state state' : ReaderState} {start opened last : Nat} {exclusiveMin : Bool}
  {min max : Option String} {done : List String} {outer : List OpenParams}

/-! ### Parts of a rule -/

theorem afterParam_eq_some_iff : afterParam p param kind = some state ↔
    (kind = .comma ∧ state = .slot { p with done := param :: p.done }) ∨ (kind = .rightAngle ∧
      state = .modifier { p.draft with rule := { p.draft.rule with params := (param :: p.done).reverse } }) := by
  cases kind <;> simp [afterParam, eq_comm]

theorem afterMin_eq_some_iff : afterMin d opened exclusiveMin min kind = some state ↔
    (kind = .comma ∧ state = .rangeMax d opened exclusiveMin min) ∨
      (kind = .rightBracket ∧ exclusiveMin = false ∧ ∃ text, min = some text ∧
        state = withRange d (.exact text)) := by
  cases kind <;> cases min <;> simp [afterMin, eq_comm]

theorem afterMax_eq_some_iff : afterMax d exclusiveMin min max kind = some state ↔
    ∃ exclusiveMax : Bool, kind = (if exclusiveMax then .rightParen else .rightBracket) ∧
      state = withRange d (.span min max exclusiveMin exclusiveMax) := by
  cases kind <;> simp [afterMax, eq_comm]

theorem afterValue_eq_some_iff : afterValue d opened done kind = some state ↔
    (kind = .comma ∧ state = .value d opened done) ∨ (kind = .rightBrace ∧
      state = .modifier { d with rule := { d.rule with values := d.rule.values ++ [done.reverse] } }) := by
  cases kind <;> simp [afterValue, eq_comm]

/-- The bracket that opens a range. -/
def opening (exclusiveMin : Bool) : TokenKind :=
  if exclusiveMin then .leftParen else .leftBracket

/-- A token of this kind begins a modifier of the rule under construction, or is one. -/
inductive Begins (d : Draft) (start : Nat) (kind : TokenKind) : ReaderState → Prop
  | params (hkind : kind = .leftAngle) (lacks : d.rule.params = []) : Begins d start kind (.slot ⟨d, start, []⟩)
  | range {exclusiveMin : Bool} (hkind : kind = opening exclusiveMin) (lacks : d.rule.range = none) :
      Begins d start kind (.rangeMin d start exclusiveMin)
  | values (hkind : kind = .leftBrace) : Begins d start kind (.value d start [])
  | pattern {text : String} {p : Pattern} (hkind : kind = .pattern text) (lacks : d.rule.pattern = none)
      (compiles : Pattern.ofSource? text = some p) :
      Begins d start kind (.modifier { d with rule := { d.rule with pattern := some p } })
  | optional (hkind : kind = .question) (lacks : d.rule.presence = .required) :
      Begins d start kind (.modifier { d with rule := { d.rule with presence := .optional } })
  | default (hkind : kind = .equals) (lacks : d.rule.presence = .required) : Begins d start kind (.default d)

private theorem beginModifier_eq_some_iff : beginModifier d start kind = some state ↔ Begins d start kind state := by
  constructor
  · intro h
    cases kind with
    | leftAngle =>
      obtain ⟨hlacks, h⟩ := Option.ite_none_right_eq_some.1 h
      obtain rfl := Option.some.inj h
      exact .params rfl (List.isEmpty_iff.1 hlacks)
    | leftBracket =>
      obtain ⟨hlacks, h⟩ := Option.ite_none_right_eq_some.1 h
      obtain rfl := Option.some.inj h
      exact .range rfl (Option.isNone_iff_eq_none.1 hlacks)
    | leftParen =>
      obtain ⟨hlacks, h⟩ := Option.ite_none_right_eq_some.1 h
      obtain rfl := Option.some.inj h
      exact .range rfl (Option.isNone_iff_eq_none.1 hlacks)
    | leftBrace =>
      obtain rfl := Option.some.inj h
      exact .values rfl
    | pattern text =>
      obtain ⟨hlacks, h⟩ := Option.ite_none_right_eq_some.1 h
      obtain ⟨p, hp, rfl⟩ := Option.map_eq_some_iff.1 h
      exact .pattern rfl (Option.isNone_iff_eq_none.1 hlacks) hp
    | question =>
      obtain ⟨hlacks, h⟩ := Option.ite_none_right_eq_some.1 h
      obtain rfl := Option.some.inj h
      exact .optional rfl hlacks
    | equals =>
      obtain ⟨hlacks, h⟩ := Option.ite_none_right_eq_some.1 h
      obtain rfl := Option.some.inj h
      exact .default rfl hlacks
    | _ => cases h
  · rintro (⟨rfl, lacks⟩ | ⟨rfl, lacks⟩ | rfl | ⟨rfl, lacks, compiles⟩ | ⟨rfl, lacks⟩ | ⟨rfl, lacks⟩)
    case range exclusiveMin => cases exclusiveMin <;> simp [opening, beginModifier, lacks]
    all_goals simp [beginModifier, *]

private theorem Begins.startsModifier (h : Begins d start kind state) : startsModifier kind = true := by
  obtain ⟨rfl, -⟩ | @⟨exclusiveMin, rfl, -⟩ | rfl | ⟨rfl, -, -⟩ | ⟨rfl, -⟩ | ⟨rfl, -⟩ := h
  case range => cases exclusiveMin <;> rfl
  all_goals rfl

theorem startsModifier_of_afterParam (h : afterParam p param kind = some state) : startsModifier kind = false := by
  rcases afterParam_eq_some_iff.1 h with ⟨rfl, -⟩ | ⟨rfl, -⟩ <;> rfl

/-! ### The reader -/

/-- A token leads from one state to another inside of the same params. -/
inductive StateTakes (t : Token) : ReaderState → ReaderState → Prop
  | sign (hkind : t.kind = .atSign) : StateTakes t .start (.name t.start)
  | name {start : Nat} {text : String} (hkind : t.kind = .literal text) (valid : isRuleName text = true) :
      StateTakes t (.name start) (.modifier ⟨start, .named text⟩)
  | begins {d : Draft} {state : ReaderState} (h : Begins d t.start t.kind state) : StateTakes t (.modifier d) state
  | paramText {p : OpenParams} {text : String} (hkind : t.kind = .literal text) :
      StateTakes t (.slot p) (.slotEnd { p with done := .literal text :: p.done })
  | noParam {p : OpenParams} {state : ReaderState} (h : afterParam p .blank t.kind = some state) :
      StateTakes t (.slot p) state
  | param {d : Draft} {opened : Nat} {param : Param} {done : List Param} {state : ReaderState}
      (h : afterParam ⟨d, opened, done⟩ param t.kind = some state) :
      StateTakes t (.slotEnd ⟨d, opened, param :: done⟩) state
  | minText {d : Draft} {opened : Nat} {exclusiveMin : Bool} {text : String} (hkind : t.kind = .literal text) :
      StateTakes t (.rangeMin d opened exclusiveMin) (.rangeComma d opened exclusiveMin (some text))
  | noMin {d : Draft} {opened : Nat} {exclusiveMin : Bool} {state : ReaderState}
      (h : afterMin d opened exclusiveMin none t.kind = some state) :
      StateTakes t (.rangeMin d opened exclusiveMin) state
  | min {d : Draft} {opened : Nat} {exclusiveMin : Bool} {min : Option String} {state : ReaderState}
      (h : afterMin d opened exclusiveMin min t.kind = some state) :
      StateTakes t (.rangeComma d opened exclusiveMin min) state
  | maxText {d : Draft} {opened : Nat} {exclusiveMin : Bool} {min : Option String} {text : String}
      (hkind : t.kind = .literal text) :
      StateTakes t (.rangeMax d opened exclusiveMin min) (.rangeEnd d opened exclusiveMin min (some text))
  | noMax {d : Draft} {opened : Nat} {exclusiveMin : Bool} {min : Option String} {state : ReaderState}
      (h : afterMax d exclusiveMin min none t.kind = some state) :
      StateTakes t (.rangeMax d opened exclusiveMin min) state
  | max {d : Draft} {opened : Nat} {exclusiveMin : Bool} {min max : Option String} {state : ReaderState}
      (h : afterMax d exclusiveMin min max t.kind = some state) :
      StateTakes t (.rangeEnd d opened exclusiveMin min max) state
  | valueText {d : Draft} {opened : Nat} {done : List String} {text : String} (hkind : t.kind = .literal text) :
      StateTakes t (.value d opened done) (.valueEnd d opened (text :: done))
  | noValue {d : Draft} {opened : Nat} {done : List String} {state : ReaderState}
      (h : afterValue d opened ("" :: done) t.kind = some state) : StateTakes t (.value d opened done) state
  | value {d : Draft} {opened : Nat} {done : List String} {state : ReaderState}
      (h : afterValue d opened done t.kind = some state) : StateTakes t (.valueEnd d opened done) state
  | default {d : Draft} {text : String} (hkind : t.kind = .quoted text ∨ t.kind = .literal text) :
      StateTakes t (.default d) (.modifier { d with rule := d.rule.withDefault text })

/-- A token leads from one reader to another: it changes the state alone, begins a rule in the place of a param, or
ends such a rule. -/
inductive Takes (source : List Char) (t : Token) : RuleReader → RuleReader → Prop
  | within {state state' : ReaderState} {outer : List OpenParams} {last : Nat} (h : StateTakes t state state') :
      Takes source t ⟨state, outer, last⟩ ⟨state', outer, t.stop⟩
  | nests {p : OpenParams} {outer : List OpenParams} {last : Nat} (hkind : t.kind = .atSign) :
      Takes source t ⟨.slot p, outer, last⟩ ⟨.name t.start, p :: outer, t.stop⟩
  | ends {d : Draft} {p : OpenParams} {outer : List OpenParams} {last : Nat} {state : ReaderState}
      (h : afterParam p (.rule (d.finish source last)) t.kind = some state) :
      Takes source t ⟨.modifier d, p :: outer, last⟩ ⟨state, outer, t.stop⟩

private theorem advance?_of_stateTakes (h : StateTakes t state state') :
    advance? source ⟨state, outer, last⟩ t = some ⟨state', outer, t.stop⟩ := by
  cases h with
  | begins h => simp [advance?, h.startsModifier, beginModifier_eq_some_iff.2 h]
  | noParam h =>
    rcases afterParam_eq_some_iff.1 h with ⟨hkind, rfl⟩ | ⟨hkind, rfl⟩ <;> simp [advance?, hkind, afterParam]
  | noMin h =>
    rcases afterMin_eq_some_iff.1 h with ⟨hkind, rfl⟩ | ⟨hkind, -, text, hnone, -⟩
    · simp [advance?, hkind, afterMin]
    · cases hnone
  | noMax h =>
    obtain ⟨exclusiveMax, hkind, rfl⟩ := afterMax_eq_some_iff.1 h
    cases exclusiveMax <;> simp [advance?, hkind, afterMax]
  | noValue h =>
    rcases afterValue_eq_some_iff.1 h with ⟨hkind, rfl⟩ | ⟨hkind, rfl⟩ <;> simp [advance?, hkind, afterValue]
  | param h | min h | max h | value h => simp [advance?, h]
  | default hkind => rcases hkind with hkind | hkind <;> simp [advance?, hkind]
  | name hkind valid => simp [advance?, hkind, valid]
  | sign hkind | paramText hkind | minText hkind | maxText hkind | valueText hkind => simp [advance?, hkind]

private theorem takes_of_advance? (h : r.advance? source t = some r') : Takes source t r r' := by
  obtain ⟨state, outer, last⟩ := r
  obtain ⟨kind, start, stop⟩ := t
  cases state with
  | start =>
    obtain ⟨hkind, h⟩ := Option.ite_none_right_eq_some.1 h
    obtain rfl := Option.some.inj h
    exact .within (.sign hkind)
  | name =>
    cases kind with
    | literal text =>
      obtain ⟨hname, h⟩ := Option.ite_none_right_eq_some.1 h
      obtain rfl := Option.some.inj h
      exact .within (.name rfl hname)
    | _ => cases h
  | modifier d =>
    simp only [advance?] at h
    split at h
    · obtain ⟨state, hstate, rfl⟩ := Option.map_eq_some_iff.1 h
      exact .within (.begins (beginModifier_eq_some_iff.1 hstate))
    · -- A token that begins no modifier ends the rule, which becomes a param of the one around it.
      cases outer with
      | nil => cases h
      | cons p outer =>
        obtain ⟨state, hstate, rfl⟩ := Option.map_eq_some_iff.1 h
        exact .ends hstate
  | slot p =>
    cases kind with
    | atSign =>
      obtain rfl := Option.some.inj h
      exact .nests rfl
    | literal text =>
      obtain rfl := Option.some.inj h
      exact .within (.paramText rfl)
    | _ =>
      simp only [advance?, Option.map_eq_some_iff] at h
      obtain ⟨state, hstate, rfl⟩ := h
      exact .within (.noParam hstate)
  | slotEnd p =>
    obtain ⟨draft, opened, done⟩ := p
    cases done with
    | nil => cases h
    | cons param done =>
      obtain ⟨state, hstate, rfl⟩ := Option.map_eq_some_iff.1 h
      exact .within (.param hstate)
  | rangeMin =>
    cases kind with
    | literal text =>
      obtain rfl := Option.some.inj h
      exact .within (.minText rfl)
    | _ =>
      simp only [advance?, Option.map_eq_some_iff] at h
      obtain ⟨state, hstate, rfl⟩ := h
      exact .within (.noMin hstate)
  | rangeComma =>
    obtain ⟨state, hstate, rfl⟩ := Option.map_eq_some_iff.1 h
    exact .within (.min hstate)
  | rangeMax =>
    cases kind with
    | literal text =>
      obtain rfl := Option.some.inj h
      exact .within (.maxText rfl)
    | _ =>
      simp only [advance?, Option.map_eq_some_iff] at h
      obtain ⟨state, hstate, rfl⟩ := h
      exact .within (.noMax hstate)
  | rangeEnd =>
    obtain ⟨state, hstate, rfl⟩ := Option.map_eq_some_iff.1 h
    exact .within (.max hstate)
  | value =>
    cases kind with
    | literal text =>
      obtain rfl := Option.some.inj h
      exact .within (.valueText rfl)
    | _ =>
      simp only [advance?, Option.map_eq_some_iff] at h
      obtain ⟨state, hstate, rfl⟩ := h
      exact .within (.noValue hstate)
  | valueEnd =>
    obtain ⟨state, hstate, rfl⟩ := Option.map_eq_some_iff.1 h
    exact .within (.value hstate)
  | default =>
    cases kind with
    | quoted text =>
      obtain rfl := Option.some.inj h
      exact .within (.default (.inl rfl))
    | literal text =>
      obtain rfl := Option.some.inj h
      exact .within (.default (.inr rfl))
    | _ => cases h

/-- These are the ways in which the reader takes a token. -/
theorem advance?_eq_some_iff : r.advance? source t = some r' ↔ Takes source t r r' := by
  constructor
  · exact takes_of_advance?
  · rintro (h | hkind | h)
    case within => exact advance?_of_stateTakes h
    case nests => simp [advance?, hkind]
    case ends => simp [advance?, startsModifier_of_afterParam h, h]

end RuleReader

end FieldRules
