import FieldRules.Proofs.Rule.Moves
import FieldRules.Proofs.Rule.Tokens

/-!
# What the reader makes of tokens

Two facts about `RuleReader`. From the tokens of a well-formed rule it builds that rule, up to source texts
(`RuleReader.leads_rule`), where `Leads` follows the reader over tokens of given kinds whatever their offsets are.
And whatever it builds from scanned tokens is well formed, which one step after the other keeps
(`Sound.advance`).
-/

namespace FieldRules

namespace Rule

theorem wellFormed_iff {r : Rule} : r.WellFormed ↔
    IsName r.name ∧ Param.AllWellFormed r.params ∧ (∀ rg ∈ r.range, rg.WellFormed) ∧
      (∀ group ∈ r.values, group ≠ [] ∧ ∀ t ∈ group, IsValueText t) ∧
      ∀ p ∈ r.pattern, IsPatternText p.source := by
  cases r
  exact Iff.rfl

theorem wellFormed_of_plain {r : Rule} (hname : IsName r.name) (hparams : Param.AllWellFormed r.params)
    (hrange : ∀ rg ∈ r.range, rg.WellFormed) (hvalues : r.values = []) (hpattern : r.pattern = none) :
    r.WellFormed :=
  wellFormed_iff.2 ⟨hname, hparams, hrange, by simp [hvalues], by simp [hpattern]⟩

theorem wellFormed_named {name : String} (hname : IsName name) : (named name).WellFormed :=
  wellFormed_of_plain hname trivial (fun _ h => absurd h (Option.not_mem_none _)) rfl rfl

theorem bare_eq_iff {r s : Rule} : r.bare = s.bare ↔
    r.name = s.name ∧ Param.bareAll r.params = Param.bareAll s.params ∧ r.range = s.range ∧
      r.values = s.values ∧ r.pattern = s.pattern ∧ r.presence = s.presence := by
  cases r
  cases s
  simp [bare]

end Rule

namespace RuleReader

variable {source : List Char}

/-- The reader behind tokens, if they can all come next. -/
def advanceAll? (source : List Char) : RuleReader → List Token → Option RuleReader
  | r, [] => some r
  | r, t :: ts => (r.advance? source t).bind fun r => advanceAll? source r ts

theorem advanceAll?_append (r : RuleReader) (ts us : List Token) :
    advanceAll? source r (ts ++ us) = (advanceAll? source r ts).bind fun r => advanceAll? source r us := by
  induction ts generalizing r with
  | nil => rfl
  | cons t ts ih =>
    simp only [List.cons_append, advanceAll?]
    cases r.advance? source t with
    | none => rfl
    | some r => exact ih r

theorem run_eq_ok_iff {r : RuleReader} {ts : List Token} {rule : Rule} :
    run source r ts = .ok rule ↔
      ∃ r', advanceAll? source r ts = some r' ∧ r'.result? source = some rule := by
  induction ts generalizing r with
  | nil =>
    simp only [run, advanceAll?, Option.some.injEq, exists_eq_left']
    cases r.result? source <;> simp
  | cons t ts ih =>
    simp only [run, advanceAll?]
    cases r.advance? source t with
    | none => simp
    | some r => exact ih

/-- Over tokens of these kinds the reader comes to a state with the property. -/
def Leads (source : List Char) (r : RuleReader) (ks : List TokenKind) (P : RuleReader → Prop) : Prop :=
  ∀ ts : List Token, ts.map Token.kind = ks → ∃ r', advanceAll? source r ts = some r' ∧ P r'

variable {r r' : RuleReader} {k : TokenKind} {ks ls : List TokenKind} {P Q : RuleReader → Prop}

theorem leads_nil (h : P r) : Leads source r [] P := by
  intro ts hts
  obtain rfl := List.map_eq_nil_iff.1 hts
  exact ⟨r, rfl, h⟩

theorem leads_cons
    (h : ∀ start stop, ∃ r', r.advance? source ⟨k, start, stop⟩ = some r' ∧ Leads source r' ks P) :
    Leads source r (k :: ks) P := by
  intro ts hts
  obtain ⟨⟨kind, start, stop⟩, ts, rfl, rfl, hks⟩ := List.map_eq_cons_iff.1 hts
  obtain ⟨r', hr', hlead⟩ := h start stop
  obtain ⟨last, hlast, hP⟩ := hlead ts hks
  exact ⟨last, by simp [advanceAll?, hr', hlast], hP⟩

theorem Leads.append (h : Leads source r ks P) (hnext : ∀ r', P r' → Leads source r' ls Q) :
    Leads source r (ks ++ ls) Q := by
  intro ts hts
  obtain ⟨front, back, rfl, hfront, hback⟩ := List.map_eq_append_iff.1 hts
  obtain ⟨r', hr', hP⟩ := h front hfront
  obtain ⟨last, hlast, hQ⟩ := hnext r' hP back hback
  exact ⟨last, by simp [advanceAll?_append, hr', hlast], hQ⟩

/-! ### Reading modifiers -/

/-- The reader is behind a part of a rule inside the given params; the rule is known up to source texts. -/
def InRule (outer : List OpenParams) (rule : Rule) (r : RuleReader) : Prop :=
  ∃ d last, r = ⟨.modifier d, outer, last⟩ ∧ d.rule.bare = rule.bare

variable {outer : List OpenParams} {rule : Rule}

private theorem leads_range (h : InRule outer rule r) (hnone : rule.range = none) (range : Range) :
    Leads source r range.kinds (InRule outer { rule with range := some range }) := by
  obtain ⟨d, last, rfl, hbare⟩ := h
  obtain ⟨hname, hparams, hrange, hvalues, hpattern, hpresence⟩ := Rule.bare_eq_iff.1 hbare
  rw [hnone] at hrange
  have hend : ∀ last, InRule outer { rule with range := some range } ⟨withRange d range, outer, last⟩ := by
    intro last
    exact ⟨_, last, rfl, by simp [Rule.bare_eq_iff, hname, hparams, hvalues, hpattern, hpresence]⟩
  cases range with
  | exact value =>
    refine leads_cons fun start stop => ⟨⟨.rangeMin d start false, outer, stop⟩, ?_, ?_⟩
    · simp [advance?, startsModifier, beginModifier, hrange]
    refine leads_cons fun start' stop => ⟨⟨.rangeComma d start false (some value), outer, stop⟩, rfl, ?_⟩
    exact leads_cons fun start' stop => ⟨_, rfl, leads_nil (hend stop)⟩
  | span min max exclusiveMin exclusiveMax =>
    refine leads_cons fun start stop => ⟨⟨.rangeMin d start exclusiveMin, outer, stop⟩, ?_, ?_⟩
    · cases exclusiveMin <;> simp [advance?, startsModifier, beginModifier, hrange]
    have hmax (last : Nat) : Leads source ⟨.rangeMax d start exclusiveMin min, outer, last⟩
        ((max.map TokenKind.literal).toList ++ [if exclusiveMax then .rightParen else .rightBracket])
        (InRule outer { rule with range := some (.span min max exclusiveMin exclusiveMax) }) := by
      cases max with
      | none =>
        refine leads_cons fun start' stop => ⟨_, ?_, leads_nil (hend stop)⟩
        cases exclusiveMax <;> rfl
      | some max =>
        refine leads_cons fun start' stop =>
          ⟨_, rfl, leads_cons fun start' stop => ⟨_, ?_, leads_nil (hend stop)⟩⟩
        cases exclusiveMax <;> rfl
    cases min with
    | none => exact leads_cons fun start' stop => ⟨_, rfl, hmax stop⟩
    | some min =>
      exact leads_cons fun start' stop => ⟨_, rfl, leads_cons fun start' stop => ⟨_, rfl, hmax stop⟩⟩

/-- Reading the values of a group from the first one on. -/
private theorem leads_values (d : Draft) (opened : Nat) (v : String) (vs done : List String) (last : Nat)
    (hbare : d.rule.bare = rule.bare) :
    Leads source ⟨.value d opened done, outer, last⟩ (commaKinds ((v :: vs).map valueKinds) ++ [.rightBrace])
      (InRule outer { rule with values := rule.values ++ [done.reverse ++ v :: vs] }) := by
  have hbare' (group : List String) : Rule.bare { d.rule with values := d.rule.values ++ [group] } =
      Rule.bare { rule with values := rule.values ++ [group] } := by
    obtain ⟨hname, hparams, hrange, hvalues, hpattern, hpresence⟩ := Rule.bare_eq_iff.1 hbare
    simp [Rule.bare_eq_iff, hname, hparams, hrange, hvalues, hpattern, hpresence]
  induction vs generalizing v done last with
  | nil =>
    by_cases hv : v = ""
    · subst hv
      refine leads_cons fun start stop => ⟨_, rfl, leads_nil ⟨_, stop, rfl, ?_⟩⟩
      simpa using hbare' _
    · have hkinds : commaKinds ([v].map valueKinds) ++ [.rightBrace] = [.literal v, .rightBrace] := by
        simp [commaKinds, valueKinds, hv]
      rw [hkinds]
      refine leads_cons fun start stop => ⟨_, rfl, leads_cons fun start stop => ⟨_, rfl, leads_nil
        ⟨_, stop, rfl, ?_⟩⟩⟩
      simpa using hbare' _
  | cons w vs ih =>
    have htail (last : Nat) := ih w (v :: done) last
    rw [List.reverse_cons, List.append_assoc] at htail
    by_cases hv : v = ""
    · subst hv
      exact leads_cons fun start stop => ⟨_, rfl, htail stop⟩
    · have hkinds : commaKinds ((v :: w :: vs).map valueKinds) ++ [.rightBrace] =
          .literal v :: .comma :: (commaKinds ((w :: vs).map valueKinds) ++ [.rightBrace]) := by
        simp [commaKinds, valueKinds, hv]
      rw [hkinds]
      exact leads_cons fun start stop => ⟨_, rfl, leads_cons fun start stop => ⟨_, rfl, htail stop⟩⟩

private theorem leads_group (h : InRule outer rule r) {group : List String} (hne : group ≠ []) :
    Leads source r (groupKinds group) (InRule outer { rule with values := rule.values ++ [group] }) := by
  obtain ⟨d, last, rfl, hbare⟩ := h
  cases group with
  | nil => exact absurd rfl hne
  | cons v vs =>
    refine leads_cons fun start stop => ⟨⟨.value d start [], outer, stop⟩, rfl, ?_⟩
    exact leads_values d start v vs [] stop hbare

private theorem leads_groups (h : InRule outer rule r) {groups : List (List String)} (hne : ∀ g ∈ groups, g ≠ []) :
    Leads source r (groups.flatMap groupKinds)
      (InRule outer { rule with values := rule.values ++ groups }) := by
  induction groups generalizing rule r with
  | nil =>
    cases rule
    rw [List.append_nil]
    exact leads_nil h
  | cons group groups ih =>
    rw [List.flatMap_cons]
    refine (leads_group h (hne group List.mem_cons_self)).append fun r' h' => ?_
    have htail := ih h' fun g hg => hne g (List.mem_cons_of_mem group hg)
    rwa [List.append_assoc] at htail

private theorem leads_pattern (h : InRule outer rule r) (hnone : rule.pattern = none) (p : Pattern) :
    Leads source r [.pattern p.source] (InRule outer { rule with pattern := some p }) := by
  obtain ⟨d, last, rfl, hbare⟩ := h
  obtain ⟨hname, hparams, hrange, hvalues, hpattern, hpresence⟩ := Rule.bare_eq_iff.1 hbare
  rw [hnone] at hpattern
  refine leads_cons fun start stop =>
    ⟨⟨.modifier { d with rule := { d.rule with pattern := some p } }, outer, stop⟩, ?_,
      leads_nil ⟨_, stop, rfl, ?_⟩⟩
  · simp [advance?, startsModifier, beginModifier, hpattern, Pattern.ofSource?_source]
  · simp [Rule.bare_eq_iff, hname, hparams, hrange, hvalues, hpresence]

private theorem leads_presence (h : InRule outer rule r) (hrequired : rule.presence = .required)
    (presence : Presence) : Leads source r presence.kinds (InRule outer { rule with presence }) := by
  obtain ⟨d, last, rfl, hbare⟩ := h
  obtain ⟨hname, hparams, hrange, hvalues, hpattern, hpresence⟩ := Rule.bare_eq_iff.1 hbare
  rw [hrequired] at hpresence
  have hbare' : Rule.bare { d.rule with presence } = Rule.bare { rule with presence } := by
    simp [Rule.bare_eq_iff, hname, hparams, hrange, hvalues, hpattern]
  cases presence with
  | required =>
    cases rule
    obtain rfl := hrequired
    exact leads_nil ⟨d, last, rfl, hbare⟩
  | optional =>
    refine leads_cons fun start stop =>
      ⟨⟨.modifier { d with rule := { d.rule with presence := .optional } }, outer, stop⟩, ?_,
        leads_nil ⟨_, stop, rfl, hbare'⟩⟩
    simp [advance?, startsModifier, beginModifier, hpresence]
  | default text =>
    refine leads_cons fun start stop => ⟨⟨.default d, outer, stop⟩, ?_, leads_cons fun start stop =>
      ⟨_, rfl, leads_nil ⟨_, stop, rfl, hbare'⟩⟩⟩
    simp [advance?, startsModifier, beginModifier, hpresence]

/-! ### Reading params and rules -/

/-- The reader is behind a param inside the given ones and only waits for what closes it: a comma or the
bracket. The param is known up to source texts. -/
def BehindParam (source : List Char) (p : OpenParams) (outer : List OpenParams) (param : Param)
    (r : RuleReader) : Prop :=
  ∃ param' : Param, param'.bare = param.bare ∧ ∀ t : Token, (t.kind = .comma ∨ t.kind = .rightAngle) →
    r.advance? source t = (afterParam p param' t.kind).map fun state => ⟨state, outer, t.stop⟩

private theorem InRule.congr {rule rule' : Rule} (hbare : rule.bare = rule'.bare) (h : InRule outer rule r) :
    InRule outer rule' r := by
  obtain ⟨d, last, rfl, hd⟩ := h
  exact ⟨d, last, rfl, hd.trans hbare⟩

/-- Reading params, each of which the reader can read. -/
private theorem leads_params {d : Draft} {opened : Nat} (hbare : d.rule.bare = rule.bare) (q : Param)
    (qs done : List Param) (last : Nat) (h : ∀ param ∈ q :: qs, ∀ (p : OpenParams) (last : Nat),
      Leads source ⟨.slot p, outer, last⟩ param.kinds (BehindParam source p outer param)) :
    Leads source ⟨.slot ⟨d, opened, done⟩, outer, last⟩
      (commaKinds ((q :: qs).map Param.kinds) ++ [.rightAngle])
      (InRule outer { rule with params := done.reverse ++ q :: qs }) := by
  have hq (last : Nat) := h q List.mem_cons_self ⟨d, opened, done⟩ last
  induction qs generalizing q done last with
  | nil =>
    refine (hq last).append fun r' ⟨q', hq', hnext⟩ => leads_cons fun start stop =>
      ⟨_, hnext ⟨.rightAngle, start, stop⟩ (.inr rfl), leads_nil ⟨_, stop, rfl, ?_⟩⟩
    obtain ⟨hname, -, hrange, hvalues, hpattern, hpresence⟩ := Rule.bare_eq_iff.1 hbare
    simp [Rule.bare_eq_iff, Param.bareAll_eq_map, hname, hrange, hvalues, hpattern, hpresence, hq']
  | cons q₂ qs ih =>
    have hkinds : commaKinds ((q :: q₂ :: qs).map Param.kinds) ++ [TokenKind.rightAngle] =
        q.kinds ++ .comma :: (commaKinds ((q₂ :: qs).map Param.kinds) ++ [.rightAngle]) := by
      simp [commaKinds]
    rw [hkinds]
    -- Behind the comma the first param is done, and the others follow it.
    refine (hq last).append fun r' ⟨q', hq', hnext⟩ => leads_cons fun start stop =>
      ⟨_, hnext ⟨.comma, start, stop⟩ (.inl rfl), ?_⟩
    have hrest := ih q₂ (q' :: done) stop (fun param hparam => h param (List.mem_cons_of_mem q hparam))
      (h q₂ (by simp) _)
    intro ts hts
    obtain ⟨r, hr, hin⟩ := hrest ts hts
    exact ⟨r, hr, hin.congr (by simp [Rule.bare_eq_iff, Param.bareAll_eq_map, hq'])⟩

mutual

/-- From the name of a well-formed rule on, its tokens lead to the rule, up to source texts. -/
theorem leads_rule : (rule : Rule) → rule.WellFormed → ∀ (start : Nat) (outer : List OpenParams) (last : Nat),
    Leads source ⟨.name start, outer, last⟩ rule.kinds.tail (InRule outer rule)
  | ⟨raw, name, params, range, values, pattern, presence⟩, ⟨hname, hparams, hrange, hvalues, hpattern⟩ => by
    intro start outer last
    refine leads_cons fun start' stop => ⟨⟨.modifier ⟨start, .named name⟩, outer, stop⟩, ?_, ?_⟩
    · simp [advance?, isRuleName_iff.2 hname]
    have hbegin : InRule outer (.named name) ⟨.modifier ⟨start, .named name⟩, outer, stop⟩ :=
      ⟨_, stop, rfl, rfl⟩
    have hparams' : Leads source ⟨.modifier ⟨start, .named name⟩, outer, stop⟩
        (if params.isEmpty then [] else .leftAngle :: commaKinds (Param.kindsAll params) ++ [.rightAngle])
        (InRule outer { Rule.named name with params }) := by
      have hread := leads_param_of_mem params hparams
      cases params with
      | nil => exact leads_nil hbegin
      | cons q qs =>
        rw [Param.kindsAll_eq_map]
        refine leads_cons fun opened stop => ⟨⟨.slot ⟨⟨start, .named name⟩, opened, []⟩, outer, stop⟩, rfl, ?_⟩
        exact leads_params rfl q qs [] stop fun param hparam p => hread param hparam p outer
    have hrange' (r : RuleReader) (h : InRule outer { Rule.named name with params } r) :
        Leads source r ((range.map Range.kinds).getD [])
          (InRule outer { Rule.named name with params, range }) := by
      cases range with
      | none => exact leads_nil h
      | some range => exact leads_range h rfl range
    have hvalues' (r : RuleReader) (h : InRule outer { Rule.named name with params, range } r) :
        Leads source r (values.flatMap groupKinds)
          (InRule outer { Rule.named name with params, range, values }) :=
      leads_groups h fun g hg => (hvalues g hg).1
    have hpattern' (r : RuleReader) (h : InRule outer { Rule.named name with params, range, values } r) :
        Leads source r (pattern.map fun p => TokenKind.pattern p.source).toList
          (InRule outer { Rule.named name with params, range, values, pattern }) := by
      cases pattern with
      | none => exact leads_nil h
      | some p => exact leads_pattern h rfl p
    -- The modifiers stand in the order of the canonical text, so each is still missing when it comes.
    have hall := (((hparams'.append hrange').append hvalues').append hpattern').append
      fun r h => leads_presence h rfl presence
    intro ts hts
    obtain ⟨r, hr, hin⟩ := hall ts hts
    exact ⟨r, hr, hin.congr rfl⟩

private theorem leads_param : (param : Param) → param.WellFormed →
    ∀ (p : OpenParams) (outer : List OpenParams) (last : Nat),
    Leads source ⟨.slot p, outer, last⟩ param.kinds (BehindParam source p outer param)
  | .blank, _ => by
    intro p outer last
    refine leads_nil ⟨.blank, rfl, ?_⟩
    rintro ⟨kind, start, stop⟩ (rfl | rfl) <;> rfl
  | .literal text, _ => by
    intro p outer last
    refine leads_cons fun start stop => ⟨_, rfl, leads_nil ⟨.literal text, rfl, ?_⟩⟩
    rintro ⟨kind, start, stop⟩ (rfl | rfl) <;> rfl
  | .rule rule, h => by
    intro p outer last
    have hread := leads_rule rule h
    have hkinds : rule.kinds = .atSign :: rule.kinds.tail := by cases rule; rfl
    rw [Param.kinds, hkinds]
    refine leads_cons fun start stop => ⟨⟨.name start, p :: outer, stop⟩, rfl, ?_⟩
    intro ts hts
    obtain ⟨r, hr, d, last, rfl, hd⟩ := hread start (p :: outer) stop ts hts
    refine ⟨_, hr, .rule (d.finish source last), ?_, ?_⟩
    · rw [Param.bare, Param.bare, ← hd]
      simp [Draft.finish, Rule.bare_eq_iff]
    · rintro ⟨kind, start, stop⟩ (rfl | rfl) <;> rfl

private theorem leads_param_of_mem : (params : List Param) → Param.AllWellFormed params → ∀ param ∈ params,
    ∀ (p : OpenParams) (outer : List OpenParams) (last : Nat),
    Leads source ⟨.slot p, outer, last⟩ param.kinds (BehindParam source p outer param)
  | [], _ => by simp
  | param :: params, ⟨hparam, hparams⟩ =>
    List.forall_mem_cons.2 ⟨leads_param param hparam, leads_param_of_mem params hparams⟩

end

/-! ### What has been read is well formed -/

/-- Params under construction, of a rule under construction. -/
def OpenParamsSound (p : OpenParams) : Prop :=
  p.draft.rule.WellFormed ∧ ∀ q ∈ p.done, q.WellFormed

/-- What a state holds is well formed. -/
def StateSound : ReaderState → Prop
  | .start | .name _ => True
  | .modifier d | .default d | .rangeMin d _ _ => d.rule.WellFormed
  | .slot p | .slotEnd p => OpenParamsSound p
  | .rangeComma d _ _ min | .rangeMax d _ _ min => d.rule.WellFormed ∧ ∀ t ∈ min, IsLiteral t
  | .rangeEnd d _ _ min max => d.rule.WellFormed ∧ (∀ t ∈ min, IsLiteral t) ∧ ∀ t ∈ max, IsLiteral t
  | .value d _ done => d.rule.WellFormed ∧ ∀ t ∈ done, IsValueText t
  | .valueEnd d _ done => d.rule.WellFormed ∧ done ≠ [] ∧ ∀ t ∈ done, IsValueText t

/-- What the reader holds is well formed, around the current rule too. -/
def Sound (r : RuleReader) : Prop :=
  StateSound r.state ∧ ∀ p ∈ r.outer, OpenParamsSound p

private theorem wellFormed_withRange {d : Draft} {range : Range} (hd : d.rule.WellFormed)
    (h : range.WellFormed) :
    StateSound (withRange d range) := by
  obtain ⟨hname, hparams, -, hvalues, hpattern⟩ := Rule.wellFormed_iff.1 hd
  refine Rule.wellFormed_iff.2 ⟨hname, hparams, ?_, hvalues, hpattern⟩
  rintro _ ⟨⟩
  exact h

private theorem sound_afterParam {p : OpenParams} {param : Param} {kind : TokenKind} {state : ReaderState}
    (hp : OpenParamsSound p) (hparam : param.WellFormed) (h : afterParam p param kind = some state) :
    StateSound state := by
  obtain ⟨hd, hdone⟩ := hp
  have hall : ∀ q ∈ param :: p.done, q.WellFormed := List.forall_mem_cons.2 ⟨hparam, hdone⟩
  rcases afterParam_eq_some_iff.1 h with ⟨-, rfl⟩ | ⟨-, rfl⟩
  · exact ⟨hd, hall⟩
  · obtain ⟨hname, -, hrest⟩ := Rule.wellFormed_iff.1 hd
    refine Rule.wellFormed_iff.2 ⟨hname, ?_, hrest⟩
    exact Param.allWellFormed_iff.2 fun q hq => hall q (List.mem_reverse.1 hq)

private theorem sound_afterMin {d : Draft} {opened : Nat} {exclusiveMin : Bool} {min : Option String}
    {kind : TokenKind} {state : ReaderState} (hd : d.rule.WellFormed) (hmin : ∀ t ∈ min, IsLiteral t)
    (h : afterMin d opened exclusiveMin min kind = some state) : StateSound state := by
  rcases afterMin_eq_some_iff.1 h with ⟨-, rfl⟩ | ⟨-, -, text, rfl, rfl⟩
  · exact ⟨hd, hmin⟩
  · exact wellFormed_withRange hd ⟨hmin, hmin⟩

private theorem sound_afterMax {d : Draft} {exclusiveMin : Bool} {min max : Option String} {kind : TokenKind}
    {state : ReaderState} (hd : d.rule.WellFormed) (hmin : ∀ t ∈ min, IsLiteral t)
    (hmax : ∀ t ∈ max, IsLiteral t) (h : afterMax d exclusiveMin min max kind = some state) :
    StateSound state := by
  obtain ⟨exclusiveMax, -, rfl⟩ := afterMax_eq_some_iff.1 h
  exact wellFormed_withRange hd ⟨hmin, hmax⟩

private theorem sound_afterValue {d : Draft} {opened : Nat} {done : List String} {kind : TokenKind}
    {state : ReaderState} (hd : d.rule.WellFormed) (hne : done ≠ []) (hdone : ∀ t ∈ done, IsValueText t)
    (h : afterValue d opened done kind = some state) : StateSound state := by
  rcases afterValue_eq_some_iff.1 h with ⟨-, rfl⟩ | ⟨-, rfl⟩
  · exact ⟨hd, hdone⟩
  · obtain ⟨hname, hparams, hrange, hvalues, hpattern⟩ := Rule.wellFormed_iff.1 hd
    refine Rule.wellFormed_iff.2 ⟨hname, hparams, hrange, ?_, hpattern⟩
    intro group hgroup
    rcases List.mem_append.1 hgroup with hgroup | hgroup
    · exact hvalues group hgroup
    · obtain rfl := List.mem_singleton.1 hgroup
      exact ⟨by simpa using hne, fun t ht => hdone t (List.mem_reverse.1 ht)⟩

private theorem wellFormed_withPresence {rule : Rule} (h : rule.WellFormed) (presence : Presence) :
    Rule.WellFormed { rule with presence } := by
  have hparts := Rule.wellFormed_iff.1 h
  exact Rule.wellFormed_iff.2 hparts

private theorem sound_begins {d : Draft} {start : Nat} {kind : TokenKind} {state : ReaderState}
    (hd : d.rule.WellFormed) (hkind : Lexer.BodyWellFormed kind) (h : Begins d start kind state) :
    StateSound state := by
  cases h with
  | params | values => exact ⟨hd, by simp⟩
  | range | default => exact hd
  | pattern heq lacks compiles =>
    subst heq
    obtain ⟨hname, hparams, hrange, hvalues, -⟩ := Rule.wellFormed_iff.1 hd
    refine Rule.wellFormed_iff.2 ⟨hname, hparams, hrange, hvalues, ?_⟩
    rintro _ ⟨⟩
    rw [Pattern.source_ofSource? compiles]
    exact hkind
  | optional => exact wellFormed_withPresence hd .optional

private theorem StateSound.takes {t : Token} {state state' : ReaderState} (hstate : StateSound state)
    (ht : Lexer.BodyWellFormed t.kind) (h : StateTakes t state state') : StateSound state' := by
  have hliteral {text : String} (hkind : t.kind = .literal text) : IsLiteral text := by rwa [hkind] at ht
  cases h with
  | sign => exact trivial
  | name hkind valid => exact Rule.wellFormed_named (isRuleName_iff.1 valid)
  | begins h => exact sound_begins hstate ht h
  | paramText hkind => exact ⟨hstate.1, List.forall_mem_cons.2 ⟨hliteral hkind, hstate.2⟩⟩
  | noParam h => exact sound_afterParam hstate (show Param.blank.WellFormed from trivial) h
  | @param d opened param done state h =>
    obtain ⟨hparam, hdone⟩ := List.forall_mem_cons.1 hstate.2
    have hp : OpenParamsSound ⟨d, opened, done⟩ := ⟨hstate.1, hdone⟩
    exact sound_afterParam hp hparam h
  | minText hkind => exact ⟨hstate, by rintro _ ⟨⟩; exact hliteral hkind⟩
  | noMin h => exact sound_afterMin hstate (by simp) h
  | min h => exact sound_afterMin hstate.1 hstate.2 h
  | maxText hkind => exact ⟨hstate.1, hstate.2, by rintro _ ⟨⟩; exact hliteral hkind⟩
  | noMax h => exact sound_afterMax hstate.1 hstate.2 (by simp) h
  | max h => exact sound_afterMax hstate.1 hstate.2.1 hstate.2.2 h
  | valueText hkind =>
    exact ⟨hstate.1, List.cons_ne_nil _ _, List.forall_mem_cons.2 ⟨(hliteral hkind).2, hstate.2⟩⟩
  | noValue h =>
    have hempty : IsValueText "" := ⟨by simp, by simp⟩
    exact sound_afterValue hstate.1 (List.cons_ne_nil _ _) (List.forall_mem_cons.2 ⟨hempty, hstate.2⟩) h
  | value h => exact sound_afterValue hstate.1 hstate.2.1 hstate.2.2 h
  | @default d text => exact wellFormed_withPresence hstate (.default text)

/-- A token with a well-formed body keeps all that the reader holds well formed. -/
theorem Sound.advance {t : Token} (h : r.Sound) (ht : Lexer.BodyWellFormed t.kind)
    (hr : r.advance? source t = some r') : r'.Sound := by
  obtain ⟨hstate, houter⟩ := h
  cases advance?_eq_some_iff.1 hr with
  | within h => exact ⟨hstate.takes ht h, houter⟩
  | nests => exact ⟨trivial, List.forall_mem_cons.2 ⟨hstate, houter⟩⟩
  | @ends d p outer last state h =>
    obtain ⟨hp, houter⟩ := List.forall_mem_cons.1 houter
    have hparts := Rule.wellFormed_iff.1 hstate
    have hrule : (Param.rule (d.finish source last)).WellFormed := Rule.wellFormed_iff.2 hparts
    exact ⟨sound_afterParam hp hrule h, houter⟩

theorem Sound.advanceAll {ts : List Token} (h : r.Sound) (hts : ∀ t ∈ ts, Lexer.BodyWellFormed t.kind)
    (hr : advanceAll? source r ts = some r') : r'.Sound := by
  induction ts generalizing r with
  | nil =>
    obtain rfl := Option.some.inj hr
    exact h
  | cons t ts ih =>
    obtain ⟨ht, hts⟩ := List.forall_mem_cons.1 hts
    obtain ⟨next, hnext, hr⟩ := Option.bind_eq_some_iff.1 hr
    exact ih (h.advance ht hnext) hts hr

end RuleReader

end FieldRules
