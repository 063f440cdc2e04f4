import FieldRules.Proofs.Rule.Grammar
import FieldRules.Proofs.Rule.Reading

/-!
# The reader accepts the grammar

Over the tokens of a derivation the reader comes to the rule that the derivation denotes (`Rule.Derives.comes`).
A rule has room for a clause as long as none of its sort came before, which is what the reader looks at
(`Rule.atMostOnce_snoc_iff`). A nested rule ends where a token is no modifier of it, so the reader behind it only
waits for what closes a param (`RuleReader.BehindSlot`).
-/

namespace FieldRules

namespace Rule

/-- Whether a clause says something, as all clauses that tokens can make do. -/
def Clause.IsPresent : Clause → Prop
  | params ps => ps ≠ []
  | marker presence => presence ≠ .required
  | _ => True

/-- Whether a rule has room for a clause. -/
def Lacks (r : Rule) : Clause → Prop
  | .params _ => r.params = []
  | .range _ => r.range = none
  | .values _ => True
  | .pattern _ => r.pattern = none
  | .marker _ => r.presence = .required

variable {raw name : String} {cs : List Clause} {c : Clause}

private theorem AtMostOnce.of_append {ds : List Clause} (h : AtMostOnce (cs ++ ds)) : AtMostOnce cs := by
  rw [AtMostOnce, List.filterMap_append] at h
  exact (List.nodup_append.1 h).1

theorem ofClauses_snoc (raw name : String) (cs : List Clause) (c : Clause) :
    ofClauses raw name (cs ++ [c]) = (ofClauses raw name cs).withClause c := by
  simp [ofClauses]

/-- A clause takes up the room for those of its sort. -/
private theorem lacks_withClause_iff {r : Rule} {d : Clause} (hd : d.IsPresent) :
    (r.withClause d).Lacks c ↔ r.Lacks c ∧ ∀ sort ∈ c.sort?, d.sort? ≠ some sort := by
  cases d <;> cases c <;> simp_all [Lacks, withClause, Clause.IsPresent, Clause.sort?]

private theorem lacks_foldl_iff {r : Rule} (hcs : ∀ d ∈ cs, d.IsPresent) :
    (cs.foldl withClause r).Lacks c ↔ r.Lacks c ∧ ∀ sort ∈ c.sort?, sort ∉ cs.filterMap Clause.sort? := by
  induction cs generalizing r with
  | nil => simp
  | cons d cs ih =>
    obtain ⟨hd, hcs⟩ := List.forall_mem_cons.1 hcs
    rw [List.foldl_cons, ih hcs, lacks_withClause_iff hd, and_assoc]
    cases hsort : d.sort? with
    | none => simp [hsort]
    | some sort => cases c.sort? <;> simp [hsort, eq_comm]

/-- As long as clauses do not repeat, there is room for each where it comes. -/
theorem atMostOnce_snoc_iff (hcs : ∀ d ∈ cs, d.IsPresent) :
    AtMostOnce (cs ++ [c]) ↔ AtMostOnce cs ∧ (ofClauses raw name cs).Lacks c := by
  have hnamed : Lacks { named name with raw } c := by cases c <;> simp [Lacks, named]
  rw [ofClauses, lacks_foldl_iff hcs, and_iff_right hnamed, AtMostOnce, AtMostOnce, List.filterMap_append]
  generalize cs.filterMap Clause.sort? = sorts
  cases hsort : c.sort? with
  | none => simp [hsort]
  | some sort => simp [hsort, List.nodup_append, List.forall_mem_ne']

end Rule

/-- The draft with one more clause. -/
def Draft.withClause (d : Draft) (c : Rule.Clause) : Draft :=
  { d with rule := d.rule.withClause c }

namespace RuleReader

variable {source : List Char} {r r' : RuleReader} {t : Token} {ts us : List Token} {outer : List OpenParams}
  {d : Draft} {last : Nat}

theorem lastStop_cons (start : Nat) (t : Token) (ts : List Token) :
    lastStop start (t :: ts) = lastStop t.stop ts := by
  cases ts <;> simp [lastStop, List.getLast?_cons]

theorem lastStop_append_cons (start : Nat) (ts us : List Token) (t : Token) :
    lastStop start (ts ++ t :: us) = lastStop t.stop us := by
  rw [← lastStop_cons start t us]
  simp [lastStop, List.getLast?_append, List.getLast?_cons]

theorem last_advance (h : r.advance? source t = some r') : r'.last = t.stop := by
  cases advance?_eq_some_iff.1 h <;> rfl

theorem last_advanceAll (h : advanceAll? source r ts = some r') : r'.last = lastStop r.last ts := by
  induction ts generalizing r with
  | nil =>
    obtain rfl := Option.some.inj h
    rfl
  | cons t ts ih =>
    obtain ⟨next, hnext, h⟩ := Option.bind_eq_some_iff.1 h
    rw [ih h, last_advance hnext, lastStop_cons]

/-! ### From derivations to the reader -/

/-- The reader is behind a part of a rule, of which it has this much. -/
def Behind (outer : List OpenParams) (d : Draft) (r : RuleReader) : Prop :=
  ∃ last, r = ⟨.modifier d, outer, last⟩

private theorem leads_rangeDerives {range : Range} {ks : List TokenKind} (h : range.Derives ks)
    (hnone : d.rule.range = none) (last : Nat) :
    Leads source ⟨.modifier d, outer, last⟩ ks (Behind outer (d.withClause (.range range))) := by
  cases h with
  | exact text =>
    refine leads_cons fun start stop => ⟨⟨.rangeMin d start false, outer, stop⟩, ?_, ?_⟩
    · simp [advance?, startsModifier, beginModifier, hnone]
    refine leads_cons fun start' stop => ⟨⟨.rangeComma d start false (some text), outer, stop⟩, rfl, ?_⟩
    exact leads_cons fun start' stop => ⟨_, rfl, leads_nil ⟨stop, rfl⟩⟩
  | @span ks ls min max exclusiveMin exclusiveMax lower upper =>
    refine leads_cons fun start stop => ⟨⟨.rangeMin d start exclusiveMin, outer, stop⟩, ?_, ?_⟩
    · cases exclusiveMin <;> simp [advance?, startsModifier, beginModifier, hnone]
    have hmax (last : Nat) : Leads source ⟨.rangeMax d start exclusiveMin min, outer, last⟩
        (ls ++ [if exclusiveMax then .rightParen else .rightBracket])
        (Behind outer (d.withClause (.range (.span min max exclusiveMin exclusiveMax)))) := by
      cases upper with
      | absent =>
        refine leads_cons fun start' stop => ⟨_, ?_, leads_nil ⟨stop, rfl⟩⟩
        cases exclusiveMax <;> rfl
      | literal text =>
        refine leads_cons fun start' stop => ⟨_, rfl, leads_cons fun start' stop => ⟨_, ?_, leads_nil ⟨stop, rfl⟩⟩⟩
        cases exclusiveMax <;> rfl
    cases lower with
    | absent => exact leads_cons fun start' stop => ⟨_, rfl, hmax stop⟩
    | literal text =>
      exact leads_cons fun start' stop => ⟨_, rfl, leads_cons fun start' stop => ⟨_, rfl, hmax stop⟩⟩

private theorem leads_valuesDerive {group : List String} {ks : List TokenKind} (h : ValuesDerive ks group)
    (opened : Nat) (done : List String) (last : Nat) :
    Leads source ⟨.value d opened done, outer, last⟩ (ks ++ [.rightBrace])
      (Behind outer (d.withClause (.values (done.reverse ++ group)))) := by
  induction h generalizing done last with
  | @last ks value h =>
    have hdone (v : String) : (v :: done).reverse = done.reverse ++ [v] := List.reverse_cons
    cases h with
    | absent => exact leads_cons fun start stop => ⟨_, rfl, leads_nil ⟨stop, by rw [← hdone]; rfl⟩⟩
    | literal text =>
      exact leads_cons fun start stop => ⟨_, rfl, leads_cons fun start stop =>
        ⟨_, rfl, leads_nil ⟨stop, by rw [← hdone]; rfl⟩⟩⟩
  | @more ks ls value rest h _ ih =>
    have hrest (v : String) (last : Nat) := ih (v :: done) last
    simp only [List.reverse_cons, List.append_assoc, List.singleton_append] at hrest
    rw [List.append_assoc, List.cons_append]
    cases h with
    | absent => exact leads_cons fun start stop => ⟨_, rfl, hrest "" stop⟩
    | literal text =>
      exact leads_cons fun start stop => ⟨_, rfl, leads_cons fun start stop => ⟨_, rfl, hrest text stop⟩⟩

private theorem leads_presenceDerives {presence : Presence} {ks : List TokenKind} (h : presence.Derives ks)
    (hrequired : d.rule.presence = .required) (last : Nat) :
    Leads source ⟨.modifier d, outer, last⟩ ks (Behind outer (d.withClause (.marker presence))) := by
  cases h with
  | optional =>
    refine leads_cons fun start stop => ⟨⟨.modifier (d.withClause (.marker .optional)), outer, stop⟩, ?_,
      leads_nil ⟨stop, rfl⟩⟩
    simp [advance?, startsModifier, beginModifier, hrequired, Draft.withClause, Rule.withClause]
  | quoted text | literal text =>
    refine leads_cons fun start stop => ⟨⟨.default d, outer, stop⟩, ?_, leads_cons fun start stop =>
      ⟨_, rfl, leads_nil ⟨stop, rfl⟩⟩⟩
    simp [advance?, startsModifier, beginModifier, hrequired]

/-- The reader is behind a param inside the given ones and only waits for what closes it. -/
def BehindSlot (source : List Char) (p : OpenParams) (outer : List OpenParams) (param : Param)
    (r : RuleReader) : Prop :=
  ∀ t : Token, (t.kind = .comma ∨ t.kind = .rightAngle) →
    r.advance? source t = (afterParam p param t.kind).map fun state => ⟨state, outer, t.stop⟩

/-- Over these tokens the reader comes to a state with the property. -/
def Comes (source : List Char) (r : RuleReader) (ts : List Token) (P : RuleReader → Prop) : Prop :=
  ∃ r', advanceAll? source r ts = some r' ∧ P r'

variable {P Q : RuleReader → Prop}

private theorem comes_nil (h : P r) : Comes source r [] P :=
  ⟨r, rfl, h⟩

private theorem comes_cons (h : r.advance? source t = some r') (hrest : Comes source r' ts P) :
    Comes source r (t :: ts) P := by
  obtain ⟨last, hlast, hP⟩ := hrest
  exact ⟨last, by simp [advanceAll?, h, hlast], hP⟩

private theorem Comes.append (h : Comes source r ts P) (hnext : ∀ r', P r' → Comes source r' us Q) :
    Comes source r (ts ++ us) Q := by
  obtain ⟨r', hr', hP⟩ := h
  obtain ⟨last, hlast, hQ⟩ := hnext r' hP
  exact ⟨last, by simp [advanceAll?_append, hr', hlast], hQ⟩

private theorem Leads.comes {ks : List TokenKind} (h : Leads source r ks P) (hts : ts.map Token.kind = ks) :
    Comes source r ts P :=
  h ts hts

end RuleReader

theorem Draft.finish_ofClauses (source : List Char) (start stop : Nat) (name : String) (cs : List Rule.Clause) :
    Draft.finish source ⟨start, .ofClauses "" name cs⟩ stop =
      .ofClauses (String.ofList (Text.slice start stop source)) name cs := by
  have hraw (raw : String) (r : Rule) : { cs.foldl Rule.withClause r with raw } =
      cs.foldl Rule.withClause { r with raw } := by
    induction cs generalizing r with
    | nil => rfl
    | cons c cs ih =>
      rw [List.foldl_cons, List.foldl_cons, ih]
      cases c <;> rfl
  exact hraw _ _

theorem ClauseDerives.isPresent {source : List Char} {ts : List Token} {c : Rule.Clause}
    (h : ClauseDerives source ts c) : c.IsPresent := by
  cases h with
  | params _ slots _ => cases slots <;> simp [Rule.Clause.IsPresent]
  | @marker ts presence h =>
    generalize ts.map Token.kind = ks at h
    cases h <;> simp [Rule.Clause.IsPresent]
  | range | values | pattern => trivial

section

open RuleReader

variable {source : List Char}

mutual

/-- From the name on, the tokens of a rule lead to the rule. -/
theorem Rule.Derives.comes {ts : List Token} {r : Rule} : r.Derives source ts →
    ∃ sign us, ts = sign :: us ∧ sign.kind = .atSign ∧ ∀ outer last,
      Comes source ⟨.name sign.start, outer, last⟩ us fun r' =>
        ∃ d last, r' = ⟨.modifier d, outer, last⟩ ∧ d.finish source last = r
  | @Rule.Derives.rule _ sign word ts name cs sign_kind word_kind valid clauses once => by
    refine ⟨sign, word :: ts, rfl, sign_kind, fun outer last => ?_⟩
    have hname : RuleReader.advance? source ⟨.name sign.start, outer, last⟩ word =
        some ⟨.modifier ⟨sign.start, .named name⟩, outer, word.stop⟩ := by
      simp [advance?, word_kind, isRuleName_iff.2 valid]
    obtain ⟨r', hr', last', rfl⟩ := ClausesDerive.comes clauses sign.start name [] outer word.stop (by simp) once
    have hlast : last' = lastStop word.stop ts := last_advanceAll hr'
    refine comes_cons hname ⟨_, hr', _, last', rfl, ?_⟩
    rw [Draft.finish_ofClauses, hlast, List.nil_append]

theorem ClausesDerive.comes {ts : List Token} {cs : List Rule.Clause} : ClausesDerive source ts cs →
    ∀ (start : Nat) (name : String) (done : List Rule.Clause) (outer : List OpenParams) (last : Nat),
      (∀ c ∈ done, c.IsPresent) → Rule.AtMostOnce (done ++ cs) →
      Comes source ⟨.modifier ⟨start, .ofClauses "" name done⟩, outer, last⟩ ts
        (Behind outer ⟨start, .ofClauses "" name (done ++ cs)⟩)
  | .nil => by
    intro start name done outer last _ _
    rw [List.append_nil]
    exact comes_nil ⟨last, rfl⟩
  | @ClausesDerive.cons _ ts us c cs first others => by
    intro start name done outer last hdone honce
    rw [← List.singleton_append, ← List.append_assoc] at honce ⊢
    have hlacks : (Rule.ofClauses "" name done).Lacks c :=
      ((Rule.atMostOnce_snoc_iff hdone).1 (Rule.AtMostOnce.of_append honce)).2
    refine (ClauseDerives.comes first ⟨start, .ofClauses "" name done⟩ outer last hlacks).append ?_
    rintro _ ⟨last, rfl⟩
    have hdone' : ∀ d ∈ done ++ [c], d.IsPresent :=
      List.forall_mem_append.2 ⟨hdone, by simpa using first.isPresent⟩
    have hothers := ClausesDerive.comes others start name (done ++ [c]) outer last hdone' honce
    rwa [Rule.ofClauses_snoc] at hothers

theorem ClauseDerives.comes {ts : List Token} {c : Rule.Clause} : ClauseDerives source ts c →
    ∀ (d : Draft) (outer : List OpenParams) (last : Nat), d.rule.Lacks c →
      Comes source ⟨.modifier d, outer, last⟩ ts (Behind outer (d.withClause c))
  | @ClauseDerives.params _ left right ts ps left_kind slots right_kind => by
    intro d outer last hlacks
    have hopen : RuleReader.advance? source ⟨.modifier d, outer, last⟩ left =
        some ⟨.slot ⟨d, left.start, []⟩, outer, left.stop⟩ := by
      have hnil : d.rule.params = [] := hlacks
      simp [advance?, left_kind, startsModifier, beginModifier, hnil]
    exact comes_cons hopen (SlotsDerive.comes slots d left.start [] outer left.stop right right_kind)
  | .range h => by
    intro d outer last hlacks
    exact (leads_rangeDerives h hlacks last).comes rfl
  | @ClauseDerives.values _ left right ts group left_kind h right_kind => by
    intro d outer last _
    have hopen : RuleReader.advance? source ⟨.modifier d, outer, last⟩ left =
        some ⟨.value d left.start [], outer, left.stop⟩ := by
      simp [advance?, left_kind, startsModifier, beginModifier]
    refine comes_cons hopen ((leads_valuesDerive h left.start [] left.stop).comes ?_)
    simp [right_kind]
  | @ClauseDerives.pattern _ t text p kind compiles => by
    intro d outer last hlacks
    have hnone : d.rule.pattern = none := hlacks
    have hread : RuleReader.advance? source ⟨.modifier d, outer, last⟩ t =
        some ⟨.modifier (d.withClause (.pattern p)), outer, t.stop⟩ := by
      simp [advance?, kind, startsModifier, beginModifier, hnone, compiles, Draft.withClause, Rule.withClause]
    exact comes_cons hread (comes_nil ⟨t.stop, rfl⟩)
  | .marker h => by
    intro d outer last hlacks
    exact (leads_presenceDerives h hlacks last).comes rfl

private theorem SlotsDerive.comes {ts : List Token} {ps : List Param} : SlotsDerive source ts ps →
    ∀ (d : Draft) (opened : Nat) (done : List Param) (outer : List OpenParams) (last : Nat) (right : Token),
      right.kind = .rightAngle →
      Comes source ⟨.slot ⟨d, opened, done⟩, outer, last⟩ (ts ++ [right])
        (Behind outer (d.withClause (.params (done.reverse ++ ps))))
  | @SlotsDerive.last _ ts p h => by
    intro d opened done outer last right hright
    refine (SlotDerives.comes h ⟨d, opened, done⟩ outer last).append fun r' hr' => ?_
    have hclose := hr' right (.inr hright)
    rw [hright] at hclose
    refine comes_cons hclose (comes_nil ⟨right.stop, ?_⟩)
    simp [Draft.withClause, Rule.withClause]
  | @SlotsDerive.more _ ts us comma p ps h comma_kind others => by
    intro d opened done outer last right hright
    have hrest := SlotsDerive.comes others d opened (p :: done) outer comma.stop right hright
    rw [List.reverse_cons, List.append_assoc, List.singleton_append] at hrest
    rw [List.append_assoc]
    refine (SlotDerives.comes h ⟨d, opened, done⟩ outer last).append fun r' hr' => ?_
    have hcomma := hr' comma (.inl comma_kind)
    rw [comma_kind] at hcomma
    exact comes_cons hcomma hrest

private theorem SlotDerives.comes {ts : List Token} {p : Param} : SlotDerives source ts p →
    ∀ (q : OpenParams) (outer : List OpenParams) (last : Nat),
      Comes source ⟨.slot q, outer, last⟩ ts (BehindSlot source q outer p)
  | .blank => by
    intro q outer last
    refine comes_nil ?_
    rintro ⟨kind, start, stop⟩ (rfl | rfl) <;> rfl
  | @SlotDerives.literal _ t text kind => by
    intro q outer last
    have hread : RuleReader.advance? source ⟨.slot q, outer, last⟩ t =
        some ⟨.slotEnd { q with done := .literal text :: q.done }, outer, t.stop⟩ := by
      simp [advance?, kind]
    exact comes_cons hread (comes_nil fun _ _ => rfl)
  | .rule h => by
    intro q outer last
    obtain ⟨sign, us, rfl, hsign, hread⟩ := Rule.Derives.comes h
    have hopen : RuleReader.advance? source ⟨.slot q, outer, last⟩ sign =
        some ⟨.name sign.start, q :: outer, sign.stop⟩ := by
      simp [advance?, hsign]
    obtain ⟨_, hr', d, last', rfl, hd⟩ := hread (q :: outer) sign.stop
    refine comes_cons hopen ⟨_, hr', ?_⟩
    rw [← hd]
    rintro ⟨kind, start, stop⟩ (rfl | rfl) <;> rfl

end

end

end FieldRules
