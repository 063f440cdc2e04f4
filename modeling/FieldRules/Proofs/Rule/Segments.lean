import FieldRules.Proofs.Rule.Derivation

/-!
# Modifiers end where their brackets close

The tokens of a modifier can be told apart without reading them: they are a single token, an equals sign and a text,
or all that stands from a bracket to the one that closes it (`IsSegment`). In whatever rule such tokens stand, the
reader either stops among them or takes them as one clause of that rule, and leaves the rules around it alone
(`RuleReader.advanceAll_segment`).
-/

namespace FieldRules

namespace TokenKind

/-- The part that a bracket opens. -/
def opens? : TokenKind → Option RulePart
  | leftAngle => some .params
  | leftBracket | leftParen => some .range
  | leftBrace => some .values
  | _ => none

/-- The part that a bracket closes. -/
def closes? : TokenKind → Option RulePart
  | rightAngle => some .params
  | rightBracket | rightParen => some .range
  | rightBrace => some .values
  | _ => none

end TokenKind

/-- How deep in angles a token leads, unless it closes one that was not opened. -/
def anglesBehind? : Nat → TokenKind → Option Nat
  | depth, .leftAngle => some (depth + 1)
  | 0, .rightAngle => none
  | depth + 1, .rightAngle => some depth
  | depth, _ => some depth

/-- The tokens of a modifier. Rules can stand in angles, so these are matched; in other brackets there is nothing to
match, and the first one that can close the part does. -/
inductive IsSegment : List TokenKind → Prop
  | params {ks : List TokenKind} (matched : ks.foldlM anglesBehind? 0 = some 0) :
      IsSegment (.leftAngle :: ks ++ [.rightAngle])
  | bracketed {part : RulePart} {left right : TokenKind} {ks : List TokenKind} (flat : part ≠ .params)
      (opens : left.opens? = some part) (inside : ∀ kind ∈ ks, kind.closes? ≠ some part)
      (closes : right.closes? = some part) : IsSegment (left :: ks ++ [right])
  | pattern (text : String) : IsSegment [.pattern text]
  | marker {ks : List TokenKind} {presence : Presence} (h : presence.Derives ks) : IsSegment ks

/-- The part between brackets that a state is in. -/
def ReaderState.part? : ReaderState → Option RulePart
  | .slot _ | .slotEnd _ => some .params
  | .rangeMin .. | .rangeComma .. | .rangeMax .. | .rangeEnd .. => some .range
  | .value .. | .valueEnd .. => some .values
  | .start | .name _ | .modifier _ | .default _ => none

/-- How many angles a state is inside of, but for those around the current rule. -/
def ReaderState.angles (state : ReaderState) : Nat :=
  if state.part? = some .params then 1 else 0

namespace RuleReader

variable {source : List Char} {r r' inner : RuleReader} {t left right : Token} {ts us : List Token} {d : Draft}
  {outer : List OpenParams} {state state' : ReaderState} {part : RulePart} {last : Nat}

/-- The reader took the tokens as one more clause of the draft inside the given params. -/
def TookClause (source : List Char) (d : Draft) (outer : List OpenParams) (ts : List Token) (r : RuleReader) : Prop :=
  ∃ c last, ClauseDerives source ts c ∧ d.rule.Lacks c ∧ r = ⟨.modifier (d.withClause c), outer, last⟩

/-! ### Ranges and values -/

/-- Whether a token closes a part, and then the reader is behind it, or the reader stays in it. -/
def ClosesOrStays (part : RulePart) (kind : TokenKind) (state : ReaderState) : Prop :=
  (kind.closes? = some part ∧ ∃ d, state = .modifier d) ∨ (kind.closes? ≠ some part ∧ state.part? = some part)

private theorem closesOrStays_afterMin {opened : Nat} {exclusiveMin : Bool} {min : Option String} {kind : TokenKind}
    (h : afterMin d opened exclusiveMin min kind = some state) : ClosesOrStays .range kind state := by
  rcases afterMin_eq_some_iff.1 h with ⟨rfl, rfl⟩ | ⟨rfl, -, text, -, rfl⟩
  · exact .inr ⟨by decide, rfl⟩
  · exact .inl ⟨rfl, _, rfl⟩

private theorem closesOrStays_afterMax {exclusiveMin : Bool} {min max : Option String} {kind : TokenKind}
    (h : afterMax d exclusiveMin min max kind = some state) : ClosesOrStays .range kind state := by
  obtain ⟨exclusiveMax, rfl, rfl⟩ := afterMax_eq_some_iff.1 h
  refine .inl ⟨?_, _, rfl⟩
  cases exclusiveMax <;> rfl

private theorem closesOrStays_afterValue {opened : Nat} {done : List String} {kind : TokenKind}
    (h : afterValue d opened done kind = some state) : ClosesOrStays .values kind state := by
  rcases afterValue_eq_some_iff.1 h with ⟨rfl, rfl⟩ | ⟨rfl, rfl⟩
  · exact .inr ⟨by decide, rfl⟩
  · exact .inl ⟨rfl, _, rfl⟩

private theorem part_takes (hpart : state.part? = some part) (hflat : part ≠ .params)
    (h : StateTakes t state state') : ClosesOrStays part t.kind state' := by
  have hstays {text : String} {state : ReaderState} (hkind : t.kind = .literal text)
      (hpart : state.part? = some part) :
      ClosesOrStays part t.kind state := .inr ⟨by rw [hkind]; nofun, hpart⟩
  cases h with
  | sign | name | begins | default => cases hpart
  | paramText | noParam | param => exact absurd (Option.some.inj hpart).symm hflat
  | minText hkind | maxText hkind | valueText hkind => exact hstays hkind hpart
  | noMin h | min h =>
    obtain rfl := Option.some.inj hpart
    exact closesOrStays_afterMin h
  | noMax h | max h =>
    obtain rfl := Option.some.inj hpart
    exact closesOrStays_afterMax h
  | noValue h | value h =>
    obtain rfl := Option.some.inj hpart
    exact closesOrStays_afterValue h

private theorem part_advance (hpart : state.part? = some part) (hflat : part ≠ .params)
    (hr : advance? source ⟨state, outer, last⟩ t = some r') : ClosesOrStays part t.kind r'.state := by
  cases advance?_eq_some_iff.1 hr with
  | within htakes => exact part_takes hpart hflat htakes
  | nests => exact absurd (Option.some.inj hpart).symm hflat
  | ends => cases hpart

private theorem not_clauseBegins_modifier {d' : Draft} {ks : List TokenKind} : ¬ ClauseBegins d (.modifier d') ks :=
  nofun

/-- Brackets without rules in them are read to the first one that can close them. -/
private theorem advanceAll_bracketed (hflat : part ≠ .params) (hbegun : ClauseBegins d state (ts.map Token.kind))
    (hpart : state.part? = some part) (hinside : ∀ u ∈ us, u.kind.closes? ≠ some part)
    (hcloses : right.kind.closes? = some part)
    (hr : advanceAll? source ⟨state, outer, last⟩ (us ++ [right]) = some r') :
    TookClause source d outer (ts ++ (us ++ [right])) r' := by
  induction us generalizing state ts last with
  | nil =>
    obtain ⟨⟨state', outer', last'⟩, hright, hend⟩ := Option.bind_eq_some_iff.1 hr
    obtain rfl := Option.some.inj hend
    obtain ⟨houter, hgrows⟩ := hbegun.advance hright
    obtain rfl : outer' = outer := houter
    rcases part_advance hpart hflat hright with ⟨-, d', hstate'⟩ | ⟨hopen, -⟩
    · obtain rfl : state' = .modifier d' := hstate'
      rcases hgrows with hbegun' | ⟨c, hc, hlacks, hstate⟩
      · exact absurd hbegun' not_clauseBegins_modifier
      · exact ⟨c, last', hc, hlacks, by rw [← hstate]⟩
    · exact absurd hcloses hopen
  | cons u us ih =>
    obtain ⟨hu, hinside⟩ := List.forall_mem_cons.1 hinside
    obtain ⟨⟨state', outer', last'⟩, hnext, hrest⟩ := Option.bind_eq_some_iff.1 hr
    obtain ⟨houter, hgrows⟩ := hbegun.advance hnext
    obtain rfl : outer' = outer := houter
    rcases part_advance hpart hflat hnext with ⟨hclosed, -⟩ | ⟨-, hpart'⟩
    · exact absurd hclosed hu
    · rcases hgrows with hbegun' | ⟨c, hc, hlacks, hstate⟩
      · simpa using ih hbegun' hpart' hinside hrest
      · rw [hstate] at hpart'
        cases hpart'

/-! ### Params -/

/-- The reader with more params around all that it reads. -/
def onto (base : List OpenParams) (r : RuleReader) : RuleReader :=
  { r with outer := r.outer ++ base }

/-- How many angles the reader is inside of. -/
def angles (r : RuleReader) : Nat :=
  r.outer.length + r.state.angles

/-- The token ends the rule that is not inside of any params that the reader knows of. -/
def EndsRule (r : RuleReader) (t : Token) : Prop :=
  r.outer = [] ∧ (∃ d, r.state = .modifier d) ∧ startsModifier t.kind = false

/-- Params further out play no part until the rule inside of them ends. -/
private theorem advance?_onto (base : List OpenParams) (h : ¬ r.EndsRule t) :
    (r.onto base).advance? source t = (r.advance? source t).map (onto base) := by
  refine Option.ext fun r' => ?_
  rw [advance?_eq_some_iff, Option.map_eq_some_iff]
  simp only [advance?_eq_some_iff]
  obtain ⟨state, outer, last⟩ := r
  constructor
  · intro htakes
    cases outer with
    | nil =>
      cases htakes with
      | within htakes => exact ⟨_, .within htakes, rfl⟩
      | nests hkind => exact ⟨_, .nests hkind, rfl⟩
      | ends hafter => exact absurd ⟨rfl, ⟨_, rfl⟩, startsModifier_of_afterParam hafter⟩ h
    | cons p outer =>
      cases htakes with
      | within htakes => exact ⟨_, .within htakes, rfl⟩
      | nests hkind => exact ⟨_, .nests hkind, rfl⟩
      | ends hafter => exact ⟨_, .ends hafter, rfl⟩
  · rintro ⟨r, htakes, rfl⟩
    cases htakes with
    | within htakes => exact .within htakes
    | nests hkind => exact .nests hkind
    | ends hafter => exact .ends hafter

private theorem angles_afterParam {p : OpenParams} {param : Param} {kind : TokenKind} (depth : Nat)
    (h : afterParam p param kind = some state) : anglesBehind? (depth + 1) kind = some (depth + state.angles) := by
  rcases afterParam_eq_some_iff.1 h with ⟨rfl, rfl⟩ | ⟨rfl, rfl⟩ <;> rfl

private theorem angles_begins {start : Nat} {kind : TokenKind} (depth : Nat) (h : Begins d start kind state) :
    anglesBehind? depth kind = some (depth + state.angles) := by
  cases h with
  | @range exclusiveMin hkind =>
    subst hkind
    cases exclusiveMin <;> cases depth <;> rfl
  | params hkind | values hkind | pattern hkind | optional hkind | default hkind =>
    subst hkind
    cases depth <;> rfl

/-- Inside of the same params, a token leads as deep in angles as it says. -/
private theorem angles_takes (depth : Nat) (h : StateTakes t state state') :
    anglesBehind? (depth + state.angles) t.kind = some (depth + state'.angles) := by
  cases h with
  | begins h => exact angles_begins depth h
  | noParam h | param h => exact angles_afterParam depth h
  | noMin h | min h =>
    rcases afterMin_eq_some_iff.1 h with ⟨hkind, rfl⟩ | ⟨hkind, -, text, -, rfl⟩
    all_goals
      rw [hkind]
      cases depth <;> rfl
  | noMax h | max h =>
    obtain ⟨exclusiveMax, hkind, rfl⟩ := afterMax_eq_some_iff.1 h
    rw [hkind]
    cases exclusiveMax <;> cases depth <;> rfl
  | noValue h | value h =>
    rcases afterValue_eq_some_iff.1 h with ⟨hkind, rfl⟩ | ⟨hkind, rfl⟩
    all_goals
      rw [hkind]
      cases depth <;> rfl
  | paramText hkind =>
    rw [hkind]
    rfl
  | default hkind =>
    rcases hkind with hkind | hkind
    all_goals
      rw [hkind]
      cases depth <;> rfl
  | sign hkind | name hkind | minText hkind | maxText hkind | valueText hkind =>
    rw [hkind]
    cases depth <;> rfl

/-- A token that the reader takes leads as deep in angles as it says. -/
private theorem angles_advance (h : r.advance? source t = some r') :
    anglesBehind? r.angles t.kind = some r'.angles := by
  cases advance?_eq_some_iff.1 h with
  | within htakes => exact angles_takes _ htakes
  | nests hkind =>
    rw [hkind]
    rfl
  | ends hafter => exact angles_afterParam _ hafter

/-- The reader is inside of the params that the draft gets, and took these tokens behind their bracket: it waits for a
param or behind one, or it reads a rule as if that were all. -/
inductive InParams (source : List Char) (d : Draft) (outer : List OpenParams) : RuleReader → List Token → Prop
  | slot {us : List Token} {opened last : Nat} {done : List Param} (slots : SlotsBegin source us done) :
      InParams source d outer ⟨.slot ⟨d, opened, done⟩, outer, last⟩ us
  | slotEnd {us : List Token} {t : Token} {opened last : Nat} {done : List Param} {text : String}
      (slots : SlotsBegin source us done) (kind : t.kind = .literal text) :
      InParams source d outer ⟨.slotEnd ⟨d, opened, .literal text :: done⟩, outer, last⟩ (us ++ [t])
  | rule {us vs : List Token} {opened : Nat} {done : List Param} {inner : RuleReader}
      (slots : SlotsBegin source us done)
      (inside : inner.Follows source vs) :
      InParams source d outer (inner.onto (⟨d, opened, done⟩ :: outer)) (us ++ vs)

/-- A token continues the params, or closes them. -/
def ParamsGrow (source : List Char) (d : Draft) (outer : List OpenParams) (ts : List Token) (t : Token)
    (r : RuleReader) : Prop :=
  InParams source d outer r (ts ++ [t]) ∨
    (t.kind = .rightAngle ∧ ∃ ps last, SlotsDerive source ts ps ∧
      r = ⟨.modifier (d.withClause (.params ps)), outer, last⟩)

private theorem paramsGrow_afterParam {opened : Nat} {done : List Param} {param : Param}
    (slots : SlotsBegin source ts done) (hslot : SlotDerives source us param)
    (h : afterParam ⟨d, opened, done⟩ param t.kind = some state) :
    ParamsGrow source d outer (ts ++ us) t ⟨state, outer, t.stop⟩ := by
  rcases afterParam_eq_some_iff.1 h with ⟨ht, rfl⟩ | ⟨ht, rfl⟩
  · refine .inl ?_
    rw [List.append_assoc]
    exact .slot (slots.snoc hslot ht)
  · refine .inr ⟨ht, _, t.stop, slots.derive (.last hslot), ?_⟩
    simp [Draft.withClause, Rule.withClause]

private theorem InParams.advance (h : InParams source d outer r ts) (hr : r.advance? source t = some r') :
    ParamsGrow source d outer ts t r' := by
  cases h with
  | @slot us opened last done slots =>
    cases advance?_eq_some_iff.1 hr with
    | nests hkind =>
      have hsign : Follows source ⟨.name t.start, [], t.stop⟩ ([] ++ [t]) :=
        (follows_start source).advance (advance?_eq_some_iff.2 (.within (.sign hkind)))
      exact .inl (.rule slots hsign)
    | within htakes =>
      cases htakes with
      | paramText hkind => exact .inl (.slotEnd slots hkind)
      | noParam h => simpa using paramsGrow_afterParam slots .blank h
  | slotEnd slots kind =>
    cases advance?_eq_some_iff.1 hr with
    | within htakes =>
      cases htakes with
      | param h => exact paramsGrow_afterParam slots (.literal kind) h
  | @rule us vs opened done inner slots inside =>
    by_cases hends : inner.EndsRule t
    · -- The rule inside is a param, and the token stands behind that.
      obtain ⟨state, outer', last⟩ := inner
      obtain ⟨hlast, xs, ys, rfl, houter, hstate⟩ := inside
      obtain ⟨hnil, ⟨d', hd'⟩, hstarts⟩ := hends
      obtain rfl : outer' = [] := hnil
      obtain rfl : state = .modifier d' := hd'
      obtain rfl : last = _ := hlast
      cases houter
      have hrule : SlotDerives source ys (.rule (d'.finish source (lastStop 0 ([] ++ ys)))) := by
        cases hstate with
        | modifier draft => exact .rule (draft.derives [])
        | clause _ begun => exact absurd begun not_clauseBegins_modifier
      simp only [advance?, onto, hstarts, Bool.false_eq_true, if_false, List.nil_append, Option.map_eq_some_iff] at hr
      obtain ⟨state, hstate', rfl⟩ := hr
      exact paramsGrow_afterParam slots hrule hstate'
    · rw [advance?_onto _ hends, Option.map_eq_some_iff] at hr
      obtain ⟨next, hnext, rfl⟩ := hr
      refine .inl ?_
      rw [List.append_assoc]
      exact .rule slots (inside.advance hnext)

private theorem InParams.lt_angles (h : InParams source d outer r ts) : outer.length < r.angles := by
  cases h with
  | slot | slotEnd => exact Nat.lt_succ_self _
  | @rule us vs opened done inner slots inside =>
    have hlength : (inner.onto (⟨d, opened, done⟩ :: outer)).outer.length =
        inner.outer.length + (outer.length + 1) := by
      simp [onto]
    rw [angles, hlength]
    omega

private theorem anglesBehind?_add {depth depth' : Nat} {kind : TokenKind} (n : Nat)
    (h : anglesBehind? depth kind = some depth') : anglesBehind? (depth + n) kind = some (depth' + n) := by
  cases kind with
  | leftAngle =>
    obtain rfl := Option.some.inj h
    simp [anglesBehind?, Nat.add_right_comm]
  | rightAngle =>
    cases depth with
    | zero => cases h
    | succ depth =>
      obtain rfl := Option.some.inj h
      simp [anglesBehind?, Nat.add_right_comm]
  | _ =>
    have hdepth : depth' = depth := by cases depth <;> exact (Option.some.inj h).symm
    rw [hdepth]
    cases depth + n <;> rfl

/-- As long as tokens do not close the params, the reader stays in them. -/
private theorem InParams.advanceAll {depth depth' : Nat} (h : InParams source d outer r ts)
    (hdepth : r.angles = depth + (outer.length + 1))
    (hus : (us.map Token.kind).foldlM anglesBehind? depth = some depth') (hr : advanceAll? source r us = some r') :
    InParams source d outer r' (ts ++ us) ∧ r'.angles = depth' + (outer.length + 1) := by
  induction us generalizing r ts depth with
  | nil =>
    obtain rfl := Option.some.inj hr
    obtain rfl := Option.some.inj hus
    exact ⟨by rwa [List.append_nil], hdepth⟩
  | cons u us ih =>
    rw [List.map_cons, List.foldlM_cons] at hus
    obtain ⟨middle, hu, hus⟩ := Option.bind_eq_some_iff.1 hus
    obtain ⟨next, hnext, hrest⟩ := Option.bind_eq_some_iff.1 hr
    have hangles := angles_advance hnext
    rw [hdepth, anglesBehind?_add _ hu] at hangles
    have hmiddle := (Option.some.inj hangles).symm
    rcases h.advance hnext with hgrows | ⟨-, ps, last, -, rfl⟩
    · simpa using ih hgrows hmiddle hus hrest
    · have houter : outer.length = middle + (outer.length + 1) := hmiddle
      omega

/-- Params are read to the angle that closes theirs. -/
private theorem advanceAll_params {opened : Nat} (lacks : d.rule.params = []) (hleft : left.kind = .leftAngle)
    (hright : right.kind = .rightAngle) (hmatch : (us.map Token.kind).foldlM anglesBehind? 0 = some 0)
    (hr : advanceAll? source ⟨.slot ⟨d, opened, []⟩, outer, last⟩ (us ++ [right]) = some r') :
    TookClause source d outer (left :: us ++ [right]) r' := by
  rw [advanceAll?_append, Option.bind_eq_some_iff] at hr
  obtain ⟨r, hr, hlast⟩ := hr
  have hstart : InParams source d outer ⟨.slot ⟨d, opened, []⟩, outer, last⟩ [] := .slot .nil
  have hdepth : angles ⟨.slot ⟨d, opened, []⟩, outer, last⟩ = 0 + (outer.length + 1) := (Nat.zero_add _).symm
  obtain ⟨hin, hangles⟩ := hstart.advanceAll hdepth hmatch hr
  obtain ⟨r'', hr'', hend⟩ := Option.bind_eq_some_iff.1 hlast
  obtain rfl := Option.some.inj hend
  rcases hin.advance hr'' with hgrows | ⟨-, ps, last', hslots, rfl⟩
  · have hbehind := angles_advance hr''
    rw [hangles, hright, Nat.zero_add] at hbehind
    have hlt := hgrows.lt_angles
    have heq : outer.length = r''.angles := Option.some.inj hbehind
    omega
  · exact ⟨.params ps, last', .params hleft hslots hright, lacks, rfl⟩

/-! ### Modifiers -/

private theorem begin_bracketed {start : Nat} {kind : TokenKind} (hopens : kind.opens? = some part)
    (hflat : part ≠ .params) (h : beginModifier d start kind = some state) :
    ClauseBegins d state [kind] ∧ state.part? = some part := by
  cases kind with
  | leftAngle => exact absurd (Option.some.inj hopens).symm hflat
  | leftBracket | leftParen =>
    obtain ⟨hrange, h⟩ := Option.ite_none_right_eq_some.1 h
    obtain rfl := Option.some.inj h
    exact ⟨.rangeMin (Option.isNone_iff_eq_none.1 hrange), hopens⟩
  | leftBrace =>
    obtain rfl := Option.some.inj h
    exact ⟨.value .nil, hopens⟩
  | _ => cases hopens

private theorem startsModifier_of_opens {kind : TokenKind} (h : kind.opens? = some part) :
    startsModifier kind = true := by
  cases kind <;> first | rfl | cases h

private theorem advance?_modifier (hstarts : startsModifier t.kind = true)
    (hr : advance? source ⟨.modifier d, outer, last⟩ t = some r') :
    ∃ state, beginModifier d t.start t.kind = some state ∧ r' = ⟨state, outer, t.stop⟩ := by
  simp only [advance?, hstarts, if_true] at hr
  obtain ⟨state, hstate, rfl⟩ := Option.map_eq_some_iff.1 hr
  exact ⟨state, hstate, rfl⟩

/-- Wherever the tokens of a modifier stand, the reader takes them as one clause or stops among them. -/
theorem advanceAll_segment (hseg : IsSegment (ts.map Token.kind))
    (hr : advanceAll? source ⟨.modifier d, outer, last⟩ ts = some r') : TookClause source d outer ts r' := by
  generalize hks : ts.map Token.kind = ks at hseg
  cases hseg with
  | params matched =>
    obtain ⟨left, us, rfl, hleft, hus⟩ := List.map_eq_cons_iff.1 hks
    obtain ⟨inside, closing, rfl, rfl, hclosing⟩ := List.map_eq_append_iff.1 hus
    obtain ⟨right, rfl, hright⟩ := List.map_eq_singleton_iff.1 hclosing
    obtain ⟨next, hnext, hrest⟩ := Option.bind_eq_some_iff.1 hr
    obtain ⟨state, hstate, rfl⟩ := advance?_modifier (by rw [hleft]; rfl) hnext
    rw [hleft] at hstate
    obtain ⟨hlacks, h⟩ := Option.ite_none_right_eq_some.1 hstate
    obtain rfl := Option.some.inj h
    exact advanceAll_params (List.isEmpty_iff.1 hlacks) hleft hright matched hrest
  | @bracketed part _ _ _ flat opens inside closes =>
    obtain ⟨left, us, rfl, rfl, hus⟩ := List.map_eq_cons_iff.1 hks
    obtain ⟨us, closing, rfl, rfl, hclosing⟩ := List.map_eq_append_iff.1 hus
    obtain ⟨right, rfl, rfl⟩ := List.map_eq_singleton_iff.1 hclosing
    obtain ⟨next, hnext, hrest⟩ := Option.bind_eq_some_iff.1 hr
    obtain ⟨state, hstate, rfl⟩ := advance?_modifier (startsModifier_of_opens opens) hnext
    obtain ⟨hbegun, hpart⟩ := begin_bracketed opens flat hstate
    have hinside : ∀ u ∈ us, u.kind.closes? ≠ some part := fun u hu => inside _ (List.mem_map_of_mem hu)
    exact @advanceAll_bracketed _ _ _ [left] _ _ _ _ _ _ flat hbegun hpart hinside closes hrest
  | pattern text =>
    obtain ⟨t, rfl, ht⟩ := List.map_eq_singleton_iff.1 hks
    obtain ⟨next, hnext, hrest⟩ := Option.bind_eq_some_iff.1 hr
    obtain rfl := Option.some.inj hrest
    obtain ⟨state, hstate, rfl⟩ := advance?_modifier (by rw [ht]; rfl) hnext
    rw [ht] at hstate
    obtain ⟨hlacks, h⟩ := Option.ite_none_right_eq_some.1 hstate
    obtain ⟨p, hp, rfl⟩ := Option.map_eq_some_iff.1 h
    exact ⟨.pattern p, t.stop, .pattern ht hp, Option.isNone_iff_eq_none.1 hlacks, rfl⟩
  | @marker ks presence h =>
    have hclause : ClauseDerives source ts (.marker presence) := .marker (by rwa [hks])
    cases h with
    | optional =>
      obtain ⟨t, rfl, ht⟩ := List.map_eq_singleton_iff.1 hks
      obtain ⟨next, hnext, hrest⟩ := Option.bind_eq_some_iff.1 hr
      obtain rfl := Option.some.inj hrest
      obtain ⟨state, hstate, rfl⟩ := advance?_modifier (by rw [ht]; rfl) hnext
      rw [ht] at hstate
      obtain ⟨hlacks, h⟩ := Option.ite_none_right_eq_some.1 hstate
      obtain rfl := Option.some.inj h
      exact ⟨_, t.stop, hclause, hlacks, rfl⟩
    | quoted text | literal text =>
      obtain ⟨t, us, rfl, ht, hus⟩ := List.map_eq_cons_iff.1 hks
      obtain ⟨u, rfl, hu⟩ := List.map_eq_singleton_iff.1 hus
      obtain ⟨next, hnext, hrest⟩ := Option.bind_eq_some_iff.1 hr
      obtain ⟨state, hstate, rfl⟩ := advance?_modifier (by rw [ht]; rfl) hnext
      rw [ht] at hstate
      obtain ⟨hlacks, h⟩ := Option.ite_none_right_eq_some.1 hstate
      obtain rfl := Option.some.inj h
      simp only [advanceAll?, advance?, hu, Option.bind_some, Option.some.injEq] at hrest
      exact ⟨_, u.stop, hclause, hlacks, hrest.symm⟩

end RuleReader

/-! ### Clauses are modifiers -/

/-- Whether a token neither opens nor closes angles. -/
def TokenKind.IsFlat (kind : TokenKind) : Prop :=
  ∀ n, anglesBehind? n kind = some n

private theorem foldlM_anglesBehind? {ks : List TokenKind} (h : ∀ kind ∈ ks, kind.IsFlat) (n : Nat) :
    ks.foldlM anglesBehind? n = some n := by
  induction ks with
  | nil => rfl
  | cons kind ks ih =>
    obtain ⟨hkind, hks⟩ := List.forall_mem_cons.1 h
    rw [List.foldlM_cons, hkind]
    exact ih hks

/-- A comma or a literal, which is all that can stand in brackets without rules in them. -/
def TokenKind.IsPlain (kind : TokenKind) : Prop :=
  kind = .comma ∨ ∃ text, kind = .literal text

private theorem TokenKind.IsPlain.isFlat {kind : TokenKind} (h : kind.IsPlain) : kind.IsFlat := by
  rcases h with rfl | ⟨text, rfl⟩ <;> intro n <;> cases n <;> rfl

private theorem OptionalLiteral.isPlain {ks : List TokenKind} {value : Option String} (h : OptionalLiteral ks value) :
    ∀ kind ∈ ks, kind.IsPlain := by
  cases h <;> simp [TokenKind.IsPlain]

private theorem ValuesDerive.isPlain {ks : List TokenKind} {group : List String} (h : ValuesDerive ks group) :
    ∀ kind ∈ ks, kind.IsPlain := by
  induction h with
  | last h => exact h.isPlain
  | more h _ ih => exact List.forall_mem_append.2 ⟨h.isPlain, List.forall_mem_cons.2 ⟨.inl rfl, ih⟩⟩

/-- A range is brackets around commas and literals. -/
private theorem Range.Derives.isPlain {ks : List TokenKind} {range : Range} (h : range.Derives ks) :
    ∃ left right ls, ks = left :: ls ++ [right] ∧ left.opens? = some .range ∧ right.closes? = some .range ∧
      left.IsFlat ∧ right.IsFlat ∧ ∀ kind ∈ ls, kind.IsPlain := by
  have hflat {kind : TokenKind} (h : kind.opens? = some .range ∨ kind.closes? = some .range) : kind.IsFlat := by
    intro n
    cases kind <;> first | (cases n <;> rfl) | (rcases h with h | h <;> cases h)
  cases h with
  | exact text =>
    have hplain : ∀ kind ∈ [TokenKind.literal text], kind.IsPlain := by simp [TokenKind.IsPlain]
    exact ⟨.leftBracket, .rightBracket, _, rfl, rfl, rfl, hflat (.inl rfl), hflat (.inr rfl), hplain⟩
  | @span ks ls min max exclusiveMin exclusiveMax lower upper =>
    have hplain : ∀ kind ∈ ks ++ .comma :: ls, kind.IsPlain :=
      List.forall_mem_append.2 ⟨lower.isPlain, List.forall_mem_cons.2 ⟨.inl rfl, upper.isPlain⟩⟩
    have hleft : (if exclusiveMin then TokenKind.leftParen else .leftBracket).opens? = some .range := by
      cases exclusiveMin <;> rfl
    have hright : (if exclusiveMax then TokenKind.rightParen else .rightBracket).closes? = some .range := by
      cases exclusiveMax <;> rfl
    exact ⟨_, _, _, by simp, hleft, hright, hflat (.inl hleft), hflat (.inr hright), hplain⟩

section

variable {source : List Char}

mutual

/-- Rules close the angles that they open. -/
theorem Rule.Derives.angles {ts : List Token} {r : Rule} : r.Derives source ts →
    ∀ n, (ts.map Token.kind).foldlM anglesBehind? n = some n
  | @Rule.Derives.rule _ sign word ts name cs sign_kind word_kind _ clauses _ => by
    intro n
    rw [List.map_cons, List.map_cons, sign_kind, word_kind]
    cases n <;> exact ClausesDerive.angles clauses _

private theorem ClausesDerive.angles {ts : List Token} {cs : List Rule.Clause} : ClausesDerive source ts cs →
    ∀ n, (ts.map Token.kind).foldlM anglesBehind? n = some n
  | .nil => fun _ => rfl
  | .cons first others => by
    intro n
    rw [List.map_append, List.foldlM_append, ClauseDerives.angles first n]
    exact ClausesDerive.angles others n

private theorem ClauseDerives.angles {ts : List Token} {c : Rule.Clause} : ClauseDerives source ts c →
    ∀ n, (ts.map Token.kind).foldlM anglesBehind? n = some n
  | @ClauseDerives.params _ left right ts ps left_kind slots right_kind => by
    intro n
    have hopen : anglesBehind? n left.kind = some (n + 1) := by rw [left_kind]; cases n <;> rfl
    rw [List.cons_append, List.map_cons, List.foldlM_cons, hopen, Option.bind_eq_bind, Option.bind_some,
      List.map_append, List.foldlM_append, SlotsDerive.angles slots (n + 1), List.map_singleton, right_kind]
    rfl
  | .range h => by
    obtain ⟨left, right, ls, hks, -, -, hleft, hright, hls⟩ := h.isPlain
    rw [hks]
    refine foldlM_anglesBehind? (List.forall_mem_append.2 ⟨List.forall_mem_cons.2 ⟨hleft, ?_⟩, ?_⟩)
    · exact fun kind hkind => (hls kind hkind).isFlat
    · exact List.forall_mem_singleton.2 hright
  | @ClauseDerives.values _ left right ts group left_kind h right_kind => by
    have hleft : left.kind.IsFlat := by rw [left_kind]; intro n; cases n <;> rfl
    have hright : right.kind.IsFlat := by rw [right_kind]; intro n; cases n <;> rfl
    refine foldlM_anglesBehind? ?_
    rw [List.map_append]
    refine List.forall_mem_append.2 ⟨List.forall_mem_cons.2 ⟨hleft, ?_⟩, List.forall_mem_singleton.2 hright⟩
    exact fun kind hkind => (h.isPlain kind hkind).isFlat
  | .pattern kind _ => by
    intro n
    rw [List.map_singleton, kind]
    cases n <;> rfl
  | @ClauseDerives.marker _ ts presence h => by
    intro n
    generalize ts.map Token.kind = ks at h
    cases h <;> cases n <;> rfl

private theorem SlotsDerive.angles {ts : List Token} {ps : List Param} : SlotsDerive source ts ps →
    ∀ n, (ts.map Token.kind).foldlM anglesBehind? n = some n
  | .last h => SlotDerives.angles h
  | .more h comma_kind others => by
    intro n
    rw [List.map_append, List.foldlM_append, SlotDerives.angles h n, List.map_cons, comma_kind]
    cases n <;> exact SlotsDerive.angles others _

private theorem SlotDerives.angles {ts : List Token} {p : Param} : SlotDerives source ts p →
    ∀ n, (ts.map Token.kind).foldlM anglesBehind? n = some n
  | .blank => fun _ => rfl
  | .literal kind => by
    intro n
    rw [List.map_singleton, kind]
    cases n <;> rfl
  | .rule h => Rule.Derives.angles h

end

end

end FieldRules
