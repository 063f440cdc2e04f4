import FieldRules.Proofs.Rule.Kinds
import FieldRules.Proofs.Rule.Tiling

/-!
# Where rule texts go wrong

An error points at a token, and the text in front of it is the front of some rule (`Rule.parse_error_viable`). The
reader blames the token that it cannot take or the bracket that it is in, which it took
(`RuleReader.opened_advanceAll`); and wherever the reader comes, some tokens lead from there to the end of a rule
(`RuleReader.leads_completion`).
-/

namespace FieldRules

/-- The offset of the bracket that a state is inside of. -/
def ReaderState.opened? : ReaderState → Option Nat
  | .slot p | .slotEnd p => some p.opened
  | .rangeMin _ opened _ | .rangeComma _ opened _ _ | .rangeMax _ opened _ _ | .rangeEnd _ opened _ _ _ => some opened
  | .value _ opened _ | .valueEnd _ opened _ => some opened
  | .start | .name _ | .modifier _ | .default _ => none

/-- Whether a state that waits for the end of a param has one. -/
def ReaderState.Ready : ReaderState → Prop
  | .slotEnd p => p.done ≠ []
  | _ => True

/-- Tokens that complete the part of a rule that a state is inside of. -/
def ReaderState.completion : ReaderState → List TokenKind
  | .start => [.atSign, .literal "a"]
  | .name _ | .default _ => [.literal "a"]
  | .modifier _ => []
  | .slot _ | .slotEnd _ => [.rightAngle]
  | .rangeMin .. | .rangeComma .. => [.comma, .rightBracket]
  | .rangeMax .. | .rangeEnd .. => [.rightBracket]
  | .value .. | .valueEnd .. => [.rightBrace]

namespace RuleReader

variable {source : List Char} {r r' : RuleReader} {t : Token} {ts : List Token}

/-- The offsets of the brackets that the reader is inside of. -/
def opened (r : RuleReader) : List Nat :=
  r.state.opened?.toList ++ r.outer.map OpenParams.opened

/-- Tokens that complete the rule. -/
def completion (r : RuleReader) : List TokenKind :=
  r.state.completion ++ List.replicate r.outer.length .rightAngle

/-! ### What errors point at -/

private theorem outOfPlace_offset (part : RulePart) (opened : Nat) (t : Token) :
    (outOfPlace part opened t).offset = t.start ∨ (outOfPlace part opened t).offset = opened := by
  unfold outOfPlace
  split
  · exact .inr rfl
  · exact .inl rfl

private theorem minFault_offset (opened : Nat) (min : Option String) (t : Token) :
    (minFault opened min t).offset = t.start ∨ (minFault opened min t).offset = opened := by
  unfold minFault
  split
  · exact .inr rfl
  · exact outOfPlace_offset .range opened t

private theorem maxFault_offset (opened : Nat) (t : Token) :
    (maxFault opened t).offset = t.start ∨ (maxFault opened t).offset = opened := by
  unfold maxFault
  split
  · exact .inl rfl
  · exact outOfPlace_offset .range opened t

/-- The reader blames the token, or a bracket that it is inside of. -/
private theorem fault_offset (r : RuleReader) (t : Token) :
    (r.fault t).offset = t.start ∨ (r.fault t).offset ∈ r.opened := by
  obtain ⟨state, outer, last⟩ := r
  have hinside {fault : Fault} {o : Nat} (ho : state.opened? = some o)
      (h : fault.offset = t.start ∨ fault.offset = o) :
      fault.offset = t.start ∨ fault.offset ∈ opened ⟨state, outer, last⟩ :=
    h.imp id fun h => List.mem_append_left _ (by simp [h, ho])
  cases state with
  | start | default => exact .inl rfl
  | name =>
    simp only [fault]
    split <;> exact .inl rfl
  | modifier d =>
    cases outer with
    | nil =>
      simp only [fault]
      split <;> exact .inl rfl
    | cons p outer =>
      simp only [fault]
      split
      case h_7 =>
        refine (outOfPlace_offset .params p.opened t).imp id fun h => ?_
        simp [h, opened]
      all_goals exact .inl rfl
  | slot p | slotEnd p => exact hinside rfl (outOfPlace_offset .params p.opened t)
  | rangeMin _ o => exact hinside rfl (minFault_offset o none t)
  | rangeComma _ o _ min => exact hinside rfl (minFault_offset o min t)
  | rangeMax _ o | rangeEnd _ o => exact hinside rfl (maxFault_offset o t)
  | value _ o | valueEnd _ o => exact hinside rfl (outOfPlace_offset .values o t)

/-- Whether a state is ready, and inside of no bracket but those at the given offsets. -/
def InsideOf (os : List Nat) (state : ReaderState) : Prop :=
  state.Ready ∧ ∀ o ∈ state.opened?, o ∈ os

private theorem insideOf_modifier (os : List Nat) (d : Draft) : InsideOf os (.modifier d) :=
  ⟨trivial, by simp [ReaderState.opened?]⟩

private theorem insideOf_afterParam {os : List Nat} {p : OpenParams} {param : Param} {kind : TokenKind}
    {state : ReaderState} (hp : p.opened ∈ os) (h : afterParam p param kind = some state) : InsideOf os state := by
  rcases afterParam_eq_some_iff.1 h with ⟨-, rfl⟩ | ⟨-, rfl⟩
  · exact ⟨trivial, by simpa [ReaderState.opened?] using hp⟩
  · exact insideOf_modifier os _

private theorem insideOf_afterMin {os : List Nat} {d : Draft} {opened : Nat} {exclusiveMin : Bool}
    {min : Option String} {kind : TokenKind} {state : ReaderState} (ho : opened ∈ os)
    (h : afterMin d opened exclusiveMin min kind = some state) : InsideOf os state := by
  rcases afterMin_eq_some_iff.1 h with ⟨-, rfl⟩ | ⟨-, -, text, -, rfl⟩
  · exact ⟨trivial, by simpa [ReaderState.opened?] using ho⟩
  · exact insideOf_modifier os _

private theorem insideOf_afterMax {os : List Nat} {d : Draft} {exclusiveMin : Bool} {min max : Option String}
    {kind : TokenKind} {state : ReaderState} (h : afterMax d exclusiveMin min max kind = some state) :
    InsideOf os state := by
  obtain ⟨exclusiveMax, -, rfl⟩ := afterMax_eq_some_iff.1 h
  exact insideOf_modifier os _

private theorem insideOf_afterValue {os : List Nat} {d : Draft} {opened : Nat} {done : List String} {kind : TokenKind}
    {state : ReaderState} (ho : opened ∈ os) (h : afterValue d opened done kind = some state) :
    InsideOf os state := by
  rcases afterValue_eq_some_iff.1 h with ⟨-, rfl⟩ | ⟨-, rfl⟩
  · exact ⟨trivial, by simpa [ReaderState.opened?] using ho⟩
  · exact insideOf_modifier os _

private theorem insideOf_begins {os : List Nat} {d : Draft} {start : Nat} {kind : TokenKind} {state : ReaderState}
    (hstart : start ∈ os) (h : Begins d start kind state) : InsideOf os state := by
  cases h with
  | params | range | values => exact ⟨trivial, by simp [ReaderState.opened?, hstart]⟩
  | pattern | optional => exact insideOf_modifier os _
  | default => exact ⟨trivial, by simp [ReaderState.opened?]⟩

private theorem insideOf_takes {os : List Nat} {state state' : ReaderState} (hstart : t.start ∈ os)
    (ho : ∀ o ∈ state.opened?, o ∈ os) (h : StateTakes t state state') : InsideOf os state' := by
  cases h with
  | sign => exact ⟨trivial, by simp [ReaderState.opened?]⟩
  | name | default => exact insideOf_modifier os _
  | begins h => exact insideOf_begins hstart h
  | paramText => exact ⟨List.cons_ne_nil _ _, ho⟩
  | minText | maxText | valueText => exact ⟨trivial, ho⟩
  | noParam h => exact insideOf_afterParam (ho _ rfl) h
  | @param d opened param done state h => exact @insideOf_afterParam os ⟨d, opened, done⟩ _ _ _ (ho opened rfl) h
  | noMin h | min h => exact insideOf_afterMin (ho _ rfl) h
  | noMax h | max h => exact insideOf_afterMax h
  | noValue h | value h => exact insideOf_afterValue (ho _ rfl) h

/-- A token takes the reader into no bracket but itself. -/
private theorem insideOf_advance (h : r.advance? source t = some r') :
    InsideOf (t.start :: r.opened) r'.state ∧ ∀ p ∈ r'.outer, p.opened ∈ r.opened := by
  have hstate : ∀ o ∈ r.state.opened?, o ∈ r.opened := fun o ho => List.mem_append_left _ (Option.mem_toList.2 ho)
  have houter : ∀ p ∈ r.outer, p.opened ∈ r.opened := fun p hp => List.mem_append_right _ (List.mem_map_of_mem hp)
  cases advance?_eq_some_iff.1 h with
  | within htakes =>
    exact ⟨insideOf_takes List.mem_cons_self (fun o ho => List.mem_cons_of_mem _ (hstate o ho)) htakes, houter⟩
  | nests => exact ⟨⟨trivial, by simp [ReaderState.opened?]⟩, List.forall_mem_cons.2 ⟨hstate _ rfl, houter⟩⟩
  | ends hafter =>
    obtain ⟨hp, houter⟩ := List.forall_mem_cons.1 houter
    exact ⟨insideOf_afterParam (List.mem_cons_of_mem _ hp) hafter, houter⟩

/-- The brackets that the reader is inside of are tokens that it took, or it was inside of them before. -/
theorem opened_advanceAll (hready : r.state.Ready) (h : advanceAll? source r ts = some r') :
    r'.state.Ready ∧ ∀ o ∈ r'.opened, o ∈ r.opened ∨ ∃ before t after, ts = before ++ t :: after ∧ t.start = o := by
  induction ts generalizing r with
  | nil =>
    obtain rfl := Option.some.inj h
    exact ⟨hready, fun o ho => .inl ho⟩
  | cons t ts ih =>
    obtain ⟨next, hnext, h⟩ := Option.bind_eq_some_iff.1 h
    obtain ⟨⟨hready, hstate⟩, houter⟩ := insideOf_advance hnext
    obtain ⟨hready', hopened⟩ := ih hready h
    refine ⟨hready', fun o ho => ?_⟩
    rcases hopened o ho with ho | ⟨before, u, after, rfl, hstart⟩
    · rcases List.mem_append.1 ho with ho | ho
      · rcases List.mem_cons.1 (hstate o (Option.mem_toList.1 ho)) with rfl | ho
        · exact .inr ⟨[], t, ts, rfl, rfl⟩
        · exact .inl ho
      · obtain ⟨p, hp, rfl⟩ := List.mem_map.1 ho
        exact .inl (houter p hp)
    · exact .inr ⟨t :: before, u, after, rfl, hstart⟩

/-- A run that fails does so at a token, the end of the text among them, and the tokens in front of it are taken. -/
private theorem run_eq_error {f : Fault} (h : run source r ts = .error f) :
    ∃ before t after r', ts ++ [Lexer.endToken source] = before ++ t :: after ∧
      advanceAll? source r before = some r' ∧ f = r'.fault t := by
  induction ts generalizing r with
  | nil =>
    simp only [run] at h
    split at h
    · cases h
    · exact ⟨[], Lexer.endToken source, [], r, rfl, rfl, (Except.error.inj h).symm⟩
  | cons t ts ih =>
    simp only [run] at h
    split at h
    next next hnext =>
      obtain ⟨before, u, after, r', hts, hr', hf⟩ := ih h
      refine ⟨t :: before, u, after, r', by rw [List.cons_append, hts, List.cons_append], ?_, hf⟩
      simpa [advanceAll?, hnext] using hr'
    · exact ⟨[], t, ts ++ [Lexer.endToken source], r, rfl, rfl, (Except.error.inj h).symm⟩

/-- The offset of a run that fails is where a token starts, and the reader takes the tokens in front of that one. -/
private theorem run_eq_error_offset {f : Fault} (h : run source {} ts = .error f) :
    ∃ before t after r, ts ++ [Lexer.endToken source] = before ++ t :: after ∧ r.state.Ready ∧
      advanceAll? source {} before = some r ∧ t.start = f.offset := by
  have hstart : ReaderState.start.Ready := trivial
  obtain ⟨before, t, after, r, hts, hread, rfl⟩ := run_eq_error h
  obtain ⟨hready, hopened⟩ := opened_advanceAll hstart hread
  rcases fault_offset r t with hoffset | hoffset
  · exact ⟨before, t, after, r, hts, hready, hread, hoffset.symm⟩
  · -- The reader blames a bracket that it took, so the front ends before that.
    rcases hopened _ hoffset with hnone | ⟨front, u, back, rfl, hu⟩
    · cases hnone
    · rw [advanceAll?_append, Option.bind_eq_some_iff] at hread
      obtain ⟨next, hnext, -⟩ := hread
      refine ⟨front, u, back ++ t :: after, next, ?_, (opened_advanceAll hstart hnext).1, hnext, hu⟩
      rw [hts, List.append_assoc, List.cons_append]

/-! ### Ways to the end of a rule -/

/-- The reader is behind a part of a rule inside of so many params. -/
def BehindAt (depth : Nat) (r : RuleReader) : Prop :=
  ∃ d outer last, r = ⟨.modifier d, outer, last⟩ ∧ outer.length = depth

private theorem leads_completion_state {state : ReaderState} (outer : List OpenParams) (last : Nat)
    (h : state.Ready) : Leads source ⟨state, outer, last⟩ state.completion (BehindAt outer.length) := by
  have hend (d : Draft) (last : Nat) : BehindAt outer.length ⟨.modifier d, outer, last⟩ := ⟨d, outer, last, rfl, rfl⟩
  cases state with
  | start =>
    exact leads_cons fun start stop => ⟨_, rfl, leads_cons fun start' stop => ⟨_, rfl, leads_nil (hend _ stop)⟩⟩
  | modifier d => exact leads_nil (hend d last)
  | rangeMin | rangeComma =>
    exact leads_cons fun start stop => ⟨_, rfl, leads_cons fun start stop => ⟨_, rfl, leads_nil (hend _ stop)⟩⟩
  | slotEnd p =>
    obtain ⟨draft, opened, done⟩ := p
    cases done with
    | nil => exact absurd rfl h
    | cons param done => exact leads_cons fun start stop => ⟨_, rfl, leads_nil (hend _ stop)⟩
  | name | default | slot | rangeMax | rangeEnd | value | valueEnd =>
    exact leads_cons fun start stop => ⟨_, rfl, leads_nil (hend _ stop)⟩

/-- Angles close the params around a rule. -/
private theorem leads_angles {n : Nat} (h : BehindAt n r) :
    Leads source r (List.replicate n .rightAngle) (BehindAt 0) := by
  induction n generalizing r with
  | zero => exact leads_nil h
  | succ n ih =>
    obtain ⟨d, outer, last, rfl, hlength⟩ := h
    cases outer with
    | nil => cases hlength
    | cons p outer => exact leads_cons fun start stop => ⟨_, rfl, ih ⟨_, outer, stop, rfl, Nat.succ.inj hlength⟩⟩

/-- Wherever the reader comes, it can come from there to the end of a rule. -/
theorem leads_completion (h : r.state.Ready) : Leads source r r.completion fun r' => (r'.result? source).isSome := by
  obtain ⟨state, outer, last⟩ := r
  intro ts hts
  obtain ⟨r', hr', d, outer, last, rfl, hlength⟩ :=
    ((leads_completion_state outer last h).append fun _ => leads_angles) ts hts
  obtain rfl := List.length_eq_zero_iff.1 hlength
  exact ⟨_, hr', rfl⟩

/-- What the reader took is the front of a rule. -/
private theorem exists_ofKinds_of_advanceAll (hready : r.state.Ready) (h : advanceAll? source {} ts = some r) :
    ∃ rule, Rule.ofKinds (ts.map Token.kind ++ r.completion) = some rule := by
  have hkinds := Token.map_kind_ofKind r.completion
  obtain ⟨r', hr', hresult⟩ := @leads_completion source r hready _ hkinds
  obtain ⟨rule, hrule⟩ := Option.isSome_iff_exists.1 hresult
  have hread : advanceAll? source {} (ts ++ r.completion.map Token.ofKind) = some r' := by
    rw [advanceAll?_append, h, Option.bind_some, hr']
  refine ⟨rule.bare, ?_⟩
  rw [← hkinds, ← List.map_append, Rule.ofKinds_eq source, hread, Option.bind_some, hrule]
  rfl

end RuleReader

/-! ### Texts -/

namespace TokenKind

/-- Whether `spelling` spells the kind: a character that is a token by itself, or one certain literal. -/
def IsSpelled (kind : TokenKind) : Prop :=
  kind.char?.isSome ∨ kind = .literal "a"

/-- The characters of a token, behind a blank. -/
def spelling (kind : TokenKind) : List Char :=
  [' ', kind.char?.getD 'a']

private theorem isPart_spelling {kind : TokenKind} (h : kind.IsSpelled) : Lexer.IsPart kind.spelling [kind] := by
  have hreads : Lexer.ReadsAs [kind.char?.getD 'a'] [kind] := by
    rcases h with h | rfl
    · obtain ⟨c, hc⟩ := Option.isSome_iff_exists.1 h
      rw [hc]
      exact Lexer.readsAs_char hc
    · have ha : IsLiteral "a" := by decide
      exact Lexer.readsAs_literal ha
  exact hreads.isPart

private theorem isPart_spellings {ks : List TokenKind} (h : ∀ kind ∈ ks, kind.IsSpelled) :
    Lexer.IsPart (ks.flatMap spelling) ks := by
  induction ks with
  | nil => exact Lexer.isPart_nil
  | cons kind ks ih =>
    obtain ⟨hkind, hks⟩ := List.forall_mem_cons.1 h
    exact (isPart_spelling hkind).append (ih hks)

end TokenKind

private theorem ReaderState.isSpelled_completion (state : ReaderState) :
    ∀ kind ∈ state.completion, kind.IsSpelled := by
  cases state <;> simp [completion, TokenKind.IsSpelled, TokenKind.char?]

private theorem RuleReader.isSpelled_completion (r : RuleReader) : ∀ kind ∈ r.completion, kind.IsSpelled := by
  intro kind hkind
  rcases List.mem_append.1 hkind with hkind | hkind
  · exact r.state.isSpelled_completion kind hkind
  · obtain rfl := List.eq_of_mem_replicate hkind
    exact .inl rfl

namespace Rule

open Lexer (Tiles)

/-- A text whose tokens the reader takes is the front of the text of a rule. -/
private theorem exists_parse_of_advanceAll {front source : List Char} {ts : List Token} {r : RuleReader}
    (htiles : Tiles 0 front ts) (hready : r.state.Ready) (hread : RuleReader.advanceAll? source {} ts = some r) :
    ∃ rest rule, parse (String.ofList front ++ rest) = .ok rule := by
  let rest := r.completion.flatMap TokenKind.spelling
  have hrest : Lexer.IsPart rest r.completion := TokenKind.isPart_spellings r.isSpelled_completion
  have hreads := (htiles.readsAs.append hrest.2 hrest.1).reads
  have htext : (String.ofList front ++ String.ofList rest).toList = front ++ rest := by simp
  rw [← htext] at hreads
  obtain ⟨rule, hrule⟩ := RuleReader.exists_ofKinds_of_advanceAll hready hread
  rw [← parse_of_reads hreads] at hrule
  obtain ⟨rule, hparse, -⟩ := Option.map_eq_some_iff.1 hrule
  exact ⟨_, rule, toOption_parse_eq_some_iff.1 hparse⟩

theorem parse_eq_error {text : String} {us : List Token} {e : SyntaxError} (hus : Lexer.tokens text.toList = .ok us)
    (h : parse text = .error e) : e.rule = text ∧ RuleReader.run text.toList {} us = .error e.toFault := by
  simp only [parse, bind, Except.bind, hus] at h
  split at h
  · cases h
  next fault hfault =>
    obtain rfl := Except.error.inj h
    exact ⟨rfl, hfault⟩

/-- An error that is no fault of the tokens points at a token, the end of the text among them, and the text in front
of it is the front of a rule. -/
theorem parse_error_viable {text : String} {ts : List Token} {e : SyntaxError} (htokens : tokenize text = .ok ts)
    (h : parse text = .error e) :
    e.rule = text ∧ (∃ t ∈ ts, t.start = e.offset) ∧
      ∃ front back, text.toList = front ++ back ∧ Text.byteLength front = e.offset ∧
        ∃ rest r, parse (String.ofList front ++ rest) = .ok r := by
  obtain ⟨us, hus, rfl⟩ := tokenize_eq_ok_iff.1 htokens
  obtain ⟨hrule, hrun⟩ := parse_eq_error hus h
  obtain ⟨before, t, after, r, hsplit, hready, hread, hoffset⟩ := RuleReader.run_eq_error_offset hrun
  obtain ⟨front, back, htext, hlength, hfront⟩ := (Lexer.tiles_of_scan hus).cut_end hsplit
  refine ⟨hrule, ⟨t, by simp [hsplit], hoffset⟩, front, back, htext, hlength.trans hoffset, ?_⟩
  exact exists_parse_of_advanceAll hfront hready hread

/-- A range that is never closed, in a param behind a rule; the reader blames its bracket. -/
theorem parse_error_viable_nested :
    ∃ ts e, tokenize "@map< @string = é , @int8 [1, " = .ok ts ∧ parse "@map< @string = é , @int8 [1, " = .error e ∧
      e.toFault = ⟨27, .unterminated .range⟩ ∧ e.rule = "@map< @string = é , @int8 [1, " ∧
        (∃ t ∈ ts, t.start = e.offset) ∧
      ∃ front back, "@map< @string = é , @int8 [1, ".toList = front ++ back ∧ Text.byteLength front = e.offset ∧
        ∃ rest r, parse (String.ofList front ++ rest) = .ok r := by
  obtain ⟨ts, hts⟩ : ∃ ts, tokenize "@map< @string = é , @int8 [1, " = .ok ts := ⟨_, rfl⟩
  have he : parse "@map< @string = é , @int8 [1, " =
      .error ⟨⟨27, .unterminated .range⟩, "@map< @string = é , @int8 [1, "⟩ := rfl
  exact ⟨ts, _, hts, he, rfl, parse_error_viable hts he⟩

end Rule

end FieldRules
