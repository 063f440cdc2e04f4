import FieldRules.Proofs.Rule.Scan

/-!
# The tokens of a rule

`Rule.kinds` lists the tokens of the canonical text of a rule, part by part as `Rule.text` does. For a
well-formed rule the scanner reads the text as these tokens, whatever follows, as long as a literal can end
there (`Rule.readsAs_text`).
-/

namespace FieldRules

/-- Lists of kinds with a comma between neighbours. -/
def commaKinds : List (List TokenKind) → List TokenKind
  | [] => []
  | [ks] => ks
  | ks :: rest => ks ++ .comma :: commaKinds rest

/-- The token of a text; an empty text has none. -/
def valueKinds (text : String) : List TokenKind :=
  if text = "" then [] else [.literal text]

/-- The tokens of a range. -/
def Range.kinds : Range → List TokenKind
  | .exact value => [.leftBracket, .literal value, .rightBracket]
  | .span min max exclusiveMin exclusiveMax =>
    (if exclusiveMin then .leftParen else .leftBracket) :: (min.map TokenKind.literal).toList ++
      .comma :: (max.map TokenKind.literal).toList ++ [if exclusiveMax then .rightParen else .rightBracket]

/-- The tokens of a group of values. -/
def groupKinds (group : List String) : List TokenKind :=
  .leftBrace :: commaKinds (group.map valueKinds) ++ [.rightBrace]

/-- The tokens of the mark at the end of a rule. -/
def Presence.kinds : Presence → List TokenKind
  | .required => []
  | .optional => [.question]
  | .default text => [.equals, .quoted text]

mutual

/-- The tokens of the canonical text of a rule. -/
def Rule.kinds : Rule → List TokenKind
  | ⟨_, name, params, range, values, pattern, presence⟩ =>
    .atSign :: .literal name ::
      ((if params.isEmpty then [] else .leftAngle :: commaKinds (Param.kindsAll params) ++ [.rightAngle]) ++
        (range.map Range.kinds).getD [] ++ values.flatMap groupKinds ++
        (pattern.map fun p => TokenKind.pattern p.source).toList ++ presence.kinds)

/-- The tokens of a param. -/
def Param.kinds : Param → List TokenKind
  | .blank => []
  | .literal text => [.literal text]
  | .rule r => r.kinds

/-- The tokens of params, each by itself. -/
def Param.kindsAll : List Param → List (List TokenKind)
  | [] => []
  | p :: ps => p.kinds :: Param.kindsAll ps

end

namespace Lexer

/-- Wherever a literal can end behind them, the characters are scanned as tokens of these kinds. -/
def ReadsAs (cs : List Char) (ks : List TokenKind) : Prop :=
  ∀ rest more, Closes rest → Reads rest more → Reads (cs ++ rest) (ks ++ more)

theorem Closes.append {cs rest : List Char} (h : Closes cs) (hrest : Closes rest) : Closes (cs ++ rest) := by
  cases cs with
  | nil => exact hrest
  | cons c cs => exact h

theorem readsAs_nil : ReadsAs [] [] :=
  fun _ _ _ h => h

theorem ReadsAs.append {as bs : List Char} {ks ls : List TokenKind} (ha : ReadsAs as ks) (hb : ReadsAs bs ls)
    (hclose : Closes bs) : ReadsAs (as ++ bs) (ks ++ ls) := by
  intro rest more hrest h
  rw [List.append_assoc, List.append_assoc]
  exact ha _ _ (hclose.append hrest) (hb _ _ hrest h)

theorem readsAs_char {k : TokenKind} {c : Char} (hk : k.char? = some c) : ReadsAs [c] [k] :=
  fun _ _ _ h => reads_char hk h

theorem readsAs_literal {text : String} (h : IsLiteral text) : ReadsAs text.toList [.literal text] :=
  fun _ _ hrest hread => reads_literal h hrest hread

private theorem readsAs_value {text : String} (h : IsValueText text) : ReadsAs text.toList (valueKinds text) :=
  fun _ _ hrest hread => reads_valueText h hrest hread

/-- Brackets around what can be read. -/
private theorem ReadsAs.bracket {k l : TokenKind} {o c : Char} {cs : List Char} {ks : List TokenKind}
    (h : ReadsAs cs ks) (ho : k.char? = some o) (hc : l.char? = some c) (hd : isDelimiter c = true) :
    ReadsAs (o :: cs ++ [c]) (k :: ks ++ [l]) := by
  intro rest more hrest hread
  have hclose : Reads (c :: rest) (l :: more) := reads_char hc hread
  have hinner := h _ _ (closes_cons_of_isDelimiter hd rest) hclose
  simpa using reads_char ho hinner

/-- Texts between commas are read one by one. -/
private theorem readsAs_commaSeparated {α : Type} {text : α → List Char} {kinds : α → List TokenKind} {xs : List α}
    (h : ∀ x ∈ xs, ReadsAs (text x) (kinds x)) :
    ReadsAs (commaSeparated (xs.map text)) (commaKinds (xs.map kinds)) := by
  induction xs with
  | nil => exact readsAs_nil
  | cons x xs ih =>
    have hx := h x List.mem_cons_self
    cases xs with
    | nil => exact hx
    | cons y ys =>
      have htail := ih fun z hz => h z (List.mem_cons_of_mem x hz)
      intro rest more hrest hread
      have hcomma := reads_char (k := .comma) rfl (htail rest more hrest hread)
      have hhead := hx _ _ (closes_cons_of_isDelimiter (by decide) _) hcomma
      simpa [commaSeparated, commaKinds] using hhead

/-- A part that can stand behind a literal and is scanned as tokens of these kinds. -/
def IsPart (cs : List Char) (ks : List TokenKind) : Prop :=
  Closes cs ∧ ReadsAs cs ks

theorem isPart_nil : IsPart [] [] :=
  ⟨fun _ h => absurd h (Option.not_mem_none _), readsAs_nil⟩

theorem IsPart.append {as bs : List Char} {ks ls : List TokenKind} (ha : IsPart as ks) (hb : IsPart bs ls) :
    IsPart (as ++ bs) (ks ++ ls) :=
  ⟨ha.1.append hb.1, ha.2.append hb.2 hb.1⟩

/-- What starts with a delimiter can stand behind a literal. -/
private theorem isPart_of_isDelimiter {c : Char} {cs : List Char} {ks : List TokenKind} (hc : isDelimiter c = true)
    (h : ReadsAs (c :: cs) ks) : IsPart (c :: cs) ks :=
  ⟨closes_cons_of_isDelimiter hc cs, h⟩

end Lexer

open Lexer

/-! ### The parts of a rule -/

private theorem readsAs_bound {bound : Option String} (h : ∀ t ∈ bound, IsLiteral t) :
    ReadsAs (Range.boundText bound) (bound.map TokenKind.literal).toList := by
  cases bound with
  | none => exact readsAs_nil
  | some text => exact readsAs_literal (h text rfl)

private theorem Range.isPart_text {range : Range} (h : range.WellFormed) : IsPart range.text range.kinds := by
  obtain ⟨hmin, hmax⟩ := h
  cases range with
  | exact value =>
    exact isPart_of_isDelimiter (by decide)
      ((readsAs_literal (hmin value rfl)).bracket (k := .leftBracket) rfl rfl (by decide))
  | span min max exclusiveMin exclusiveMax =>
    have hmax' : ReadsAs (',' :: Range.boundText max) (.comma :: (max.map TokenKind.literal).toList) :=
      fun _ _ hrest hread => reads_char (k := .comma) rfl (readsAs_bound hmax _ _ hrest hread)
    have hends := (readsAs_bound hmin).append hmax' (closes_cons_of_isDelimiter (by decide) _)
    cases exclusiveMin <;> cases exclusiveMax <;> refine isPart_of_isDelimiter (by decide) ?_
    · exact hends.bracket (k := .leftBracket) (l := .rightBracket) rfl rfl (by decide)
    · exact hends.bracket (k := .leftBracket) (l := .rightParen) rfl rfl (by decide)
    · exact hends.bracket (k := .leftParen) (l := .rightBracket) rfl rfl (by decide)
    · exact hends.bracket (k := .leftParen) (l := .rightParen) rfl rfl (by decide)

private theorem isPart_groups {groups : List (List String)} (h : ∀ group ∈ groups, ∀ t ∈ group, IsValueText t) :
    IsPart (groups.flatMap groupText) (groups.flatMap groupKinds) := by
  induction groups with
  | nil => exact isPart_nil
  | cons group groups ih =>
    have hvalues := readsAs_commaSeparated fun t ht => readsAs_value (h group List.mem_cons_self t ht)
    have hgroup : IsPart (groupText group) (groupKinds group) :=
      isPart_of_isDelimiter (by decide) (hvalues.bracket (k := .leftBrace) (l := .rightBrace) rfl rfl
        (by decide))
    exact hgroup.append (ih fun g hg => h g (List.mem_cons_of_mem group hg))

private theorem isPart_pattern {pattern : Option Pattern} (h : ∀ p ∈ pattern, IsPatternText p.source) :
    IsPart ((pattern.map Pattern.text).getD []) (pattern.map fun p => TokenKind.pattern p.source).toList := by
  cases pattern with
  | none => exact isPart_nil
  | some p => exact isPart_of_isDelimiter (by decide) fun _ _ _ hread => reads_pattern (h p rfl) hread

private theorem Presence.isPart_text (p : Presence) : IsPart p.text p.kinds := by
  cases p with
  | required => exact isPart_nil
  | optional => exact isPart_of_isDelimiter (by decide) (readsAs_char rfl)
  | default text =>
    refine ⟨?_, fun _ _ _ hread => reads_default text hread⟩
    -- The text starts with a blank.
    intro c hc
    obtain rfl := Option.some.inj hc
    exact .inl (by decide)

private theorem isPart_params {params : List Param} (h : ∀ p ∈ params, ReadsAs p.text p.kinds) :
    IsPart (if params.isEmpty then [] else '<' :: commaSeparated (params.map Param.text) ++ ['>'])
      (if params.isEmpty then [] else .leftAngle :: commaKinds (params.map Param.kinds) ++ [.rightAngle]) := by
  cases params with
  | nil => exact isPart_nil
  | cons p ps =>
    exact isPart_of_isDelimiter (by decide) ((readsAs_commaSeparated h).bracket (k := .leftAngle)
      (l := .rightAngle) rfl rfl (by decide))

private theorem Param.texts_eq_map (ps : List Param) : Param.texts ps = ps.map Param.text := by
  induction ps with
  | nil => rfl
  | cons p ps ih => simp [Param.texts, ih]

theorem Param.kindsAll_eq_map (ps : List Param) : Param.kindsAll ps = ps.map Param.kinds := by
  induction ps with
  | nil => rfl
  | cons p ps ih => simp [Param.kindsAll, ih]

/-! ### Whole rules -/

mutual

/-- A well-formed rule is scanned as its tokens. -/
theorem Rule.readsAs_text : (r : Rule) → r.WellFormed → ReadsAs r.text r.kinds
  | ⟨_, name, params, range, values, pattern, presence⟩, ⟨hname, hparams, hrange, hvalues, hpattern⟩ => by
    have hparams' := isPart_params (Param.readsAs_text_of_mem params hparams)
    have hrange' : IsPart ((range.map Range.text).getD []) ((range.map Range.kinds).getD []) := by
      cases range with
      | none => exact isPart_nil
      | some range => exact Range.isPart_text (hrange range rfl)
    have hparts := (((hparams'.append hrange').append (isPart_groups fun g hg => (hvalues g hg).2)).append
      (isPart_pattern hpattern)).append presence.isPart_text
    have hrule := (readsAs_literal hname.isLiteral).append hparts.2 hparts.1
    intro rest more hrest hread
    have := reads_char (k := .atSign) rfl (hrule rest more hrest hread)
    simpa [Rule.text, Rule.kinds, Param.texts_eq_map, Param.kindsAll_eq_map] using this

private theorem Param.readsAs_text : (p : Param) → p.WellFormed → ReadsAs p.text p.kinds
  | .blank, _ => readsAs_nil
  | .literal _, h => readsAs_literal h
  | .rule r, h => Rule.readsAs_text r h

private theorem Param.readsAs_text_of_mem : (ps : List Param) → Param.AllWellFormed ps →
    ∀ p ∈ ps, ReadsAs p.text p.kinds
  | [], _ => by simp
  | p :: ps, ⟨hp, hps⟩ =>
    List.forall_mem_cons.2 ⟨Param.readsAs_text p hp, Param.readsAs_text_of_mem ps hps⟩

end

end FieldRules
