import FieldRules.Proofs.Rule.Spans
import FieldRules.Proofs.Rule.Viability

/-!
# Blanks between tokens

Blanks can be put into a text wherever they do not split a token (`Text.Spaced`). The text keeps its tokens, since a
token is scanned alike wherever it stands and a blank ends a literal as well as any delimiter
(`Lexer.Tiles.reads_spaced`). What the reader says of a text that is no rule depends on the kinds of its tokens only
(`RuleReader.run_eq_error_of_kinds`), so both texts are the same rule or fail for the same reason
(`Rule.parse_spaced`).
-/

namespace FieldRules

namespace Text

variable {P : Nat → Prop} {off : Nat} {c : Char} {as cs ds : List Char}

/-- The second text is the first one, which begins at an offset, with blanks put in at offsets with the property. -/
inductive Spaced (P : Nat → Prop) : Nat → List Char → List Char → Prop
  | nil {off : Nat} : Spaced P off [] []
  | keep {off : Nat} {c : Char} {cs ds : List Char} (h : Spaced P (off + c.utf8Size) cs ds) :
      Spaced P off (c :: cs) (c :: ds)
  | blank {off : Nat} {c : Char} {cs ds : List Char} (place : P off) (hc : isBlank c = true)
      (h : Spaced P off cs ds) :
      Spaced P off cs (c :: ds)

private theorem spaced_nil_iff : Spaced P off cs [] ↔ cs = [] :=
  ⟨fun h => by cases h; rfl, by rintro rfl; exact .nil⟩

private theorem spaced_cons_iff : Spaced P off cs (c :: ds) ↔
    (∃ cs', cs = c :: cs' ∧ Spaced P (off + c.utf8Size) cs' ds) ∨
    (P off ∧ isBlank c = true ∧ Spaced P off cs ds) := by
  constructor
  · intro h
    cases h with
    | keep h => exact .inl ⟨_, rfl, h⟩
    | blank place hc h => exact .inr ⟨place, hc, h⟩
  · rintro (⟨cs', rfl, h⟩ | ⟨place, hc, h⟩)
    · exact .keep h
    · exact .blank place hc h

instance Spaced.decidable [DecidablePred P] : ∀ off cs ds, Decidable (Spaced P off cs ds)
  | _, _, [] => decidable_of_iff' _ spaced_nil_iff
  | off, [], c :: ds =>
    have := decidable off [] ds
    decidable_of_iff (P off ∧ isBlank c = true ∧ Spaced P off [] ds) (by simp [spaced_cons_iff])
  | off, a :: cs, c :: ds =>
    have := decidable (off + c.utf8Size) cs ds
    have := decidable off (a :: cs) ds
    decidable_of_iff ((a = c ∧ Spaced P (off + c.utf8Size) cs ds) ∨
        (P off ∧ isBlank c = true ∧ Spaced P off (a :: cs) ds)) (by simp [spaced_cons_iff])

private theorem Spaced.allBlank (h : Spaced P off [] ds) : allBlank ds = true := by
  generalize hcs : ([] : List Char) = cs at h
  induction h with
  | nil => rfl
  | keep => cases hcs
  | blank _ hc _ ih => simpa [Text.allBlank, hc] using ih hcs

/-- In front of a character there are blanks only, and none at an offset without the property. -/
private theorem Spaced.uncons (h : Spaced P off (c :: cs) ds) :
    ∃ blanks rest, ds = blanks ++ c :: rest ∧ Text.allBlank blanks = true ∧ (¬ P off → blanks = []) ∧
      Spaced P (off + c.utf8Size) cs rest := by
  generalize hcs : c :: cs = cs' at h
  induction h with
  | nil => cases hcs
  | keep h =>
    obtain ⟨rfl, rfl⟩ := List.cons.inj hcs
    exact ⟨[], _, rfl, rfl, fun _ => rfl, h⟩
  | @blank _ b _ _ place hb _ ih =>
    obtain ⟨blanks, rest, rfl, hblanks, -, hrest⟩ := ih hcs
    exact ⟨b :: blanks, rest, rfl, by simpa [Text.allBlank, hb] using hblanks, fun h => absurd place h, hrest⟩

/-- Blanks stay blanks. -/
private theorem Spaced.behind_blanks (has : Text.allBlank as = true) (h : Spaced P off (as ++ cs) ds) :
    ∃ blanks rest, ds = blanks ++ rest ∧ Text.allBlank blanks = true ∧ Spaced P (off + byteLength as) cs rest := by
  induction as generalizing off ds with
  | nil => exact ⟨[], ds, rfl, rfl, h⟩
  | cons a as ih =>
    simp only [Text.allBlank, List.all_cons, Bool.and_eq_true] at has
    obtain ⟨blanks, rest, rfl, hblanks, -, hrest⟩ := h.uncons
    obtain ⟨blanks', rest', rfl, hblanks', hrest'⟩ := ih has.2 hrest
    refine ⟨blanks ++ a :: blanks', rest', by simp, ?_, by rwa [byteLength_cons, ← Nat.add_assoc]⟩
    simp_all [Text.allBlank]

/-- Characters stay together if no blanks can be put in between. -/
private theorem Spaced.behind_tight (htight : ∀ k, off ≤ k → k < off + byteLength as → ¬ P k)
    (h : Spaced P off (as ++ cs) ds) : ∃ rest, ds = as ++ rest ∧ Spaced P (off + byteLength as) cs rest := by
  induction as generalizing off ds with
  | nil => exact ⟨ds, rfl, h⟩
  | cons a as ih =>
    have ha := a.utf8Size_pos
    rw [byteLength_cons] at htight
    obtain ⟨blanks, rest, rfl, -, hnone, hrest⟩ := h.uncons
    obtain rfl := hnone (htight off (Nat.le_refl _) (by omega))
    obtain ⟨rest', rfl, hrest'⟩ := ih (fun k hk hlt => htight k (by omega) (by omega)) hrest
    exact ⟨rest', rfl, by rwa [byteLength_cons, ← Nat.add_assoc]⟩

/-- The characters of a token stay together, with blanks in front of them. -/
private theorem Spaced.behind_token (has : as ≠ []) (htight : ∀ k, off < k → k < off + byteLength as → ¬ P k)
    (h : Spaced P off (as ++ cs) ds) : ∃ blanks rest, ds = blanks ++ (as ++ rest) ∧ Text.allBlank blanks = true ∧
      Spaced P (off + byteLength as) cs rest := by
  obtain ⟨a, as, rfl⟩ := List.exists_cons_of_ne_nil has
  have ha := a.utf8Size_pos
  rw [byteLength_cons] at htight
  obtain ⟨blanks, rest, rfl, hblanks, -, hrest⟩ := h.uncons
  obtain ⟨rest', rfl, hrest'⟩ := hrest.behind_tight fun k hk hlt => htight k (by omega) (by omega)
  exact ⟨blanks, rest', rfl, hblanks, by rwa [byteLength_cons, ← Nat.add_assoc]⟩

end Text

namespace Lexer

open Text (Spaced byteLength)

variable {P : Nat → Prop} {off : Nat} {cs ds : List Char} {ts : List Token}

/-- A literal ends at a blank as it ends at what stood there before. -/
private theorem Closes.spaced (h : Closes cs) (hspaced : Spaced P off cs ds) : Closes ds := by
  cases hspaced with
  | nil => exact h
  | keep => exact h
  | blank _ hc _ =>
    rintro _ ⟨⟩
    exact .inl hc

/-- Whether an offset is inside of no token. -/
def IsGap (ts : List Token) (k : Nat) : Prop :=
  ∀ t ∈ ts, k ≤ t.start ∨ t.stop ≤ k

instance (ts : List Token) : DecidablePred (IsGap ts) :=
  fun k => inferInstanceAs (Decidable (∀ t ∈ ts, k ≤ t.start ∨ t.stop ≤ k))

/-- Blanks that split no token do not change what a text is read as. -/
theorem Tiles.reads_spaced (h : Tiles off cs ts) (hP : ∀ k, P k → IsGap ts k) (hspaced : Spaced P off cs ds) :
    Reads ds (ts.map Token.kind) := by
  induction h generalizing ds with
  | @nil off blanks blank =>
    rw [← List.append_nil blanks] at hspaced
    obtain ⟨blanks', rest, rfl, hblanks', hrest⟩ := hspaced.behind_blanks blank
    exact reads_blanks hblanks' (reads_of_allBlank hrest.allBlank)
  | @cons off blanks body rest kind ts blank nonempty lexes ends more ih =>
    have htight : ∀ k, off + byteLength blanks < k → k < off + byteLength blanks + byteLength body → ¬ P k := by
      intro k hstart hstop hk
      rcases hP k hk _ List.mem_cons_self with hle | hle
      · exact absurd hstart (Nat.not_lt_of_le hle)
      · exact absurd hstop (Nat.not_lt_of_le hle)
    have hmore : ∀ k, P k → IsGap ts k := fun k hk t ht => hP k hk t (List.mem_cons_of_mem _ ht)
    -- All that is new in front of the token is blank, and the token itself is left alone.
    obtain ⟨blanks', _, rfl, hblanks', hspaced'⟩ := hspaced.behind_blanks blank
    obtain ⟨blanks'', rest', rfl, hblanks'', hrest'⟩ := hspaced'.behind_token nonempty htight
    have hends : EndsAt kind rest' := fun text htext => (ends text htext).spaced hrest'
    exact reads_blanks hblanks' (reads_blanks hblanks'' (lexes.reads hends (ih hmore hrest')))

end Lexer

namespace RuleReader

variable {source source' : List Char} {r r' : RuleReader} {ts ts' : List Token} {f : Fault}

private theorem reason_outOfPlace {t u : Token} (h : t.kind = u.kind) (part : RulePart) (opened opened' : Nat) :
    (outOfPlace part opened t).reason = (outOfPlace part opened' u).reason := by
  unfold outOfPlace
  rw [h]
  split <;> rfl

private theorem reason_minFault {t u : Token} (h : t.kind = u.kind) (min : Option String) (opened opened' : Nat) :
    (minFault opened min t).reason = (minFault opened' min u).reason := by
  unfold minFault
  rw [h]
  split
  · rfl
  · exact reason_outOfPlace h .range opened opened'

private theorem reason_maxFault {t u : Token} (h : t.kind = u.kind) (opened opened' : Nat) :
    (maxFault opened t).reason = (maxFault opened' u).reason := by
  unfold maxFault
  rw [h]
  split
  · rfl
  · exact reason_outOfPlace h .range opened opened'

/-- What is wrong with a token depends on its kind and on what the reader is about to read. -/
private theorem reason_fault_bare (r : RuleReader) (t : Token) :
    (r.bare.fault t.bare).reason = (r.fault t).reason := by
  obtain ⟨state, outer, last⟩ := r
  have hkind : t.bare.kind = t.kind := rfl
  cases state with
  | start | default => rfl
  | name =>
    obtain ⟨kind, start, stop⟩ := t
    cases kind <;> rfl
  | modifier d =>
    obtain ⟨kind, start, stop⟩ := t
    obtain ⟨_, raw, name, params, range, values, pattern, presence⟩ := d
    cases outer with
    | nil => cases kind <;> rfl
    | cons p outer =>
      cases kind with
      | atSign | rightAngle | rightBracket | rightParen | rightBrace | comma | literal | quoted | finish =>
        exact reason_outOfPlace hkind .params 0 p.opened
      | _ => rfl
  | slot p | slotEnd p => exact reason_outOfPlace hkind .params 0 p.opened
  | rangeMin _ opened => exact reason_minFault hkind none 0 opened
  | rangeComma _ opened _ min => exact reason_minFault hkind min 0 opened
  | rangeMax _ opened | rangeEnd _ opened => exact reason_maxFault hkind 0 opened
  | value _ opened | valueEnd _ opened => exact reason_outOfPlace hkind .values 0 opened

/-- Tokens of the same kinds fail for the same reason. -/
theorem run_eq_error_of_kinds (hr : r.bare = r'.bare) (hts : ts.map Token.kind = ts'.map Token.kind)
    (h : run source r ts = .error f) : ∃ f', run source' r' ts' = .error f' ∧ f'.reason = f.reason := by
  have hreason {t t' : Token} {r r' : RuleReader} (hr : r.bare = r'.bare) (ht : t.kind = t'.kind) :
      (r'.fault t').reason = (r.fault t).reason := by
    rw [← reason_fault_bare r t, ← reason_fault_bare r' t', hr, Token.bare, Token.bare, ht]
  induction ts generalizing r r' ts' with
  | nil =>
    obtain rfl := List.map_eq_nil_iff.1 hts.symm
    have hresult : (r.result? source).map Rule.bare = (r'.result? source').map Rule.bare := by
      rw [← result?_bare, ← result?_bare, hr]
    simp only [run] at h ⊢
    cases hrule : r.result? source with
    | some rule => simp [hrule] at h
    | none =>
      rw [hrule] at hresult h
      rw [Option.map_eq_none_iff.1 hresult.symm]
      obtain rfl := Except.error.inj h
      exact ⟨_, rfl, hreason hr rfl⟩
  | cons t ts ih =>
    obtain ⟨t', ts', rfl, ht, hts⟩ := List.map_eq_cons_iff.1 hts.symm
    have hnext : (r.advance? source t).map bare = (r'.advance? source' t').map bare := by
      rw [← advance?_bare, ← advance?_bare, hr, Token.bare, Token.bare, ht]
    simp only [run] at h ⊢
    cases hread : r.advance? source t with
    | some next =>
      rw [hread] at hnext h
      obtain ⟨next', hread', hbare⟩ := Option.map_eq_some_iff.1 hnext.symm
      rw [hread']
      exact ih hbare.symm hts.symm h
    | none =>
      rw [hread] at hnext h
      rw [Option.map_eq_none_iff.1 hnext.symm]
      obtain rfl := Except.error.inj h
      exact ⟨_, rfl, hreason hr ht.symm⟩

end RuleReader

namespace Rule

/-- Put blanks into a text that has tokens, wherever they split none: the kinds of tokens stay the same, and either
both texts are rules, which agree, or neither is, for the same reason. -/
theorem parse_spaced {text spaced : String} {ts : List Token} (htokens : tokenize text = .ok ts)
    (h : Text.Spaced (Lexer.IsGap ts) 0 text.toList spaced.toList) :
    (∃ ts', tokenize spaced = .ok ts' ∧ ts'.map Token.kind = ts.map Token.kind) ∧
      ((∃ r r', parse text = .ok r ∧ parse spaced = .ok r' ∧ r.agrees r' = true) ∨
        ∃ e e', parse text = .error e ∧ parse spaced = .error e' ∧ e'.reason = e.reason) := by
  obtain ⟨us, hus, rfl⟩ := tokenize_eq_ok_iff.1 htokens
  have htiles := Lexer.tiles_of_scan hus
  have hgaps : ∀ k, Lexer.IsGap (us ++ [Lexer.endToken text.toList]) k → Lexer.IsGap us k :=
    fun k hk t ht => hk t (List.mem_append_left _ ht)
  have hspaced : Lexer.Reads spaced.toList (us.map Token.kind) := htiles.reads_spaced hgaps h
  obtain ⟨us', hus', hkinds⟩ := hspaced 0
  refine ⟨⟨_, tokenize_eq_ok_iff.2 ⟨us', hus', rfl⟩, by simp [hkinds, Lexer.endToken]⟩, ?_⟩
  cases hparse : parse text with
  | ok r =>
    have hsame := (parse_of_reads hspaced).trans (parse_of_reads htiles.readsAs.reads).symm
    rw [hparse] at hsame
    obtain ⟨r', hr', hbare⟩ := Option.map_eq_some_iff.1 hsame
    exact .inl ⟨r, r', rfl, toOption_parse_eq_some_iff.1 hr', (agrees_iff r r').2 hbare.symm⟩
  | error e =>
    obtain ⟨-, hrun⟩ := parse_eq_error hus hparse
    obtain ⟨f, hrun', hreason⟩ : ∃ f, RuleReader.run spaced.toList {} us' = .error f ∧ _ :=
      RuleReader.run_eq_error_of_kinds rfl hkinds.symm hrun
    have hparse' : parse spaced = .error ⟨f, spaced⟩ := by
      rw [parse, show Lexer.tokens spaced.toList = .ok us' from hus']
      simp only [bind, Except.bind, hrun']
    exact .inr ⟨e, _, rfl, hparse', hreason⟩

/-- Blanks of one, two and three bytes between the tokens of a nested rule, and in front of a bracket that is out of
place. -/
theorem parse_spaced_nested :
    (∃ r r', parse "@a<@b='é x'>" = .ok r ∧ parse " @a\u2003<\u00a0@b= 'é x'>\t" = .ok r' ∧ r.agrees r' = true) ∧
    ∃ e e', parse "@a<é)" = .error e ∧ parse "@a<\u00a0é\u2003)" = .error e' ∧ e'.reason = e.reason := by
  constructor
  · have htokens : tokenize "@a<@b='é x'>" = .ok [⟨.atSign, 0, 1⟩, ⟨.literal "a", 1, 2⟩, ⟨.leftAngle, 2, 3⟩,
        ⟨.atSign, 3, 4⟩, ⟨.literal "b", 4, 5⟩, ⟨.equals, 5, 6⟩, ⟨.quoted "é x", 6, 12⟩, ⟨.rightAngle, 12, 13⟩,
        ⟨.finish, 13, 13⟩] := rfl
    obtain ⟨-, hok | ⟨e, -, herror, -⟩⟩ :=
      @parse_spaced _ " @a\u2003<\u00a0@b= 'é x'>\t" _ htokens (by decide)
    · exact hok
    · cases herror
  · have htokens : tokenize "@a<é)" = .ok [⟨.atSign, 0, 1⟩, ⟨.literal "a", 1, 2⟩, ⟨.leftAngle, 2, 3⟩,
        ⟨.literal "é", 3, 5⟩, ⟨.rightParen, 5, 6⟩, ⟨.finish, 6, 6⟩] := rfl
    obtain ⟨-, ⟨r, -, hok, -⟩ | herror⟩ :=
      @parse_spaced _ "@a<\u00a0é\u2003)" _ htokens (by decide)
    · cases hok
    · exact herror

end Rule

end FieldRules
