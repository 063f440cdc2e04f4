import FieldRules.Proofs.Rule.Derivation
import FieldRules.Proofs.Rule.Spans

/-!
# Source texts of rules

A rule keeps the text it was read from, and so does every rule inside of it. The tokens of a rule inside of another
stand together among its tokens (`Rule.Derives.param`), and a derivation takes nothing but such cuts from the text, so
the tokens derive the same rule from the cut alone (`Rule.Derives.moved`). Hence each source text reads as its own
rule (`Rule.parse_raw`).
-/

namespace FieldRules

variable {source source' : List Char} {ts us before after : List Token} {f : Token → Token}

/-! ### Rules inside of rules -/

/-- The rule itself, its params that are rules, their params, and so on. -/
inductive Rule.Within (q : Rule) : Rule → Prop
  | self : Rule.Within q q
  | param {p r : Rule} (inner : Rule.Within q p) (hp : .rule p ∈ r.params) : Rule.Within q r

private theorem Rule.raw_ofClauses (raw name : String) (cs : List Rule.Clause) :
    (Rule.ofClauses raw name cs).raw = raw := by
  induction cs using List.reverseRecOn with
  | nil => rfl
  | append_singleton cs c ih =>
    rw [Rule.ofClauses_snoc]
    cases c <;> exact ih

/-- The params of a rule come from one of its clauses. -/
private theorem Rule.exists_clause_of_mem_params {raw name : String} {cs : List Rule.Clause} {p : Param}
    (h : p ∈ (Rule.ofClauses raw name cs).params) : ∃ ps, .params ps ∈ cs ∧ p ∈ ps := by
  induction cs using List.reverseRecOn with
  | nil => cases h
  | append_singleton cs c ih =>
    rw [Rule.ofClauses_snoc] at h
    cases c with
    | params ps => exact ⟨ps, by simp, h⟩
    | range | values | pattern | marker =>
      obtain ⟨ps, hps, hp⟩ := ih h
      exact ⟨ps, List.mem_append_left _ hps, hp⟩

private theorem SlotsDerive.slot_of_mem {p : Param} {ps : List Param} {ts : List Token} :
    SlotsDerive source ts ps → p ∈ ps → ∃ us, us <:+: ts ∧ SlotDerives source us p
  | .last h, hp => by
    obtain rfl := List.mem_singleton.1 hp
    exact ⟨_, List.infix_rfl, h⟩
  | @SlotsDerive.more _ ts us comma _ _ h _ others, hp => by
    rcases List.mem_cons.1 hp with rfl | hp
    · exact ⟨ts, (List.prefix_append ts _).isInfix, h⟩
    · obtain ⟨vs, hvs, hslot⟩ := others.slot_of_mem hp
      have hus : us <:+: ts ++ comma :: us := ⟨ts ++ [comma], [], by simp⟩
      exact ⟨vs, hvs.trans hus, hslot⟩

/-- Among the tokens of a rule, those of a param that is a rule stand together. -/
theorem Rule.Derives.param {r p : Rule} (h : r.Derives source ts) (hp : .rule p ∈ r.params) :
    ∃ us, us <:+: ts ∧ p.Derives source us := by
  cases h with
  | @rule sign word ts name cs sign_kind word_kind valid clauses once =>
    obtain ⟨ps, hps, hp⟩ := Rule.exists_clause_of_mem_params hp
    obtain ⟨us, hus, hclause⟩ := clauses.clause_of_mem hps
    have hts : ts <:+: sign :: word :: ts := (List.suffix_append [sign, word] ts).isInfix
    cases hclause with
    | @params left right us _ left_kind slots right_kind =>
      obtain ⟨vs, hvs, hslot⟩ := slots.slot_of_mem hp
      cases hslot with
      | rule h => exact ⟨vs, hvs.trans (List.IsInfix.trans ⟨[left], [right], rfl⟩ (hus.trans hts)), h⟩

/-! ### Derivations from a cut -/

open Lexer (sourceOf)

/-- Tokens are moved from one text to another: they keep their kinds and, in a row, their characters. -/
structure Moves (f : Token → Token) (source source' : List Char) (ts : List Token) : Prop where
  kind : ∀ t, (f t).kind = t.kind
  chars : ∀ us, us <:+: ts → sourceOf source' (us.map f) = sourceOf source us

private theorem Moves.mono (h : Moves f source source' ts) (hus : us <:+: ts) : Moves f source source' us :=
  ⟨h.kind, fun vs hvs => h.chars vs (hvs.trans hus)⟩

private theorem Moves.left (h : Moves f source source' (ts ++ us)) : Moves f source source' ts :=
  h.mono (List.prefix_append ts us).isInfix

private theorem Moves.right (h : Moves f source source' (ts ++ us)) : Moves f source source' us :=
  h.mono (List.suffix_append ts us).isInfix

private theorem Moves.map_kind (h : Moves f source source' us) (ts : List Token) :
    (ts.map f).map Token.kind = ts.map Token.kind := by
  simp [h.kind]

mutual

/-- Wherever the tokens of a rule are moved, they derive the same rule. -/
theorem Rule.Derives.moved {ts : List Token} {r : Rule} : r.Derives source ts → Moves f source source' ts →
    r.Derives source' (ts.map f)
  | @Rule.Derives.rule _ sign word ts name cs sign_kind word_kind valid clauses once, h => by
    have hraw := h.chars _ List.infix_rfl
    simp only [List.map_cons, sourceOf, RuleReader.lastStop_cons] at hraw
    rw [← hraw]
    have hclauses := ClausesDerive.moved clauses (h.mono (List.suffix_append [sign, word] ts).isInfix)
    exact .rule (by rw [h.kind, sign_kind]) (by rw [h.kind, word_kind]) valid hclauses once

private theorem ClausesDerive.moved {ts : List Token} {cs : List Rule.Clause} : ClausesDerive source ts cs →
    Moves f source source' ts → ClausesDerive source' (ts.map f) cs
  | .nil, _ => .nil
  | .cons first others, h => by
    rw [List.map_append]
    exact .cons (ClauseDerives.moved first h.left) (ClausesDerive.moved others h.right)

private theorem ClauseDerives.moved {ts : List Token} {c : Rule.Clause} : ClauseDerives source ts c →
    Moves f source source' ts → ClauseDerives source' (ts.map f) c
  | @ClauseDerives.params _ left right ts ps left_kind slots right_kind, h => by
    have hslots := SlotsDerive.moved slots (h.mono ⟨[left], [right], rfl⟩)
    simpa using ClauseDerives.params ((h.kind left).trans left_kind) hslots ((h.kind right).trans right_kind)
  | .range hrange, h => .range (by rwa [h.map_kind])
  | @ClauseDerives.values _ left right ts group left_kind hgroup right_kind, h => by
    have hgroup' : ValuesDerive ((ts.map f).map Token.kind) group := by rwa [h.map_kind]
    simpa using @ClauseDerives.values source' _ _ _ _ ((h.kind left).trans left_kind) hgroup'
      ((h.kind right).trans right_kind)
  | .pattern kind compiles, h => .pattern ((h.kind _).trans kind) compiles
  | .marker hmarker, h => .marker (by rwa [h.map_kind])

private theorem SlotsDerive.moved {ts : List Token} {ps : List Param} : SlotsDerive source ts ps →
    Moves f source source' ts → SlotsDerive source' (ts.map f) ps
  | .last hslot, h => .last (SlotDerives.moved hslot h)
  | @SlotsDerive.more _ ts us comma p ps hslot comma_kind others, h => by
    rw [List.map_append, List.map_cons]
    have hothers : Moves f source source' us := h.mono ⟨ts ++ [comma], [], by simp⟩
    exact .more (SlotDerives.moved hslot h.left) ((h.kind comma).trans comma_kind) (SlotsDerive.moved others hothers)

private theorem SlotDerives.moved {ts : List Token} {p : Param} : SlotDerives source ts p →
    Moves f source source' ts → SlotDerives source' (ts.map f) p
  | .blank, _ => .blank
  | .literal kind, h => .literal ((h.kind _).trans kind)
  | .rule hrule, h => .rule (Rule.Derives.moved hrule h)

end

/-! ### Cuts of tiled texts -/

/-- The token in the text from an offset on. -/
def Token.rebase (a : Nat) (t : Token) : Token :=
  { t with start := t.start - a, stop := t.stop - a }

private theorem lastStop_map_rebase (a n : Nat) (ts : List Token) :
    lastStop (n - a) (ts.map (Token.rebase a)) = lastStop n ts - a := by
  rw [lastStop, lastStop, List.getLast?_map]
  cases ts.getLast? <;> rfl

namespace Lexer

open Text (isBlank allBlank byteLength)

variable {off a : Nat} {c : Char} {cs front back : List Char} {t : Token} {mode : Mode}

private theorem Tiles.rebase (h : Tiles (a + off) cs ts) : Tiles off cs (ts.map (Token.rebase a)) := by
  generalize hoff : a + off = off' at h
  induction h generalizing off with
  | nil blank => exact .nil blank
  | @cons _ blanks body rest kind ts blank nonempty lexes ends more ih =>
    subst hoff
    have hmore := @ih (off + byteLength blanks + byteLength body) (by omega)
    have htoken : Token.rebase a ⟨kind, a + off + byteLength blanks, a + off + byteLength blanks + byteLength body⟩ =
        ⟨kind, off + byteLength blanks, off + byteLength blanks + byteLength body⟩ := by
      simp only [Token.rebase, Token.mk.injEq, true_and]
      omega
    rw [List.map_cons, htoken]
    exact .cons blank nonempty lexes ends hmore

/-- Tokens move from a text to the cut that they tile. -/
private theorem Tiles.moves (h : Tiles (byteLength front) cs ts) :
    Moves (Token.rebase (byteLength front)) (front ++ (cs ++ back)) cs ts where
  kind _ := rfl
  chars us hus := by
    obtain ⟨before, after, rfl⟩ := hus
    cases us with
    | nil => rfl
    | cons t us =>
      rw [List.append_assoc] at h
      obtain ⟨gap, middle, rest, rfl, hstart, hstop, -⟩ := h.cut_out
      have hstop' : lastStop (t.stop - byteLength front) (us.map (Token.rebase (byteLength front))) =
          byteLength gap + byteLength middle := by
        rw [lastStop_map_rebase]
        omega
      have hstart' : t.start - byteLength front = byteLength gap := by omega
      -- The tokens stand at the middle, in the cut as well as in the text around it.
      calc sourceOf (gap ++ (middle ++ rest)) ((t :: us).map (Token.rebase (byteLength front)))
        _ = Text.slice (byteLength gap) (byteLength gap + byteLength middle) (gap ++ middle ++ rest) := by
          rw [List.map_cons, sourceOf, Token.rebase, hstop', hstart', List.append_assoc]
        _ = middle := Text.slice_append_append ..
        _ = Text.slice (byteLength (front ++ gap)) (byteLength (front ++ gap) + byteLength middle)
            (front ++ gap ++ middle ++ (rest ++ back)) := (Text.slice_append_append ..).symm
        _ = sourceOf (front ++ (gap ++ (middle ++ rest) ++ back)) (t :: us) := by
          rw [sourceOf, ← hstop, ← hstart, Text.byteLength_append]
          simp only [List.append_assoc]

/-- Inside a token, a character completes none of a single character. -/
private theorem step_char? (hmode : mode ≠ .between) (off : Nat) (c : Char) :
    ((mode.step off c).1 = [] ∧ (mode.step off c).2 ≠ .between) ∨
      ∃ t ts, (mode.step off c).1 = t :: ts ∧ t.kind.char? = none := by
  cases mode with
  | between => exact absurd rfl hmode
  | literal start text =>
    by_cases hc : (isBlank c || isDelimiter c) = true
    · simp only [Mode.step, hc, if_true]
      exact .inr ⟨_, _, rfl, rfl⟩
    · simp only [Mode.step, hc]
      exact .inl ⟨rfl, by simp⟩
  | quoted start quote escaped text =>
    cases escaped <;> simp only [Mode.step] <;> repeat' split
    all_goals first | exact .inl ⟨rfl, by simp⟩ | exact .inr ⟨_, _, rfl, rfl⟩
  | pattern start escaped text =>
    cases escaped <;> simp only [Mode.step] <;> repeat' split
    all_goals first | exact .inl ⟨rfl, by simp⟩ | exact .inr ⟨_, _, rfl, rfl⟩

/-- A token that the scanner is inside of is none of a single character. -/
private theorem char?_of_scan (hmode : mode ≠ .between) (h : scan mode off cs = .ok (t :: ts)) :
    t.kind.char? = none := by
  induction cs generalizing mode off with
  | nil =>
    cases mode with
    | between => exact absurd rfl hmode
    | literal => cases h; rfl
    | quoted | pattern => cases h
  | cons c cs ih =>
    obtain ⟨more, hmore, hts⟩ := scan_cons_eq_ok h
    obtain ⟨hnone, hmode'⟩ | ⟨u, us, hdone, hu⟩ := step_char? hmode off c
    · rw [hnone, List.nil_append] at hts
      exact ih hmode' (hts ▸ hmore)
    · rw [hdone] at hts
      exact (List.cons.inj hts).1 ▸ hu

/-- A token of a single character stands at this character. -/
private theorem Tiles.head?_of_char? (h : Tiles t.start cs (t :: ts)) (hc : t.kind.char? = some c) :
    cs.head? = some c := by
  have hscan := h.scan
  cases cs with
  | nil => cases hscan
  | cons d cs =>
    obtain ⟨more, hmore, hts⟩ := scan_cons_eq_ok hscan
    obtain hblank | ⟨kind, hkind⟩ | ⟨mode, hmode, henter⟩ := enter_cases d
    · -- Behind a blank the token would begin later.
      rw [Mode.step, enter_blank hblank] at hmore hts
      obtain rfl : t :: ts = more := hts
      obtain ⟨_, _, _, -, hstart, -⟩ := (tiles_of_scan hmore).span_of_mem List.mem_cons_self
      have hd := d.utf8Size_pos
      omega
    · have hlexes := lexes_char hkind t.start cs fun text htext => by cases htext ▸ hkind
      rw [List.singleton_append, hscan] at hlexes
      cases hrest : Lexer.scan .between (t.start + byteLength [d]) cs with
      | error fault =>
        rw [hrest] at hlexes
        cases hlexes
      | ok us =>
        rw [hrest] at hlexes
        have htoken : t.kind = kind := congrArg Token.kind (List.cons.inj (Except.ok.inj hlexes)).1
        rw [htoken] at hc
        exact hkind.symm.trans hc
    · rw [Mode.step, henter] at hmore hts
      obtain rfl : t :: ts = more := hts
      have hnone := char?_of_scan (by cases hmode <;> simp) hmore
      cases hnone.symm.trans hc

private theorem isBlank_of_isFence (h : IsFence c) : isBlank c = false := by
  rcases h with rfl | rfl | rfl <;> rfl

/-- A blank behind a text completes no token that its end does not complete. -/
private theorem scan_of_scan_snoc (hmode : mode.Fenced) (hc : isBlank c = true)
    (h : scan mode off (cs ++ [c]) = .ok ts) : scan mode off cs = .ok ts := by
  induction cs generalizing mode off ts with
  | nil =>
    obtain ⟨more, hmore, rfl⟩ := scan_cons_eq_ok h
    cases hfault : mode.fault? with
    | some f =>
      -- A blank closes neither quotes nor a pattern, so the longer text breaks off too.
      obtain ⟨-, hinside | ⟨-, hfence⟩⟩ := step_inside hmode hfault off c
      · cases hmore.symm.trans (scan_eq_error_iff.2 hinside)
      · cases hc.symm.trans (isBlank_of_isFence hfence)
    | none =>
      cases mode with
      | between =>
        simp only [Mode.step, enter_blank hc] at hmore ⊢
        exact hmore
      | literal start text =>
        simp only [Mode.step, hc, enter_blank hc, Bool.true_or, if_true] at hmore ⊢
        obtain rfl := Except.ok.inj hmore
        rfl
      | quoted | pattern => cases hfault
  | cons d cs ih =>
    obtain ⟨more, hmore, rfl⟩ := scan_cons_eq_ok h
    rw [scan_cons, ih (fenced_step hmode off d) hmore]
    rfl

/-- The last token does not end with a blank. -/
private theorem Tiles.isBlank_last (h : Tiles off (cs ++ [c]) ts)
    (hts : lastStop off ts = off + byteLength (cs ++ [c])) : isBlank c = false := by
  by_contra hc
  have hcs := tiles_of_scan (scan_of_scan_snoc trivial (eq_true_of_ne_false hc) h.scan)
  rw [← List.append_nil ts] at hcs
  obtain ⟨front, back, rfl, hstop, -, -⟩ := hcs.cut_behind
  have hpos := c.utf8Size_pos
  simp only [Text.byteLength_append, Text.byteLength_cons, Text.byteLength_nil] at hts
  omega

end Lexer

namespace Rule

open Lexer (Tiles)
open Text (byteLength)

variable {text : String} {r p q : Rule}

private theorem Derives.raw_eq (h : r.Derives source ts) : r.raw.toList = sourceOf source ts := by
  cases h with
  | rule => rw [raw_ofClauses, String.toList_ofList, sourceOf, RuleReader.lastStop_cons]

/-- The tokens of a rule tile its source text, which begins with the at sign and ends with the last token. -/
private theorem Derives.cut (h : r.Derives source ts) (htiles : Tiles 0 source (before ++ (ts ++ after))) :
    ∃ front back, source = front ++ (r.raw.toList ++ back) ∧ Tiles 0 front before ∧
      Tiles (byteLength front) r.raw.toList ts ∧ Tiles (byteLength front + byteLength r.raw.toList) back after ∧
      r.raw.toList.head? = some '@' ∧ ∀ c ∈ r.raw.toList.getLast?, Text.isBlank c = false := by
  have hraw := h.raw_eq
  obtain ⟨sign, us, rfl, hsign, -⟩ := h.comes
  obtain ⟨front, middle, back, rfl, hstart, hstop, hfront, hmiddle, hback⟩ := htiles.cut_out
  rw [Nat.zero_add] at hstart
  rw [sourceOf, ← hstop, ← hstart, ← List.append_assoc, Text.slice_append_append] at hraw
  rw [hraw]
  have hhead : middle.head? = some '@' := hmiddle.head?_of_char? (by rw [hsign]; rfl)
  have hlast : ∀ c ∈ middle.getLast?, Text.isBlank c = false := by
    intro c hc
    obtain ⟨cs, rfl⟩ := List.getLast?_eq_some_iff.1 hc
    refine hmiddle.isBlank_last ?_
    rw [RuleReader.lastStop_cons, hstop]
  rw [← hstop, ← hstart] at hback
  rw [← hstart] at hmiddle
  exact ⟨front, back, rfl, hfront, hmiddle, hback, hhead, hlast⟩

/-- The source text of a rule reads as the rule. -/
private theorem Derives.reads_raw (h : r.Derives source ts) (htiles : Tiles 0 source (before ++ (ts ++ after))) :
    parse r.raw = .ok r := by
  obtain ⟨front, back, rfl, -, hraw, -⟩ := h.cut htiles
  have htiles' : Tiles 0 r.raw.toList (ts.map (Token.rebase (byteLength front))) := hraw.rebase
  refine (parse_eq_ok_iff_derives r.raw r).2 ⟨_, tokenize_eq_ok_iff.2 ⟨_, htiles'.scan, rfl⟩, ?_⟩
  exact h.moved hraw.moves

private theorem exists_derives_of_parse (h : parse text = .ok r) :
    ∃ ts, Tiles 0 text.toList ts ∧ r.Derives text.toList ts := by
  obtain ⟨ts, hts, hderives⟩ := (parse_eq_ok_iff_derives text r).1 h
  exact ⟨ts, Lexer.tiles_of_scan (tokens_of_tokenize hts), hderives⟩

/-- A text that is read as a rule has blanks around a cut that is read as the rule too: its source text. -/
theorem exists_cut_of_parse (h : parse text = .ok r) : ∃ front back, text.toList = front ++ (r.raw.toList ++ back) ∧
    Text.allBlank front = true ∧ Text.allBlank back = true ∧ r.raw.toList.head? = some '@' ∧
    (∀ c ∈ r.raw.toList.getLast?, Text.isBlank c = false) ∧ parse r.raw = .ok r := by
  obtain ⟨ts, htiles, hderives⟩ := exists_derives_of_parse h
  have htiles' : Tiles 0 text.toList ([] ++ (ts ++ [])) := by rwa [List.nil_append, List.append_nil]
  obtain ⟨front, back, htext, hfront, -, hback, hhead, hlast⟩ := hderives.cut htiles'
  cases hfront with
  | nil hfront =>
    cases hback with
    | nil hback => exact ⟨front, back, htext, hfront, hback, hhead, hlast, hderives.reads_raw htiles'⟩

private theorem raw_eq_trim (h : parse text = .ok r) : r.raw.toList = Text.trim text.toList := by
  obtain ⟨front, back, htext, hfront, hback, hhead, hlast, -⟩ := exists_cut_of_parse h
  have hsign : ∀ c ∈ r.raw.toList.head?, Text.isBlank c = false := by
    intro c hc
    obtain rfl := Option.some.inj (hhead.symm.trans hc)
    rfl
  have hraw : r.raw.toList ≠ [] := by
    intro hnil
    rw [hnil] at hhead
    cases hhead
  rw [htext, Text.trim_append_append hfront hback hraw hsign hlast]

private theorem raw_of_parse (h : parse text = .ok r) :
    r.raw.toList <:+: text.toList ∧ r.raw.toList.head? = some '@' ∧ parse r.raw = .ok r := by
  obtain ⟨front, back, htext, -, -, hhead, -, hparse⟩ := exists_cut_of_parse h
  exact ⟨⟨front, back, by rw [htext, List.append_assoc]⟩, hhead, hparse⟩

/-- A text that is read as a rule has a cut for each of its params that is a rule. -/
private theorem raw_of_mem_params (h : parse text = .ok r) (hp : .rule p ∈ r.params) :
    p.raw.toList <:+: text.toList ∧ p.raw.toList.head? = some '@' ∧ parse p.raw = .ok p := by
  obtain ⟨ts, htiles, hderives⟩ := exists_derives_of_parse h
  obtain ⟨us, ⟨before, after, rfl⟩, hparam⟩ := hderives.param hp
  rw [List.append_assoc] at htiles
  obtain ⟨front, back, htext, -, -, -, hhead, -⟩ := hparam.cut htiles
  exact ⟨⟨front, back, by rw [htext, List.append_assoc]⟩, hhead, hparam.reads_raw htiles⟩

theorem raw_of_within (h : parse text = .ok r) (hq : q.Within r) :
    q.raw.toList <:+: r.raw.toList ∧ q.raw.toList.head? = some '@' ∧ parse q.raw = .ok q := by
  induction hq generalizing text with
  | self =>
    obtain ⟨-, hhead, hparse⟩ := raw_of_parse h
    exact ⟨List.infix_rfl, hhead, hparse⟩
  | param inner hp ih =>
    -- The rule around it reads from its own source text, of which the param has a cut.
    obtain ⟨-, -, hparse⟩ := raw_of_parse h
    obtain ⟨hcut, -, hparam⟩ := raw_of_mem_params hparse hp
    obtain ⟨hinner, hrest⟩ := ih hparam
    exact ⟨hinner.trans hcut, hrest⟩

/-- The source text of a rule is the text it was read from without the blanks around it. That of each rule inside of
it is cut out of the text of the rule around it, begins with an at sign and reads as the very same rule. -/
theorem parse_raw (h : parse text = .ok r) :
    r.raw.toList = Text.trim text.toList ∧
      ∀ q, q.Within r → q.raw.toList <:+: text.toList ∧ q.raw.toList.head? = some '@' ∧ parse q.raw = .ok q ∧
        ∀ p, .rule p ∈ q.params → p.raw.toList <:+: q.raw.toList := by
  refine ⟨raw_eq_trim h, fun q hq => ?_⟩
  obtain ⟨hcut, hhead, hparse⟩ := raw_of_within h hq
  exact ⟨hcut.trans (raw_of_parse h).1, hhead, hparse, fun p hp => (raw_of_mem_params hparse hp).1⟩

/-- Characters of two and three bytes around and inside of rules two levels deep. -/
theorem parse_raw_nested :
    let c : Rule := { named "c" with
      raw := "@c [1,2]?", range := some (.span (some "1") (some "2") false false), presence := .optional }
    let b : Rule := { named "b" with raw := "@b<@c [1,2]?>= 'ü'", params := [.rule c], presence := .default "ü" }
    let a : Rule := { named "a" with raw := "@a<é, @b<@c [1,2]?>= 'ü' >", params := [.literal "é", .rule b] }
    parse "\u2003@a<é, @b<@c [1,2]?>= 'ü' > \n" = .ok a ∧
      a.raw.toList = Text.trim "\u2003@a<é, @b<@c [1,2]?>= 'ü' > \n".toList ∧
      parse a.raw = .ok a ∧ parse b.raw = .ok b ∧ parse c.raw = .ok c ∧ c.raw.toList <:+: b.raw.toList := by
  intro c b a
  have hparse : parse "\u2003@a<é, @b<@c [1,2]?>= 'ü' > \n" = .ok a := rfl
  have hb : b.Within a := .param .self (List.mem_cons_of_mem _ List.mem_cons_self)
  have hc : c.Within a := .param (.param .self List.mem_cons_self) (List.mem_cons_of_mem _ List.mem_cons_self)
  obtain ⟨htrim, hwithin⟩ := parse_raw hparse
  obtain ⟨-, -, hparseb, hparams⟩ := hwithin b hb
  exact ⟨hparse, htrim, (hwithin a .self).2.2.1, hparseb, (hwithin c hc).2.2.1, hparams c List.mem_cons_self⟩

end Rule

end FieldRules
