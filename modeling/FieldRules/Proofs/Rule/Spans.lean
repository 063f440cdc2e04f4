import FieldRules.Proofs.Rule.Tiling
import Mathlib.Data.List.Induction

/-!
# Where tokens stand

Every token of a text has a span of its own: spans come in order with blanks between them, and the characters of a
span are that token by themselves (`Lexer.Tiling`). A text without tokens ends inside of a quoted value or a pattern.
Quotes and slashes are the only characters that lead in or out of one (`Lexer.IsFence`), so the text can be cut where
it was opened, and only a fence behind the text can close it.
-/

namespace FieldRules

namespace Lexer

open Text (isBlank allBlank byteLength)

variable {off : Nat} {c : Char} {cs body : List Char} {kind : TokenKind} {t : Token} {ts : List Token}
  {mode : Mode} {f : Fault}

/-! ### Spans -/

/-- A text that tokens tile is scanned as these tokens. -/
theorem Tiles.scan (h : Tiles off cs ts) : scan .between off cs = .ok ts := by
  induction h with
  | @nil off blanks blank =>
    have hscan := scan_blanks blank off []
    rwa [List.append_nil] at hscan
  | cons blank nonempty lexes ends more ih =>
    rw [scan_blanks blank, lexes _ _ ends, ih]
    rfl

/-- By themselves the characters of a token are that token. -/
theorem Lexes.tokenize (h : Lexes body kind) :
    tokenize (String.ofList body) = .ok [⟨kind, 0, byteLength body⟩, endToken body] := by
  have hends : EndsAt kind [] := fun _ _ _ hc => absurd hc (Option.not_mem_none _)
  have hscan := h 0 [] hends
  rw [List.append_nil, Nat.zero_add] at hscan
  have htokens : tokens body = .ok [⟨kind, 0, byteLength body⟩] := hscan
  rw [FieldRules.tokenize, String.toList_ofList, htokens]
  rfl

/-- A token stands at characters of its own. -/
theorem Tiles.span_of_mem (h : Tiles off cs ts) (ht : t ∈ ts) :
    ∃ front body back, cs = front ++ (body ++ back) ∧ t.start = off + byteLength front ∧
      t.stop = t.start + byteLength body ∧ body ≠ [] ∧ Lexes body t.kind := by
  induction h with
  | nil => cases ht
  | @cons off blanks body rest kind ts blank nonempty lexes ends more ih =>
    rcases List.mem_cons.1 ht with rfl | ht
    · exact ⟨blanks, body, rest, rfl, rfl, rfl, nonempty, lexes⟩
    · obtain ⟨front, body', back, rfl, hstart, hrest⟩ := ih ht
      refine ⟨blanks ++ (body ++ front), body', back, by simp, ?_, hrest⟩
      simp [hstart, Nat.add_assoc]

private theorem Tiles.ordered (h : Tiles off cs ts) : ts.Pairwise fun t u => t.stop ≤ u.start := by
  induction h with
  | nil => exact .nil
  | cons blank nonempty lexes ends more ih =>
    refine .cons (fun u hu => ?_) ih
    obtain ⟨front, -, -, -, hstart, -⟩ := more.span_of_mem hu
    exact hstart ▸ Nat.le_add_right _ _

/-- In front of each token there are blanks only, back to the token before, and behind the last one too. -/
private theorem Tiles.blank_between {before after : List Token} (h : Tiles 0 cs ts)
    (hts : ts ++ [endToken cs] = before ++ t :: after) :
    allBlank (Text.slice (lastStop 0 before) t.start cs) = true := by
  have hgap {front blanks back : List Char} {start : Nat} (hcs : cs = front ++ blanks ++ back)
      (hfront : 0 + byteLength front = lastStop 0 before) (hblank : allBlank blanks = true)
      (hstart : start = lastStop 0 before + byteLength blanks) :
      allBlank (Text.slice (lastStop 0 before) start cs) = true := by
    rwa [hcs, hstart, ← hfront, Nat.zero_add, Text.slice_append_append]
  rcases List.eq_nil_or_concat after with rfl | ⟨after, last, rfl⟩
  · -- The token is the one for the end of the text, and all others are in front of it.
    obtain ⟨rfl, hlast⟩ := List.append_inj' hts rfl
    obtain rfl := List.singleton_inj.1 hlast
    rw [← List.append_nil ts] at h
    obtain ⟨front, back, rfl, hfront, -, hback⟩ := h.cut_behind
    cases hback with
    | nil blank => exact hgap (List.append_nil _).symm hfront blank (by simp [endToken, ← hfront])
  · rw [List.concat_eq_append, ← List.cons_append, ← List.append_assoc] at hts
    obtain ⟨rfl, -⟩ := List.append_inj' hts rfl
    obtain ⟨front, back, rfl, hfront, -, hback⟩ := h.cut_behind
    cases hback with
    | cons blank nonempty lexes ends more => exact hgap (List.append_assoc ..).symm hfront blank rfl

/-- Tokens tile a text: each has a span, at whose characters it stands by itself; spans come in order; and in front of
each span, back to the one before, and behind the last one there are blanks only. -/
structure Tiling (source : List Char) (ts : List Token) : Prop where
  span : ∀ t ∈ ts, ∃ front body back, source = front ++ (body ++ back) ∧ t.start = byteLength front ∧
    t.stop = byteLength (front ++ body) ∧ body ≠ [] ∧
    tokenize (String.ofList body) = .ok [⟨t.kind, 0, byteLength body⟩, endToken body]
  ordered : ts.Pairwise fun t u => t.stop ≤ u.start
  blank : ∀ before t after, ts ++ [endToken source] = before ++ t :: after →
    allBlank (Text.slice (lastStop 0 before) t.start source) = true

private theorem Tiles.tiling (h : Tiles 0 cs ts) : Tiling cs ts where
  span t ht := by
    obtain ⟨front, body, back, hcs, hstart, hstop, hbody, hlexes⟩ := h.span_of_mem ht
    rw [Nat.zero_add] at hstart
    exact ⟨front, body, back, hcs, hstart, by rw [hstop, hstart, Text.byteLength_append], hbody, hlexes.tokenize⟩
  ordered := h.ordered
  blank _ _ _ hts := h.blank_between hts

/-! ### Texts that break off -/

/-- The characters that open quoted values and patterns, and close them. -/
def IsFence (c : Char) : Prop :=
  c = '\'' ∨ c = '"' ∨ c = '/'

/-- Whether a quoted value was opened by a fence. -/
def Mode.Fenced : Mode → Prop
  | quoted _ quote _ _ => IsFence quote
  | _ => True

/-- The fault of a text that ends in this mode. -/
def Mode.fault? : Mode → Option Fault
  | between | literal .. => none
  | quoted start .. => some ⟨start, .unterminatedQuote⟩
  | pattern start .. => some ⟨start, .unterminatedPattern⟩

/-- The mode behind characters. -/
def Mode.after : Mode → Nat → List Char → Mode
  | mode, _, [] => mode
  | mode, off, c :: cs => after (mode.step off c).2 (off + c.utf8Size) cs

private theorem after_append (mode : Mode) (off : Nat) (cs ds : List Char) :
    mode.after off (cs ++ ds) = (mode.after off cs).after (off + byteLength cs) ds := by
  induction cs generalizing mode off with
  | nil => rfl
  | cons c cs ih => rw [List.cons_append, Mode.after, ih, Mode.after, Text.byteLength_cons, Nat.add_assoc]

/-- A scan fails where it ends, by the mode that it ends in. -/
theorem scan_eq_error_iff : scan mode off cs = .error f ↔ (mode.after off cs).fault? = some f := by
  induction cs generalizing mode off with
  | nil => cases mode <;> simp [scan, Mode.finish, Mode.after, Mode.fault?]
  | cons c cs ih =>
    rw [Mode.after, ← ih, scan_cons]
    cases scan (mode.step off c).2 (off + c.utf8Size) cs <;> simp [Except.map]

private theorem exists_scan_of_fault? (h : (mode.after off cs).fault? = none) : ∃ ts, scan mode off cs = .ok ts := by
  cases hscan : scan mode off cs with
  | ok ts => exact ⟨ts, rfl⟩
  | error f => simp [scan_eq_error_iff.1 hscan] at h

/-- Outside of quoted values and patterns, only a fence leads into one. -/
private theorem step_outside (h : mode.fault? = none) (off : Nat) (c : Char) :
    (mode.step off c).2.Fenced ∧ ∀ f ∈ (mode.step off c).2.fault?, f.offset = off ∧ IsFence c := by
  have henter : (enter off c).2.Fenced ∧ ∀ f ∈ (enter off c).2.fault?, f.offset = off ∧ IsFence c := by
    unfold enter
    split
    · exact ⟨trivial, by simp [Mode.fault?]⟩
    · split
      · exact ⟨trivial, by simp [Mode.fault?]⟩
      · split
        next hquote =>
          have hfence : IsFence c := hquote.imp_right .inl
          exact ⟨hfence, by rintro _ ⟨⟩; exact ⟨rfl, hfence⟩⟩
        · split
          next hslash => exact ⟨trivial, by rintro _ ⟨⟩; exact ⟨rfl, .inr (.inr hslash)⟩⟩
          · exact ⟨trivial, by simp [Mode.fault?]⟩
  cases mode with
  | between => exact henter
  | literal start text =>
    simp only [Mode.step]
    split
    · exact henter
    · exact ⟨trivial, by simp [Mode.fault?]⟩
  | quoted | pattern => cases h

/-- Inside of a quoted value or a pattern, only a fence leads out of it. -/
theorem step_inside (hmode : mode.Fenced) (h : mode.fault? = some f) (off : Nat) (c : Char) :
    (mode.step off c).2.Fenced ∧
      ((mode.step off c).2.fault? = some f ∨ ((mode.step off c).2.fault? = none ∧ IsFence c)) := by
  cases mode with
  | between | literal => cases h
  | quoted start quote escaped text =>
    cases escaped with
    | true =>
      simp only [Mode.step]
      split <;> exact ⟨hmode, .inl h⟩
    | false =>
      simp only [Mode.step]
      split
      · exact ⟨hmode, .inl h⟩
      · split
        next hquote => exact ⟨trivial, .inr ⟨rfl, hquote ▸ hmode⟩⟩
        · exact ⟨hmode, .inl h⟩
  | pattern start escaped text =>
    cases escaped with
    | true =>
      simp only [Mode.step]
      split <;> exact ⟨hmode, .inl h⟩
    | false =>
      simp only [Mode.step]
      split
      · exact ⟨hmode, .inl h⟩
      · split
        next hslash => exact ⟨trivial, .inr ⟨rfl, .inr (.inr hslash)⟩⟩
        · exact ⟨hmode, .inl h⟩

theorem fenced_step (hmode : mode.Fenced) (off : Nat) (c : Char) : (mode.step off c).2.Fenced := by
  cases h : mode.fault? with
  | none => exact (step_outside h off c).1
  | some f => exact (step_inside hmode h off c).1

private theorem fenced_after (hmode : mode.Fenced) (off : Nat) (cs : List Char) : (mode.after off cs).Fenced := by
  induction cs generalizing mode off with
  | nil => exact hmode
  | cons c cs ih => exact ih (fenced_step hmode off c) _

private theorem fenced_between (off : Nat) (cs : List Char) : (Mode.between.after off cs).Fenced :=
  fenced_after (show Mode.between.Fenced from trivial) off cs

/-- As long as no fence comes, the scanner stays inside. -/
private theorem fault?_after_of_not_isFence (hmode : mode.Fenced) (h : mode.fault? = some f)
    (hcs : ∀ c ∈ cs, ¬ IsFence c) : (mode.after off cs).fault? = some f := by
  induction cs generalizing mode off with
  | nil => exact h
  | cons c cs ih =>
    obtain ⟨hc, hcs⟩ := List.forall_mem_cons.1 hcs
    obtain ⟨hfenced, hinside | ⟨-, hfence⟩⟩ := step_inside hmode h off c
    · exact ih hfenced hinside hcs
    · exact absurd hfence hc

/-- A text that breaks off can be cut in front of the fence that was not closed. -/
private theorem exists_fence (h : (Mode.between.after 0 cs).fault? = some f) :
    ∃ front c back, cs = front ++ c :: back ∧ byteLength front = f.offset ∧ IsFence c ∧
      (Mode.between.after 0 front).fault? = none := by
  induction cs using List.reverseRecOn with
  | nil => cases h
  | append_singleton cs c ih =>
    rw [after_append, Nat.zero_add] at h
    cases hcs : (Mode.between.after 0 cs).fault? with
    | none =>
      obtain ⟨hoffset, hfence⟩ := (step_outside hcs (byteLength cs) c).2 f h
      exact ⟨cs, c, [], rfl, hoffset.symm, hfence, hcs⟩
    | some g =>
      obtain ⟨-, hinside | ⟨hnone, -⟩⟩ := step_inside (fenced_between 0 cs) hcs (byteLength cs) c
      · obtain rfl : g = f := Option.some.inj (hinside.symm.trans h)
        obtain ⟨front, d, back, rfl, hfront⟩ := ih hcs
        exact ⟨front, d, back ++ [c], by simp, hfront⟩
      · cases hnone.symm.trans h

end Lexer

open Lexer (IsFence Tiling)

private theorem tokenize_eq_error_iff {text : String} {e : SyntaxError} :
    tokenize text = .error e ↔ Lexer.tokens text.toList = .error e.toFault ∧ e.rule = text := by
  obtain ⟨f, rule⟩ := e
  unfold tokenize
  cases Lexer.tokens text.toList <;> simp [eq_comm]

/-- The tokens of a text, of which the last one stands for its end, tile the text. A text that has none breaks off:
the error points at a quote or slash, the text in front of it has tokens, and no text behind it without quotes and
slashes changes that. -/
theorem tokenize_tiles (text : String) :
    (∀ ts, tokenize text = .ok ts → ∃ us, Tiling text.toList us ∧
      ts = us ++ [⟨.finish, Text.byteLength text.toList, Text.byteLength text.toList⟩]) ∧
    ∀ e, tokenize text = .error e → e.rule = text ∧
      (∃ front c back, text.toList = front ++ c :: back ∧ Text.byteLength front = e.offset ∧ IsFence c ∧
        ∃ ts, tokenize (String.ofList front) = .ok ts) ∧
      ∀ more : String, (∀ c ∈ more.toList, ¬ IsFence c) →
        tokenize (text ++ more) = .error { e with rule := text ++ more } := by
  constructor
  · intro ts h
    obtain ⟨us, hus, rfl⟩ := tokenize_eq_ok_iff.1 h
    exact ⟨us, (Lexer.tiles_of_scan hus).tiling, rfl⟩
  · intro e h
    obtain ⟨htokens, hrule⟩ := tokenize_eq_error_iff.1 h
    have hfault := Lexer.scan_eq_error_iff.1 htokens
    refine ⟨hrule, ?_, fun more hmore => ?_⟩
    · obtain ⟨front, c, back, htext, hoffset, hfence, hnone⟩ := Lexer.exists_fence hfault
      obtain ⟨ts, hts⟩ := Lexer.exists_scan_of_fault? hnone
      refine ⟨front, c, back, htext, hoffset, hfence, _, tokenize_eq_ok_iff.2 ⟨ts, ?_, rfl⟩⟩
      rwa [String.toList_ofList]
    · refine tokenize_eq_error_iff.2 ⟨Lexer.scan_eq_error_iff.2 ?_, rfl⟩
      rw [String.toList_append, Lexer.after_append]
      exact Lexer.fault?_after_of_not_isFence (Lexer.fenced_between 0 text.toList) hfault hmore

/-- Escapes and a character of two bytes inside of tokens; and a quote that an escape keeps open. -/
theorem tokenize_tiles_escaped :
    (∃ us, tokenize "@é/\\//= 'a\\'b' " = .ok (us ++ [⟨.finish, 16, 16⟩]) ∧
      Tiling "@é/\\//= 'a\\'b' ".toList us) ∧
    tokenize "@é='a\\' b" = .error ⟨⟨4, .unterminatedQuote⟩, "@é='a\\' b"⟩ ∧
    (∃ front c back, "@é='a\\' b".toList = front ++ c :: back ∧ Text.byteLength front = 4 ∧ IsFence c ∧
      ∃ ts, tokenize (String.ofList front) = .ok ts) ∧
    tokenize ("@é='a\\' b" ++ "[1,2]") = .error ⟨⟨4, .unterminatedQuote⟩, "@é='a\\' b" ++ "[1,2]"⟩ := by
  obtain ⟨ts, hts⟩ : ∃ ts, tokenize "@é/\\//= 'a\\'b' " = .ok ts := ⟨_, rfl⟩
  obtain ⟨us, hus, rfl⟩ := (tokenize_tiles "@é/\\//= 'a\\'b' ").1 ts hts
  have herror : tokenize "@é='a\\' b" = .error ⟨⟨4, .unterminatedQuote⟩, "@é='a\\' b"⟩ := rfl
  obtain ⟨-, hcut, hmore⟩ := (tokenize_tiles "@é='a\\' b").2 _ herror
  refine ⟨⟨us, hts, hus⟩, herror, hcut, hmore "[1,2]" ?_⟩
  simp [IsFence]

end FieldRules
