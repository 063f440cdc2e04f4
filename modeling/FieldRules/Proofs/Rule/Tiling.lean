import FieldRules.Proofs.Rule.Acceptance
import FieldRules.Text.Bytes

/-!
# Tokens tile the text

A text that has tokens is made of their bodies in order with blanks between them (`Lexer.tiles_of_scan`), and each
body is scanned as its token by itself (`Lexer.Lexes`). So a text can be cut in front of any of its tokens, and each
piece is read as the tokens in it (`Lexer.Tiles.cut`).
-/

namespace FieldRules.Lexer

open Text (isBlank allBlank byteLength)

/-- Whether a token of this kind can end in front of these characters. -/
def EndsAt (kind : TokenKind) (rest : List Char) : Prop :=
  ∀ text, kind = .literal text → Closes rest

/-- Wherever they stand, the characters are scanned as one token of this kind, and the scanner goes on behind them. -/
def Lexes (body : List Char) (kind : TokenKind) : Prop :=
  ∀ off rest, EndsAt kind rest → scan .between off (body ++ rest) =
    (scan .between (off + byteLength body) rest).map (⟨kind, off, off + byteLength body⟩ :: ·)

/-- From an offset on, the characters are the bodies of these tokens with blanks around them. -/
inductive Tiles : Nat → List Char → List Token → Prop
  | nil {off : Nat} {blanks : List Char} (blank : allBlank blanks = true) : Tiles off blanks []
  | cons {off : Nat} {blanks body rest : List Char} {kind : TokenKind} {ts : List Token}
      (blank : allBlank blanks = true) (nonempty : body ≠ []) (lexes : Lexes body kind) (ends : EndsAt kind rest)
      (more : Tiles (off + byteLength blanks + byteLength body) rest ts) :
      Tiles off (blanks ++ (body ++ rest))
        (⟨kind, off + byteLength blanks, off + byteLength blanks + byteLength body⟩ :: ts)

/-! ### Tokens under way -/

/-- Behind these characters the scanner is in a mode that depends on where they began. -/
def Opens (front : List Char) (mode : Nat → Mode) : Prop :=
  ∀ off rest, scan .between off (front ++ rest) = scan (mode off) (off + byteLength front) rest

/-- The modes inside a token. -/
inductive UnderWay : (Nat → Mode) → Prop
  | literal (text : List Char) : UnderWay fun off => .literal off text
  | quoted (quote : Char) (escaped : Bool) (text : List Char) : UnderWay fun off => .quoted off quote escaped text
  | pattern (escaped : Bool) (text : List Char) : UnderWay fun off => .pattern off escaped text

variable {front cs : List Char} {c : Char} {kind : TokenKind} {mode mode' : Nat → Mode}

private theorem Opens.snoc (h : Opens front mode) (hstep : ∀ off offset, (mode off).step offset c = ([], mode' off)) :
    Opens (front ++ [c]) mode' := by
  intro off rest
  rw [List.append_assoc, h, List.singleton_append, scan_cons, hstep]
  simp only [List.nil_append, Nat.add_assoc, Text.byteLength_append, Text.byteLength_cons, Text.byteLength_nil,
    Nat.add_zero]
  cases scan (mode' off) (off + (byteLength front + c.utf8Size)) rest <;> rfl

/-- A character that completes a token. -/
private theorem Opens.lexes (h : Opens front mode)
    (hstep : ∀ off offset, (mode off).step offset c = ([⟨kind, off, offset + c.utf8Size⟩], .between)) :
    Lexes (front ++ [c]) kind := by
  intro off rest _
  rw [List.append_assoc, h, List.singleton_append, scan_cons, hstep]
  simp only [Text.byteLength_append, Text.byteLength_cons, Text.byteLength_nil, Nat.add_zero, Nat.add_assoc]
  rfl

/-- A literal is completed by what follows it. -/
private theorem Opens.literal {text : List Char} (h : Opens front fun off => .literal off text) :
    Lexes front (.literal (textOf text)) := by
  intro off rest hends
  rw [h]
  cases rest with
  | nil => rfl
  | cons c rest =>
    have hc : (isBlank c || isDelimiter c) = true := by simpa using hends _ rfl c rfl
    rw [scan_cons, scan_cons]
    simp only [Mode.step, hc, if_true]
    cases scan (enter (off + byteLength front) c).2 (off + byteLength front + c.utf8Size) rest <;> rfl

theorem lexes_char (h : kind.char? = some c) : Lexes [c] kind := by
  intro off rest _
  rw [List.singleton_append, scan_cons]
  have henter : enter off c = ([⟨kind, off, off + c.utf8Size⟩], .between) := by
    unfold enter
    rw [TokenKind.ofChar?_eq_some_iff.2 h]
    cases kind <;> first | (obtain rfl := Option.some.inj h; rfl) | cases h
  simp only [Mode.step, henter, Text.byteLength_cons, Text.byteLength_nil, Nat.add_zero]
  rfl

/-- The mode behind the first character of a token that is no token by itself. -/
private theorem opens_of_enter (h : ∀ off, enter off c = ([], mode off)) : Opens [c] mode := by
  intro off rest
  rw [List.singleton_append, scan_cons]
  simp only [Mode.step, h, List.nil_append, Text.byteLength_cons, Text.byteLength_nil, Nat.add_zero]
  cases scan (mode off) (off + c.utf8Size) rest <;> rfl

/-- A character between tokens is a blank, a token, or the first one of a token. -/
theorem enter_cases (c : Char) :
    isBlank c = true ∨ (∃ kind : TokenKind, kind.char? = some c) ∨
      ∃ mode, UnderWay mode ∧ ∀ off, enter off c = ([], mode off) := by
  by_cases hblank : isBlank c = true
  · exact .inl hblank
  cases hkind : TokenKind.ofChar? c with
  | some kind => exact .inr (.inl ⟨kind, TokenKind.ofChar?_eq_some_iff.1 hkind⟩)
  | none =>
    refine .inr (.inr ?_)
    unfold enter
    simp only [hblank, Bool.false_eq_true, if_false, hkind]
    by_cases hquote : c = '\'' ∨ c = '"'
    · exact ⟨_, .quoted c false [], fun off => by rw [if_pos hquote]⟩
    by_cases hslash : c = '/'
    · exact ⟨_, .pattern false [], fun off => by rw [if_neg hquote, if_pos hslash]⟩
    · exact ⟨_, .literal [c], fun off => by rw [if_neg hquote, if_neg hslash]⟩

/-- A character inside a token is taken into it, completes it, or stands behind a literal. -/
private theorem UnderWay.step_cases (h : UnderWay mode) (c : Char) :
    (∃ mode', UnderWay mode' ∧ ∀ off offset, (mode off).step offset c = ([], mode' off)) ∨
      (∃ kind, (∀ text, kind ≠ .literal text) ∧
        ∀ off offset, (mode off).step offset c = ([⟨kind, off, offset + c.utf8Size⟩], .between)) ∨
      ∃ text, mode = (fun off => .literal off text) ∧ ∀ cs, Closes (c :: cs) := by
  cases h with
  | literal text =>
    by_cases hc : (isBlank c || isDelimiter c) = true
    · refine .inr (.inr ⟨text, rfl, ?_⟩)
      rintro cs _ ⟨⟩
      simpa using hc
    · exact .inl ⟨_, .literal (c :: text), fun off offset => by simp only [Mode.step, hc]; rfl⟩
  | quoted quote escaped text =>
    cases escaped with
    | true =>
      by_cases hc : c = quote ∨ c = '\\'
      · exact .inl ⟨_, .quoted quote false (c :: text), fun off offset => by rw [Mode.step, if_pos hc]⟩
      · exact .inl ⟨_, .quoted quote false (c :: '\\' :: text), fun off offset => by rw [Mode.step, if_neg hc]⟩
    | false =>
      by_cases hescape : c = '\\'
      · exact .inl ⟨_, .quoted quote true text, fun off offset => by rw [Mode.step, if_pos hescape]⟩
      by_cases hc : c = quote
      · refine .inr (.inl ⟨.quoted (textOf text), by simp, fun off offset => ?_⟩)
        rw [Mode.step, if_neg hescape, if_pos hc]
      · exact .inl ⟨_, .quoted quote false (c :: text),
          fun off offset => by rw [Mode.step, if_neg hescape, if_neg hc]⟩
  | pattern escaped text =>
    cases escaped with
    | true =>
      by_cases hc : c = '/'
      · exact .inl ⟨_, .pattern false (c :: text), fun off offset => by rw [Mode.step, if_pos hc]⟩
      · exact .inl ⟨_, .pattern false (c :: '\\' :: text), fun off offset => by rw [Mode.step, if_neg hc]⟩
    | false =>
      by_cases hescape : c = '\\'
      · exact .inl ⟨_, .pattern true text, fun off offset => by rw [Mode.step, if_pos hescape]⟩
      by_cases hc : c = '/'
      · refine .inr (.inl ⟨.pattern (textOf text), by simp, fun off offset => ?_⟩)
        rw [Mode.step, if_neg hescape, if_pos hc]
      · exact .inl ⟨_, .pattern false (c :: text), fun off offset => by rw [Mode.step, if_neg hescape, if_neg hc]⟩

/-! ### Scanned texts -/

variable {off : Nat} {ts us before after : List Token}

private theorem Tiles.blank (hc : isBlank c = true) (h : Tiles (off + c.utf8Size) cs ts) :
    Tiles off (c :: cs) ts := by
  cases h with
  | nil blank => exact .nil (by simpa [allBlank, hc] using blank)
  | @cons _ blanks body rest kind ts blank nonempty lexes ends more =>
    have hlength : off + c.utf8Size + byteLength blanks = off + byteLength (c :: blanks) := by
      simp [Nat.add_assoc]
    rw [hlength] at more ⊢
    exact .cons (by simpa [allBlank, hc] using blank) nonempty lexes ends more

private theorem Tiles.token {body rest : List Char} (nonempty : body ≠ []) (lexes : Lexes body kind)
    (ends : EndsAt kind rest) (more : Tiles (off + byteLength body) rest ts) :
    Tiles off (body ++ rest) (⟨kind, off, off + byteLength body⟩ :: ts) :=
  @Tiles.cons off [] body rest kind ts rfl nonempty lexes ends more

theorem scan_cons_eq_ok {m : Mode} {ts : List Token} (h : scan m off (c :: cs) = .ok ts) :
    ∃ more, scan (m.step off c).2 (off + c.utf8Size) cs = .ok more ∧ ts = (m.step off c).1 ++ more := by
  rw [scan_cons] at h
  cases hscan : scan (m.step off c).2 (off + c.utf8Size) cs with
  | error fault => simp [hscan, Except.map] at h
  | ok more =>
    rw [hscan] at h
    exact ⟨more, rfl, (Except.ok.inj h).symm⟩

/-- Behind a token the text is tiled, if it can end there. -/
private theorem Lexes.tiles {body rest : List Char} (h : Lexes body kind) (hbody : body ≠ [])
    (hends : EndsAt kind rest) (hrest : ∀ off ts, scan .between off rest = .ok ts → Tiles off rest ts)
    (hts : scan .between off (body ++ rest) = .ok ts) : Tiles off (body ++ rest) ts := by
  rw [h off rest hends] at hts
  cases hscan : scan .between (off + byteLength body) rest with
  | error fault => simp [hscan, Except.map] at hts
  | ok more =>
    rw [hscan] at hts
    obtain rfl := Except.ok.inj hts
    exact .token hbody h hends (hrest _ _ hscan)

/-- A token that is under way ends somewhere, and behind it the text is tiled. -/
private theorem tiles_of_scan_aux (cs : List Char) :
    (∀ off ts, scan .between off cs = .ok ts → Tiles off cs ts) ∧
      ∀ front mode off ts, front ≠ [] → UnderWay mode → Opens front mode →
        scan .between off (front ++ cs) = .ok ts → Tiles off (front ++ cs) ts := by
  induction cs with
  | nil =>
    constructor
    · intro off ts h
      obtain rfl := Except.ok.inj h
      exact .nil rfl
    · intro front mode off ts hfront hmode hopens h
      rw [hopens] at h
      cases hmode with
      | literal text =>
        obtain rfl := Except.ok.inj h
        exact .token hfront hopens.literal (fun _ _ _ hc => absurd hc (Option.not_mem_none _)) (.nil rfl)
      | quoted | pattern => cases h
  | cons c cs ih =>
    obtain ⟨hbetween, hunder⟩ := ih
    have hstart (off : Nat) (ts : List Token) (h : scan .between off (c :: cs) = .ok ts) :
        Tiles off (c :: cs) ts := by
      obtain hblank | ⟨kind, hkind⟩ | ⟨mode, hmode, henter⟩ := enter_cases c
      · obtain ⟨more, hmore, rfl⟩ := scan_cons_eq_ok h
        simp only [Mode.step, enter_blank hblank] at hmore ⊢
        exact .blank hblank (hbetween _ _ hmore)
      · refine (lexes_char hkind).tiles (List.cons_ne_nil c []) ?_ hbetween h
        rintro text rfl
        cases hkind
      · exact hunder [c] mode off ts (List.cons_ne_nil c []) hmode (opens_of_enter henter) h
    refine ⟨hstart, ?_⟩
    intro front mode off ts hfront hmode hopens h
    have hnonempty : front ++ [c] ≠ [] := by simp
    rw [List.append_cons] at h ⊢
    obtain ⟨mode', hmode', hstep⟩ | ⟨kind, hkind, hstep⟩ | ⟨text, rfl, hcloses⟩ := hmode.step_cases c
    · exact hunder _ mode' off ts hnonempty hmode' (hopens.snoc hstep) h
    · exact (hopens.lexes hstep).tiles hnonempty (fun text htext => absurd htext (hkind text)) hbetween h
    · -- The literal ends in front of the character.
      rw [List.append_assoc, List.singleton_append] at h ⊢
      exact hopens.literal.tiles hfront (fun _ _ => hcloses cs) hstart h

/-- A text that is scanned is tiled by its tokens. -/
theorem tiles_of_scan (h : scan .between off cs = .ok ts) : Tiles off cs ts :=
  (tiles_of_scan_aux cs).1 off ts h

/-! ### Cutting tiled texts -/

theorem Lexes.reads {body rest : List Char} {ks : List TokenKind} (h : Lexes body kind) (hends : EndsAt kind rest)
    (hrest : Reads rest ks) : Reads (body ++ rest) (kind :: ks) := by
  intro off
  obtain ⟨ts, hts, hks⟩ := hrest (off + byteLength body)
  refine ⟨⟨kind, off, off + byteLength body⟩ :: ts, ?_, by rw [List.map_cons, hks]⟩
  rw [h off rest hends, hts]
  rfl

private theorem EndsAt.append {rest more : List Char} (h : EndsAt kind rest) (hmore : Closes more) :
    EndsAt kind (rest ++ more) :=
  fun text htext => (h text htext).append hmore

private theorem EndsAt.of_append {front back : List Char} (h : EndsAt kind (front ++ back)) : EndsAt kind front := by
  cases front with
  | nil => exact fun _ _ _ hc => absurd hc (Option.not_mem_none _)
  | cons c front => exact h

/-- A tiled text is read as its tokens, wherever it stands and whatever closes it. -/
theorem Tiles.readsAs (h : Tiles off cs ts) : ReadsAs cs (ts.map Token.kind) := by
  intro tail more htail hmore
  induction h with
  | nil blank => exact reads_blanks blank hmore
  | cons blank nonempty lexes ends _ ih =>
    rw [List.append_assoc, List.append_assoc, List.map_cons, List.cons_append]
    exact reads_blanks blank (lexes.reads (ends.append htail) ih)

/-- A text can be cut in front of a token. -/
theorem Tiles.cut {t : Token} (h : Tiles off cs (ts ++ t :: us)) :
    ∃ front back, cs = front ++ back ∧ off + byteLength front = t.start ∧ Tiles off front ts ∧
      Tiles t.start back (t :: us) := by
  induction ts generalizing off cs with
  | nil =>
    cases h with
    | cons blank nonempty lexes ends more => exact ⟨_, _, rfl, rfl, .nil blank, .token nonempty lexes ends more⟩
  | cons u ts ih =>
    cases h with
    | @cons _ blanks body rest kind _ blank nonempty lexes ends more =>
      obtain ⟨front, back, rfl, hstart, hfront, hback⟩ := ih more
      refine ⟨blanks ++ (body ++ front), back, by simp, ?_, .cons blank nonempty lexes ends.of_append hfront, hback⟩
      rw [← hstart]
      simp [Nat.add_assoc]

/-- A text can be cut behind tokens. -/
theorem Tiles.cut_behind (h : Tiles off cs (ts ++ us)) :
    ∃ front back, cs = front ++ back ∧ off + byteLength front = lastStop off ts ∧ Tiles off front ts ∧
      Tiles (lastStop off ts) back us := by
  induction ts generalizing off cs with
  | nil => exact ⟨[], cs, rfl, rfl, .nil rfl, h⟩
  | cons u ts ih =>
    cases h with
    | @cons _ blanks body rest kind _ blank nonempty lexes ends more =>
      obtain ⟨front, back, rfl, hstop, hfront, hback⟩ := ih more
      rw [RuleReader.lastStop_cons]
      refine ⟨blanks ++ (body ++ front), back, by simp, ?_, .cons blank nonempty lexes ends.of_append hfront, hback⟩
      rw [← hstop]
      simp [Nat.add_assoc]

/-- Tokens in a row can be cut out of a text. -/
theorem Tiles.cut_out {t : Token} (h : Tiles off cs (before ++ (t :: ts ++ after))) :
    ∃ front middle back, cs = front ++ (middle ++ back) ∧ off + byteLength front = t.start ∧
      t.start + byteLength middle = lastStop t.stop ts ∧ Tiles off front before ∧ Tiles t.start middle (t :: ts) ∧
      Tiles (lastStop t.stop ts) back after := by
  rw [List.cons_append] at h
  obtain ⟨front, rest, rfl, hstart, hfront, hrest⟩ := h.cut
  rw [← List.cons_append] at hrest
  obtain ⟨middle, back, rfl, hstop, hmiddle, hback⟩ := hrest.cut_behind
  rw [RuleReader.lastStop_cons] at hstop hback
  exact ⟨front, middle, back, rfl, hstart, hstop, hfront, hmiddle, hback⟩

/-- The characters of a text from the first of some tokens to the last. -/
def sourceOf (source : List Char) : List Token → List Char
  | [] => []
  | t :: ts => Text.slice t.start (lastStop t.stop ts) source

/-- The characters of tokens are read as these tokens. -/
theorem Tiles.readsAs_sourceOf {source : List Char} (h : Tiles 0 source (before ++ (ts ++ after))) :
    ReadsAs (sourceOf source ts) (ts.map Token.kind) := by
  cases ts with
  | nil => exact readsAs_nil
  | cons t ts =>
    obtain ⟨front, middle, back, rfl, hstart, hstop, -, hmiddle, -⟩ := h.cut_out
    rw [Nat.zero_add] at hstart
    rw [sourceOf, ← hstop, ← hstart, ← List.append_assoc, Text.slice_append_append]
    exact hmiddle.readsAs

theorem ReadsAs.reads {ks : List TokenKind} (h : ReadsAs cs ks) : Reads cs ks := by
  simpa using h [] [] isPart_nil.1 reads_nil

/-- What stands behind a blank can stand behind a literal. -/
theorem ReadsAs.isPart {ks : List TokenKind} (h : ReadsAs cs ks) : IsPart (' ' :: cs) ks := by
  refine ⟨?_, fun rest more hrest hmore => reads_blank rfl (h rest more hrest hmore)⟩
  rintro _ ⟨⟩
  exact .inl rfl

/-- A text can be cut in front of a token, the end of the text among them. -/
theorem Tiles.cut_end {t : Token} (h : Tiles 0 cs us) (hus : us ++ [endToken cs] = before ++ t :: after) :
    ∃ front back, cs = front ++ back ∧ byteLength front = t.start ∧ Tiles 0 front before := by
  rcases List.eq_nil_or_concat after with rfl | ⟨after, last, rfl⟩
  · obtain ⟨rfl, hlast⟩ := List.append_inj' hus rfl
    obtain rfl := List.singleton_inj.1 hlast
    exact ⟨cs, [], (List.append_nil cs).symm, rfl, h⟩
  · rw [List.concat_eq_append, ← List.cons_append, ← List.append_assoc] at hus
    obtain ⟨rfl, -⟩ := List.append_inj' hus rfl
    obtain ⟨front, back, hcs, hlength, hfront, -⟩ := h.cut
    exact ⟨front, back, hcs, by simpa using hlength, hfront⟩

end FieldRules.Lexer

namespace FieldRules

variable {text : String} {ts : List Token}

theorem tokenize_eq_ok_iff :
    tokenize text = .ok ts ↔ ∃ us, Lexer.tokens text.toList = .ok us ∧ ts = us ++ [Lexer.endToken text.toList] := by
  unfold tokenize
  cases Lexer.tokens text.toList <;> simp [eq_comm]

theorem tokens_of_tokenize (h : tokenize text = .ok (ts ++ [Lexer.endToken text.toList])) :
    Lexer.tokens text.toList = .ok ts := by
  obtain ⟨us, hus, hts⟩ := tokenize_eq_ok_iff.1 h
  obtain ⟨rfl, -⟩ := List.append_inj' hts rfl
  exact hus

end FieldRules
