import FieldRules.Proofs.Rule.WellFormed

/-!
# What the scanner reads

`Reads cs ks` says that characters are scanned as tokens of the given kinds, at whatever offset they stand.
There is one lemma for each form of token; a literal needs a character behind it that ends it (`Closes`).
Conversely every token that the scanner gives has a body of the right form (`wellFormed_of_mem_tokens`).
-/

namespace FieldRules.Lexer

open Text (isBlank allBlank byteLength)

/-- In this mode the characters are scanned as tokens of these kinds. -/
def ReadsIn (mode : Mode) (cs : List Char) (ks : List TokenKind) : Prop :=
  ∀ offset, ∃ ts, scan mode offset cs = .ok ts ∧ ts.map Token.kind = ks

/-- Between tokens the characters are scanned as tokens of these kinds. -/
def Reads (cs : List Char) (ks : List TokenKind) : Prop :=
  ReadsIn .between cs ks

/-- Whether a literal in front of the characters ends there. -/
def Closes (cs : List Char) : Prop :=
  ∀ c ∈ cs.head?, isBlank c = true ∨ isDelimiter c = true

theorem closes_cons_of_isDelimiter {c : Char} (h : isDelimiter c = true) (cs : List Char) :
    Closes (c :: cs) := by
  intro d hd
  obtain rfl := Option.some.inj hd
  exact .inr h

theorem reads_nil : Reads [] [] :=
  fun _ => ⟨[], rfl, rfl⟩

theorem scan_cons (mode : Mode) (offset : Nat) (c : Char) (cs : List Char) :
    scan mode offset (c :: cs) =
      (scan (mode.step offset c).2 (offset + c.utf8Size) cs).map ((mode.step offset c).1 ++ ·) := by
  simp only [scan]
  cases scan (mode.step offset c).2 (offset + c.utf8Size) cs <;> rfl

/-- One step of the scanner: the tokens that the character completes come first. -/
private theorem readsIn_cons {mode : Mode} {c : Char} {cs : List Char} {ks : List TokenKind} (done : List TokenKind)
    (h : ∀ offset, (mode.step offset c).1.map Token.kind = done ∧ ReadsIn (mode.step offset c).2 cs ks) :
    ReadsIn mode (c :: cs) (done ++ ks) := by
  intro offset
  obtain ⟨hdone, hrest⟩ := h offset
  obtain ⟨ts, hts, hks⟩ := hrest (offset + c.utf8Size)
  refine ⟨(mode.step offset c).1 ++ ts, ?_, ?_⟩
  · rw [scan_cons, hts, Except.map]
  · rw [List.map_append, hdone, hks]

theorem enter_blank {c : Char} (hc : isBlank c = true) (offset : Nat) : enter offset c = ([], .between) :=
  if_pos hc

theorem reads_blank {c : Char} {cs : List Char} {ks : List TokenKind} (hc : isBlank c = true)
    (h : Reads cs ks) : Reads (c :: cs) ks := by
  refine readsIn_cons [] fun offset => ?_
  simp only [Mode.step, enter_blank hc]
  exact ⟨rfl, h⟩

theorem scan_blanks {blanks : List Char} (h : allBlank blanks = true) (offset : Nat) (rest : List Char) :
    scan .between offset (blanks ++ rest) = scan .between (offset + byteLength blanks) rest := by
  induction blanks generalizing offset with
  | nil => rfl
  | cons c blanks ih =>
    simp only [allBlank, List.all_cons, Bool.and_eq_true] at h
    rw [List.cons_append, scan_cons, Mode.step, enter_blank h.1, ih h.2, Text.byteLength_cons, ← Nat.add_assoc]
    cases scan .between (offset + c.utf8Size + byteLength blanks) rest <;> rfl

theorem reads_blanks {blanks rest : List Char} {ks : List TokenKind} (hblanks : allBlank blanks = true)
    (h : Reads rest ks) : Reads (blanks ++ rest) ks := by
  intro offset
  rw [scan_blanks hblanks]
  exact h _

theorem reads_of_allBlank {cs : List Char} (h : allBlank cs = true) : Reads cs [] := by
  simpa using reads_blanks h reads_nil

private theorem isBlank_of_char? {k : TokenKind} {c : Char} (h : k.char? = some c) : isBlank c = false := by
  cases k <;> first | (obtain rfl := Option.some.inj h; decide) | cases h

theorem reads_char {k : TokenKind} {c : Char} {cs : List Char} {ks : List TokenKind} (hk : k.char? = some c)
    (h : Reads cs ks) : Reads (c :: cs) (k :: ks) := by
  refine readsIn_cons [k] fun offset => ?_
  simp only [Mode.step, enter, isBlank_of_char? hk, TokenKind.ofChar?_eq_some_iff.2 hk]
  exact ⟨rfl, h⟩

/-! ### Literals -/

/-- A literal that is under way takes the characters of literals that follow. -/
private theorem readsIn_literal {cs rest : List Char} {ks : List TokenKind} (hcs : ∀ c ∈ cs, IsLiteralChar c)
    (hrest : Closes rest) (h : Reads rest ks) (start : Nat) (text : List Char) :
    ReadsIn (.literal start text) (cs ++ rest) (.literal (textOf (cs.reverse ++ text)) :: ks) := by
  induction cs generalizing text with
  | nil =>
    cases rest with
    | nil =>
      -- The end of the text ends the literal, and nothing else can follow.
      obtain ⟨ts, hts, rfl⟩ := h 0
      obtain rfl : ts = [] := by simpa [scan, Mode.finish] using hts.symm
      exact fun offset => ⟨_, rfl, rfl⟩
    | cons c rest =>
      have hc : (isBlank c || isDelimiter c) = true := by simpa using hrest c rfl
      have hstep (offset : Nat) : Mode.step offset c (.literal start text) =
          (⟨.literal (textOf text), start, offset⟩ :: (enter offset c).1, (enter offset c).2) := by
        simp only [Mode.step, hc, if_true]
      intro offset
      obtain ⟨ts, hts, hks⟩ := h offset
      refine ⟨⟨.literal (textOf text), start, offset⟩ :: ts, ?_, by simp [hks]⟩
      rw [scan_cons] at hts
      rw [List.nil_append, scan_cons, hstep]
      cases hscan : scan (enter offset c).2 (offset + c.utf8Size) rest with
      | error fault => simp [Mode.step, hscan, Except.map] at hts
      | ok more =>
        obtain rfl : (enter offset c).1 ++ more = ts := by simpa [Mode.step, hscan, Except.map] using hts
        simp [Except.map]
  | cons c cs ih =>
    obtain ⟨hblank, hdelim⟩ := hcs c List.mem_cons_self
    refine readsIn_cons [] fun offset => ?_
    have hc : (isBlank c || isDelimiter c) = false := by simp [hblank, hdelim]
    simp only [Mode.step, hc, Bool.false_eq_true, if_false]
    refine ⟨rfl, ?_⟩
    simpa using ih (fun d hd => hcs d (List.mem_cons_of_mem c hd)) (c :: text)

/-- The first character of a literal opens it. -/
private theorem enter_of_isLiteralChar {c : Char} (hc : IsLiteralChar c) (hat : c ≠ '@') (offset : Nat) :
    enter offset c = ([], .literal offset [c]) := by
  obtain ⟨hblank, hdelim⟩ := hc
  simp only [isDelimiter, Bool.or_eq_false_iff, beq_eq_false_iff_ne] at hdelim
  have hkind : TokenKind.ofChar? c = none := by
    cases h : TokenKind.ofChar? c with
    | none => rfl
    | some k =>
      have hk := TokenKind.ofChar?_eq_some_iff.1 h
      cases k <;> first | (obtain rfl := Option.some.inj hk; simp_all) | cases hk
  simp [enter, hblank, hkind, hdelim]

theorem reads_literal {text : String} {rest : List Char} {ks : List TokenKind} (ht : IsLiteral text)
    (hrest : Closes rest) (h : Reads rest ks) : Reads (text.toList ++ rest) (.literal text :: ks) := by
  obtain ⟨hne, hat, hchars⟩ := ht
  cases htext : text.toList with
  | nil => exact absurd (String.toList_eq_nil_iff.1 htext) hne
  | cons c cs =>
    rw [htext] at hat hchars
    refine readsIn_cons [] fun offset => ?_
    have hstep := enter_of_isLiteralChar (hchars c List.mem_cons_self) (fun e => hat (congrArg some e)) offset
    simp only [Mode.step, hstep]
    refine ⟨rfl, ?_⟩
    have hread := readsIn_literal (fun d hd => hchars d (List.mem_cons_of_mem c hd)) hrest h offset [c]
    rw [textOf, List.reverse_append, List.reverse_reverse, List.reverse_singleton, List.singleton_append,
      ← htext, String.ofList_toList] at hread
    exact hread

/-- An empty value leaves no token behind. -/
theorem reads_valueText {text : String} {rest : List Char} {ks : List TokenKind} (ht : IsValueText text)
    (hrest : Closes rest) (h : Reads rest ks) :
    Reads (text.toList ++ rest) ((if text = "" then [] else [.literal text]) ++ ks) := by
  by_cases he : text = ""
  · subst he
    simpa using h
  · simpa [he] using reads_literal ⟨he, ht⟩ hrest h

/-! ### Quoted texts -/

/-- Reading back the characters of a quoted text: each quote and backslash has a backslash in front. -/
private theorem readsIn_quoted (cs : List Char) {rest : List Char} {ks : List TokenKind} (h : Reads rest ks)
    (start : Nat) (text : List Char) :
    ReadsIn (.quoted start '\'' false text)
      (cs.flatMap (fun c => if c = '\\' ∨ c = '\'' then ['\\', c] else [c]) ++ '\'' :: rest)
      (.quoted (textOf (cs.reverse ++ text)) :: ks) := by
  induction cs generalizing text with
  | nil =>
    refine readsIn_cons [_] fun offset => ?_
    exact ⟨rfl, h⟩
  | cons c cs ih =>
    rw [List.flatMap_cons, List.append_assoc, List.reverse_cons, List.append_assoc]
    by_cases hc : c = '\\' ∨ c = '\''
    · rw [if_pos hc]
      refine readsIn_cons [] fun offset => ⟨rfl, ?_⟩
      refine readsIn_cons [] fun offset => ?_
      simp only [Mode.step, if_true, hc.symm]
      exact ⟨rfl, ih (c :: text)⟩
    · rw [if_neg hc]
      rw [not_or] at hc
      refine readsIn_cons [] fun offset => ?_
      simp only [Mode.step, hc.1, hc.2, if_false]
      exact ⟨rfl, ih (c :: text)⟩

/-- The text of a default: an equals sign and the quoted text. -/
theorem reads_default (text : String) {rest : List Char} {ks : List TokenKind} (h : Reads rest ks) :
    Reads (Presence.defaultText text ++ rest) (.equals :: .quoted text :: ks) := by
  have hquote : Reads ('\'' :: (text.toList.flatMap fun c => if c = '\\' ∨ c = '\'' then ['\\', c] else [c]) ++
      '\'' :: rest) (.quoted text :: ks) := by
    refine readsIn_cons [] fun offset => ⟨rfl, ?_⟩
    have hread := readsIn_quoted text.toList h offset []
    rwa [textOf, List.append_nil, List.reverse_reverse, String.ofList_toList] at hread
  have hread := reads_blank (c := ' ') (by decide) (reads_char (k := .equals) rfl
    (reads_blank (c := ' ') (by decide) hquote))
  simpa [Presence.defaultText] using hread

/-! ### Patterns -/

/-- Whether no slash of the text and not its end is reached with a backslash open, read on from a front. -/
private def SlashesClosed (front cs : List Char) : Prop :=
  ∀ more back, cs = more ++ back → (back = [] ∨ back.head? = some '/') → endRun (front ++ more) % 2 = 0

private theorem SlashesClosed.tail {front cs : List Char} {c : Char} (h : SlashesClosed front (c :: cs)) :
    SlashesClosed (front ++ [c]) cs := by
  intro more back hcs hback
  have := h (c :: more) back (by rw [hcs, List.cons_append]) hback
  simpa using this

/-- Reading back the characters of a pattern, each slash behind a backslash. The scanner waits behind a
backslash exactly when an odd number of them has been read. -/
private theorem readsIn_pattern {cs rest : List Char} {ks : List TokenKind} (h : Reads rest ks) (start : Nat)
    (front text : List Char) (waiting : Bool) (hwaiting : endRun front % 2 = waiting.toNat)
    (hcs : SlashesClosed front cs) :
    ReadsIn (.pattern start waiting text)
      (cs.flatMap (fun c => if c = '/' then ['\\', '/'] else [c]) ++ '/' :: rest)
      (.pattern (textOf (cs.reverse ++ bif waiting then '\\' :: text else text)) :: ks) := by
  induction cs generalizing front text waiting with
  | nil =>
    have hfront : endRun front % 2 = 0 := by simpa using hcs [] [] rfl (.inl rfl)
    obtain rfl : waiting = false := by cases waiting <;> simp_all
    exact readsIn_cons [_] fun offset => ⟨rfl, h⟩
  | cons c cs ih =>
    have htail := ih (front ++ [c])
    rw [endRun_append] at htail
    rw [List.flatMap_cons, List.append_assoc, List.reverse_cons, List.append_assoc]
    by_cases hslash : c = '/'
    · subst hslash
      have hfront : endRun front % 2 = 0 := by simpa using hcs [] ('/' :: cs) rfl (.inr rfl)
      obtain rfl : waiting = false := by cases waiting <;> simp_all
      refine readsIn_cons [] fun offset => ⟨rfl, ?_⟩
      refine readsIn_cons [] fun offset => ⟨rfl, ?_⟩
      exact htail ('/' :: text) false rfl hcs.tail
    · rw [if_neg hslash]
      refine readsIn_cons [] fun offset => ?_
      -- Any character ends the wait of the scanner, and only a backslash begins one.
      cases waiting with
      | true =>
        simp only [Mode.step, hslash, if_false]
        refine ⟨rfl, htail (c :: '\\' :: text) false ?_ hcs.tail⟩
        simp only [Bool.toNat_true, Bool.toNat_false] at hwaiting ⊢
        split <;> omega
      | false =>
        by_cases hback : c = '\\'
        · subst hback
          refine ⟨rfl, htail text true ?_ hcs.tail⟩
          simp only [Bool.toNat_true, Bool.toNat_false, if_true] at hwaiting ⊢
          omega
        · simp only [Mode.step, hslash, hback, if_false]
          exact ⟨rfl, htail (c :: text) false (by simp [hback]) hcs.tail⟩

theorem reads_pattern {p : Pattern} (hp : IsPatternText p.source) {rest : List Char} {ks : List TokenKind}
    (h : Reads rest ks) : Reads (p.text ++ rest) (.pattern p.source :: ks) := by
  have hclosed : SlashesClosed [] p.source.toList := hp
  have hread (offset : Nat) := readsIn_pattern h offset [] [] false rfl hclosed
  simp only [cond_false, List.append_nil, textOf, List.reverse_reverse, String.ofList_toList] at hread
  have htext : p.text ++ rest = '/' ::
    ((p.source.toList.flatMap fun c => if c = '/' then ['\\', '/'] else [c]) ++
      '/' :: rest) := by
    simp [Pattern.text]
  rw [htext]
  exact readsIn_cons [] fun offset => ⟨rfl, hread offset⟩

/-! ### What scanned tokens carry -/

/-- The form of the texts that tokens carry. -/
def BodyWellFormed : TokenKind → Prop
  | .literal text => IsLiteral text
  | .pattern text => IsPatternText text
  | _ => True

private theorem SlashesClosed.snoc {cs : List Char} {c : Char} (h : SlashesClosed [] cs) (hc : c ≠ '\\') :
    SlashesClosed [] (cs ++ [c]) := by
  intro more back hcs hback
  rcases List.eq_nil_or_concat back with rfl | ⟨back, d, rfl⟩
  · rw [List.append_nil] at hcs
    rw [← hcs, List.nil_append, endRun_append, if_neg hc]
  · rw [List.concat_eq_append, ← List.append_assoc] at hcs
    obtain ⟨rfl, -⟩ := List.append_inj' hcs rfl
    refine h more back rfl ?_
    cases back with
    | nil => exact .inl rfl
    | cons e back => simpa using hback

private theorem SlashesClosed.escape {cs : List Char} {c : Char} (h : SlashesClosed [] cs) (hc : c ≠ '/') :
    SlashesClosed [] (cs ++ ['\\', c]) := by
  intro more back hcs hback
  have hend : endRun cs % 2 = 0 := h cs [] (by simp) (.inl rfl)
  rw [List.append_cons] at hcs
  rcases List.eq_nil_or_concat back with rfl | ⟨back, d, rfl⟩
  · rw [List.append_nil] at hcs
    rw [← hcs, List.nil_append, endRun_append, endRun_append, if_pos rfl]
    split <;> omega
  · rw [List.concat_eq_append, ← List.append_assoc] at hcs
    obtain ⟨hfront, hd⟩ := List.append_inj' hcs rfl
    obtain rfl : c = d := by simpa using hd
    -- The slash lies in front of the escape, since neither of its two characters is one.
    rcases List.eq_nil_or_concat back with rfl | ⟨back, e, rfl⟩
    · exact absurd (by simpa using hback) hc
    · rw [List.concat_eq_append, ← List.append_assoc] at hfront
      obtain ⟨rfl, he⟩ := List.append_inj' hfront rfl
      obtain rfl : '\\' = e := by simpa using he
      cases back with
      | nil => simp at hback
      | cons e back => exact h more (e :: back) rfl (by simpa using hback)

/-- What the scanner knows of the text that it has read so far. -/
private def Mode.Sound : Mode → Prop
  | .literal _ text => text ≠ [] ∧ text.getLast? ≠ some '@' ∧ ∀ c ∈ text, IsLiteralChar c
  | .pattern _ _ text => SlashesClosed [] text.reverse
  | _ => True

private theorem isLiteral_textOf {text : List Char}
    (h : text ≠ [] ∧ text.getLast? ≠ some '@' ∧ ∀ c ∈ text, IsLiteralChar c) : IsLiteral (textOf text) := by
  obtain ⟨hne, hlast, hchars⟩ := h
  refine ⟨?_, ?_, ?_⟩
  · simpa [textOf, ← String.toList_inj] using hne
  · simpa [textOf] using hlast
  · simpa [textOf] using hchars

private theorem isLiteralChar_of_enter {c : Char} (hblank : isBlank c = false)
    (hkind : TokenKind.ofChar? c = none) (hquote : ¬(c = '\'' ∨ c = '"')) (hslash : c ≠ '/') :
    IsLiteralChar c := by
  refine ⟨hblank, ?_⟩
  cases hd : isDelimiter c with
  | false => rfl
  | true =>
    simp only [isDelimiter, Bool.or_eq_true, beq_iff_eq, or_assoc] at hd
    rcases hd with rfl | rfl | rfl | rfl | rfl | rfl | rfl | rfl | rfl | rfl | rfl | rfl | rfl | rfl <;>
      simp_all [TokenKind.ofChar?]

private theorem sound_enter (offset : Nat) (c : Char) :
    (∀ t ∈ (enter offset c).1, BodyWellFormed t.kind) ∧ (enter offset c).2.Sound := by
  unfold enter
  split
  · exact ⟨by simp, trivial⟩
  next hblank =>
    split
    next kind hkind =>
      refine ⟨?_, trivial⟩
      intro t ht
      obtain rfl := List.mem_singleton.1 ht
      have hchar := TokenKind.ofChar?_eq_some_iff.1 hkind
      cases kind <;> trivial
    next hkind =>
      split
      · exact ⟨by simp, trivial⟩
      next hquote =>
        split
        · exact ⟨by simp, fun more back h _ => by simp_all [endRun]⟩
        next hslash =>
          have hc := isLiteralChar_of_enter (by simpa using hblank) hkind hquote hslash
          refine ⟨by simp, by simp, ?_, by simpa using hc⟩
          rintro hat
          obtain rfl : c = '@' := by simpa using hat
          exact absurd hkind (by decide)

/-- One step keeps what is known, and the tokens that it completes are well formed. -/
private theorem sound_step {mode : Mode} (h : mode.Sound) (offset : Nat) (c : Char) :
    (∀ t ∈ (mode.step offset c).1, BodyWellFormed t.kind) ∧ (mode.step offset c).2.Sound := by
  cases mode with
  | between => exact sound_enter offset c
  | literal start text =>
    obtain ⟨hne, hlast, hchars⟩ := h
    by_cases hc : (isBlank c || isDelimiter c) = true
    · obtain ⟨htokens, hmode⟩ := sound_enter offset c
      simp only [Mode.step, hc, if_true]
      exact ⟨List.forall_mem_cons.2 ⟨isLiteral_textOf ⟨hne, hlast, hchars⟩, htokens⟩, hmode⟩
    · simp only [Mode.step, hc]
      refine ⟨by simp, by simp, ?_, ?_⟩
      · rwa [List.getLast?_cons_of_ne_nil hne]
      · simp only [Bool.or_eq_true, not_or, Bool.not_eq_true] at hc
        exact List.forall_mem_cons.2 ⟨hc, hchars⟩
  | quoted start quote escaped text =>
    cases escaped with
    | true =>
      simp only [Mode.step]
      split <;> exact ⟨by simp, trivial⟩
    | false =>
      simp only [Mode.step]
      split
      · exact ⟨by simp, trivial⟩
      · split
        · exact ⟨fun t ht => by rw [List.mem_singleton.1 ht]; trivial, trivial⟩
        · exact ⟨by simp, trivial⟩
  | pattern start escaped text =>
    have hsound : SlashesClosed [] text.reverse := h
    have hslash : SlashesClosed [] (text.reverse ++ ['/']) := hsound.snoc (by decide)
    cases escaped with
    | true =>
      simp only [Mode.step]
      split
      next hc => exact ⟨by simp, by simpa [Mode.Sound, hc] using hslash⟩
      next hc => exact ⟨by simp, by simpa [Mode.Sound] using hsound.escape hc⟩
    | false =>
      simp only [Mode.step]
      split
      · exact ⟨by simp, hsound⟩
      next hback =>
        split
        · refine ⟨fun t ht => ?_, trivial⟩
          rw [List.mem_singleton.1 ht]
          simpa [BodyWellFormed, IsPatternText, textOf, SlashesClosed] using hsound
        · exact ⟨by simp, by simpa [Mode.Sound] using hsound.snoc hback⟩

private theorem wellFormed_of_mem_scan {mode : Mode} (h : mode.Sound) {offset : Nat} {cs : List Char}
    {ts : List Token} (hts : scan mode offset cs = .ok ts) : ∀ t ∈ ts, BodyWellFormed t.kind := by
  induction cs generalizing mode offset ts with
  | nil =>
    cases mode with
    | between =>
      obtain rfl := Except.ok.inj hts
      simp
    | literal start text =>
      obtain rfl := Except.ok.inj hts
      intro t ht
      rw [List.mem_singleton.1 ht]
      exact isLiteral_textOf h
    | quoted start quote escaped text => cases hts
    | pattern start escaped text => cases hts
  | cons c cs ih =>
    obtain ⟨htokens, hmode⟩ := sound_step h offset c
    rw [scan_cons] at hts
    cases hmore : scan (mode.step offset c).2 (offset + c.utf8Size) cs with
    | error fault => simp [hmore, Except.map] at hts
    | ok more =>
      obtain rfl : (mode.step offset c).1 ++ more = ts := by simpa [hmore, Except.map] using hts
      exact fun t ht => (List.mem_append.1 ht).elim (htokens t) (ih hmode hmore t)

/-- Tokens carry texts of the right form. -/
theorem wellFormed_of_mem_tokens {cs : List Char} {ts : List Token} (h : tokens cs = .ok ts) :
    ∀ t ∈ ts, BodyWellFormed t.kind :=
  wellFormed_of_mem_scan (show Mode.between.Sound from trivial) h

end FieldRules.Lexer
