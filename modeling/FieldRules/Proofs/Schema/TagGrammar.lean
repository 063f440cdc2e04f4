import FieldRules.Proofs.Value.Assignments
import FieldRules.Schema.Tag

/-!
# The grammar of tags

Which texts are tags, and which pairs they say, without a reader: `Tag.PairsDerive`. The reader goes through a
derivation to the pairs it derives (`Tag.scan_of_derives`). What it accepts from a mode on completes what the mode has
begun (`Tag.Mode.Completes`), which each character keeps, so it accepts derivations only; and where it fails, it
points at an offset that the mode holds or at the character ahead (`Tag.scan_error_offset`).
-/

namespace FieldRules.Tag

open Text (isAsciiBlank byteLength)

/-! ### Pairs -/

/-- The characters that keys are made of. -/
def IsKeyChar (c : Char) : Prop :=
  c ≠ ':' ∧ c ≠ '"' ∧ isAsciiBlank c = false

/-- One or more characters of keys. -/
def IsKey (key : List Char) : Prop :=
  key ≠ [] ∧ ∀ c ∈ key, IsKeyChar c

/-- Blanks that can stand around pairs. -/
def IsGap (blanks : List Char) : Prop :=
  ∀ c ∈ blanks, isAsciiBlank c = true

instance (c : Char) : Decidable (IsKeyChar c) :=
  inferInstanceAs (Decidable (c ≠ ':' ∧ c ≠ '"' ∧ isAsciiBlank c = false))

instance (key : List Char) : Decidable (IsKey key) :=
  decidable_of_iff (key ≠ [] ∧ key.all IsKeyChar = true) (by simp [IsKey])

instance (blanks : List Char) : Decidable (IsGap blanks) :=
  decidable_of_iff (blanks.all isAsciiBlank = true) (by simp [IsGap])

/-- What stands between quotes, and the value it stands for: a backslash in front of a quote or another backslash is
left out. -/
inductive BodyDerives : List Char → List Char → Prop
  | nil : BodyDerives [] []
  | plain {c : Char} {body value : List Char} (quote : c ≠ '"') (backslash : c ≠ '\\')
      (more : BodyDerives body value) :
      BodyDerives (c :: body) (c :: value)
  | escaped {c : Char} {body value : List Char} (hc : c = '"' ∨ c = '\\') (more : BodyDerives body value) :
      BodyDerives ('\\' :: c :: body) (c :: value)
  | kept {c : Char} {body value : List Char} (hc : ¬(c = '"' ∨ c = '\\')) (more : BodyDerives body value) :
      BodyDerives ('\\' :: c :: body) ('\\' :: c :: value)

/-- Keys with their values in quotes, around which blanks can stand. -/
inductive PairsDerive : List Char → List (String × String) → Prop
  | nil {blanks : List Char} (gap : IsGap blanks) : PairsDerive blanks []
  | cons {blanks key body value rest : List Char} {ps : List (String × String)} (gap : IsGap blanks)
      (hkey : IsKey key)
      (hbody : BodyDerives body value) (more : PairsDerive rest ps) :
      PairsDerive (blanks ++ (key ++ ':' :: '"' :: (body ++ '"' :: rest)))
        ((String.ofList key, String.ofList value) :: ps)

/-- The tag with more pairs, of which the last one counts for each key. -/
def withEntries (t : Tag) (ps : List (String × String)) : Tag :=
  ps.foldl (fun t p => t.withEntry p.1 p.2) t

/-- A character of a value between quotes. -/
def escapeChar (c : Char) : List Char :=
  if c = '"' ∨ c = '\\' then ['\\', c] else [c]

/-- A key and its value in quotes. -/
def pairText (p : String × String) : List Char :=
  p.1.toList ++ ':' :: '"' :: (p.2.toList.flatMap escapeChar ++ ['"'])

variable {t t' : Tag} {mode mode' : Mode} {c : Char} {cs body value : List Char}
  {ps : List (String × String)} {off : Nat}

private theorem bodyDerives_escape (cs : List Char) : BodyDerives (cs.flatMap escapeChar) cs := by
  induction cs with
  | nil => exact .nil
  | cons c cs ih =>
    rw [List.flatMap_cons, escapeChar]
    split
    next h => exact .escaped h ih
    next h => exact .plain (fun hc => h (.inl hc)) (fun hc => h (.inr hc)) ih

/-- Pairs written out, with blanks in front of each and behind the last. -/
private theorem pairsDerive_flatMap {ps : List (List Char × String × String)} {tail : List Char}
    (hps : ∀ p ∈ ps, IsGap p.1 ∧ IsKey p.2.1.toList) (htail : IsGap tail) :
    PairsDerive (ps.flatMap (fun p => p.1 ++ pairText p.2) ++ tail) (ps.map Prod.snd) := by
  induction ps with
  | nil => exact .nil htail
  | cons p ps ih =>
    obtain ⟨blanks, key, value⟩ := p
    obtain ⟨⟨hgap, hkey⟩, hps⟩ := List.forall_mem_cons.1 hps
    simpa [pairText] using PairsDerive.cons hgap hkey (bodyDerives_escape value.toList) (ih hps)

/-! ### Derivations are read -/

private theorem scan_cons (t : Tag) (mode : Mode) (off : Nat) (c : Char) (cs : List Char) :
    scan t mode off (c :: cs) =
      (mode.step t off c).bind fun next => scan next.1 next.2 (off + c.utf8Size) cs := by
  rw [scan]
  cases mode.step t off c <;> rfl

private theorem scan_gap {blanks : List Char} (h : IsGap blanks) (t : Tag) (off : Nat) (rest : List Char) :
    scan t .between off (blanks ++ rest) = scan t .between (off + byteLength blanks) rest := by
  induction blanks generalizing off with
  | nil => rfl
  | cons c blanks ih =>
    obtain ⟨hc, hblanks⟩ := List.forall_mem_cons.1 h
    rw [List.cons_append, scan_cons, Mode.step, if_pos hc]
    exact (ih hblanks _).trans (by rw [Text.byteLength_cons, Nat.add_assoc])

private theorem scan_key (h : ∀ c ∈ cs, IsKeyChar c) (t : Tag) (start : Nat) (text : List Char) (off : Nat)
    (rest : List Char) :
    scan t (.key start text) off (cs ++ ':' :: rest) =
      scan t (.quote start (String.ofList (text.reverse ++ cs))) (off + byteLength cs + 1) rest := by
  induction cs generalizing text off with
  | nil =>
    rw [List.append_nil, List.nil_append, scan_cons, Mode.step, if_pos rfl]
    rfl
  | cons c cs ih =>
    obtain ⟨⟨hcolon, hquote, hblank⟩, hcs⟩ := List.forall_mem_cons.1 h
    rw [List.cons_append, scan_cons, Mode.step, if_neg hcolon, if_neg (by simp [hquote, hblank])]
    refine (ih hcs (c :: text) _).trans ?_
    rw [List.reverse_cons, List.append_assoc, List.singleton_append, Text.byteLength_cons, Nat.add_assoc off]

private theorem scan_body (h : BodyDerives body value) (t : Tag) (start : Nat) (name : String) (text : List Char)
    (off : Nat) (rest : List Char) :
    scan t (.value start name text) off (body ++ '"' :: rest) =
      scan (t.withEntry name (String.ofList (text.reverse ++ value))) .between (off + byteLength body + 1) rest := by
  induction h generalizing text off with
  | nil =>
    rw [List.append_nil, List.nil_append, scan_cons, Mode.step, if_neg (by decide), if_pos rfl]
    rfl
  | @plain c body value quote backslash more ih =>
    rw [List.cons_append, scan_cons, Mode.step, if_neg backslash, if_neg quote]
    refine (ih (c :: text) _).trans ?_
    rw [List.reverse_cons, List.append_assoc, List.singleton_append, Text.byteLength_cons, Nat.add_assoc off]
  | @escaped c body value hc more ih =>
    rw [List.cons_append, scan_cons, Mode.step, if_pos rfl, List.cons_append]
    show scan t (.escape start name text off) _ _ = _
    rw [scan_cons, Mode.step, if_pos hc]
    refine (ih (c :: text) _).trans ?_
    rw [List.reverse_cons, List.append_assoc, List.singleton_append, Text.byteLength_cons, Text.byteLength_cons]
    simp only [Nat.add_assoc]
  | @kept c body value hc more ih =>
    rw [List.cons_append, scan_cons, Mode.step, if_pos rfl, List.cons_append]
    show scan t (.escape start name text off) _ _ = _
    rw [scan_cons, Mode.step, if_neg hc]
    refine (ih (c :: '\\' :: text) _).trans ?_
    rw [List.reverse_cons, List.reverse_cons, Text.byteLength_cons, Text.byteLength_cons]
    simp only [Nat.add_assoc, List.append_assoc, List.cons_append, List.nil_append]

/-- The reader takes the pairs of a derivation in order. -/
theorem scan_of_derives (h : PairsDerive cs ps) (t : Tag) (off : Nat) :
    scan t .between off cs = .ok (t.withEntries ps) := by
  induction h generalizing t off with
  | @nil blanks gap =>
    rw [← List.append_nil blanks, scan_gap gap]
    rfl
  | @cons blanks key body value rest ps gap hkey hbody more ih =>
    obtain ⟨hne, hkey⟩ := hkey
    obtain ⟨c, key, rfl⟩ := List.exists_cons_of_ne_nil hne
    obtain ⟨⟨hcolon, hquote, hblank⟩, hkey⟩ := List.forall_mem_cons.1 hkey
    rw [scan_gap gap, List.cons_append, scan_cons, Mode.step, if_neg (by simp [hblank]),
      if_neg (by simp [hcolon, hquote])]
    show scan t (.key _ [c]) _ _ = _
    rw [scan_key hkey, scan_cons, Mode.step, if_pos rfl]
    show scan t (.value _ _ []) _ _ = _
    rw [scan_body hbody, ih]
    rfl

/-! ### Only derivations are read -/

/-- Blanks in front of pairs. -/
private theorem PairsDerive.blank (hc : isAsciiBlank c = true) (h : PairsDerive cs ps) :
    PairsDerive (c :: cs) ps := by
  cases h with
  | nil gap => exact .nil (List.forall_mem_cons.2 ⟨hc, gap⟩)
  | @cons blanks _ _ _ _ _ gap hkey hbody more =>
    exact @PairsDerive.cons (c :: blanks) _ _ _ _ _ (List.forall_mem_cons.2 ⟨hc, gap⟩) hkey hbody more

/-- The characters complete the pair that a mode has begun, and more pairs follow. -/
inductive Mode.Completes : Mode → List Char → Prop
  | between {cs : List Char} {ps : List (String × String)} (h : PairsDerive cs ps) : Mode.between.Completes cs
  | key {start : Nat} {text cs body value rest : List Char} {ps : List (String × String)}
      (hcs : ∀ c ∈ cs, IsKeyChar c)
      (hbody : BodyDerives body value) (more : PairsDerive rest ps) :
      (Mode.key start text).Completes (cs ++ ':' :: '"' :: (body ++ '"' :: rest))
  | quote {start : Nat} {name : String} {body value rest : List Char} {ps : List (String × String)}
      (hbody : BodyDerives body value) (more : PairsDerive rest ps) :
      (Mode.quote start name).Completes ('"' :: (body ++ '"' :: rest))
  | value {start : Nat} {name : String} {text body value rest : List Char} {ps : List (String × String)}
      (hbody : BodyDerives body value) (more : PairsDerive rest ps) :
      (Mode.value start name text).Completes (body ++ '"' :: rest)
  | escape {start backslash : Nat} {name : String} {text body value rest : List Char} {ps : List (String × String)}
      (hbody : BodyDerives ('\\' :: body) value) (more : PairsDerive rest ps) :
      (Mode.escape start name text backslash).Completes (body ++ '"' :: rest)

/-- A character that is read goes on with what the mode has begun. -/
private theorem Mode.Completes.step (hstep : mode.step t off c = .ok (t', mode')) (h : mode'.Completes cs) :
    mode.Completes (c :: cs) := by
  cases mode with
  | between =>
    simp only [Mode.step] at hstep
    split at hstep
    next hblank =>
      cases hstep
      cases h with
      | between h => exact .between (h.blank hblank)
    next hblank =>
      split at hstep
      · cases hstep
      next hkey =>
        cases hstep
        obtain ⟨hcolon, hquote⟩ := not_or.1 hkey
        -- The first character of a key, which goes on until the colon.
        cases h with
        | key hcs hbody more =>
          have hkey : IsKey (c :: _) := ⟨List.cons_ne_nil _ _,
            List.forall_mem_cons.2 ⟨⟨hcolon, hquote, eq_false_of_ne_true hblank⟩, hcs⟩⟩
          exact .between (@PairsDerive.cons [] _ _ _ _ _ nofun hkey hbody more)
  | key start text =>
    simp only [Mode.step] at hstep
    split at hstep
    next hcolon =>
      cases hstep
      subst hcolon
      cases h with
      | quote hbody more => exact @Mode.Completes.key _ _ [] _ _ _ _ nofun hbody more
    next hcolon =>
      split at hstep
      · cases hstep
      next hkey =>
        cases hstep
        obtain ⟨hquote, hblank⟩ := not_or.1 hkey
        cases h with
        | @key _ _ cs _ _ _ _ hcs hbody more =>
          have hcs' : ∀ d ∈ c :: cs, IsKeyChar d :=
            List.forall_mem_cons.2 ⟨⟨hcolon, hquote, eq_false_of_ne_true hblank⟩, hcs⟩
          exact .key hcs' hbody more
  | quote start name =>
    simp only [Mode.step] at hstep
    split at hstep
    next hquote =>
      cases hstep
      subst hquote
      cases h with
      | value hbody more => exact .quote hbody more
    · cases hstep
  | value start name text =>
    simp only [Mode.step] at hstep
    split at hstep
    next hbackslash =>
      cases hstep
      subst hbackslash
      cases h with
      | escape hbody more => exact @Mode.Completes.value _ _ _ ('\\' :: _) _ _ _ hbody more
    next hbackslash =>
      split at hstep
      next hquote =>
        cases hstep
        subst hquote
        cases h with
        | between more => exact @Mode.Completes.value _ _ _ [] _ _ _ .nil more
      next hquote =>
        cases hstep
        cases h with
        | value hbody more => exact @Mode.Completes.value _ _ _ (c :: _) _ _ _ (.plain hquote hbackslash hbody) more
  | escape start name text backslash =>
    simp only [Mode.step] at hstep
    split at hstep
    next hc =>
      cases hstep
      cases h with
      | value hbody more => exact @Mode.Completes.escape _ _ _ _ (c :: _) _ _ _ (.escaped hc hbody) more
    next hc =>
      cases hstep
      cases h with
      | value hbody more => exact @Mode.Completes.escape _ _ _ _ (c :: _) _ _ _ (.kept hc hbody) more

/-- What the reader accepts completes what the mode has begun. -/
private theorem completes_of_scan (h : scan t mode off cs = .ok t') : mode.Completes cs := by
  induction cs generalizing t mode off with
  | nil =>
    cases mode with
    | between => exact .between (.nil nofun)
    | key | quote | value | escape => cases h
  | cons c cs ih =>
    rw [scan_cons] at h
    cases hstep : mode.step t off c with
    | error fault =>
      rw [hstep] at h
      cases h
    | ok next =>
      rw [hstep] at h
      exact (ih h).step hstep

private theorem scan_eq_ok_iff :
    scan t .between off cs = .ok t' ↔ ∃ ps, PairsDerive cs ps ∧ t' = t.withEntries ps := by
  constructor
  · intro h
    cases completes_of_scan h with
    | @between _ ps hderives =>
      -- The derivation is read too, so the reader cannot have ended with another tag.
      have ht' : Except.ok t' = Except.ok (t.withEntries ps) := h.symm.trans (scan_of_derives hderives t off)
      exact ⟨ps, hderives, Except.ok.inj ht'⟩
  · rintro ⟨ps, h, rfl⟩
    exact scan_of_derives h t off

/-! ### Offsets of errors -/

/-- The offsets that a mode holds. -/
def Mode.offsets : Mode → List Nat
  | .between => []
  | .key start _ | .quote start _ | .value start _ _ => [start]
  | .escape start _ _ backslash => [start, backslash]

/-- An offset that a mode holds or that the reader fails at was held before, or is that of the character. -/
private theorem offsets_step (mode : Mode) (t : Tag) (off : Nat) (c : Char) :
    (∀ o, mode.step t off c = .error o → o = off ∨ o ∈ mode.offsets) ∧
      ∀ t' mode', mode.step t off c = .ok (t', mode') → ∀ o ∈ mode'.offsets, o = off ∨ o ∈ mode.offsets := by
  constructor
  · intro o h
    cases mode <;> simp only [Mode.step] at h <;> (repeat' split at h) <;> cases h <;> simp [Mode.offsets]
  · intro t' mode' h o ho
    cases mode <;> simp only [Mode.step] at h <;> (repeat' split at h) <;> cases h <;> grind [Mode.offsets]

/-- The reader fails at an offset that the mode holds or at the front of some of the characters ahead. -/
theorem scan_error_offset {o : Nat} (h : scan t mode off cs = .error o) :
    o ∈ mode.offsets ∨ ∃ front back, cs = front ++ back ∧ o = off + byteLength front := by
  induction cs generalizing t mode off with
  | nil =>
    refine .inl ?_
    cases mode <;> cases h <;> simp [Mode.offsets]
  | cons c cs ih =>
    obtain ⟨herror, hok⟩ := offsets_step mode t off c
    have here (h : o = off ∨ o ∈ mode.offsets) :
        o ∈ mode.offsets ∨ ∃ front back, c :: cs = front ++ back ∧ o = off + byteLength front :=
      h.symm.imp_right fun h => ⟨[], c :: cs, rfl, h⟩
    rw [scan_cons] at h
    cases hstep : mode.step t off c with
    | error fault =>
      rw [hstep] at h
      obtain rfl : fault = o := Except.error.inj h
      exact here (herror _ hstep)
    | ok next =>
      rw [hstep] at h
      obtain ho | ⟨front, back, rfl, ho⟩ := ih h
      · exact here (hok _ _ hstep _ ho)
      · exact .inr ⟨c :: front, back, rfl, by rw [ho, Text.byteLength_cons, Nat.add_assoc]⟩

/-! ### Tags -/

private theorem entries_withEntries_empty (ps : List (String × String)) :
    (empty.withEntries ps).entries = Fields.ofAssignments ps := by
  induction ps using List.reverseRecOn with
  | nil => rfl
  | append_singleton ps p ih =>
    rw [Fields.ofAssignments_snoc, ← ih, withEntries, List.foldl_append]
    rfl

private theorem parse_eq_ok_iff {text : String} : parse text = .ok t ↔ scan {} .between 0 text.toList = .ok t := by
  unfold parse
  cases scan {} .between 0 text.toList <;> simp

private theorem parse_eq_error_iff {text : String} {e : TagError} :
    parse text = .error e ↔ e.tag = text ∧ scan {} .between 0 text.toList = .error e.offset := by
  obtain ⟨tag, offset⟩ := e
  unfold parse
  cases scan {} .between 0 text.toList <;> simp [eq_comm]

/-- A text is a tag exactly if it is made of pairs, and then it is what these pairs leave behind one after the other:
each key once, in the order in which the keys first came, with the value that came last. Pairs that are written out,
whatever their values, are read back; and any other text fails at an offset in front of one of its characters or at
its end. -/
theorem parse_reads_pairs (text : String) :
    (∀ t, parse text = .ok t ↔ ∃ ps, PairsDerive text.toList ps ∧ t = empty.withEntries ps) ∧
    (∀ ps, ((empty.withEntries ps).entries.map (·.1)).Nodup ∧
      (empty.withEntries ps).entries.map (·.1) = (ps.map (·.1)).eraseDups ∧
      ∀ key, (empty.withEntries ps).get? key = ps.reverse.lookup key) ∧
    (∀ (ps : List (List Char × String × String)) (tail : List Char),
      (∀ p ∈ ps, IsGap p.1 ∧ IsKey p.2.1.toList) → IsGap tail →
      text.toList = ps.flatMap (fun p => p.1 ++ pairText p.2) ++ tail →
      parse text = .ok (empty.withEntries (ps.map Prod.snd))) ∧
    ∀ e, parse text = .error e → e.tag = text ∧ e.offset ≤ byteLength text.toList ∧
      ∃ front back, text.toList = front ++ back ∧ byteLength front = e.offset := by
  refine ⟨fun t => parse_eq_ok_iff.trans scan_eq_ok_iff, fun ps => ?_, fun ps tail hps htail htext => ?_,
    fun e h => ?_⟩
  · simp only [get?, entries_withEntries_empty]
    exact ⟨Fields.nodup_names_ofAssignments ps, Fields.names_ofAssignments ps, Fields.get?_ofAssignments ps⟩
  · rw [parse_eq_ok_iff, htext]
    exact scan_of_derives (pairsDerive_flatMap hps htail) empty 0
  · obtain ⟨htag, hscan⟩ := parse_eq_error_iff.1 h
    obtain hheld | ⟨front, back, htext, hoffset⟩ := scan_error_offset hscan
    · cases hheld
    · rw [Nat.zero_add] at hoffset
      refine ⟨htag, ?_, front, back, htext, hoffset.symm⟩
      rw [hoffset, htext, Text.byteLength_append]
      exact Nat.le_add_right _ _

/-- Escapes, an empty value and a key that comes twice, of a character of two bytes; a backslash that is kept; and a
value that is not closed. -/
theorem parse_reads_pairs_escaped :
    parse "é:\"a\\\"b\\\\\" \tb:\"\"é:\"x\"\n" = .ok ⟨[("é", "x"), ("b", "")]⟩ ∧
    (∃ ps, PairsDerive "k:\"\\d\"".toList ps ∧ ⟨[("k", "\\d")]⟩ = empty.withEntries ps) ∧
    parse "é:\"1\" b:\"2" = .error ⟨"é:\"1\" b:\"2", 7⟩ ∧
    ∃ front back, "é:\"1\" b:\"2".toList = front ++ back ∧ byteLength front = 7 := by
  have hok : parse "k:\"\\d\"" = .ok ⟨[("k", "\\d")]⟩ := rfl
  have herror : parse "é:\"1\" b:\"2" = .error ⟨"é:\"1\" b:\"2", 7⟩ := rfl
  have hencoded := (parse_reads_pairs "é:\"a\\\"b\\\\\" \tb:\"\"é:\"x\"\n").2.2.1
    [([], "é", "a\"b\\"), ([' ', '\t'], "b", ""), ([], "é", "x")] ['\n'] (by decide) (by decide) rfl
  exact ⟨hencoded, ((parse_reads_pairs _).1 _).1 hok, herror, ((parse_reads_pairs _).2.2.2 _ herror).2.2⟩

end FieldRules.Tag
