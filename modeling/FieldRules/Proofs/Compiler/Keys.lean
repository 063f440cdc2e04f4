import FieldRules.Proofs.Schema.Matching
import FieldRules.Proofs.Text.Quoted
import Mathlib.Logic.Encodable.Basic
import Mathlib.Logic.Equiv.List

/-!
# Keys as texts

Written out, a key is one text without lengths in front of its parts: a codec and a test for zero are marked by their
addresses, and names and tags come as they are. Schemas with the same outline whose annotations differ at some depth
have different keys even so, whatever rules and modifiers come behind (`requestKey_text_ne`).
-/

namespace FieldRules

open RequestKey (ofText)

/-! ### Tags -/

namespace Tag

private theorem entryText_append_inj {e e' : String × String} {as bs : List Char}
    (h : (entryText e).toList ++ as = (entryText e').toList ++ bs) : e = e' ∧ as = bs := by
  simp only [entryText, String.toList_append, List.append_assoc] at h
  obtain ⟨hkey, hrest⟩ := Text.quote_append_inj (List.append_cancel_left h)
  obtain ⟨hvalue, htail⟩ := Text.quote_append_inj (List.append_cancel_left hrest)
  exact ⟨Prod.ext hkey hvalue, List.append_cancel_left htail⟩

/-- The entries behind the first one, each behind a comma. -/
private theorem flatMap_entryText_append_inj {es es' : List (String × String)} {as bs : List Char}
    (h : es.flatMap (fun e => ", ".toList ++ (entryText e).toList) ++ ']' :: as =
      es'.flatMap (fun e => ", ".toList ++ (entryText e).toList) ++ ']' :: bs) : es = es' ∧ as = bs := by
  induction es generalizing es' with
  | nil =>
    cases es' with
    | nil => simpa using h
    | cons e' es' => simp at h
  | cons e es ih =>
    cases es' with
    | nil => simp at h
    | cons e' es' =>
      simp only [List.flatMap_cons, List.append_assoc] at h
      obtain ⟨rfl, hrest⟩ := entryText_append_inj (List.append_cancel_left h)
      obtain ⟨rfl, htail⟩ := ih hrest
      exact ⟨rfl, htail⟩

private theorem toList_intercalate_entryText (e : String × String) (es : List (String × String)) :
    (", ".intercalate ((e :: es).map entryText)).toList =
      (entryText e).toList ++ es.flatMap fun e => ", ".toList ++ (entryText e).toList := by
  induction es generalizing e with
  | nil => simp
  | cons e' es ih =>
    rw [List.map_cons, List.map_cons, String.intercalate_cons_cons, String.toList_append, String.toList_append,
      ← List.map_cons, ih, List.flatMap_cons]
    simp

private theorem entries_append_inj {es es' : List (String × String)} {as bs : List Char}
    (h : (", ".intercalate (es.map entryText)).toList ++ ']' :: as =
      (", ".intercalate (es'.map entryText)).toList ++ ']' :: bs) : es = es' ∧ as = bs := by
  cases es with
  | nil =>
    cases es' with
    | nil => simpa using h
    | cons e' es' =>
      rw [toList_intercalate_entryText] at h
      simp [entryText] at h
  | cons e es =>
    cases es' with
    | nil =>
      rw [toList_intercalate_entryText] at h
      simp [entryText] at h
    | cons e' es' =>
      rw [toList_intercalate_entryText, toList_intercalate_entryText, List.append_assoc, List.append_assoc] at h
      obtain ⟨rfl, hrest⟩ := entryText_append_inj h
      obtain ⟨rfl, htail⟩ := flatMap_entryText_append_inj hrest
      exact ⟨rfl, htail⟩

private theorem toList_describe (t : Tag) :
    t.describe.toList =
      "StructTag \x7b entries: [".toList ++ ((", ".intercalate (t.entries.map entryText)).toList ++
        "] \x7d".toList) := by
  have hdescribe : t.describe =
      "StructTag \x7b entries: [" ++ ", ".intercalate (t.entries.map entryText) ++ "] \x7d" := rfl
  rw [hdescribe, String.toList_append, String.toList_append, List.append_assoc]

/-- The description of a tag in front of a text tells the tag and the rest of the text. -/
private theorem describe_append_inj {t t' : Tag} {as bs : List Char}
    (h : t.describe.toList ++ as = t'.describe.toList ++ bs) : t = t' ∧ as = bs := by
  have hclose (as : List Char) : "] \x7d".toList ++ as = ']' :: (" \x7d".toList ++ as) := by simp
  simp only [toList_describe, List.append_assoc, hclose] at h
  obtain ⟨hentries, htail⟩ := entries_append_inj (List.append_cancel_left h)
  have htag : t = t' := by
    cases t
    cases t'
    exact congrArg Tag.mk hentries
  exact ⟨htag, List.append_cancel_left htail⟩

end Tag

/-! ### Keys as texts -/

namespace RequestKey

variable {a : Addresses}

@[simp] theorem chars_append (k k' : RequestKey) : chars a (k ++ k') = chars a k ++ chars a k' :=
  List.flatMap_append

@[simp] theorem chars_ofText (t : String) : chars a (ofText t) = t.toList := by
  have hchar (c : Char) : (KeySymbol.char c).chars a = [c] := rfl
  simp [chars, ofText, List.flatMap_map, hchar]

end RequestKey

open RequestKey (chars)

/-! ### Marks -/

/-- The characters of marks, none of which keys put around their parts. -/
def IsMarkChar (c : Char) : Prop :=
  c.isAlphanum = true ∨ c ∈ ['+', '@']

instance : DecidablePred IsMarkChar := fun _ => inferInstanceAs (Decidable (_ = _ ∨ _))

private theorem isAlphanum_of_mem_addressText {n : Nat} {c : Char} (h : c ∈ addressText n) : c.isAlphanum = true := by
  simp only [addressText, List.mem_cons] at h
  rcases h with rfl | rfl | h
  · decide
  · decide
  · exact Text.isAlphanum_of_mem_hexDigits h

private theorem addressText_inj {m n : Nat} (h : addressText m = addressText n) : m = n := by
  simp only [addressText, List.cons.injEq, true_and] at h
  exact Text.hexDigits_inj h

/-- The mark of what has an address, if there is something to mark. -/
def markText (word : String) : Option Nat → List Char
  | none => []
  | some n => word.toList ++ addressText n

private theorem isMarkChar_of_mem_markText {word : String} (hword : ∀ c ∈ word.toList, IsMarkChar c)
    {n? : Option Nat} : ∀ c ∈ markText word n?, IsMarkChar c := by
  cases n? with
  | none => exact List.forall_mem_nil _
  | some n => exact List.forall_mem_append.2 ⟨hword, fun c hc => .inl (isAlphanum_of_mem_addressText hc)⟩

/-- An address ends where the mark of a test for zero begins. -/
private theorem addressText_append_inj {m m' : Nat} {n? n'? : Option Nat}
    (h : addressText m ++ markText "+zero@" n? = addressText m' ++ markText "+zero@" n'?) : m = m' ∧ n? = n'? := by
  have hplus (m : Nat) : '+' ∉ addressText m := by
    intro hmem
    exact absurd (isAlphanum_of_mem_addressText hmem) (by decide)
  have hmark (n : Nat) : markText "+zero@" (some n) = '+' :: ("zero@".toList ++ addressText n) := by simp [markText]
  cases n? with
  | none =>
    cases n'? with
    | none => exact ⟨addressText_inj (by simpa [markText] using h), rfl⟩
    | some n' =>
      have hmem : '+' ∈ addressText m' ++ markText "+zero@" (some n') := by simp [hmark]
      rw [← h, markText, List.append_nil] at hmem
      exact absurd hmem (hplus m)
  | some n =>
    cases n'? with
    | none =>
      have hmem : '+' ∈ addressText m ++ markText "+zero@" (some n) := by simp [hmark]
      rw [h, markText, List.append_nil] at hmem
      exact absurd hmem (hplus m')
    | some n' =>
      rw [hmark, hmark] at h
      have hfront : addressText m ++ ([] ++ '+' :: ("zero@".toList ++ addressText n)) =
          addressText m' ++ ([] ++ '+' :: ("zero@".toList ++ addressText n')) := h
      obtain ⟨haddress, hzero⟩ := Text.front_inj (p := fun c => c.isAlphanum = true)
        (fun _ => isAlphanum_of_mem_addressText) (fun _ => isAlphanum_of_mem_addressText) (by decide) hfront
      exact ⟨addressText_inj haddress, congrArg some (addressText_inj (List.append_cancel_left hzero))⟩

/-- Marks tell whether something is marked, and its address. -/
private theorem markText_inj {m? m'? n? n'? : Option Nat}
    (h : markText "+codec@" m? ++ markText "+zero@" n? = markText "+codec@" m'? ++ markText "+zero@" n'?) :
    m? = m'? ∧ n? = n'? := by
  cases m? with
  | none =>
    cases m'? with
    | none =>
      -- An address in front of both sides leaves the marks of the tests as they are.
      have hzero := congrArg (addressText 0 ++ ·) h
      exact ⟨rfl, (addressText_append_inj hzero).2⟩
    | some m' => cases n? <;> simp [markText] at h
  | some m =>
    cases m'? with
    | none => cases n'? <;> simp [markText] at h
    | some m' =>
      rw [markText, markText, List.append_assoc, List.append_assoc] at h
      obtain ⟨rfl, rfl⟩ := addressText_append_inj (List.append_cancel_left h)
      exact ⟨rfl, rfl⟩

namespace Schema

variable {a : Addresses} {s s' : Schema}

/-- The marks in a key: of the codec, and of the test for zero. -/
def marks (s : Schema) : RequestKey :=
  (s.codec?.map fun c => KeySymbol.codec c.id).toList ++ (s.zeroTest?.map fun t => KeySymbol.zeroTest t.id).toList

private theorem signature_eq (s : Schema) : s.signature = ofText s.name ++ (s.marks ++ s.shape.signature) := by
  obtain ⟨shape, alias?, codec?, test⟩ := s
  simp [signature, marks]

private theorem chars_marks (s : Schema) :
    chars a s.marks = markText "+codec@" ((s.codec?.map Codec.id).map a.codec) ++
      markText "+zero@" ((s.zeroTest?.map ZeroTest.id).map a.zeroTest) := by
  have hcodec (id : String) : chars a [.codec id] = markText "+codec@" (some (a.codec id)) := List.append_nil _
  have hzero (id : String) : chars a [.zeroTest id] = markText "+zero@" (some (a.zeroTest id)) := List.append_nil _
  rw [marks, RequestKey.chars_append]
  congr 1
  · cases s.codec? with
    | none => rfl
    | some c => exact hcodec c.id
  · cases s.zeroTest? with
    | none => rfl
    | some t => exact hzero t.id

private theorem isMarkChar_of_mem_marks : ∀ c ∈ chars a s.marks, IsMarkChar c := by
  rw [chars_marks, List.forall_mem_append]
  exact ⟨isMarkChar_of_mem_markText (by simp [IsMarkChar]), isMarkChar_of_mem_markText (by simp [IsMarkChar])⟩

private theorem marks_inj (h : chars a s.marks = chars a s'.marks) :
    s.codec?.map Codec.id = s'.codec?.map Codec.id ∧ s.zeroTest?.map ZeroTest.id = s'.zeroTest?.map ZeroTest.id := by
  rw [chars_marks, chars_marks] at h
  obtain ⟨hcodec, hzero⟩ := markText_inj h
  exact ⟨Option.map_injective a.codec_injective hcodec, Option.map_injective a.zeroTest_injective hzero⟩

end Schema

/-! ### Schemas with the same outline -/

mutual

/-- Whether two schemas have the same names, kinds, names of fields and embedded fields at every position. -/
inductive Schema.SameOutline : Schema → Schema → Prop
  | of_shapes {s s' : Schema} (name : s.name = s'.name) (shapes : Shape.SameOutline s.shape s'.shape) :
      Schema.SameOutline s s'

/-- Whether two shapes are of the same kind, with parts that have the same outline. -/
inductive Shape.SameOutline : Shape → Shape → Prop
  | scalar {shape shape' : Shape} (kind : shape.kind = shape'.kind) (scalar : shape.isScalar = true) :
      Shape.SameOutline shape shape'
  | slice {item item' : Schema} (items : Schema.SameOutline item item') :
      Shape.SameOutline (.slice item) (.slice item')
  | array {item item' : Schema} (length length' : Nat) (items : Schema.SameOutline item item') :
      Shape.SameOutline (.array item length) (.array item' length')
  | map {key key' item item' : Schema} (keys : Schema.SameOutline key key') (items : Schema.SameOutline item item') :
      Shape.SameOutline (.map key item) (.map key' item')
  | struct {fields fields' : List Field} (all : Field.SameOutlines fields fields') :
      Shape.SameOutline (.struct fields) (.struct fields')
  | pointer {target target' : Schema} (targets : Schema.SameOutline target target') :
      Shape.SameOutline (.pointer target) (.pointer target')

/-- Whether fields have the same names one by one, are embedded alike, and have schemas with the same outline. -/
inductive Field.SameOutlines : List Field → List Field → Prop
  | nil : Field.SameOutlines [] []
  | cons {f f' : Field} {rest rest' : List Field} (name : f.name = f'.name) (embedded : f.embedded = f'.embedded)
      (schemas : Schema.SameOutline f.schema f'.schema) (rests : Field.SameOutlines rest rest') :
      Field.SameOutlines (f :: rest) (f' :: rest')

end

mutual

/-- Whether two schemas have different annotations at some depth: only one of them has a codec there, or they have
distinct ones; so for a test for zero; or the tags of a field are not the same. -/
inductive Schema.Differs : Schema → Schema → Prop
  | codec {s s' : Schema} (ids : s.codec?.map Codec.id ≠ s'.codec?.map Codec.id) : Schema.Differs s s'
  | zeroTest {s s' : Schema} (ids : s.zeroTest?.map ZeroTest.id ≠ s'.zeroTest?.map ZeroTest.id) : Schema.Differs s s'
  | shape {s s' : Schema} (shapes : Shape.Differs s.shape s'.shape) : Schema.Differs s s'

/-- Whether some part of two shapes has different annotations. -/
inductive Shape.Differs : Shape → Shape → Prop
  | slice {item item' : Schema} (items : Schema.Differs item item') : Shape.Differs (.slice item) (.slice item')
  | array {item item' : Schema} {length length' : Nat} (items : Schema.Differs item item') :
      Shape.Differs (.array item length) (.array item' length')
  | key {key key' item item' : Schema} (keys : Schema.Differs key key') :
      Shape.Differs (.map key item) (.map key' item')
  | item {key key' item item' : Schema} (items : Schema.Differs item item') :
      Shape.Differs (.map key item) (.map key' item')
  | struct {fields fields' : List Field} (some_differ : Field.SomeDiffer fields fields') :
      Shape.Differs (.struct fields) (.struct fields')
  | pointer {target target' : Schema} (targets : Schema.Differs target target') :
      Shape.Differs (.pointer target) (.pointer target')

/-- Whether some field has different annotations in two lists. -/
inductive Field.SomeDiffer : List Field → List Field → Prop
  | tag {f f' : Field} {rest rest' : List Field} (tags : f.tag ≠ f'.tag) : Field.SomeDiffer (f :: rest) (f' :: rest')
  | schema {f f' : Field} {rest rest' : List Field} (schemas : Schema.Differs f.schema f'.schema) :
      Field.SomeDiffer (f :: rest) (f' :: rest')
  | rest {f f' : Field} {rest rest' : List Field} (rests : Field.SomeDiffer rest rest') :
      Field.SomeDiffer (f :: rest) (f' :: rest')

end

/-! ### Reading keys -/

/-- Whether two texts begin with the same text up to a character that marks do not have. -/
def BeginAlike (as bs : List Char) : Prop :=
  ∃ name d as' bs', ¬IsMarkChar d ∧ as = name ++ d :: as' ∧ bs = name ++ d :: bs'

private theorem beginAlike_cons {d : Char} (hd : ¬IsMarkChar d) (as bs : List Char) :
    BeginAlike (d :: as) (d :: bs) :=
  ⟨[], d, as, bs, hd, rfl, rfl⟩

private theorem BeginAlike.front_inj {as bs xs ys : List Char} (h : BeginAlike as bs) (hxs : ∀ c ∈ xs, IsMarkChar c)
    (hys : ∀ c ∈ ys, IsMarkChar c) (heq : xs ++ as = ys ++ bs) : xs = ys ∧ as = bs := by
  obtain ⟨name, d, as', bs', hd, rfl, rfl⟩ := h
  obtain ⟨hfront, rfl⟩ := Text.front_inj hxs hys hd heq
  exact ⟨hfront, rfl⟩

section

variable {a : Addresses} {as bs : List Char}

private theorem Field.chars_signature_cons (f : Field) (rest : List Field) :
    chars a (Field.signature (f :: rest)) = f.name.toList ++ ':' :: (f.tag.describe.toList ++ ((":" ++
      (if f.embedded then "true" else "false") ++ ";").toList ++ (chars a f.schema.signature ++
      chars a (Field.signature rest)))) := by
  obtain ⟨name, schema, tag, embedded⟩ := f
  have hsignature : Field.signature (⟨name, schema, tag, embedded⟩ :: rest) =
      ofText (name ++ ":" ++ tag.describe ++ ":" ++ (if embedded then "true" else "false") ++ ";") ++
        schema.signature ++ Field.signature rest := rfl
  simp [hsignature]

/-- The part of a key for one schema inside of another. -/
private theorem RequestKey.chars_inside (k : RequestKey) (as : List Char) :
    chars a (ofText "(" ++ k ++ ofText ")") ++ as = '(' :: (chars a k ++ ')' :: as) := by
  simp

private theorem RequestKey.chars_entry (k k' : RequestKey) (as : List Char) :
    chars a (ofText "(" ++ k ++ ofText "," ++ k' ++ ofText ")") ++ as =
      '(' :: (chars a k ++ ',' :: (chars a k' ++ ')' :: as)) := by
  simp

private theorem RequestKey.chars_fields (k : RequestKey) (as : List Char) :
    chars a (ofText "\x7b" ++ k ++ ofText "\x7d") ++ as = '\x7b' :: (chars a k ++ '\x7d' :: as) := by
  simp

private theorem Shape.signature_of_isScalar {shape : Shape} (h : shape.isScalar = true) : shape.signature = [] := by
  cases shape with
  | bool | int | uint | float | string | any => rfl
  | slice | array | map | struct | pointer => cases h

private theorem Shape.isScalar_congr {shape shape' : Shape} (h : shape.kind = shape'.kind) :
    shape.isScalar = shape'.isScalar := by
  cases shape <;> cases shape' <;> first | rfl | cases h

private theorem Shape.SameOutline.beginAlike {shape shape' : Shape} (h : shape.SameOutline shape')
    (hrest : BeginAlike as bs) :
    BeginAlike (chars a shape.signature ++ as) (chars a shape'.signature ++ bs) := by
  have hopen : ¬IsMarkChar '(' := by decide
  have hbrace : ¬IsMarkChar '\x7b' := by decide
  cases h with
  | scalar kind scalar =>
    rw [signature_of_isScalar scalar, signature_of_isScalar (isScalar_congr kind ▸ scalar)]
    exact hrest
  | slice | array | pointer =>
    simp only [Shape.signature, RequestKey.chars_inside]
    exact beginAlike_cons hopen _ _
  | map =>
    simp only [Shape.signature, RequestKey.chars_entry]
    exact beginAlike_cons hopen _ _
  | struct =>
    simp only [Shape.signature, RequestKey.chars_fields]
    exact beginAlike_cons hbrace _ _

private theorem Field.SameOutlines.beginAlike {fields fields' : List Field} (h : Field.SameOutlines fields fields')
    (hrest : BeginAlike as bs) :
    BeginAlike (chars a (Field.signature fields) ++ as) (chars a (Field.signature fields') ++ bs) := by
  cases h with
  | nil => exact hrest
  | @cons f f' rest rest' name embedded schemas rests =>
    rw [Field.chars_signature_cons, Field.chars_signature_cons, name, List.append_assoc, List.append_assoc]
    exact ⟨_, ':', _, _, by decide, rfl, rfl⟩

end

mutual

/-- In front of texts that begin alike, the keys of schemas with the same outline agree only if no annotation
differs. -/
private theorem Schema.SameOutline.read {a : Addresses} {s s' : Schema} : s.SameOutline s' → ∀ {as bs : List Char},
    BeginAlike as bs → chars a s.signature ++ as = chars a s'.signature ++ bs → ¬s.Differs s' ∧ as = bs
  | .of_shapes name shapes, as, bs, hrest, h => by
    simp only [Schema.signature_eq, RequestKey.chars_append, RequestKey.chars_ofText, name, List.append_assoc] at h
    obtain ⟨hmarks, hshape⟩ := (shapes.beginAlike hrest).front_inj Schema.isMarkChar_of_mem_marks
      Schema.isMarkChar_of_mem_marks (List.append_cancel_left h)
    obtain ⟨hcodec, hzero⟩ := Schema.marks_inj hmarks
    obtain ⟨hsame, htail⟩ := shapes.read hrest hshape
    refine ⟨fun hdiffers => ?_, htail⟩
    cases hdiffers with
    | codec ids => exact ids hcodec
    | zeroTest ids => exact ids hzero
    | shape shapes => exact hsame shapes

private theorem Shape.SameOutline.read {a : Addresses} {shape shape' : Shape} : shape.SameOutline shape' →
    ∀ {as bs : List Char}, BeginAlike as bs → chars a shape.signature ++ as = chars a shape'.signature ++ bs →
    ¬shape.Differs shape' ∧ as = bs
  | .scalar kind scalar, as, bs, _, h => by
    have scalar' := Shape.isScalar_congr kind ▸ scalar
    rw [Shape.signature_of_isScalar scalar, Shape.signature_of_isScalar scalar'] at h
    refine ⟨fun hdiffers => ?_, h⟩
    cases hdiffers <;> cases scalar
  | .slice items, as, bs, _, h => by
    simp only [Shape.signature, RequestKey.chars_inside] at h
    obtain ⟨hitems, htail⟩ := items.read (beginAlike_cons (by decide) as bs) (List.cons.inj h).2
    refine ⟨fun hdiffers => ?_, (List.cons.inj htail).2⟩
    cases hdiffers with
    | slice items => exact hitems items
  | .array _ _ items, as, bs, _, h => by
    simp only [Shape.signature, RequestKey.chars_inside] at h
    obtain ⟨hitems, htail⟩ := items.read (beginAlike_cons (by decide) as bs) (List.cons.inj h).2
    refine ⟨fun hdiffers => ?_, (List.cons.inj htail).2⟩
    cases hdiffers with
    | array items => exact hitems items
  | .map keys items, as, bs, _, h => by
    simp only [Shape.signature, RequestKey.chars_entry] at h
    obtain ⟨hkeys, hrest⟩ := keys.read (beginAlike_cons (by decide) _ _) (List.cons.inj h).2
    obtain ⟨hitems, htail⟩ := items.read (beginAlike_cons (by decide) as bs) (List.cons.inj hrest).2
    refine ⟨fun hdiffers => ?_, (List.cons.inj htail).2⟩
    cases hdiffers with
    | key keys => exact hkeys keys
    | item items => exact hitems items
  | .struct all, as, bs, _, h => by
    simp only [Shape.signature, RequestKey.chars_fields] at h
    obtain ⟨hfields, htail⟩ := all.read (beginAlike_cons (by decide) as bs) (List.cons.inj h).2
    refine ⟨fun hdiffers => ?_, (List.cons.inj htail).2⟩
    cases hdiffers with
    | struct some_differ => exact hfields some_differ
  | .pointer targets, as, bs, _, h => by
    simp only [Shape.signature, RequestKey.chars_inside] at h
    obtain ⟨htargets, htail⟩ := targets.read (beginAlike_cons (by decide) as bs) (List.cons.inj h).2
    refine ⟨fun hdiffers => ?_, (List.cons.inj htail).2⟩
    cases hdiffers with
    | pointer targets => exact htargets targets

private theorem Field.SameOutlines.read {a : Addresses} {fields fields' : List Field} :
    Field.SameOutlines fields fields' →
    ∀ {as bs : List Char}, BeginAlike as bs →
    chars a (Field.signature fields) ++ as = chars a (Field.signature fields') ++ bs →
    ¬Field.SomeDiffer fields fields' ∧ as = bs
  | .nil, as, bs, _, h => ⟨nofun, h⟩
  | @Field.SameOutlines.cons f f' rest rest' name embedded schemas rests, as, bs, hrest, h => by
    simp only [Field.chars_signature_cons, name, embedded, List.append_assoc, List.cons_append] at h
    obtain ⟨htags, hschema⟩ := Tag.describe_append_inj (List.cons.inj (List.append_cancel_left h)).2
    obtain ⟨hschemas, hbehind⟩ := schemas.read (rests.beginAlike hrest) (List.append_cancel_left hschema)
    obtain ⟨hrests, htail⟩ := rests.read hrest hbehind
    refine ⟨fun hdiffers => ?_, htail⟩
    cases hdiffers with
    | tag tags => exact tags htags
    | schema schemas => exact hschemas schemas
    | rest rests => exact hrests rests

end

/-! ### Requests -/

private theorem chars_requestKey {a : Addresses} (rule : String) (s : Schema) (mods : List Modifier) :
    chars a (requestKey rule s mods) = chars a s.signature ++
      '\x1f' :: (rule ++ "\x1f[" ++ ", ".intercalate (mods.map Modifier.describe) ++ "]").toList := by
  simp [requestKey]

/-- Schemas with the same outline that differ in an annotation at some depth have different keys, whatever rules and
modifiers they are asked for with. -/
theorem requestKey_text_ne (a : Addresses) {s s' : Schema} (houtline : s.SameOutline s') (hdiffers : s.Differs s')
    (rule rule' : String) (mods mods' : List Modifier) :
    (requestKey rule s mods).text a ≠ (requestKey rule' s' mods').text a := by
  intro h
  have hchars := String.ofList_injective h
  rw [chars_requestKey, chars_requestKey] at hchars
  exact (houtline.read (beginAlike_cons (by decide) _ _) hchars).1 hdiffers

/-- A codec that is missing in front of a field whose name is the mark of the codec. -/
theorem requestKey_text_ne_marked :
    ∃ (a : Addresses) (s s' : Schema), s.SameOutline s' ∧ s.Differs s' ∧
      s.fields.map (·.name) = ["a", String.ofList (markText "+codec@" (some (a.codec "upper")))] ∧
      (requestKey "@struct" s [.optional]).text a ≠ (requestKey "" s' []).text a := by
  let a : Addresses := default
  let mark := Field.plain (String.ofList (markText "+codec@" (some (a.codec "upper")))) (.int 8)
  let s := Schema.struct "T" [Field.plain "a" ((Schema.int 8).withCodec .upper), mark]
  let s' := Schema.struct "T" [Field.plain "a" (.int 8), mark]
  have hint (codec? : Option Codec) : Schema.SameOutline ⟨.int 8, none, codec?, none⟩ (.int 8) :=
    .of_shapes rfl (.scalar rfl rfl)
  have houtline : s.SameOutline s' :=
    .of_shapes rfl (.struct (.cons rfl rfl (hint _) (.cons rfl rfl (hint _) .nil)))
  have hdiffers : s.Differs s' := .shape (.struct (.schema (.codec nofun)))
  exact ⟨a, s, s', houtline, hdiffers, rfl, requestKey_text_ne a houtline hdiffers "@struct" "" [.optional] []⟩

end FieldRules
