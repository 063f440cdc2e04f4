import FieldRules.Compiler.Compile
import FieldRules.Proofs.Schema.Fields

/-!
# Schemas that differ in messages

Two schemas match when they are the same but for the tags of their fields, and these say the same of rule, default and
name. What they say of messages is related instead, as is asked for: with equality the schemas are as good as equal,
and with no condition the messages are arbitrary. Embedded fields keep their messages, which decide whether they are
flattened. Matching schemas are read and compiled along the same lines.
-/

namespace FieldRules

variable {keys : TagKeys} {M : Option String → Option String → Prop}

/-- The message in a tag. -/
def Tag.message? (keys : TagKeys) (tag : Tag) : Option String :=
  tag.get? keys.message

/-- Whether two tags of a field say the same but for their messages, which are related. -/
structure Tag.Matches (keys : TagKeys) (M : Option String → Option String → Prop) (embedded : Bool) (tag tag' : Tag) :
    Prop where
  rule : tag.get? keys.rule = tag'.get? keys.rule
  default : tag.get? keys.default = tag'.get? keys.default
  name : tag.get? keys.name = tag'.get? keys.name
  message : M (tag.message? keys) (tag'.message? keys)
  embedded : embedded = true → tag.message? keys = tag'.message? keys

/-- Whether a shape has no parts. -/
def Shape.isScalar : Shape → Bool
  | .bool | .int _ | .uint _ | .float _ | .string | .any => true
  | _ => false

/-- A schema of a scalar has no items, no keys and no fields. -/
theorem Schema.parts_of_isScalar {s : Schema} (h : s.shape.isScalar = true) :
    s.item? = none ∧ s.key? = none ∧ ∀ access, s.flatFields keys access = [] := by
  obtain ⟨shape, alias?, codec?, test⟩ := s
  cases shape <;> first | exact ⟨rfl, rfl, fun _ => rfl⟩ | cases h

mutual

/-- Whether two schemas are the same but for the messages of fields, which are related. -/
inductive Schema.Matches (keys : TagKeys) (M : Option String → Option String → Prop) : Schema → Schema → Prop
  | of_shapes {shape shape' : Shape} (alias? : Option String) (codec? : Option Codec) (test : Option ZeroTest)
      (shapes : Shape.Matches keys M shape shape') :
      Schema.Matches keys M ⟨shape, alias?, codec?, test⟩ ⟨shape', alias?, codec?, test⟩

/-- Whether two shapes are the same but for the messages of fields. -/
inductive Shape.Matches (keys : TagKeys) (M : Option String → Option String → Prop) : Shape → Shape → Prop
  | scalar {shape : Shape} (scalar : shape.isScalar = true) : Shape.Matches keys M shape shape
  | slice {item item' : Schema} (items : Schema.Matches keys M item item') :
      Shape.Matches keys M (.slice item) (.slice item')
  | array {item item' : Schema} (length : Nat) (items : Schema.Matches keys M item item') :
      Shape.Matches keys M (.array item length) (.array item' length)
  | map {key key' item item' : Schema} (keys_match : Schema.Matches keys M key key')
      (items : Schema.Matches keys M item item') : Shape.Matches keys M (.map key item) (.map key' item')
  | struct {fields fields' : List Field} (fields_match : Field.AllMatch keys M fields fields') :
      Shape.Matches keys M (.struct fields) (.struct fields')
  | pointer {target target' : Schema} (targets : Schema.Matches keys M target target') :
      Shape.Matches keys M (.pointer target) (.pointer target')

/-- Whether the fields of two lists are the same but for their messages. -/
inductive Field.AllMatch (keys : TagKeys) (M : Option String → Option String → Prop) : List Field → List Field → Prop
  | nil : Field.AllMatch keys M [] []
  | cons (name : String) {schema schema' : Schema} {tag tag' : Tag} (embedded : Bool) {rest rest' : List Field}
      (schemas : Schema.Matches keys M schema schema') (tags : tag.Matches keys M embedded tag')
      (rest_match : Field.AllMatch keys M rest rest') :
      Field.AllMatch keys M (⟨name, schema, tag, embedded⟩ :: rest) (⟨name, schema', tag', embedded⟩ :: rest')

end

mutual

theorem Schema.Matches.refl (hM : ∀ m, M m m) : (s : Schema) → s.Matches keys M s
  | ⟨shape, alias?, codec?, test⟩ => .of_shapes alias? codec? test (Shape.Matches.refl hM shape)

private theorem Shape.Matches.refl (hM : ∀ m, M m m) : (shape : Shape) → shape.Matches keys M shape
  | .bool | .int _ | .uint _ | .float _ | .string | .any => .scalar rfl
  | .slice item => .slice (Schema.Matches.refl hM item)
  | .array item length => .array length (Schema.Matches.refl hM item)
  | .map key item => .map (Schema.Matches.refl hM key) (Schema.Matches.refl hM item)
  | .struct fields => .struct (Field.AllMatch.refl hM fields)
  | .pointer target => .pointer (Schema.Matches.refl hM target)

private theorem Field.AllMatch.refl (hM : ∀ m, M m m) : (fields : List Field) → Field.AllMatch keys M fields fields
  | [] => .nil
  | ⟨name, schema, _, embedded⟩ :: rest =>
    .cons name embedded (Schema.Matches.refl hM schema) ⟨rfl, rfl, rfl, hM _, fun _ => rfl⟩
      (Field.AllMatch.refl hM rest)

end

private theorem Tag.Matches.symm (hM : ∀ m m', M m m' → M m' m) {embedded : Bool} {tag tag' : Tag}
    (h : tag.Matches keys M embedded tag') : tag'.Matches keys M embedded tag :=
  ⟨h.rule.symm, h.default.symm, h.name.symm, hM _ _ h.message, fun hembedded => (h.embedded hembedded).symm⟩

mutual

theorem Schema.Matches.symm (hM : ∀ m m', M m m' → M m' m) {s s' : Schema} :
    s.Matches keys M s' → s'.Matches keys M s
  | .of_shapes alias? codec? test shapes => .of_shapes alias? codec? test (shapes.symm hM)

private theorem Shape.Matches.symm (hM : ∀ m m', M m m' → M m' m) {shape shape' : Shape} :
    shape.Matches keys M shape' → shape'.Matches keys M shape
  | .scalar h => .scalar h
  | .slice items => .slice (items.symm hM)
  | .array length items => .array length (items.symm hM)
  | .map keys_match items => .map (keys_match.symm hM) (items.symm hM)
  | .struct fields_match => .struct (fields_match.symm hM)
  | .pointer targets => .pointer (targets.symm hM)

private theorem Field.AllMatch.symm (hM : ∀ m m', M m m' → M m' m) {fields fields' : List Field} :
    Field.AllMatch keys M fields fields' → Field.AllMatch keys M fields' fields
  | .nil => .nil
  | .cons name embedded schemas tags rest => .cons name embedded (schemas.symm hM) (tags.symm hM) (rest.symm hM)

end

/-! ### What matching schemas have in common -/

namespace Tag.Matches

variable {embedded : Bool} {tag tag' : Tag}

theorem isHidden (h : tag.Matches keys M embedded tag') : Field.isHidden keys tag = Field.isHidden keys tag' := by
  rw [Field.isHidden, h.name, Field.isHidden]

theorem ruleText (h : tag.Matches keys M embedded tag') : Field.ruleText keys tag = Field.ruleText keys tag' := by
  rw [Field.ruleText, h.rule, Field.ruleText]

end Tag.Matches

/-- Giving a field that is not embedded a message, or another one, leaves its schema matching. -/
theorem Tag.matches_withEntry (hkeys : keys.message ∉ [keys.rule, keys.default, keys.name]) {tag : Tag}
    {text : String} (hM : M (tag.message? keys) (some text)) :
    tag.Matches keys M false (tag.withEntry keys.message text) := by
  simp only [List.mem_cons, List.not_mem_nil, or_false, not_or] at hkeys
  obtain ⟨hrule, hdefault, hname⟩ := hkeys
  have hget (key : String) (hkey : keys.message ≠ key) : tag.get? key = (tag.withEntry keys.message text).get? key :=
    (Fields.get?_set_ne tag.entries text hkey).symm
  refine ⟨hget _ hrule, hget _ hdefault, hget _ hname, ?_, fun h => absurd h Bool.false_ne_true⟩
  have hmessage : (tag.withEntry keys.message text).message? keys = some text :=
    Fields.get?_set_self tag.entries keys.message text
  rw [hmessage]
  exact hM

theorem Modifier.message?_modifiers (keys : TagKeys) (tag : Tag) :
    Modifier.message? (Field.modifiers keys tag) = tag.message? keys := by
  rw [Field.modifiers, Tag.message?]
  cases tag.get? keys.default <;> cases tag.get? keys.message <;> rfl

/-- Messages do not change a rule. -/
theorem Tag.Matches.foldl_modifiers {embedded : Bool} {tag tag' : Tag} (h : tag.Matches keys M embedded tag')
    (r : Rule) :
    (Field.modifiers keys tag).foldl Modifier.apply r = (Field.modifiers keys tag').foldl Modifier.apply r := by
  rw [Field.modifiers, Field.modifiers, h.default]
  cases tag'.get? keys.default <;> cases tag.get? keys.message <;> cases tag'.get? keys.message <;> rfl

namespace Schema.Matches

variable {s s' : Schema}

theorem codec? (h : s.Matches keys M s') : s.codec? = s'.codec? := by
  cases h; rfl

private theorem zeroTest? (h : s.Matches keys M s') : s.zeroTest? = s'.zeroTest? := by
  cases h; rfl

private theorem shapes (h : s.Matches keys M s') : s.shape.Matches keys M s'.shape := by
  cases h; assumption

theorem kind : s.Matches keys M s' → s.kind = s'.kind
  | .of_shapes _ _ _ shapes => by cases shapes <;> rfl

theorem length? : s.Matches keys M s' → s.length? = s'.length?
  | .of_shapes _ _ _ shapes => by cases shapes <;> rfl

private theorem isZero (h : s.Matches keys M s') (x : Value) : s.isZero x = s'.isZero x := by
  rw [Schema.isZero, h.zeroTest?, Schema.isZero]

theorem deemsEmpty (h : s.Matches keys M s') (x : Value) : s.deemsEmpty x = s'.deemsEmpty x := by
  simp only [Schema.deemsEmpty, h.kind, h.isZero]

private theorem readShape {shape shape' : Shape} (h : shape.Matches keys M shape') (text : String) :
    Schema.readShape text shape = Schema.readShape text shape' := by
  cases h <;> rfl

end Schema.Matches

mutual

private theorem Schema.Matches.target {s s' : Schema} : s.Matches keys M s' → s.target.Matches keys M s'.target
  | .of_shapes alias? codec? test shapes => Shape.Matches.target alias? codec? test shapes

private theorem Shape.Matches.target (alias? : Option String) (codec? : Option Codec) (test : Option ZeroTest)
    {shape shape' : Shape} : shape.Matches keys M shape' →
      (Schema.target ⟨shape, alias?, codec?, test⟩).Matches keys M (Schema.target ⟨shape', alias?, codec?, test⟩)
  | @Shape.Matches.scalar _ _ shape scalar => by
    cases shape <;> first | exact .of_shapes alias? codec? test (.scalar rfl) | cases scalar
  | .slice items => .of_shapes alias? codec? test (.slice items)
  | .array length items => .of_shapes alias? codec? test (.array length items)
  | .map keys_match items => .of_shapes alias? codec? test (.map keys_match items)
  | .struct fields_match => .of_shapes alias? codec? test (.struct fields_match)
  | .pointer targets => by
    simp only [Schema.target]
    exact targets.target

end

namespace Schema.Matches

variable {s s' : Schema}

theorem impliedRule (h : s.Matches keys M s') : s.impliedRule = s'.impliedRule := by
  rw [Schema.impliedRule, Schema.impliedRule, h.codec?]
  cases s'.codec? with
  | some codec => rfl
  | none =>
    have hshapes := h.target.shapes
    generalize s.target.shape = shape, s'.target.shape = shape' at hshapes ⊢
    cases hshapes <;> rfl

private theorem read (h : s.Matches keys M s') (text : String) : s.read text = s'.read text := by
  rw [Schema.read, Schema.read, h.codec?, h.target.codec?]
  cases s'.codec? <|> s'.target.codec? with
  | some codec => rfl
  | none => exact readShape h.target.shapes text

theorem readDefault (h : s.Matches keys M s') (text : String) :
    FieldRules.readDefault s text = FieldRules.readDefault s' text := by
  rw [FieldRules.readDefault, FieldRules.readDefault, h.codec?, h.target.read]

end Schema.Matches

theorem Field.isFlattened_eq {name : String} {schema schema' : Schema} {tag tag' : Tag} {embedded : Bool}
    (schemas : schema.Matches keys M schema') (tags : tag.Matches keys M embedded tag') :
    Field.isFlattened keys ⟨name, schema, tag, embedded⟩ =
      Field.isFlattened keys ⟨name, schema', tag', embedded⟩ := by
  cases embedded with
  | false => rfl
  | true =>
    have hmessage : tag.get? keys.message = tag'.get? keys.message := tags.embedded rfl
    simp only [Field.isFlattened, tags.ruleText, Field.modifiers, tags.default, hmessage, tags.name,
      schemas.target.kind]

end FieldRules
