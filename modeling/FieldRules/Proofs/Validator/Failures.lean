import FieldRules.Proofs.Validator.Walk

/-!
# What fails, and where

`Validator.Fails` says when a validator fails on a value, without a word on how values are walked. Each
failure has a place: the numbers of the parts on the way to it, where a part of a list, a map or a struct has
the number of its item, entry or check, and the key of an entry comes before its content. Paths alone would
not tell failures apart, since two keys of a map may look alike.
-/

namespace FieldRules

/-- A way to the part of a value in which something fails. -/
abbrev Place := List Nat

/-- A violation in a part, seen from one step further out. -/
def Violation.under (s : Segment) (w : Violation) : Violation :=
  { w with path := w.path.prepend s }

/-- A violation with the message of a loader, if there is one. -/
def Violation.said (message? : Option String) (w : Violation) : Violation :=
  { w with override := message? <|> w.override }

/-- The entries of a map, and the fields of a struct as entries. -/
def Value.entries? : Value → Option (List (Value × Value))
  | .map es => some es
  | .struct fs => some (fs.map fun f => (.string f.1, f.2))
  | _ => none

/-- When a validator fails on a value, at which place, and with which violation. -/
inductive Validator.Fails : Validator → Value → Place → Violation → Prop
  | integer {c : IntegerCheck} {x : Value} {cause : Cause} (check : c.check x = some cause) :
    Fails (.integer c) x [] { cause }
  | float {c : FloatCheck} {x : Value} {cause : Cause} (check : c.check x = some cause) :
    Fails (.float c) x [] { cause }
  | text {c : TextCheck} {x : Value} {cause : Cause} (check : c.check x = some cause) :
    Fails (.text c) x [] { cause }
  | format {f : Format} {x : Value} {cause : Cause} (check : f.check x = some cause) :
    Fails (.format f) x [] { cause }
  | notList {item : Option Validator} {bounds : Bounds Nat} {length? : Option Nat} {x : Value}
    (shape : ∀ items, x ≠ .list items) :
    Fails (.slice item bounds length?) x []
      { cause := .unsupported (Validator.slice item bounds length?).toText x.kindName }
  | listLength {item : Option Validator} {bounds : Bounds Nat} {length? : Option Nat} {items : List Value}
    {cause : Cause} (check : bounds.check "slice length" items.length = some cause) :
    Fails (.slice item bounds length?) (.list items) [] { cause }
  | item {v : Validator} {bounds : Bounds Nat} {length? : Option Nat} {items : List Value} {i : Nat} {y : Value}
    {place : Place} {w : Violation} (at_i : items[i]? = some y) (fails : Fails v y place w) :
    Fails (.slice (some v) bounds length?) (.list items) (i :: place) (w.under (.index i))
  | notMap {key item : Option Validator} {bounds : Bounds Nat} {x : Value} (shape : x.entries? = none) :
    Fails (.map key item bounds) x []
      { cause := .unsupported (Validator.map key item bounds).toText x.kindName }
  | mapLength {key item : Option Validator} {bounds : Bounds Nat} {x : Value} {entries : List (Value × Value)}
    {cause : Cause} (shape : x.entries? = some entries)
    (check : bounds.check "map length" entries.length = some cause) :
    Fails (.map key item bounds) x [] { cause }
  | key {v : Validator} {item : Option Validator} {bounds : Bounds Nat} {x : Value}
    {entries : List (Value × Value)}
    {i : Nat} {k y : Value} {place : Place} {w : Violation} (shape : x.entries? = some entries)
    (at_i : entries[i]? = some (k, y)) (fails : Fails v k place w) :
    Fails (.map (some v) item bounds) x (i :: 0 :: place) (w.under (.key k.toString))
  | content {key : Option Validator} {v : Validator} {bounds : Bounds Nat} {x : Value}
    {entries : List (Value × Value)}
    {i : Nat} {k y : Value} {place : Place} {w : Violation} (shape : x.entries? = some entries)
    (at_i : entries[i]? = some (k, y)) (fails : Fails v y place w) :
    Fails (.map key (some v) bounds) x (i :: 1 :: place) (w.under (.key k.toString))
  | notStruct {checks : List FieldCheck} {x : Value} (shape : ∀ fields, x ≠ .struct fields) :
    Fails (.struct checks) x [] { cause := .unsupported "@struct" x.kindName }
  | field {checks : List FieldCheck} {fields : Fields Value} {i : Nat} {c : FieldCheck} {place : Place}
    {w : Violation}
    (at_i : checks[i]? = some c) (fails : Fails c.validator (c.slot fields).read place w) :
    Fails (.struct checks) (.struct fields) (i :: place) (w.under (.field c.label))
  | missing {l : Loader} {x : Value} (empty : l.isEmpty x = true) (refused : l.onEmpty.isOptional = false) :
    Fails (.loader l) x [] (Violation.said l.message? { cause := .missing })
  | inner {l : Loader} {v : Validator} {x : Value} {place : Place} {w : Violation}
    (nonempty : l.isEmpty x = false)
    (no_codec : l.codec? = none) (has_inner : l.inner = some v) (fails : Fails v x place w) :
    Fails (.loader l) x place (w.said l.message?)
  | marshalled {l : Loader} {v : Validator} {codec : Codec} {x : Value} {text : String} {place : Place}
    {w : Violation}
    (nonempty : l.isEmpty x = false) (has_codec : l.codec? = some codec) (has_inner : l.inner = some v)
    (marshal : codec.marshal x = .ok text) (fails : Fails v (.string text) place w) :
    Fails (.loader l) x place (w.said l.message?)
  | badText {l : Loader} {v : Validator} {codec : Codec} {x : Value} {reason : String}
    (nonempty : l.isEmpty x = false) (has_codec : l.codec? = some codec) (has_inner : l.inner = some v)
    (marshal : codec.marshal x = .error reason) :
    Fails (.loader l) x [] (Violation.said l.message? { cause := .badText reason })

/-- A value fails as a whole, for a cause if there is one. -/
def WholeFails (cause : Option Cause) (place : Place) (w : Violation) : Prop :=
  place = [] ∧ ∃ c, cause = some c ∧ w = { cause := c }

private theorem wholeFails_some {c : Cause} {place : Place} {w : Violation} :
    WholeFails (some c) place w ↔ place = [] ∧ w = { cause := c } := by
  simp [WholeFails]

/-- The failures of an optional part. -/
def Validator.PartFails (v? : Option Validator) (x : Value) (place : Place) (w : Violation) : Prop :=
  ∃ v, v? = some v ∧ v.Fails x place w

/-- The failures in the key of an entry, and then those in its content. -/
def Validator.EntryFails (key item : Option Validator) (e : Value × Value) (place : Place) (w : Violation) :
    Prop :=
  ∃ rest u, ((place = 0 :: rest ∧ Validator.PartFails key e.1 rest u) ∨
    (place = 1 :: rest ∧ Validator.PartFails item e.2 rest u)) ∧ w = u.under (.key e.1.toString)

/-! ### When which validator fails -/

namespace Validator

variable {key item : Option Validator} {bounds : Bounds Nat} {length? : Option Nat} {x : Value} {place : Place}
  {w : Violation}

theorem fails_integer {c : IntegerCheck} : (Validator.integer c).Fails x place w ↔
    WholeFails (c.check x) place w := by
  constructor
  · intro h
    cases h with
    | integer check => exact ⟨rfl, _, check, rfl⟩
  · rintro ⟨rfl, _, check, rfl⟩
    exact .integer check

theorem fails_float {c : FloatCheck} : (Validator.float c).Fails x place w ↔
    WholeFails (c.check x) place w := by
  constructor
  · intro h
    cases h with
    | float check => exact ⟨rfl, _, check, rfl⟩
  · rintro ⟨rfl, _, check, rfl⟩
    exact .float check

theorem fails_text {c : TextCheck} : (Validator.text c).Fails x place w ↔ WholeFails (c.check x) place w := by
  constructor
  · intro h
    cases h with
    | text check => exact ⟨rfl, _, check, rfl⟩
  · rintro ⟨rfl, _, check, rfl⟩
    exact .text check

theorem fails_format {f : Format} : (Validator.format f).Fails x place w ↔ WholeFails (f.check x) place w := by
  constructor
  · intro h
    cases h with
    | format check => exact ⟨rfl, _, check, rfl⟩
  · rintro ⟨rfl, _, check, rfl⟩
    exact .format check

theorem fails_slice_list {items : List Value} :
    (Validator.slice item bounds length?).Fails (.list items) place w ↔
      WholeFails (bounds.check "slice length" items.length) place w ∨
        ∃ i y rest, items[i]? = some y ∧ place = i :: rest ∧
          ∃ u, PartFails item y rest u ∧ w = u.under (.index i) := by
  constructor
  · intro h
    cases h with
    | notList shape => exact absurd rfl (shape items)
    | listLength check => exact .inl ⟨rfl, _, check, rfl⟩
    | item at_i fails => exact .inr ⟨_, _, _, at_i, rfl, _, ⟨_, rfl, fails⟩, rfl⟩
  · rintro (⟨rfl, _, check, rfl⟩ | ⟨i, y, rest, at_i, rfl, u, ⟨v, rfl, fails⟩, rfl⟩)
    · exact .listLength check
    · exact .item at_i fails

theorem fails_slice_other (shape : ∀ items, x ≠ .list items) :
    (Validator.slice item bounds length?).Fails x place w ↔
      WholeFails (some (.unsupported (Validator.slice item bounds length?).toText x.kindName)) place w := by
  rw [wholeFails_some]
  constructor
  · intro h
    cases h with
    | notList _ => exact ⟨rfl, rfl⟩
    | listLength _ => exact absurd rfl (shape _)
    | item _ _ => exact absurd rfl (shape _)
  · rintro ⟨rfl, rfl⟩
    exact .notList shape

theorem fails_map_entries {entries : List (Value × Value)} (shape : x.entries? = some entries) :
    (Validator.map key item bounds).Fails x place w ↔
      WholeFails (bounds.check "map length" entries.length) place w ∨
        ∃ i e rest, entries[i]? = some e ∧ place = i :: rest ∧ EntryFails key item e rest w := by
  constructor
  · intro h
    cases h with
    | notMap no_shape => cases shape.symm.trans no_shape
    | mapLength shape' check =>
      obtain rfl := Option.some.inj (shape.symm.trans shape')
      exact .inl ⟨rfl, _, check, rfl⟩
    | key shape' at_i fails =>
      obtain rfl := Option.some.inj (shape.symm.trans shape')
      exact .inr ⟨_, _, _, at_i, rfl, _, _, .inl ⟨rfl, _, rfl, fails⟩, rfl⟩
    | content shape' at_i fails =>
      obtain rfl := Option.some.inj (shape.symm.trans shape')
      exact .inr ⟨_, _, _, at_i, rfl, _, _, .inr ⟨rfl, _, rfl, fails⟩, rfl⟩
  · rintro (⟨rfl, _, check, rfl⟩ | ⟨i, ⟨k, y⟩, _, at_i, rfl, rest, u, hpart, rfl⟩)
    · exact .mapLength shape check
    · rcases hpart with ⟨rfl, v, rfl, fails⟩ | ⟨rfl, v, rfl, fails⟩
      · exact .key shape at_i fails
      · exact .content shape at_i fails

theorem fails_map_other (shape : x.entries? = none) :
    (Validator.map key item bounds).Fails x place w ↔
      WholeFails (some (.unsupported (Validator.map key item bounds).toText x.kindName)) place w := by
  rw [wholeFails_some]
  constructor
  · intro h
    cases h with
    | notMap _ => exact ⟨rfl, rfl⟩
    | mapLength shape' _ => cases shape.symm.trans shape'
    | key shape' _ _ => cases shape.symm.trans shape'
    | content shape' _ _ => cases shape.symm.trans shape'
  · rintro ⟨rfl, rfl⟩
    exact .notMap shape

theorem fails_struct {checks : List FieldCheck} {fields : Fields Value} :
    (Validator.struct checks).Fails (.struct fields) place w ↔
      ∃ i c rest, checks[i]? = some c ∧ place = i :: rest ∧
        ∃ u, c.validator.Fails (c.slot fields).read rest u ∧ w = u.under (.field c.label) := by
  constructor
  · intro h
    cases h with
    | notStruct shape => exact absurd rfl (shape fields)
    | field at_i fails => exact ⟨_, _, _, at_i, rfl, _, fails, rfl⟩
  · rintro ⟨i, c, rest, at_i, rfl, u, fails, rfl⟩
    exact .field at_i fails

theorem fails_struct_other {checks : List FieldCheck} (shape : ∀ fields, x ≠ .struct fields) :
    (Validator.struct checks).Fails x place w ↔
      WholeFails (some (.unsupported "@struct" x.kindName)) place w := by
  rw [wholeFails_some]
  constructor
  · intro h
    cases h with
    | notStruct _ => exact ⟨rfl, rfl⟩
    | field _ _ => exact absurd rfl (shape _)
  · rintro ⟨rfl, rfl⟩
    exact .notStruct shape

variable {l : Loader} {v : Validator} {codec : Codec}

theorem fails_loader_empty (empty : l.isEmpty x = true) :
    (Validator.loader l).Fails x place w ↔
      l.onEmpty.isOptional = false ∧ place = [] ∧ w = Violation.said l.message? { cause := .missing } := by
  constructor
  · intro h
    cases h with
    | missing _ refused => exact ⟨refused, rfl, rfl⟩
    | inner nonempty _ _ _ => cases empty.symm.trans nonempty
    | marshalled nonempty _ _ _ _ => cases empty.symm.trans nonempty
    | badText nonempty _ _ _ => cases empty.symm.trans nonempty
  · rintro ⟨refused, rfl, rfl⟩
    exact .missing empty refused

theorem not_fails_loader (nonempty : l.isEmpty x = false) (no_inner : l.inner = none) :
    ¬ (Validator.loader l).Fails x place w := by
  intro h
  cases h with
  | missing empty _ => cases empty.symm.trans nonempty
  | inner _ _ has_inner _ => cases no_inner.symm.trans has_inner
  | marshalled _ _ has_inner _ _ => cases no_inner.symm.trans has_inner
  | badText _ _ has_inner _ => cases no_inner.symm.trans has_inner

theorem fails_loader_inner (nonempty : l.isEmpty x = false) (no_codec : l.codec? = none)
    (has_inner : l.inner = some v) :
    (Validator.loader l).Fails x place w ↔ ∃ u, v.Fails x place u ∧ w = u.said l.message? := by
  constructor
  · intro h
    cases h with
    | missing empty _ => cases empty.symm.trans nonempty
    | inner _ _ has_inner' fails =>
      obtain rfl := Option.some.inj (has_inner.symm.trans has_inner')
      exact ⟨_, fails, rfl⟩
    | marshalled _ has_codec _ _ _ => cases no_codec.symm.trans has_codec
    | badText _ has_codec _ _ => cases no_codec.symm.trans has_codec
  · rintro ⟨u, fails, rfl⟩
    exact .inner nonempty no_codec has_inner fails

theorem fails_loader_marshalled {text : String} (nonempty : l.isEmpty x = false)
    (has_codec : l.codec? = some codec)
    (has_inner : l.inner = some v) (marshal : codec.marshal x = .ok text) :
    (Validator.loader l).Fails x place w ↔ ∃ u, v.Fails (.string text) place u ∧ w = u.said l.message? := by
  constructor
  · intro h
    cases h with
    | missing empty _ => cases empty.symm.trans nonempty
    | inner _ no_codec _ _ => cases no_codec.symm.trans has_codec
    | marshalled _ has_codec' has_inner' marshal' fails =>
      obtain rfl := Option.some.inj (has_codec.symm.trans has_codec')
      obtain rfl := Option.some.inj (has_inner.symm.trans has_inner')
      obtain rfl := Except.ok.inj (marshal.symm.trans marshal')
      exact ⟨_, fails, rfl⟩
    | badText _ has_codec' _ marshal' =>
      obtain rfl := Option.some.inj (has_codec.symm.trans has_codec')
      cases marshal.symm.trans marshal'
  · rintro ⟨u, fails, rfl⟩
    exact .marshalled nonempty has_codec has_inner marshal fails

theorem fails_loader_badText {reason : String} (nonempty : l.isEmpty x = false)
    (has_codec : l.codec? = some codec)
    (has_inner : l.inner = some v) (marshal : codec.marshal x = .error reason) :
    (Validator.loader l).Fails x place w ↔
      place = [] ∧ w = Violation.said l.message? { cause := .badText reason } := by
  constructor
  · intro h
    cases h with
    | missing empty _ => cases empty.symm.trans nonempty
    | inner _ no_codec _ _ => cases no_codec.symm.trans has_codec
    | marshalled _ has_codec' _ marshal' _ =>
      obtain rfl := Option.some.inj (has_codec.symm.trans has_codec')
      cases marshal.symm.trans marshal'
    | badText _ has_codec' _ marshal' =>
      obtain rfl := Option.some.inj (has_codec.symm.trans has_codec')
      obtain rfl := Except.error.inj (marshal.symm.trans marshal')
      exact ⟨rfl, rfl⟩
  · rintro ⟨rfl, rfl⟩
    exact .badText nonempty has_codec has_inner marshal

end Validator

end FieldRules
