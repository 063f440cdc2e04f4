import FieldRules.Compiler.Modifier
import FieldRules.Schema.Basic

/-!
# Keys of requests

A request is a rule text, a schema and modifiers. Requests are the same for a factory if their keys (`requestKey`) are
the same text once they are written out, with codecs and tests for zero by the addresses at which they are kept.
-/

namespace FieldRules

/-- A piece of a key: a character of a text, or a codec or a test for zero, by its identity. -/
inductive KeySymbol
  | char (c : Char)
  | codec (id : String)
  | zeroTest (id : String)
  deriving DecidableEq, Repr

/-- What tells requests apart. -/
abbrev RequestKey := List KeySymbol

/-! ### Addresses -/

/-- Where codecs and tests for zero are kept: each identity has an address of its own. -/
structure Addresses where
  codec : String → Nat
  zeroTest : String → Nat
  codec_injective : Function.Injective codec
  zeroTest_injective : Function.Injective zeroTest

/-- The number of a text, distinct for distinct ones. -/
def charsNumber : List Char → Nat
  | [] => 0
  | c :: cs => charsNumber cs * 0x110000 + c.toNat + 1

private theorem toNat_lt (c : Char) : c.toNat < 0x110000 := by
  obtain h | ⟨-, h⟩ := c.valid
  · exact Nat.lt_trans h (by decide)
  · exact h

theorem charsNumber_inj : ∀ {cs ds : List Char}, charsNumber cs = charsNumber ds → cs = ds
  | [], [], _ => rfl
  | [], _ :: _, h | _ :: _, [], h => by simp [charsNumber] at h
  | c :: cs, d :: ds, h => by
    have hc := toNat_lt c
    have hd := toNat_lt d
    simp only [charsNumber] at h
    have hfirst : c = d := Char.toNat_inj.1 (by omega)
    have hrest : charsNumber cs = charsNumber ds := by omega
    rw [hfirst, charsNumber_inj hrest]

instance : Inhabited Addresses where
  default :=
    { codec := fun id => charsNumber id.toList
      zeroTest := fun id => charsNumber id.toList
      codec_injective := fun _ _ h => String.toList_inj.1 (charsNumber_inj h)
      zeroTest_injective := fun _ _ h => String.toList_inj.1 (charsNumber_inj h) }

/-- An address as text: its hexadecimal digits behind `0x`. Neither a colon nor a plus sign can stand in it. -/
def addressText (n : Nat) : List Char :=
  '0' :: 'x' :: Text.hexDigits n

/-- A piece of a key as text. -/
def KeySymbol.chars (a : Addresses) : KeySymbol → List Char
  | char c => [c]
  | codec id => "+codec@".toList ++ addressText (a.codec id)
  | zeroTest id => "+zero@".toList ++ addressText (a.zeroTest id)

namespace RequestKey

/-- The characters of a text as a key. -/
def ofText (text : String) : RequestKey :=
  text.toList.map .char

/-- The characters of a key that is written out. -/
def chars (a : Addresses) (key : RequestKey) : List Char :=
  key.flatMap (KeySymbol.chars a)

/-- A key that is written out. -/
def text (a : Addresses) (key : RequestKey) : String :=
  String.ofList (key.chars a)

end RequestKey

/-! ### Signatures -/

open RequestKey (ofText)

mutual

/-- A key that tells schemas apart by names, identities of codecs and tests, fields and tags. -/
def Schema.signature : Schema → RequestKey
  | ⟨shape, name, codec, test⟩ =>
    ofText (Schema.name ⟨shape, name, codec, test⟩) ++ (codec.map fun c => KeySymbol.codec c.id).toList ++
      (test.map fun t => KeySymbol.zeroTest t.id).toList ++ shape.signature

/-- The part of a signature that depends on the parts of a shape. -/
def Shape.signature : Shape → RequestKey
  | .struct fields => ofText "\x7b" ++ Field.signature fields ++ ofText "\x7d"
  | .slice item | .array item _ => ofText "(" ++ item.signature ++ ofText ")"
  | .pointer target => ofText "(" ++ target.signature ++ ofText ")"
  | .map key item => ofText "(" ++ key.signature ++ ofText "," ++ item.signature ++ ofText ")"
  | _ => []

/-- The signatures of fields. -/
def Field.signature : List Field → RequestKey
  | [] => []
  | ⟨name, schema, tag, embedded⟩ :: rest =>
    ofText (name ++ ":" ++ tag.describe ++ ":" ++ (if embedded then "true" else "false") ++ ";") ++
      schema.signature ++ Field.signature rest

end

/-- The key under which requests are the same. -/
def requestKey (rule : String) (s : Schema) (mods : List Modifier) : RequestKey :=
  s.signature ++ ofText ("\x1f" ++ rule ++ "\x1f[" ++ ", ".intercalate (mods.map Modifier.describe) ++ "]")

end FieldRules
