import FieldRules.Proofs.Text.Numeral
import FieldRules.Schema.Literal

/-!
# What texts stand for

A text that is read for a scalar gives a value of this scalar, and one that is read for a list, a map or a struct
gives what its document says, which may be anything (`Schema.reads_of_read`).
-/

namespace FieldRules

/-- What a text stands for, by shape: truth values, integers that fit the width, finite numbers, the text itself, and
the value of the document in the text, whatever that is. Where any value will do, a text without a document stands for
itself. -/
inductive Shape.Reads (text : String) : Shape → Value → Prop
  | bool (b : Bool) : Shape.Reads text .bool (.bool b)
  | int {bits : Nat} {n : Int64} (least : Width.minSigned (Width.clamp bits) ≤ n.toInt)
      (greatest : n.toInt ≤ Width.maxSigned (Width.clamp bits)) : Shape.Reads text (.int bits) (.int n)
  | uint {bits : Nat} {n : UInt64} (greatest : n.toNat ≤ Width.maxUnsigned (Width.clamp bits)) :
      Shape.Reads text (.uint bits) (.uint n)
  | float (bits : Nat) {x : Float} (finite : Decimal.isFinite x = true) : Shape.Reads text (.float bits) (.float x)
  | string : Shape.Reads text .string (.string text)
  | document {shape : Shape} {doc : Json} (kind : shape.kind ∈ [.any, .slice, .array, .map, .struct])
      (parsed : Json.parse? text = some doc) : Shape.Reads text shape (.ofJson doc)
  | undocumented (malformed : Json.parse? text = none) : Shape.Reads text .any (.string text)

namespace Text

/-- A signed integer that was read in 64 bits is the same as a machine integer. -/
private theorem toInt_of_readSigned? {cs : List Char} {n : Int} (h : readSigned? 64 cs = some n) :
    (Int64.ofInt n).toInt = n := by
  obtain ⟨-, hin⟩ := Option.filter_eq_some_iff.1 h
  obtain ⟨hleast, hgreatest⟩ := Bool.and_eq_true_iff.1 hin
  have hleast : -2 ^ 63 ≤ n := of_decide_eq_true hleast
  have hgreatest : n ≤ 2 ^ 63 - 1 := of_decide_eq_true hgreatest
  exact Int64.toInt_ofInt_of_le hleast (by omega)

/-- An unsigned integer that was read in 64 bits is the same as a machine integer. -/
private theorem toNat_of_readWord? {cs : List Char} {n : Nat} (h : readWord? 64 cs = some n) :
    (UInt64.ofNat n).toNat = n := by
  have hgreatest : n ≤ 2 ^ 64 - 1 := readNatUpTo?_le h
  have hsize : n < 2 ^ 64 := by omega
  exact UInt64.toNat_ofNat_of_lt' hsize

end Text

namespace Schema

variable {text : String} {x : Value}

private theorem reads_of_readJson {shape : Shape} (hkind : shape.kind ∈ [.any, .slice, .array, .map, .struct])
    (h : readJson text = .ok x) : shape.Reads text x := by
  unfold readJson at h
  split at h
  next doc hparse => exact Except.ok.inj h ▸ .document hkind hparse
  next => cases h

private theorem reads_of_readShape {shape : Shape} (h : readShape text shape = .ok x) : shape.Reads text x := by
  cases shape with
  | bool =>
    simp only [readShape] at h
    split at h <;> cases h
    all_goals exact .bool _
  | int bits =>
    simp only [readShape] at h
    split at h
    next => cases h
    next n hread =>
      split at h <;> cases h
      next hfits =>
        rw [← Text.toInt_of_readSigned? hread] at hfits
        exact .int hfits.1 hfits.2
  | uint bits =>
    simp only [readShape] at h
    split at h
    next => cases h
    next n hread =>
      split at h <;> cases h
      next hfits =>
        rw [← Text.toNat_of_readWord? hread] at hfits
        exact .uint hfits
  | float bits =>
    simp only [readShape] at h
    split at h
    next n hread =>
      split at h <;> cases h
      next hfinite => exact .float bits hfinite
    next => cases h
  | string => exact Except.ok.inj h ▸ .string
  | any =>
    simp only [readShape] at h
    split at h <;> cases h
    next doc hparse => exact .document (by decide) hparse
    next hparse => exact .undocumented hparse
  | slice item | array item length | map key item | struct fields => exact reads_of_readJson (by simp [Shape.kind]) h
  | pointer target => cases h

/-- What is read for a schema without codecs is what the text stands for, pointers stripped. -/
theorem reads_of_read {s : Schema} (hcodec : s.codec? = none) (htarget : s.target.codec? = none)
    (h : s.read text = .ok x) : s.target.shape.Reads text x := by
  rw [read, hcodec, htarget] at h
  exact reads_of_readShape h

end Schema

end FieldRules
