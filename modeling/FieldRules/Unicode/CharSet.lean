import FieldRules.Unicode.CategoryTable
import FieldRules.Unicode.Folding

/-!
# Sets of characters, as expressions

A `CharSet` is built from intervals and general categories by Boolean operations and by closure under case.
`contains` decides membership; `toRanges` lists the members as intervals in normal form.
-/

namespace FieldRules.Unicode

/-- The code points of some categories, in normal form. -/
def Category.toRanges (cats : List Category) : Ranges :=
  let runs (p : Category → Bool) : Ranges :=
    Ranges.join ((Category.runs.filter fun run => p run.2.2).map fun run => (run.1, run.2.1))
  if cats.contains .cn then Ranges.complement (runs fun cat => !cats.contains cat) else runs cats.contains

/-- An expression for a set of characters. -/
inductive CharSet
  | ranges (rs : Ranges)
  | categories (cats : List Category)
  | union (a b : CharSet)
  | inter (a b : CharSet)
  | compl (a : CharSet)
  | fold (a : CharSet)
  | foldAscii (a : CharSet)
  deriving DecidableEq, Repr

namespace CharSet

/-- The ASCII letters that differ from a character in case only, itself included. -/
def asciiOrbit (c : Char) : List Char :=
  if c.isAlpha then [c.toLower, c.toUpper] else [c]

/-- Membership of a character. -/
def contains : CharSet → Char → Bool
  | .ranges rs, c => rs.contains c
  | .categories cats, c => cats.contains (category c)
  | .union a b, c => a.contains c || b.contains c
  | .inter a b, c => a.contains c && b.contains c
  | .compl a, c => !a.contains c
  | .fold a, c => (caseOrbit c).any a.contains
  | .foldAscii a, c => (asciiOrbit c).any a.contains

/-- The members of an expression in normal form. -/
def toRanges : CharSet → Ranges
  | .ranges rs => rs.normalize
  | .categories cats => Category.toRanges cats
  | .union a b => Ranges.normalize (a.toRanges ++ b.toRanges)
  | .inter a b => a.toRanges.intersect b.toRanges
  | .compl a => a.toRanges.complement
  | .fold a =>
    let rs := a.toRanges
    let met := orbits.filter fun orbit => orbit.any fun n => rs.any fun (lo, hi) => lo ≤ n && n ≤ hi
    Ranges.normalize (rs ++ met.flatten.map fun n => (n, n))
  | .foldAscii a =>
    let rs := a.toRanges
    let letters := (List.range 128).map Char.ofNat
    let met := letters.filter fun c => (asciiOrbit c).any rs.contains
    Ranges.normalize (rs ++ met.map fun c => (c.toNat, c.toNat))

/-- Every character. -/
def any : CharSet := .ranges [(0, 0x10FFFF)]

/-- No character. -/
def none : CharSet := .ranges []

/-- One character. -/
def single (c : Char) : CharSet := .ranges [(c.toNat, c.toNat)]

/-- The characters of the first set that are not in the second. -/
def diff (a b : CharSet) : CharSet := .inter a (.compl b)

/-- The characters of exactly one of the two sets. -/
def symmDiff (a b : CharSet) : CharSet := .union (diff a b) (diff b a)

theorem contains_single (c d : Char) : (single c).contains d = (c == d) := by
  simp only [single, contains, Ranges.contains, List.any_cons, List.any_nil, Bool.or_false]
  by_cases h : c = d
  · simp [h]
  · have hn : c.toNat ≠ d.toNat := fun he => h (Char.toNat_inj.1 he)
    have : ¬(c.toNat ≤ d.toNat ∧ d.toNat ≤ c.toNat) := by omega
    simp [h, ← Bool.decide_and, this]

end CharSet

end FieldRules.Unicode
