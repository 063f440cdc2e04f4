/-!
# Sets of characters as lists of code point ranges

A `Ranges` is a list of closed intervals; a character belongs to it when its code point lies in one. Any list
can be brought into a normal form (`normalize`): the intervals rise, are apart from one another, and hold no
surrogates, since no character is one.
-/

namespace FieldRules.Unicode

/-- Closed intervals of code points. -/
abbrev Ranges := List (Nat × Nat)

namespace Ranges

/-- Membership of a character: some interval holds its code point. -/
def contains (rs : Ranges) (c : Char) : Bool :=
  rs.any fun (lo, hi) => lo ≤ c.toNat && c.toNat ≤ hi

/-- The parts of an interval in front of the surrogates and behind them. -/
def splitAtSurrogates (r : Nat × Nat) : Ranges :=
  [(r.1, min r.2 0xD7FF), (max r.1 0xE000, r.2)].filter fun (lo, hi) => lo ≤ hi

/-- Joins intervals that overlap or touch; the list rises by first code points, and `lo` and `hi` bound the
interval in front of it. The gap of the surrogates is kept. -/
def joinFrom (lo hi : Nat) : Ranges → Ranges
  | [] => [(lo, hi)]
  | (a, b) :: rest =>
    if a ≤ hi + 1 then joinFrom lo (max hi b) rest else (lo, hi) :: joinFrom a b rest

/-- Joins the intervals of a rising list that overlap or touch. -/
def join : Ranges → Ranges
  | [] => []
  | (lo, hi) :: rest => joinFrom lo hi rest

/-- The normal form. -/
def normalize (rs : Ranges) : Ranges :=
  join ((rs.flatMap splitAtSurrogates).mergeSort fun r s => r.1 ≤ s.1)

/-- The intervals between those of a rising list, from a code point on. -/
def gapsFrom (start : Nat) : Ranges → Ranges
  | [] => if start ≤ 0x10FFFF then [(start, 0x10FFFF)] else []
  | (lo, hi) :: rest =>
    if start < lo then (start, lo - 1) :: gapsFrom (hi + 1) rest else gapsFrom (hi + 1) rest

/-- The code points outside a normal form. -/
def complement (rs : Ranges) : Ranges :=
  (gapsFrom 0 rs).flatMap splitAtSurrogates

/-- The code points common to two normal forms. -/
def intersect (rs ts : Ranges) : Ranges :=
  complement (normalize (complement rs ++ complement ts))

end Ranges

end FieldRules.Unicode
