import FieldRules.Decimal.Binary
import FieldRules.Text.Numeral

/-!
# The shortest decimal

`shortest` gives the decimal with the fewest digits that a reader rounds back to the number, and of
those the nearest to it; a `Tie` says which of two equally near decimals is taken. Grids of decimals are
tried from coarse to fine: when a grid has a point that reads back, one of the two neighbours of the
number on that grid does.
-/

namespace FieldRules.Decimal

/-- The value `digits * 10 ^ exponent`. -/
structure Digits where
  digits : Nat
  exponent : Int
  deriving DecidableEq, Repr

/-- Which of two equally near decimals is taken: the larger, or the one whose last digit is even. -/
inductive Tie
  | up
  | even
  deriving DecidableEq, Repr

/-- The decimals that a reader rounds to a number, as quarters of its last binary place: `low` and `high`
are the ends of their interval, `mid` the number itself, all in units of `numerator / denominator`. -/
structure Basin where
  low : Nat
  mid : Nat
  high : Nat
  numerator : Nat
  denominator : Nat
  /-- Whether the ends themselves round to the number. -/
  closed : Bool

namespace Basin

/-- The basin of a nonzero number: a reader takes a tie to the even mantissa. -/
def ofBinary (b : Binary) : Basin where
  low := 4 * b.mantissa - (if b.halfGap then 1 else 2)
  mid := 4 * b.mantissa
  high := 4 * b.mantissa + 2
  numerator := Nat.pow 2 (b.exponent - 2).toNat
  denominator := Nat.pow 2 (2 - b.exponent).toNat
  closed := b.mantissa % 2 = 0

/-- The point `n * 10 ^ k` lies in the basin. -/
def holds (z : Basin) (k : Int) (n : Nat) : Bool :=
  let point := n * Nat.pow 10 k.toNat * z.denominator
  let scale := z.numerator * Nat.pow 10 (-k).toNat
  if z.closed then z.low * scale ≤ point && point ≤ z.high * scale
  else z.low * scale < point && point < z.high * scale

/-- The last grid point at or below the number, for the grid of multiples of `10 ^ k`. -/
def below (z : Basin) (k : Int) : Nat :=
  z.mid * z.numerator * Nat.pow 10 (-k).toNat / (Nat.pow 10 k.toNat * z.denominator)

/-- Compares the distances of the number to its lower and upper neighbours on a grid. -/
def nearer (z : Basin) (k : Int) : Ordering :=
  let n := z.below k
  compare (2 * z.mid * z.numerator * Nat.pow 10 (-k).toNat) ((2 * n + 1) * Nat.pow 10 k.toNat * z.denominator)

/-- The point of a grid that stands for the number, if the grid has one that reads back. -/
def pick (tie : Tie) (z : Basin) (k : Int) : Option Nat :=
  let n := z.below k
  match 0 < n && z.holds k n, z.holds k (n + 1) with
  | true, false => some n
  | false, true => some (n + 1)
  | true, true => match z.nearer k with
    | .lt => some n
    | .gt => some (n + 1)
    | .eq => some (match tie with
      | .up => n + 1
      | .even => if n % 2 = 0 then n else n + 1)
  | false, false => none

/-- Tries so many grids, each ten times finer than the one before. -/
def search (tie : Tie) (z : Basin) : Nat → Int → Option Digits
  | 0, _ => none
  | rounds + 1, k => match z.pick tie k with
    | some n => some ⟨n, k⟩
    | none => search tie z rounds (k - 1)

end Basin

/-- An exponent of ten whose power is larger than twice the number. -/
def ceiling (b : Binary) : Int :=
  ((Nat.log2 b.mantissa + 1 : Nat) + b.exponent) * 30103 / 100000 + 2

/-- The shortest decimal of a number. Two dozen grids always hold one, as seventeen digits suffice. -/
def shortest (tie : Tie) (b : Binary) : Digits :=
  if b.mantissa = 0 then ⟨0, 0⟩
  else
    let all : Digits := ⟨b.mantissa * Nat.pow 5 (-b.exponent).toNat, b.exponent⟩
    ((Basin.ofBinary b).search tie 24 (ceiling b)).getD all

end FieldRules.Decimal
