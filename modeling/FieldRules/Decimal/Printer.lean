import FieldRules.Decimal.Shortest

/-!
# Decimal notation

A `Layout` fixes how the digits of a number are laid out: which exponents are written out, and whether
whole numbers keep a fraction. `plainLayout` never uses an exponent; `scientificLayout` switches to one
outside a middle range.
-/

namespace FieldRules.Decimal

/-- The choices of a decimal notation. -/
structure Layout where
  /-- Which of two equally near decimals is written. -/
  tie : Tie
  /-- The places of the point that are written out, counted from the first digit; all when absent. -/
  positional : Option (Int × Int)
  /-- Whether a whole number is written with a fraction of zero. -/
  keepsFraction : Bool

/-- Zeros. -/
def zeros (n : Nat) : List Char :=
  List.replicate n '0'

/-- Digits with a point at a place counted from the first digit, and zeros where digits are missing. -/
def placePoint (keepsFraction : Bool) (ds : List Char) (point : Int) : List Char :=
  if point ≤ 0 then '0' :: '.' :: zeros (-point).toNat ++ ds
  else
    let n := point.toNat
    if ds.length ≤ n then ds ++ zeros (n - ds.length) ++ (if keepsFraction then ['.', '0'] else [])
    else ds.take n ++ '.' :: ds.drop n

/-- Digits with a point behind the first one, and a signed exponent. -/
def withExponent (ds : List Char) (point : Int) : List Char :=
  let e := point - 1
  let exponent := (if e < 0 then '-' else '+') :: Text.digits e.natAbs
  match ds with
  | d :: d' :: more => d :: '.' :: d' :: more ++ 'e' :: exponent
  | ds => ds ++ 'e' :: exponent

/-- A finite number in a layout. -/
def write (layout : Layout) (b : Binary) : List Char :=
  let sign := if b.negative then ['-'] else []
  if b.mantissa = 0 then sign ++ '0' :: (if layout.keepsFraction then ['.', '0'] else [])
  else
    let d := shortest layout.tie b
    let ds := Text.digits d.digits
    let point : Int := ds.length + d.exponent
    let inside := match layout.positional with
      | none => true
      | some (lo, hi) => lo ≤ point && point ≤ hi
    sign ++ (if inside then placePoint layout.keepsFraction ds point else withExponent ds point)

/-- All digits written out, and no fraction where there is none. -/
def plainLayout : Layout where
  tie := .up
  positional := none
  keepsFraction := false

/-- Written out from `1e-5` up to below `1e16`, and always with a fraction. -/
def scientificLayout : Layout where
  tie := .even
  positional := some (-4, 16)
  keepsFraction := true

/-- A number in plain notation, with names for those that are not finite. -/
def plainText : FloatClass → List Char
  | .nan => ['N', 'a', 'N']
  | .infinite negative => (if negative then ['-'] else []) ++ ['i', 'n', 'f']
  | .finite b => write plainLayout b

/-- A number in plain notation. -/
def plain (x : Float) : String :=
  String.ofList (plainText (classify x))

/-- How many digits stand before and after the point, leaving out a lone zero before it. -/
def digitCounts (b : Binary) : Nat × Nat :=
  if b.mantissa = 0 then (1, 0)
  else
    let d := shortest .up b
    let point : Int := (Text.digits d.digits).length + d.exponent
    (point.toNat, (-d.exponent).toNat)

end FieldRules.Decimal
