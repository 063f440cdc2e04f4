import FieldRules.Regex.Basic

/-!
# Normal forms of expressions

`Normal.ofRegex` brings an expression into a form without idle parts: sequences and choices are flat, characters
in a row are one text, choices between characters or between sets are one set, what the branches of a choice
begin with stands in front of it, and only repetitions that can matter are left. The constructors `concat`,
`choice` and `repetition` keep to that form.
-/

open FieldRules.Unicode (Ranges CharSet)

namespace FieldRules.Regex

/-- An expression over bytes in normal form. -/
inductive Normal
  | empty
  | literal (bytes : List UInt8)
  | oneOf (rs : Ranges)
  | anchor (a : Anchor)
  | group (r : Normal)
  | repeated (greedy : Bool) (min : Nat) (max : Option Nat) (r : Normal)
  | seq (rs : List Normal)
  | alt (rs : List Normal)

namespace Normal

mutual

/-- Whether two expressions are the same; no two groups are. -/
def same : Normal → Normal → Bool
  | .empty, .empty => true
  | .literal bs, .literal cs => bs == cs
  | .oneOf rs, .oneOf ts => rs == ts
  | .anchor a, .anchor b => a == b
  | .repeated g min max r, .repeated h min' max' s => g == h && min == min' && max == max' && same r s
  | .seq rs, .seq ss => allSame rs ss
  | .alt rs, .alt ss => allSame rs ss
  | _, _ => false

/-- Whether two lists hold the same expressions. -/
def allSame : List Normal → List Normal → Bool
  | [], [] => true
  | r :: rs, s :: ss => same r s && allSame rs ss
  | _, _ => false

end

/-- A sum, unless a part is unknown. -/
def sum? (ns : List (Option Nat)) : Option Nat :=
  ns.foldl (fun n m => do return (← n) + (← m)) (some 0)

/-- The result of an operation on all parts, unless one is unknown or there is none. -/
def fold? (op : Nat → Nat → Nat) : List (Option Nat) → Option Nat
  | [] => none
  | n :: ns => ns.foldl (fun n m => do return op (← n) (← m)) n

mutual

/-- The fewest bytes that an expression can match, if it can match anything. -/
def minBytes? : Normal → Option Nat
  | .empty | .anchor _ => some 0
  | .literal bs => some bs.length
  | .oneOf rs => rs.head?.map fun r => (String.utf8EncodeChar (Char.ofNat r.1)).length
  | .group r => r.minBytes?
  | .repeated _ min _ r => r.minBytes?.map (min * ·)
  | .seq rs => sum? (minBytesAll? rs)
  | .alt rs => fold? min (minBytesAll? rs)

/-- The fewest bytes that each of the expressions can match. -/
def minBytesAll? : List Normal → List (Option Nat)
  | [] => []
  | r :: rs => r.minBytes? :: minBytesAll? rs

/-- The most bytes that an expression can match, if there is a bound and it can match anything. -/
def maxBytes? : Normal → Option Nat
  | .empty | .anchor _ => some 0
  | .literal bs => some bs.length
  | .oneOf rs => rs.getLast?.map fun r => (String.utf8EncodeChar (Char.ofNat r.2)).length
  | .group r => r.maxBytes?
  | .repeated _ _ max r => do return (← max) * (← r.maxBytes?)
  | .seq rs => sum? (maxBytesAll? rs)
  | .alt rs => fold? max (maxBytesAll? rs)

/-- The most bytes that each of the expressions can match. -/
def maxBytesAll? : List Normal → List (Option Nat)
  | [] => []
  | r :: rs => r.maxBytes? :: maxBytesAll? rs

end

/-- Whether an expression can match nothing but the empty text. -/
def matchesEmptyOnly (r : Normal) : Bool :=
  r.maxBytes? == some 0

/-- A set of characters; one with a single member is a text. -/
def ofRanges (rs : Ranges) : Normal :=
  match rs with
  | [(lo, hi)] => if lo = hi then .literal (String.utf8EncodeChar (Char.ofNat lo)) else .oneOf rs
  | rs => .oneOf rs

/-- Repeats an expression. What matches nothing but the empty text need not be tried twice. -/
def repetition (greedy : Bool) (min : Nat) (max : Option Nat) (r : Normal) : Normal :=
  let idle := r.matchesEmptyOnly
  let min := if idle then Nat.min min 1 else min
  let max := if idle then some (Nat.min (max.getD 1) 1) else max
  if min = 0 ∧ max = some 0 then .empty
  else if min = 1 ∧ max = some 1 then r
  else .repeated greedy min max r

/-- The parts of a sequence without the empty ones; those of inner sequences take their place. -/
def flatParts (rs : List Normal) : List Normal :=
  rs.flatMap fun
    | .seq inner => inner
    | .empty => []
    | r => [r]

/-- Joins texts in a row, in front of the parts given. -/
def joinTexts (r : Normal) (rest : List Normal) : List Normal :=
  match r, rest with
  | .literal bs, .literal cs :: rest => .literal (bs ++ cs) :: rest
  | r, rest => r :: rest

/-- One expression after another. -/
def concat (rs : List Normal) : Normal :=
  match (flatParts rs).foldr joinTexts [] with
  | [] => .empty
  | [r] => r
  | rs => .seq rs

/-- The branches of a choice; those of inner choices take their place. -/
def flatBranches (rs : List Normal) : List Normal :=
  rs.flatMap fun
    | .alt inner => inner
    | r => [r]

/-- The character that a text consists of, if it is a single one. -/
def character? : Normal → Option (Nat × Nat)
  | .literal bs => match (String.fromUTF8? (bs.toByteArray)).map (·.toList) with
    | some [c] => some (c.toNat, c.toNat)
    | _ => none
  | _ => none

/-- The ranges of a set. -/
def ranges? : Normal → Option Ranges
  | .oneOf rs => some rs
  | _ => none

/-- The parts that all the lists begin with. -/
def commonPrefix (first : List Normal) (rest : List (List Normal)) : List Normal :=
  rest.foldl (fun front rs => ((front.zip rs).takeWhile fun (r, s) => same r s).map (·.1)) first

/-- The parts of a sequence. -/
def parts? : Normal → Option (List Normal)
  | .seq rs => some rs
  | _ => none

/-- Any one of the expressions when no sequence is among the branches. -/
def choiceOfBranches (rs : List Normal) : Normal :=
  match rs with
  | [] => .oneOf []
  | [r] => r
  | rs => match rs.mapM character? with
    | some points => ofRanges (Ranges.normalize points)
    | none => match rs.mapM ranges? with
      | some sets => ofRanges (Ranges.normalize sets.flatten)
      | none => .alt rs

/-- Any one of the expressions. What all of them begin with is put in front of the choice; behind it there is
nothing left in common, so the branches are joined as they are. -/
def choice (rs : List Normal) : Normal :=
  let rs := flatBranches rs
  match rs.mapM parts? with
  | some (first :: second :: more) =>
    let front := commonPrefix first (second :: more)
    if front.isEmpty then choiceOfBranches rs
    else
      let tails := (first :: second :: more).map fun parts => concat (parts.drop front.length)
      concat (front ++ [choiceOfBranches (flatBranches tails)])
  | _ => choiceOfBranches rs

/-- Spreads an expression in front of what has been met, the last first: the branches of a choice, or else the
parts of a sequence. -/
def spread (asBranches : Bool) (met : List Normal) : Regex → List Normal
  | .empty => .empty :: met
  | .oneOf s => ofRanges s.toRanges :: met
  | .anchor a => .anchor a :: met
  | .group captures r =>
    let inner := concat (spread false [] r).reverse
    (if captures then .group inner else inner) :: met
  | .repeated greedy min max r => repetition greedy min max (concat (spread false [] r).reverse) :: met
  | .seq a b =>
    if asBranches then concat (spread false (spread false [] a) b).reverse :: met
    else spread false (spread false met a) b
  | .alt a b =>
    let first := concat (spread false [] a).reverse
    if asBranches then spread true (first :: met) b
    else choice (spread true [first] b).reverse :: met

/-- The normal form of an expression. -/
def ofRegex (r : Regex) : Normal :=
  concat (spread false [] r).reverse

end Normal

end FieldRules.Regex
