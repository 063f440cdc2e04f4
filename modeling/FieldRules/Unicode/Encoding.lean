import FieldRules.Unicode.Ranges

/-!
# Characters as bytes

An interval of characters is a union of products of byte intervals: `spans` cuts it where the number of bytes
changes and at the edges of whole blocks of 64, 4096 and 262144 code points, so that in each part the bytes run
independently of one another.
-/

namespace FieldRules.Unicode

/-- A closed interval of bytes. -/
structure ByteRange where
  lo : UInt8
  hi : UInt8
  deriving DecidableEq, Repr

/-- The bytes of a code point. -/
def encode (n : Nat) : List UInt8 :=
  String.utf8EncodeChar (Char.ofNat n)

/-- The parts of an interval up to a code point and behind it. -/
def cutBehind (n : Nat) (r : Nat × Nat) : Ranges :=
  if r.1 ≤ n && n < r.2 then [(r.1, n), (n + 1, r.2)] else [r]

/-- The part of an interval that consists of whole blocks, with what is in front of it and behind it. -/
def cutBlocks (size : Nat) (r : Nat × Nat) : Ranges :=
  if r.1 / size = r.2 / size then [r]
  else
    let first := (r.1 + size - 1) / size * size
    let last := (r.2 + 1) / size * size
    [(r.1, first - 1), (first, last - 1), (last, r.2)].filter fun (lo, hi) => lo ≤ hi

/-- The products of byte intervals that make up an interval of characters, in rising order. -/
def spans (r : Nat × Nat) : List (List ByteRange) :=
  let parts := [0x7F, 0x7FF, 0xFFFF].foldl (fun rs n => rs.flatMap (cutBehind n)) [r]
  let parts := parts.flatMap fun r =>
    if r.2 ≤ 0x7F then [r]
    else (cutBlocks 64 r).flatMap fun r => (cutBlocks 4096 r).flatMap (cutBlocks 262144)
  parts.map fun (lo, hi) => List.zipWith ByteRange.mk (encode lo) (encode hi)

end FieldRules.Unicode
