import FieldRules.Json.Token

/-!
# Strings in JSON text

What a string stands for once its escapes are resolved. A character beyond the first plane is written as a
pair of surrogates; one of them alone stands for nothing.
-/

namespace FieldRules.Json

/-- A character, or a code unit that was written as an escape. -/
inductive Piece
  | char (c : Char)
  | unit (n : Nat)

/-- The code unit with these digits. -/
def codeUnit? (digits : List Char) : Option Nat := do
  return (← digits.mapM hexValue?).foldl (fun n d => 16 * n + d) 0

/-- The pieces of a string, behind those met so far, the last one first. -/
def pieces? (met : List Piece) : List Char → Option (List Piece)
  | [] => some met.reverse
  | '\\' :: 'u' :: a :: b :: c :: d :: rest => do
    pieces? (.unit (← codeUnit? [a, b, c, d]) :: met) rest
  | '\\' :: c :: rest => do
    pieces? (.char (← simpleEscape? c) :: met) rest
  | c :: rest => pieces? (.char c :: met) rest

/-- First halves of a pair. -/
def isHighHalf (n : Nat) : Bool :=
  0xD800 ≤ n && n ≤ 0xDBFF

/-- Second halves of a pair. -/
def isLowHalf (n : Nat) : Bool :=
  0xDC00 ≤ n && n ≤ 0xDFFF

/-- The character that a pair stands for. -/
def joinHalves (high low : Nat) : Char :=
  Char.ofNat (0x10000 + (high - 0xD800) * 0x400 + (low - 0xDC00))

/-- The characters that pieces stand for, behind those met so far, the last one first. -/
def joinPieces? (met : List Char) : List Piece → Option (List Char)
  | [] => some met.reverse
  | .char c :: rest => joinPieces? (c :: met) rest
  | .unit n :: rest =>
    if isLowHalf n then none
    else if isHighHalf n then match rest with
      | .unit m :: rest => if isLowHalf m then joinPieces? (joinHalves n m :: met) rest else none
      | _ => none
    else joinPieces? (Char.ofNat n :: met) rest

/-- The text that a string stands for. -/
def resolve? (raw : List Char) : Option String := do
  return String.ofList (← joinPieces? [] (← pieces? [] raw))

end FieldRules.Json
