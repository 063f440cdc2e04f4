import FieldRules.Regex.Basic
import FieldRules.Text.Blank
import FieldRules.Unicode.Name

/-!
# Flags, escapes and bracketed classes

The parts of a pattern below the level of groups: the flags in force, what stands behind a backslash,
and the expressions between square brackets with their nesting and set operations.

A reader takes the characters ahead and gives its result with the characters left over, or fails.
-/

open FieldRules.Unicode (CharSet)

namespace FieldRules.Regex

/-- The flags that a pattern can switch, under their letters `i m s u R x U`. -/
structure Flags where
  ignoreCase : Bool := false
  multiLine : Bool := false
  dotAll : Bool := false
  unicode : Bool := true
  crlf : Bool := false
  verbose : Bool := false
  lazy : Bool := false
  deriving DecidableEq, Repr

/-- Reads from the front of a text. -/
abbrev Reader (α : Type) := List Char → Option (α × List Char)

/-- Leaves out blanks and comments, a comment running from `#` to the end of its line. -/
def skipBlanks : Bool → List Char → List Char
  | _, [] => []
  | true, c :: cs => skipBlanks (c != '\n') cs
  | false, c :: cs =>
    if Text.isBlank c then skipBlanks false cs
    else if c = '#' then skipBlanks true cs
    else c :: cs

namespace Flags

/-- Leaves out blanks and comments where the flags allow them. -/
def skip (f : Flags) (cs : List Char) : List Char :=
  if f.verbose then skipBlanks false cs else cs

/-- The visible characters up to the first one of a kind, and the text from that one on. The flags tell what
is left out; `comment` holds inside a comment. -/
def cut (f : Flags) (stop : Char → Bool) (comment : Bool) : List Char → Option (List Char × List Char)
  | [] => none
  | c :: cs =>
    if comment then f.cut stop (c != '\n') cs
    else if f.verbose && Text.isBlank c then f.cut stop false cs
    else if f.verbose && c == '#' then f.cut stop true cs
    else if stop c then some ([], c :: cs)
    else (f.cut stop false cs).map fun (front, rest) => (c :: front, rest)

/-- Closes a set under case where the flags ask for it. -/
def close (f : Flags) (s : CharSet) : CharSet :=
  if f.ignoreCase then (if f.unicode then .fold s else .foldAscii s) else s

/-- The complement of a set. Without Unicode it would hold bytes that are no characters, so it fails. -/
def negate (f : Flags) (negated : Bool) (s : CharSet) : Option CharSet :=
  if negated then (if f.unicode then some (.compl s) else none) else some s

/-- The set that a point stands for: any character, or any that does not end a line. -/
def dot (f : Flags) : Option CharSet :=
  if !f.unicode then none
  else if f.dotAll then some .any
  else if f.crlf then some (.compl (.ranges [(0x0A, 0x0A), (0x0D, 0x0D)]))
  else some (.compl (.single '\n'))

end Flags

/-- What an escape or a plain character stands for. -/
inductive Atom
  | char (c : Char)
  | set (s : CharSet)
  | anchor (a : Anchor)

/-- The ASCII classes of the brackets `[:` and `:]`. -/
def asciiClass? (name : List Char) : Option Unicode.Ranges :=
  match String.ofList name with
  | "alnum" => some [(0x30, 0x39), (0x41, 0x5A), (0x61, 0x7A)]
  | "alpha" => some [(0x41, 0x5A), (0x61, 0x7A)]
  | "ascii" => some [(0x00, 0x7F)]
  | "blank" => some [(0x09, 0x09), (0x20, 0x20)]
  | "cntrl" => some [(0x00, 0x1F), (0x7F, 0x7F)]
  | "digit" => some [(0x30, 0x39)]
  | "graph" => some [(0x21, 0x7E)]
  | "lower" => some [(0x61, 0x7A)]
  | "print" => some [(0x20, 0x7E)]
  | "punct" => some [(0x21, 0x2F), (0x3A, 0x40), (0x5B, 0x60), (0x7B, 0x7E)]
  | "space" => some [(0x09, 0x0D), (0x20, 0x20)]
  | "upper" => some [(0x41, 0x5A)]
  | "word" => some [(0x30, 0x39), (0x41, 0x5A), (0x5F, 0x5F), (0x61, 0x7A)]
  | "xdigit" => some [(0x30, 0x39), (0x41, 0x46), (0x61, 0x66)]
  | _ => none

/-- The classes of one letter: digits, blanks and word characters; upper case is the complement. -/
def letterClass (f : Flags) (c : Char) : Option CharSet :=
  let negated := c.isUpper
  match c.toLower with
  | 'd' => f.negate negated (if f.unicode then .digit else .ranges [(0x30, 0x39)])
  | 's' => f.negate negated (if f.unicode then .blank else .ranges [(0x09, 0x0D), (0x20, 0x20)])
  | 'w' => f.negate negated (if f.unicode then .word
      else .ranges [(0x30, 0x39), (0x41, 0x5A), (0x5F, 0x5F), (0x61, 0x7A)])
  | _ => none

/-- The value of a hexadecimal digit. -/
def hexDigit? (c : Char) : Option Nat :=
  if '0' ≤ c ∧ c ≤ '9' then some (c.toNat - 48)
  else if 'a' ≤ c ∧ c ≤ 'f' then some (c.toNat - 87)
  else if 'A' ≤ c ∧ c ≤ 'F' then some (c.toNat - 55)
  else none

/-- The character with this code point, if one has it. -/
def charOfNat? (n : Nat) : Option Char :=
  if h : n.isValidChar then some (Char.ofNatAux n h) else none

/-- So many hexadecimal digits. -/
def readHexFixed (f : Flags) : Nat → Nat → Reader Nat
  | 0, acc, cs => some (acc, cs)
  | k + 1, acc, cs => match cs with
    | [] => none
    | c :: cs => do
      let d ← hexDigit? c
      readHexFixed f k (16 * acc + d) (f.skip cs)

/-- A number between braces, in hexadecimal digits; the opening brace has been read. -/
def readHexBraced (f : Flags) (cs : List Char) : Option (Nat × List Char) := do
  let (digits, rest) ← f.cut (· == '\x7d') false cs
  let values ← digits.mapM hexDigit?
  if values.isEmpty then none
  else return (values.foldl (fun n d => 16 * n + d) 0, f.skip (rest.drop 1))

/-- A character by its code point, behind `x`, `u` or `U`. -/
def readCodePoint (f : Flags) (places : Nat) (cs : List Char) : Option (Char × List Char) :=
  match f.skip cs with
  | [] => none
  | '\x7b' :: cs => do
    let (n, rest) ← readHexBraced f cs
    return (← charOfNat? n, rest)
  | cs => do
    let (n, rest) ← readHexFixed f places 0 cs
    let c ← charOfNat? n
    if places = 2 && !f.unicode && 0x80 ≤ n then none else return (c, rest)

/-- The characters before the first one of a kind, and those from it on. -/
def cutAt (p : Char → Bool) (cs : List Char) : Option (List Char × List Char) :=
  match cs.dropWhile fun c => !p c with
  | [] => none
  | rest => some (cs.takeWhile fun c => !p c, rest)

/-- The set named between braces: a lone name, or a name and a value joined by `=`, `:` or `!=`. -/
def namedSet (f : Flags) (negated : Bool) (name : List Char) : Option CharSet := do
  let pair (negated : Bool) (key value : List Char) : Option CharSet := do
    f.negate negated (f.close (← CharSet.ofPair? key value))
  let rec differs : List Char → List Char → Option (List Char × List Char)
    | _, [] => none
    | front, '!' :: '=' :: rest => some (front.reverse, rest)
    | front, c :: rest => differs (c :: front) rest
  if !f.unicode then none
  else match differs [] name with
    | some (key, value) => pair (!negated) key value
    | none => match cutAt (· == ':') name <|> cutAt (· == '=') name with
      | some (key, value) => pair negated key (value.drop 1)
      | none => f.negate negated (f.close (← CharSet.ofName? name))

/-- A named set, behind `p` or `P`: one letter, or a name between braces. -/
def readNamedSet (f : Flags) (negated : Bool) (cs : List Char) : Option (CharSet × List Char) :=
  match f.skip cs with
  | [] | '\\' :: _ => none
  | '\x7b' :: cs => do
    let (name, rest) ← f.cut (· == '\x7d') false cs
    return (← namedSet f negated name, rest.drop 1)
  | c :: cs => do return (← namedSet f negated [c], cs)

/-- The characters that a backslash takes literally: ASCII, but neither letters nor digits nor angles. -/
def isPlainEscape (c : Char) : Bool :=
  c.toNat < 0x80 && !c.isAlphanum && c != '<' && c != '>'

/-- The boundary named between braces behind `b`; a brace that opens a count is left alone. -/
def readBoundary (f : Flags) (cs : List Char) : Option (Anchor × List Char) :=
  let isNameChar (c : Char) : Bool := c.isAlpha || c == '-'
  match cs with
  | '\x7b' :: inner => match f.skip inner with
    | [] => none
    | c :: inner =>
      if !isNameChar c then some (.boundary (!f.unicode), cs)
      else do
        let (name, rest) ← f.cut (fun c => !isNameChar c) false (c :: inner)
        let anchor ← match String.ofList name with
          | "start" => some (Anchor.wordStart (!f.unicode))
          | "end" => some (.wordEnd (!f.unicode))
          | "start-half" => some (.wordStartHalf (!f.unicode))
          | "end-half" => some (.wordEndHalf (!f.unicode))
          | _ => none
        match rest with
        | '\x7d' :: rest => return (anchor, rest)
        | _ => none
  | cs => some (.boundary (!f.unicode), cs)

/-- What stands behind a backslash. -/
def readEscape (f : Flags) (cs : List Char) : Option (Atom × List Char) :=
  match cs with
  | [] => none
  | c :: cs =>
    match c with
    | 'x' => (readCodePoint f 2 cs).map fun (c, rest) => (.char c, rest)
    | 'u' => (readCodePoint f 4 cs).map fun (c, rest) => (.char c, rest)
    | 'U' => (readCodePoint f 8 cs).map fun (c, rest) => (.char c, rest)
    | 'p' => (readNamedSet f false cs).map fun (s, rest) => (.set s, rest)
    | 'P' => (readNamedSet f true cs).map fun (s, rest) => (.set s, rest)
    | 'd' | 's' | 'w' | 'D' | 'S' | 'W' => (letterClass f c).map fun s => (.set s, cs)
    | 'a' => some (.char '\x07', cs)
    | 'f' => some (.char '\x0C', cs)
    | 't' => some (.char '\t', cs)
    | 'n' => some (.char '\n', cs)
    | 'r' => some (.char '\r', cs)
    | 'v' => some (.char '\x0B', cs)
    | 'A' => some (.anchor .textStart, cs)
    | 'z' => some (.anchor .textEnd, cs)
    | 'b' => (readBoundary f cs).map fun (a, rest) => (.anchor a, rest)
    | 'B' => some (.anchor (.notBoundary (!f.unicode)), cs)
    | '<' => some (.anchor (.wordStart (!f.unicode)), cs)
    | '>' => some (.anchor (.wordEnd (!f.unicode)), cs)
    | c => if isPlainEscape c then some (.char c, cs) else none

/-- The operations that join two sets inside brackets. -/
inductive SetOp
  | inter
  | diff
  | symmDiff

/-- A set with the depth of its nesting. -/
structure Nested where
  set : CharSet
  depth : Nat

/-- Joins the items of a union, in order; several items make a level of their own. -/
def Nested.union (items : List Nested) : Nested :=
  match items with
  | [] => ⟨.none, 0⟩
  | [item] => item
  | item :: items =>
    ⟨items.foldl (fun s t => .union s t.set) item.set,
      1 + items.foldl (fun d t => max d t.depth) item.depth⟩

/-- A class whose closing bracket is still ahead. -/
structure OpenClass where
  negated : Bool
  /-- The left operand and its operation, if one is waiting. -/
  pending : Option (Nested × SetOp)
  /-- The items read so far, the last one first. -/
  items : List Nested

namespace OpenClass

/-- The set read so far, with a waiting operation carried out. -/
def value (f : Flags) (k : OpenClass) : Nested :=
  let right := Nested.union k.items.reverse
  match k.pending with
  | none => right
  | some (left, op) =>
    let a := f.close left.set
    let b := f.close right.set
    let set := match op with
      | .inter => CharSet.inter a b
      | .diff => .diff a b
      | .symmDiff => .symmDiff a b
    ⟨set, 1 + max left.depth right.depth⟩

/-- The class behind its closing bracket. -/
def close (f : Flags) (k : OpenClass) : Option Nested := do
  let v := k.value f
  return ⟨← f.negate k.negated (f.close v.set), 1 + v.depth⟩

/-- Adds an item. -/
def push (k : OpenClass) (s : CharSet) : OpenClass :=
  { k with items := ⟨s, 0⟩ :: k.items }

/-- Makes what was read so far the left operand of an operation. -/
def operate (f : Flags) (k : OpenClass) (op : SetOp) : OpenClass :=
  { k with pending := some (k.value f, op), items := [] }

end OpenClass

/-- Behind an opening bracket: an optional caret, hyphens, and a closing bracket that stands for itself. -/
def readClassOpen (f : Flags) (cs : List Char) : Option (OpenClass × List Char) :=
  let cs := f.skip cs
  let (negated, cs) := match cs with
    | '^' :: cs => (true, f.skip cs)
    | cs => (false, cs)
  match f.cut (· != '-') false cs with
  | none => none
  | some ([], ']' :: cs) => some (⟨negated, none, [⟨.single ']', 0⟩]⟩, f.skip cs)
  | some (hyphens, cs) => some (⟨negated, none, hyphens.map fun c => ⟨.single c, 0⟩⟩, cs)

/-- A class between `[:` and `:]`, if one stands here; the opening bracket has been read. -/
def readAsciiClass? (f : Flags) : List Char → Option (Option CharSet × List Char)
  | ':' :: cs => do
    let (negated, cs) := match cs with
      | '^' :: cs => (true, cs)
      | cs => (false, cs)
    let (name, rest) ← cutAt (· == ':') cs
    let rest ← match rest with
      | ':' :: ']' :: rest => some rest
      | _ => none
    let ranges ← asciiClass? name
    return (f.negate negated (f.close (.ranges ranges)), rest)
  | _ => none

/-- One character or escape inside brackets. -/
def readClassItem (f : Flags) : List Char → Option (Atom × List Char)
  | [] => none
  | '\\' :: cs => readEscape f cs
  | c :: cs => some (.char c, cs)

/-- A character that can stand in a class under the flags: any, or ASCII alone. -/
def classChar (f : Flags) : Atom → Option Char
  | .char c => if f.unicode || c.toNat < 0x80 then some c else none
  | _ => none

/-- Whether a hyphen, with the text behind it, stands for itself: a closing bracket or a second hyphen follows.
Blanks may come between; of a comment only the number sign is passed over, so its first character decides. -/
def Flags.endsRange (f : Flags) (cs : List Char) : Bool :=
  let ahead := if f.verbose then
      match cs.dropWhile Text.isBlank with
      | '#' :: cs => (cs.dropWhile Text.isBlank).head?
      | cs => cs.head?
    else cs.head?
  ahead == some ']' || ahead == some '-'

/-- An item of a class: a range, a character or a set. -/
def readClassRange (f : Flags) (cs : List Char) : Option (CharSet × List Char) := do
  let (first, rest) ← readClassItem f cs
  let alone : Option CharSet := match first with
    | .set s => some s
    | first => (classChar f first).map .single
  match f.skip rest with
  | [] => none
  | '-' :: rest' =>
    if f.endsRange rest' then return (← alone, '-' :: rest')
    else do
      let (last, rest) ← readClassItem f (f.skip rest')
      let lo ← classChar f first
      let hi ← classChar f last
      if lo ≤ hi then return (.ranges [(lo.toNat, hi.toNat)], rest) else none
  | rest => return (← alone, rest)

end FieldRules.Regex
