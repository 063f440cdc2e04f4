import FieldRules.Text.Bytes
import FieldRules.Text.Numeral
import FieldRules.Text.Split

/-!
# Host names and addresses

Tests for the names and addresses of hosts. A host name is a series of labels joined by points; an
address is read group by group, an IPv6 address with at most one gap and possibly an IPv4 tail.
-/

namespace FieldRules.Format

/-- Letters, digits and hyphens. -/
def isLabelChar (c : Char) : Bool :=
  c.isAlphanum || c == '-'

/-- A label of a host name: 1 to 63 letters, digits and hyphens, no hyphen at either end. -/
def isLabel (label : List Char) : Bool :=
  label != [] && Text.byteLength label ≤ 63 && label.head? != some '-' && label.getLast? != some '-' &&
    label.all isLabelChar

/-- A text without one point at its end. -/
def dropFinalPoint (cs : List Char) : List Char :=
  if cs.getLast? = some '.' then cs.dropLast else cs

/-- A host name: at most 253 bytes of labels joined by points, with a point allowed at the end. -/
def isHostname (s : String) : Bool :=
  let host := dropFinalPoint s.toList
  host != [] && Text.byteLength host ≤ 253 && (Text.split '.' host).all isLabel

/-- Reads up to so many digits of a base, by the value of each. -/
def readDigitsUpTo (digit? : Char → Option Nat) : Nat → List Char → List Nat × List Char
  | 0, cs => ([], cs)
  | _ + 1, [] => ([], [])
  | k + 1, c :: cs => match digit? c with
    | some d =>
      let (ds, rest) := readDigitsUpTo digit? k cs
      (d :: ds, rest)
    | none => ([], c :: cs)

/-- Whether a digit stands at the front. -/
def startsWithDigit (digit? : Char → Option Nat) (cs : List Char) : Bool :=
  (cs.head?.bind digit?).isSome

/-- A byte in decimal, without leading zeros; gives what is left. -/
def readByte? (cs : List Char) : Option (List Char) :=
  let (ds, rest) := readDigitsUpTo Text.digit? 3 cs
  let value := ds.foldl (fun n d => 10 * n + d) 0
  if ds = [] || startsWithDigit Text.digit? rest || (1 < ds.length && ds.head? == some 0) || 255 < value then
    none
  else some rest

/-- So many bytes, each behind a point; gives what is left. -/
def readBytes? : Nat → List Char → Option (List Char)
  | 0, cs => some cs
  | k + 1, '.' :: cs => (readByte? cs).bind (readBytes? k)
  | _ + 1, _ => none

/-- An IPv4 address; gives what is left. -/
def readIpv4? (cs : List Char) : Option (List Char) :=
  (readByte? cs).bind (readBytes? 3)

/-- The value of a hexadecimal digit. -/
def hexadecimal? (c : Char) : Option Nat :=
  if '0' ≤ c ∧ c ≤ '9' then some (c.toNat - 48)
  else if 'a' ≤ c ∧ c ≤ 'f' then some (c.toNat - 87)
  else if 'A' ≤ c ∧ c ≤ 'F' then some (c.toNat - 55)
  else none

/-- One to four hexadecimal digits; gives what is left. -/
def readHexGroup? (cs : List Char) : Option (List Char) :=
  let (ds, rest) := readDigitsUpTo hexadecimal? 4 cs
  if ds = [] || startsWithDigit hexadecimal? rest then none else some rest

/-- What follows the colon between groups; the first group has none in front. -/
def behindColon (first : Bool) (cs : List Char) : Option (List Char) :=
  if first then some cs
  else match cs with
    | ':' :: cs => some cs
    | _ => none

/-- Reads up to so many groups: how many, whether they end in an IPv4 address, and what is left. -/
def readGroups : Nat → Bool → List Char → Nat × Bool × List Char
  | 0, _, cs => (0, false, cs)
  | k + 1, first, cs =>
    let ahead := behindColon first cs
    match if 0 < k then ahead.bind readIpv4? else none with
    | some rest => (2, true, rest)
    | none => match ahead.bind readHexGroup? with
      | none => (0, false, cs)
      | some rest =>
        let (n, mixed, rest) := readGroups k false rest
        (n + 1, mixed, rest)

/-- An IPv4 address. -/
def isIpv4 (s : String) : Bool :=
  readIpv4? s.toList == some []

/-- An IPv6 address: eight groups, or fewer with one gap that stands for at least one. -/
def isIpv6 (s : String) : Bool :=
  match readGroups 8 true s.toList with
  | (8, _, rest) => rest == []
  | (n, false, ':' :: ':' :: rest) => (readGroups (7 - n) true rest).2.2 == []
  | _ => false

end FieldRules.Format
