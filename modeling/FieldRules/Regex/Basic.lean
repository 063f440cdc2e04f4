import FieldRules.Unicode.Property

/-!
# Regular expressions

The tree of a regular expression. Groups and greed are kept, although neither changes which texts match: they
count for the size of an expression.
-/

open FieldRules.Unicode (CharSet)

namespace FieldRules.Regex

/-- Assertions about the characters on both sides of a place in the text. -/
inductive Anchor
  | textStart
  | textEnd
  | lineStart
  | lineEnd
  | crlfLineStart
  | crlfLineEnd
  | boundary (ascii : Bool)
  | notBoundary (ascii : Bool)
  | wordStart (ascii : Bool)
  | wordEnd (ascii : Bool)
  | wordStartHalf (ascii : Bool)
  | wordEndHalf (ascii : Bool)
  deriving DecidableEq, Repr

/-- Word characters, of all scripts or of ASCII alone. -/
def isWordChar (ascii : Bool) (c : Char) : Bool :=
  if ascii then c.isAlphanum || c == '_' else CharSet.word.contains c

/-- Whether the assertion holds between two neighbours; `none` stands for an end of the text. -/
def Anchor.holds (a : Anchor) (before after : Option Char) : Bool :=
  let word (ascii : Bool) (c : Option Char) : Bool := c.any (isWordChar ascii)
  match a with
  | .textStart => before.isNone
  | .textEnd => after.isNone
  | .lineStart => before.isNone || before == some '\n'
  | .lineEnd => after.isNone || after == some '\n'
  | .crlfLineStart => before.isNone || before == some '\n' || (before == some '\r' && after != some '\n')
  | .crlfLineEnd => after.isNone || after == some '\r' || (after == some '\n' && before != some '\r')
  | .boundary ascii => word ascii before != word ascii after
  | .notBoundary ascii => word ascii before == word ascii after
  | .wordStart ascii => !word ascii before && word ascii after
  | .wordEnd ascii => word ascii before && !word ascii after
  | .wordStartHalf ascii => !word ascii before
  | .wordEndHalf ascii => !word ascii after

end FieldRules.Regex

namespace FieldRules

/-- A regular expression. -/
inductive Regex
  | empty
  | oneOf (s : CharSet)
  | anchor (a : Regex.Anchor)
  | seq (a b : Regex)
  | alt (a b : Regex)
  | group (captures : Bool) (r : Regex)
  | repeated (greedy : Bool) (min : Nat) (max : Option Nat) (r : Regex)
  deriving DecidableEq, Repr

namespace Regex

/-- The text itself, character by character. -/
def literal : List Char → Regex
  | [] => .empty
  | [c] => .oneOf (.single c)
  | c :: cs => .seq (.oneOf (.single c)) (literal cs)

/-- One after another. -/
def concat : List Regex → Regex
  | [] => .empty
  | [r] => r
  | r :: rs => .seq r (concat rs)

/-- Any one of a nonempty list. -/
def choice (first : Regex) : List Regex → Regex
  | [] => first
  | r :: rs => .alt first (choice r rs)

end Regex

end FieldRules
