import FieldRules.Text.Numeral

/-!
# Paths

Where in a value a violation was found: fields, places in a list and keys of a map, from the outside in.
-/

namespace FieldRules

/-- A step into a value. -/
inductive Segment
  | field (name : String)
  | index (i : Nat)
  | key (text : String)
  deriving DecidableEq, Repr

/-- The steps from the outermost value inwards. -/
abbrev Path := List Segment

namespace Path

/-- The path one step further in. -/
def push (p : Path) (s : Segment) : Path :=
  p ++ [s]

/-- The same place seen from one step further out. -/
def prepend (p : Path) (s : Segment) : Path :=
  s :: p

/-- A step as text; a name has a point in front of it unless the path starts there. -/
def segmentText (first : Bool) : Segment → List Char
  | .index i => '[' :: Text.digits i ++ [']']
  | .field name | .key name => (if first then [] else ['.']) ++ name.toList

/-- The text of a path. -/
def text : Path → List Char
  | [] => []
  | s :: rest => segmentText true s ++ rest.flatMap (segmentText false)

/-- The text of a path. -/
protected def toString (p : Path) : String :=
  String.ofList p.text

end Path

end FieldRules
