import FieldRules.Rule.Basic

/-!
# The canonical text of a rule

Parts come in a fixed order: name, params, range, values, pattern, and last the default or the mark of
an optional rule.
-/

namespace FieldRules

/-- Texts with a comma between neighbours. -/
def commaSeparated : List (List Char) → List Char
  | [] => []
  | [t] => t
  | t :: ts => t ++ ',' :: commaSeparated ts

namespace Pattern

/-- A pattern between slashes, with the slashes inside escaped. -/
def text (p : Pattern) : List Char :=
  '/' :: p.source.toList.flatMap (fun c => if c = '/' then ['\\', '/'] else [c]) ++ ['/']

/-- The text of a pattern. -/
protected def toString (p : Pattern) : String :=
  String.ofList p.text

end Pattern

namespace Range

/-- The text of an optional bound. -/
def boundText (bound : Option String) : List Char :=
  (bound.getD "").toList

/-- The text of a range. -/
def text : Range → List Char
  | .exact value => '[' :: value.toList ++ [']']
  | .span min max exclusiveMin exclusiveMax =>
    (if exclusiveMin then '(' else '[') :: boundText min ++ ',' :: boundText max ++
      [if exclusiveMax then ')' else ']']

end Range

/-- The text of a group of values. -/
def groupText (group : List String) : List Char :=
  '\x7b' :: commaSeparated (group.map String.toList) ++ ['\x7d']

namespace Presence

/-- A default between single quotes, with quotes and backslashes escaped. -/
def defaultText (text : String) : List Char :=
  let escaped := text.toList.flatMap fun c => if c = '\\' ∨ c = '\'' then ['\\', c] else [c]
  [' ', '=', ' ', '\''] ++ escaped ++ ['\'']

/-- The mark at the end of a rule. -/
def text : Presence → List Char
  | .required => []
  | .optional => ['?']
  | .default text => defaultText text

end Presence

mutual

/-- The canonical text of a rule, as characters. -/
def Rule.text : Rule → List Char
  | ⟨_, name, params, range, values, pattern, presence⟩ =>
    '@' :: name.toList ++
      (if params.isEmpty then [] else '<' :: commaSeparated (Param.texts params) ++ ['>']) ++
      (range.map Range.text).getD [] ++ values.flatMap groupText ++ (pattern.map Pattern.text).getD [] ++
      presence.text

/-- The text of a param, as characters. -/
def Param.text : Param → List Char
  | .blank => []
  | .literal text => text.toList
  | .rule r => Rule.text r

/-- The texts of params. -/
def Param.texts : List Param → List (List Char)
  | [] => []
  | p :: ps => Param.text p :: Param.texts ps

end

/-- The canonical text of a rule. -/
protected def Rule.toString (r : Rule) : String :=
  String.ofList r.text

/-- The text of a param. -/
protected def Param.toString (p : Param) : String :=
  String.ofList p.text

end FieldRules
