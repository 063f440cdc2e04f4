import FieldRules.Text.Quoted

/-!
# Tokens of rule text

A token has a kind, which carries the text of literals, quoted values and patterns with their escapes
resolved, and a span in bytes.
-/

namespace FieldRules

/-- The kinds of tokens. `finish` stands for the end of the text. -/
inductive TokenKind
  | atSign
  | leftAngle
  | rightAngle
  | leftBracket
  | rightBracket
  | leftParen
  | rightParen
  | leftBrace
  | rightBrace
  | comma
  | question
  | equals
  | literal (text : String)
  | quoted (text : String)
  | pattern (text : String)
  | finish
  deriving DecidableEq, Repr

namespace TokenKind

/-- The character that is a token by itself, for the kinds that have one. -/
def char? : TokenKind → Option Char
  | atSign => some '@'
  | leftAngle => some '<'
  | rightAngle => some '>'
  | leftBracket => some '['
  | rightBracket => some ']'
  | leftParen => some '('
  | rightParen => some ')'
  | leftBrace => some '\x7b'
  | rightBrace => some '\x7d'
  | comma => some ','
  | question => some '?'
  | equals => some '='
  | _ => none

/-- The kind of a character that is a token by itself. -/
def ofChar? : Char → Option TokenKind
  | '@' => some atSign
  | '<' => some leftAngle
  | '>' => some rightAngle
  | '[' => some leftBracket
  | ']' => some rightBracket
  | '(' => some leftParen
  | ')' => some rightParen
  | '\x7b' => some leftBrace
  | '\x7d' => some rightBrace
  | ',' => some comma
  | '?' => some question
  | '=' => some equals
  | _ => none

/-- The text that a kind carries. -/
def body? : TokenKind → Option String
  | literal text | quoted text | pattern text => some text
  | _ => none

/-- How messages name a token. -/
def describe : TokenKind → String
  | literal text => "literal `" ++ text ++ "`"
  | quoted text => "quoted value " ++ Text.quote text
  | pattern text => "pattern `/" ++ text ++ "/`"
  | finish => "end of rule"
  | kind => "`" ++ String.ofList kind.char?.toList ++ "`"

theorem ofChar?_eq_some_iff {c : Char} {k : TokenKind} : ofChar? c = some k ↔ k.char? = some c := by
  constructor
  · intro h
    unfold ofChar? at h
    split at h <;> first | (obtain rfl := Option.some.inj h; rfl) | exact absurd h nofun
  · intro h
    cases k <;> first | (obtain rfl := Option.some.inj h; rfl) | exact absurd h nofun

end TokenKind

/-- A token with the byte offsets of its start and its end. -/
structure Token where
  kind : TokenKind
  start : Nat
  stop : Nat
  deriving DecidableEq, Repr

end FieldRules
