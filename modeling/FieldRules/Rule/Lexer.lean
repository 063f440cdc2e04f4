import FieldRules.Rule.SyntaxError
import FieldRules.Text.Blank
import FieldRules.Text.Bytes

/-!
# Splitting rule text into tokens

The scanner reads one character at a time and is always in one of four modes: between tokens, or
inside a literal, a quoted value or a pattern. Blanks separate tokens; a literal runs up to a blank or
a delimiter. A backslash in quotes escapes the closing quote or another backslash, in a pattern a slash.
-/

namespace FieldRules.Lexer

open Text (isBlank)

/-- The characters that end a literal. An at sign does not: it is a token only where one starts. -/
def isDelimiter (c : Char) : Bool :=
  c == '<' || c == '>' || c == '[' || c == ']' || c == '(' || c == ')' || c == '\x7b' || c == '\x7d' ||
    c == ',' || c == '?' || c == '=' || c == '/' || c == '\'' || c == '"'

/-- Where the scanner is. The text read so far comes last character first; `escaped` tells that a
backslash waits for the character that it may escape. -/
inductive Mode
  | between
  | literal (start : Nat) (text : List Char)
  | quoted (start : Nat) (quote : Char) (escaped : Bool) (text : List Char)
  | pattern (start : Nat) (escaped : Bool) (text : List Char)
  deriving DecidableEq, Repr

/-- The text read so far, in order. -/
def textOf (reversed : List Char) : String :=
  String.ofList reversed.reverse

/-- Reads the first character of a token, or a blank. -/
def enter (offset : Nat) (c : Char) : List Token × Mode :=
  if isBlank c then ([], .between)
  else match TokenKind.ofChar? c with
    | some kind => ([⟨kind, offset, offset + c.utf8Size⟩], .between)
    | none =>
      if c = '\'' ∨ c = '"' then ([], .quoted offset c false [])
      else if c = '/' then ([], .pattern offset false [])
      else ([], .literal offset [c])

/-- Reads a character: the tokens that it completes, and the mode behind it. -/
def Mode.step (offset : Nat) (c : Char) : Mode → List Token × Mode
  | between => enter offset c
  | literal start text =>
    if isBlank c || isDelimiter c then
      let (tokens, mode) := enter offset c
      (⟨.literal (textOf text), start, offset⟩ :: tokens, mode)
    else ([], .literal start (c :: text))
  | quoted start quote true text =>
    if c = quote ∨ c = '\\' then ([], .quoted start quote false (c :: text))
    else ([], .quoted start quote false (c :: '\\' :: text))
  | quoted start quote false text =>
    if c = '\\' then ([], .quoted start quote true text)
    else if c = quote then ([⟨.quoted (textOf text), start, offset + c.utf8Size⟩], .between)
    else ([], .quoted start quote false (c :: text))
  | pattern start true text =>
    if c = '/' then ([], .pattern start false (c :: text))
    else ([], .pattern start false (c :: '\\' :: text))
  | pattern start false text =>
    if c = '\\' then ([], .pattern start true text)
    else if c = '/' then ([⟨.pattern (textOf text), start, offset + c.utf8Size⟩], .between)
    else ([], .pattern start false (c :: text))

/-- The tokens that the end of the text completes; an open quote or pattern is a fault at its start. -/
def Mode.finish (offset : Nat) : Mode → Except Fault (List Token)
  | between => .ok []
  | literal start text => .ok [⟨.literal (textOf text), start, offset⟩]
  | quoted start _ _ _ => .error ⟨start, .unterminatedQuote⟩
  | pattern start _ _ => .error ⟨start, .unterminatedPattern⟩

/-- The tokens of the text ahead, from a mode and an offset on. -/
def scan : Mode → Nat → List Char → Except Fault (List Token)
  | mode, offset, [] => mode.finish offset
  | mode, offset, c :: cs =>
    let (tokens, mode) := mode.step offset c
    match scan mode (offset + c.utf8Size) cs with
    | .ok more => .ok (tokens ++ more)
    | .error fault => .error fault

/-- The tokens of a text, without one for its end. -/
def tokens (text : List Char) : Except Fault (List Token) :=
  scan .between 0 text

/-- The token for the end of a text. -/
def endToken (text : List Char) : Token :=
  ⟨.finish, Text.byteLength text, Text.byteLength text⟩

end FieldRules.Lexer

namespace FieldRules

/-- The tokens of a rule text, the last one for its end. -/
def tokenize (rule : String) : Except SyntaxError (List Token) :=
  match Lexer.tokens rule.toList with
  | .ok tokens => .ok (tokens ++ [Lexer.endToken rule.toList])
  | .error fault => .error { fault with rule }

end FieldRules
