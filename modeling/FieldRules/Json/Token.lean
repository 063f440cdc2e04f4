import FieldRules.Json.Number

/-!
# Tokens of JSON text

The scanner reads one character at a time and gives strings as they are written; an unknown escape and a raw
control character are refused. What a string stands for is left to `Escape`.
-/

namespace FieldRules.Json

/-- A token; strings keep their escapes. -/
inductive Token
  | beginArray
  | endArray
  | beginObject
  | endObject
  | colon
  | comma
  | null
  | bool (b : Bool)
  | number (p : NumberParts)
  | string (raw : List Char)

/-- Where the scanner is; the characters read so far come last first. -/
inductive Mode
  | between
  | number (text : List Char)
  | word (text : List Char)
  | string (raw : List Char)
  /-- Behind a backslash. -/
  | escape (raw : List Char)
  /-- Inside the four digits of a code unit. -/
  | unit (raw : List Char) (left : Nat)

/-- The blanks of JSON. -/
def isSpace (c : Char) : Bool :=
  c == ' ' || c == '\t' || c == '\n' || c == '\r'

/-- A token of one character. -/
def punctuation? : Char → Option Token
  | '[' => some .beginArray
  | ']' => some .endArray
  | '\x7b' => some .beginObject
  | '\x7d' => some .endObject
  | ':' => some .colon
  | ',' => some .comma
  | _ => none

/-- Whether a character can continue a number. -/
def continuesNumber (c : Char) : Bool :=
  c.isDigit || c == '+' || c == '-' || c == '.' || c == 'e' || c == 'E'

/-- The literal with this name. -/
def literal? (name : List Char) : Option Token :=
  match String.ofList name with
  | "null" => some .null
  | "true" => some (.bool true)
  | "false" => some (.bool false)
  | _ => none

/-- The character that an escape of one letter stands for. -/
def simpleEscape? : Char → Option Char
  | '"' => some '"'
  | '\\' => some '\\'
  | '/' => some '/'
  | 'b' => some '\x08'
  | 'f' => some '\x0C'
  | 'n' => some '\n'
  | 'r' => some '\r'
  | 't' => some '\t'
  | _ => none

/-- The value of a hexadecimal digit. -/
def hexValue? (c : Char) : Option Nat :=
  if '0' ≤ c ∧ c ≤ '9' then some (c.toNat - 48)
  else if 'a' ≤ c ∧ c ≤ 'f' then some (c.toNat - 87)
  else if 'A' ≤ c ∧ c ≤ 'F' then some (c.toNat - 55)
  else none

/-- Reads the first character of a token, or a blank. -/
def enter (c : Char) : Option (List Token × Mode) :=
  if isSpace c then some ([], .between)
  else match punctuation? c with
    | some t => some ([t], .between)
    | none =>
      if c = '"' then some ([], .string [])
      else if c.isDigit ∨ c = '-' then some ([], .number [c])
      else if c.isAlpha then some ([], .word [c])
      else none

/-- Reads a character. -/
def Mode.step (c : Char) : Mode → Option (List Token × Mode)
  | between => enter c
  | number text =>
    if continuesNumber c then some ([], .number (c :: text))
    else do
      let p ← readParts? text.reverse
      let (tokens, mode) ← enter c
      return (.number p :: tokens, mode)
  | word text =>
    if c.isAlpha then some ([], .word (c :: text))
    else do
      let t ← literal? text.reverse
      let (tokens, mode) ← enter c
      return (t :: tokens, mode)
  | string raw =>
    if c = '"' then some ([.string raw.reverse], .between)
    else if c = '\\' then some ([], .escape (c :: raw))
    else if c.toNat < 0x20 then none
    else some ([], .string (c :: raw))
  | escape raw =>
    if c = 'u' then some ([], .unit (c :: raw) 4)
    else if (simpleEscape? c).isSome then some ([], .string (c :: raw))
    else none
  | unit raw left =>
    if (hexValue? c).isNone then none
    else if left ≤ 1 then some ([], .string (c :: raw))
    else some ([], .unit (c :: raw) (left - 1))

/-- The tokens that the end of the text completes. -/
def Mode.finish : Mode → Option (List Token)
  | between => some []
  | number text => (readParts? text.reverse).map ([.number ·])
  | word text => (literal? text.reverse).map ([·])
  | _ => none

/-- The tokens of a text, behind those read so far, the last one first. -/
def scan (read : List Token) : Mode → List Char → Option (List Token)
  | mode, [] => mode.finish.map fun tokens => read.reverse ++ tokens
  | mode, c :: cs => do
    let (tokens, mode) ← mode.step c
    scan (tokens.reverse ++ read) mode cs

end FieldRules.Json
