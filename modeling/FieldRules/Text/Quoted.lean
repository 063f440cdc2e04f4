import FieldRules.Unicode.Current

/-!
# Quoted text

The form in which messages show a text: between double quotes, with escapes for quotes, backslashes,
the common controls and every character that has no visible form of its own.
-/

namespace FieldRules.Text

/-- The hexadecimal digits of a number, in lower case. -/
def hexDigits (n : Nat) : List Char :=
  Nat.toDigits 16 n

/-- The escape that names a character by its code point. -/
def codePointEscape (c : Char) : List Char :=
  ['\\', 'u', '\x7b'] ++ hexDigits c.toNat ++ ['\x7d']

/-- Characters that would not be seen by themselves: invisible ones, fillers, and extenders of the character
before them. The sound marks of half width are seen. -/
def isHidden (c : Char) : Bool :=
  !Unicode.Current.isPrintable c || Unicode.Listed.defaultIgnorable.contains c ||
    (Unicode.Current.isGraphemeExtend c && c.toNat != 0xFF9E && c.toNat != 0xFF9F)

/-- One character inside double quotes. -/
def quoteChar (c : Char) : List Char :=
  match c with
  | '\x00' => ['\\', '0']
  | '\t' => ['\\', 't']
  | '\r' => ['\\', 'r']
  | '\n' => ['\\', 'n']
  | '"' => ['\\', '"']
  | '\\' => ['\\', '\\']
  | c => if isHidden c then codePointEscape c else [c]

/-- A text between double quotes. -/
def quote (s : String) : String :=
  String.ofList ('"' :: s.toList.flatMap quoteChar ++ ['"'])

end FieldRules.Text
