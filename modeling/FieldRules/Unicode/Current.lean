import FieldRules.Unicode.Property

/-!
# The current edition

Patterns know the characters of edition 16 of the Unicode standard. Text that is shown to people, and the names
that they give to groups, follow edition 17, which adds the characters listed here.
-/

namespace FieldRules.Unicode.Current

/-- The characters that edition 17 adds: first and last code point, and the category. -/
def added : List (Nat × Nat × Category) := [
  (0x88F, 0x88F, .lo), (0xC5C, 0xC5C, .lo), (0xCDC, 0xCDC, .lo), (0x1ACF, 0x1ADD, .mn), (0x1AE0, 0x1AEB, .mn),
  (0x20C1, 0x20C1, .sc), (0x2B96, 0x2B96, .so), (0xA7CE, 0xA7CE, .lu), (0xA7CF, 0xA7CF, .ll),
  (0xA7D2, 0xA7D2, .lu), (0xA7D4, 0xA7D4, .lu), (0xA7F1, 0xA7F1, .lm), (0xFBC3, 0xFBD2, .so),
  (0xFD90, 0xFD91, .so), (0xFDC8, 0xFDCE, .so), (0x10940, 0x10959, .lo), (0x10EC5, 0x10EC5, .lm),
  (0x10EC6, 0x10EC7, .lo), (0x10ED0, 0x10ED0, .po), (0x10ED1, 0x10ED8, .so), (0x10EFA, 0x10EFB, .mn),
  (0x11B60, 0x11B60, .mn), (0x11B61, 0x11B61, .mc), (0x11B62, 0x11B64, .mn), (0x11B65, 0x11B65, .mc),
  (0x11B66, 0x11B66, .mn), (0x11B67, 0x11B67, .mc), (0x11DB0, 0x11DD8, .lo), (0x11DD9, 0x11DD9, .lm),
  (0x11DDA, 0x11DDB, .lo), (0x11DE0, 0x11DE9, .nd), (0x16EA0, 0x16EB8, .lu), (0x16EBB, 0x16ED3, .ll),
  (0x16FF2, 0x16FF3, .lm), (0x16FF4, 0x16FF6, .nl), (0x187F8, 0x187FF, .lo), (0x18D09, 0x18D1E, .lo),
  (0x18D80, 0x18DF2, .lo), (0x1CCFA, 0x1CCFC, .so), (0x1CEBA, 0x1CED0, .so), (0x1CEE0, 0x1CEEF, .so),
  (0x1CEF0, 0x1CEF0, .sm), (0x1E6C0, 0x1E6DE, .lo), (0x1E6E0, 0x1E6E2, .lo), (0x1E6E3, 0x1E6E3, .mn),
  (0x1E6E4, 0x1E6E5, .lo), (0x1E6E6, 0x1E6E6, .mn), (0x1E6E7, 0x1E6ED, .lo), (0x1E6EE, 0x1E6EF, .mn),
  (0x1E6F0, 0x1E6F4, .lo), (0x1E6F5, 0x1E6F5, .mn), (0x1E6FE, 0x1E6FE, .lo), (0x1E6FF, 0x1E6FF, .lm),
  (0x1F6D8, 0x1F6D8, .so), (0x1F777, 0x1F77A, .so), (0x1F8D0, 0x1F8D8, .sm), (0x1FA54, 0x1FA57, .so),
  (0x1FA8A, 0x1FA8A, .so), (0x1FA8E, 0x1FA8E, .so), (0x1FAC8, 0x1FAC8, .so), (0x1FACD, 0x1FACD, .so),
  (0x1FAEA, 0x1FAEA, .so), (0x1FAEF, 0x1FAEF, .so), (0x1FBFA, 0x1FBFA, .so), (0x2B73A, 0x2B73F, .lo),
  (0x2CEA2, 0x2CEAD, .lo), (0x323B0, 0x33479, .lo)]

/-- Added characters that are alphabetic without being letters or letter numbers. -/
def addedAlphabetic : Ranges := [
  (0x10EFA, 0x10EFB), (0x11B60, 0x11B67), (0x1E6E3, 0x1E6E3), (0x1E6E6, 0x1E6E6), (0x1E6EE, 0x1E6EF),
  (0x1E6F5, 0x1E6F5)]

/-- The category of a character. -/
def category (c : Char) : Category :=
  match added.find? fun (lo, hi, _) => lo ≤ c.toNat && c.toNat ≤ hi with
  | some (_, _, cat) => cat
  | none => Unicode.category c

/-- Alphabetic characters. -/
def isAlphabetic (c : Char) : Bool :=
  CharSet.alphabetic.contains c || [.lu, .ll, .lt, .lm, .lo, .nl].contains (category c) ||
    addedAlphabetic.contains c

/-- Numbers of any script. -/
def isNumeric (c : Char) : Bool :=
  [.nd, .nl, .no].contains (category c)

/-- Characters with a visible form of their own, and the space: neither separators nor controls. -/
def isPrintable (c : Char) : Bool :=
  c == ' ' || !([.zs, .zl, .zp, .cc, .cf, .co, .cn].contains (category c))

/-- Characters that extend the grapheme before them. -/
def isGraphemeExtend (c : Char) : Bool :=
  CharSet.graphemeExtend.contains c || [.mn, .me].contains (category c)

end FieldRules.Unicode.Current
