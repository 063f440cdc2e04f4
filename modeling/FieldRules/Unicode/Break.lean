import FieldRules.Unicode.Property
import FieldRules.Unicode.Script

/-!
# Graphemes, words and sentences

The classes of characters by which a text is cut into graphemes, words and sentences, each under the names it
has in the Unicode standard. Every character that is in no class is free to be cut on both sides.
-/

namespace FieldRules.Unicode

/-- Forms of consonants that are written in front of the next one. -/
def consonantPrefix : Ranges := [
  (0xD4E, 0xD4E), (0x111C2, 0x111C3), (0x113D1, 0x113D1), (0x1193F, 0x1193F), (0x11941, 0x11941),
  (0x11A3A, 0x11A3A), (0x11A84, 0x11A89), (0x11D46, 0x11D46), (0x11F02, 0x11F02)]

/-- Spacing marks that do not belong to the grapheme before them. -/
def looseMark : Ranges := [
  (0x102B, 0x102C), (0x1038, 0x1038), (0x1062, 0x1064), (0x1067, 0x106D), (0x1083, 0x1083), (0x1087, 0x108C),
  (0x108F, 0x108F), (0x109A, 0x109C), (0x1A61, 0x1A61), (0x1A63, 0x1A64), (0xAA7B, 0xAA7B), (0xAA7D, 0xAA7D),
  (0x11720, 0x11721)]

/-- Letters of scripts that are written without spaces between words. -/
def unspacedLetter : Ranges := [
  (0xE01, 0xE30), (0xE32, 0xE33), (0xE40, 0xE46), (0xE81, 0xE82), (0xE84, 0xE84), (0xE86, 0xE8A),
  (0xE8C, 0xEA3), (0xEA5, 0xEA5), (0xEA7, 0xEB0), (0xEB2, 0xEB3), (0xEBD, 0xEBD), (0xEC0, 0xEC4),
  (0xEC6, 0xEC6), (0xEDC, 0xEDF), (0x1000, 0x102A), (0x103F, 0x103F), (0x1050, 0x1055), (0x105A, 0x105D),
  (0x1061, 0x1061), (0x1065, 0x1066), (0x106E, 0x1070), (0x1075, 0x1081), (0x108E, 0x108E), (0x1780, 0x17B3),
  (0x17D7, 0x17D7), (0x17DC, 0x17DC), (0x1950, 0x196D), (0x1970, 0x1974), (0x1980, 0x19AB), (0x19B0, 0x19C9),
  (0x1A20, 0x1A54), (0x1AA7, 0x1AA7), (0xA9E0, 0xA9E4), (0xA9E6, 0xA9EF), (0xA9FA, 0xA9FE), (0xAA60, 0xAA76),
  (0xAA7A, 0xAA7A), (0xAA7E, 0xAAAF), (0xAAB1, 0xAAB1), (0xAAB5, 0xAAB6), (0xAAB9, 0xAABD), (0xAAC0, 0xAAC0),
  (0xAAC2, 0xAAC2), (0xAADB, 0xAADD), (0x11700, 0x1171A), (0x11740, 0x11746)]

/-- Signs that count as letters of a word. -/
def wordSign : Ranges := [
  (0x2C2, 0x2C5), (0x2D2, 0x2D7), (0x2DE, 0x2DF), (0x2E5, 0x2EB), (0x2ED, 0x2ED), (0x2EF, 0x2FF),
  (0x55A, 0x55C), (0x55E, 0x55E), (0x58A, 0x58A), (0x5F3, 0x5F3), (0x70F, 0x70F), (0xA708, 0xA716),
  (0xA720, 0xA721), (0xA789, 0xA78A), (0xAB5B, 0xAB5B)]

/-- Signs that are written among katakana. -/
def katakanaSign : Ranges := [
  (0x3031, 0x3035), (0x309B, 0x309C), (0x30A0, 0x30A0), (0x30FC, 0x30FC), (0xFF70, 0xFF70)]

/-- Punctuation inside numbers. -/
def midNumber : Ranges := [
  (0x2C, 0x2C), (0x3B, 0x3B), (0x37E, 0x37E), (0x589, 0x589), (0x60C, 0x60D), (0x66C, 0x66C), (0x7F8, 0x7F8),
  (0x2044, 0x2044), (0xFE10, 0xFE10), (0xFE14, 0xFE14), (0xFE50, 0xFE50), (0xFE54, 0xFE54), (0xFF0C, 0xFF0C),
  (0xFF1B, 0xFF1B)]

/-- Parts of numbers outside the category `nd`. -/
def otherNumeric : Ranges := [
  (0x600, 0x605), (0x66B, 0x66C), (0x6DD, 0x6DD), (0x890, 0x891), (0x8E2, 0x8E2), (0x19DA, 0x19DA),
  (0x110BD, 0x110BD), (0x110CD, 0x110CD)]

/-- Quotation marks without a side of their own, and other marks that enclose. -/
def otherClose : Ranges := [
  (0x22, 0x22), (0x27, 0x27), (0x275B, 0x2760), (0x2E00, 0x2E01), (0x2E06, 0x2E08), (0x2E0B, 0x2E0B),
  (0x1F676, 0x1F678)]

/-- Punctuation behind which a sentence goes on. -/
def sentenceContinue : Ranges := [
  (0x2C, 0x2D), (0x3A, 0x3B), (0x37E, 0x37E), (0x55D, 0x55D), (0x60C, 0x60D), (0x7F8, 0x7F8),
  (0x1802, 0x1802), (0x1808, 0x1808), (0x2013, 0x2014), (0x3001, 0x3001), (0xFE10, 0xFE11), (0xFE13, 0xFE14),
  (0xFE31, 0xFE32), (0xFE50, 0xFE51), (0xFE54, 0xFE55), (0xFE58, 0xFE58), (0xFE63, 0xFE63), (0xFF0C, 0xFF0D),
  (0xFF1A, 0xFF1B), (0xFF64, 0xFF64)]

namespace CharSet

/-- One character, by its code point. -/
def point (n : Nat) : CharSet := .ranges [(n, n)]

/-- The signs that stand in front of a grapheme and belong to it. -/
def prepended : CharSet := .ranges (Listed.prependedConcatenationMark ++ consonantPrefix)

/-- Graphemes are extended by marks and by skin tones. -/
def graphemeExtender : CharSet := .union graphemeExtend (.ranges Listed.emojiModifier)

/-- Words and sentences are extended by spacing marks too. -/
def markExtender : CharSet := .union graphemeExtend (.categories [.mc])

/-- Syllables of Hangul that end in a vowel. -/
def openSyllable : CharSet := .ranges ((List.range 399).map fun k => (0xAC00 + 28 * k, 0xAC00 + 28 * k))

/-- Formats that have no part in words and sentences. -/
def looseFormat : CharSet := .diff (.categories [.cf]) (.union graphemeExtend (.point 0x200D))

/-- Katakana, with the signs among them. -/
def katakana : CharSet := .ranges ((script? "katakana").getD [] ++ katakanaSign)

/-- Letters of Hebrew. -/
def hebrewLetter : CharSet := .inter (.categories [.lo]) (.ranges ((script? "hebrew").getD []))

/-- The letters of words. Those of scripts without spaces between words are left out, since finding words there
takes a dictionary. -/
def wordLetter : CharSet :=
  .diff (.union alphabetic (.ranges wordSign))
    (.union (.ranges (Listed.ideographic ++ (script? "hiragana").getD [] ++ unspacedLetter))
      (.union markExtender (.union katakana hebrewLetter)))

/-- Digits and other parts of numbers. -/
def numberPart : CharSet := .union digit (.ranges otherNumeric)

/-- Lowercase letters of a sentence. Georgian has none. -/
def sentenceLower : CharSet :=
  .diff lowercase (.union graphemeExtend (.ranges [(0x10D0, 0x10FA), (0x10FD, 0x10FF)]))

/-- Uppercase letters of a sentence. Georgian has none. -/
def sentenceUpper : CharSet :=
  .diff (.union uppercase (.categories [.lt])) (.ranges [(0x1C90, 0x1CBA), (0x1CBD, 0x1CBF)])

/-- Points that may end a sentence. -/
def fullStop : CharSet := .ranges [(0x2E, 0x2E), (0x2024, 0x2024), (0xFE52, 0xFE52), (0xFF0E, 0xFF0E)]

end CharSet

open CharSet hiding none in
/-- The characters of a class of graphemes, by normalized name. -/
def graphemeBreak? (name : String) : Option CharSet :=
  match name with
  | "cr" => some (.point 0x0D)
  | "lf" => some (.point 0x0A)
  | "control" | "cn" =>
    some (.diff (.union (.categories [.cc, .cf, .zl, .zp])
        (.inter (.categories [.cn]) (.ranges Listed.defaultIgnorable)))
      (.union (.union (.ranges [(0x0A, 0x0A), (0x0D, 0x0D), (0x200C, 0x200D)]) prepended) graphemeExtender))
  | "extend" | "ex" => some graphemeExtender
  | "zwj" => some (.point 0x200D)
  | "regionalindicator" | "ri" => some (.ranges Listed.regionalIndicator)
  | "prepend" | "pp" => some prepended
  | "spacingmark" | "sm" =>
    some (.diff (.union (.categories [.mc]) (.ranges [(0xE33, 0xE33), (0xEB3, 0xEB3)]))
      (.union (.ranges looseMark) graphemeExtender))
  | "l" => some (.ranges [(0x1100, 0x115F), (0xA960, 0xA97C)])
  | "v" => some (.ranges [(0x1160, 0x11A7), (0xD7B0, 0xD7C6), (0x16D63, 0x16D63), (0x16D67, 0x16D6A)])
  | "t" => some (.ranges [(0x11A8, 0x11FF), (0xD7CB, 0xD7FB)])
  | "lv" => some openSyllable
  | "lvt" => some (.diff (.ranges [(0xAC00, 0xD7A3)]) openSyllable)
  | _ => none

open CharSet hiding none in
/-- The characters of a class of words, by normalized name. -/
def wordBreak? (name : String) : Option CharSet :=
  match name with
  | "cr" => some (.point 0x0D)
  | "lf" => some (.point 0x0A)
  | "newline" | "nl" => some (.ranges [(0x0B, 0x0C), (0x85, 0x85), (0x2028, 0x2029)])
  | "extend" => some (.union markExtender (.ranges Listed.emojiModifier))
  | "zwj" => some (.point 0x200D)
  | "format" | "fo" => some (.diff looseFormat (.union (.point 0x200B) prepended))
  | "regionalindicator" | "ri" => some (.ranges Listed.regionalIndicator)
  | "katakana" | "ka" => some katakana
  | "hebrewletter" | "hl" => some hebrewLetter
  | "aletter" | "le" => some wordLetter
  | "singlequote" | "sq" => some (.point 0x27)
  | "doublequote" | "dq" => some (.point 0x22)
  | "midnumlet" | "mb" =>
    some (.ranges [(0x2E, 0x2E), (0x2018, 0x2019), (0x2024, 0x2024), (0xFE52, 0xFE52), (0xFF07, 0xFF07),
      (0xFF0E, 0xFF0E)])
  | "midletter" | "ml" =>
    some (.ranges [(0x3A, 0x3A), (0xB7, 0xB7), (0x387, 0x387), (0x55F, 0x55F), (0x5F4, 0x5F4),
      (0x2027, 0x2027), (0xFE13, 0xFE13), (0xFE55, 0xFE55), (0xFF1A, 0xFF1A)])
  | "midnum" | "mn" => some (.ranges midNumber)
  | "numeric" | "nu" => some (.diff numberPart (.point 0x66C))
  | "extendnumlet" | "ex" => some (.union (.categories [.pc]) (.point 0x202F))
  | "wsegspace" =>
    some (.diff (.categories [.zs]) (.ranges [(0xA0, 0xA0), (0x2007, 0x2007), (0x202F, 0x202F)]))
  | _ => none

open CharSet hiding none in
/-- The characters of a class of sentences, by normalized name. -/
def sentenceBreak? (name : String) : Option CharSet :=
  match name with
  | "cr" => some (.point 0x0D)
  | "lf" => some (.point 0x0A)
  | "sep" | "se" => some (.ranges [(0x85, 0x85), (0x2028, 0x2029)])
  | "extend" | "ex" => some (.union markExtender (.point 0x200D))
  | "format" | "fo" => some (.diff looseFormat numberPart)
  | "sp" => some (.diff blank (.ranges [(0x0A, 0x0A), (0x0D, 0x0D), (0x85, 0x85), (0x2028, 0x2029)]))
  | "lower" | "lo" => some sentenceLower
  | "upper" | "up" => some sentenceUpper
  | "oletter" | "le" =>
    some (.diff (.union alphabetic (.point 0x5F3))
      (.union (.union sentenceLower sentenceUpper) markExtender))
  | "numeric" | "nu" => some numberPart
  | "aterm" | "at" => some fullStop
  | "scontinue" | "sc" => some (.ranges sentenceContinue)
  | "sterm" | "st" => some (.diff (.ranges Listed.sentenceTerminal) fullStop)
  | "close" | "cl" => some (.union (.categories [.ps, .pe, .pi, .pf]) (.ranges otherClose))
  | _ => none

end FieldRules.Unicode
