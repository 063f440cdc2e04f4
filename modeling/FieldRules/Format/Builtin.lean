import FieldRules.Format.Basic
import FieldRules.Format.Network

/-!
# The formats that need no registration

Each pattern is well formed, which is settled when it is defined. The colour formats are put together
from shared fragments.
-/

namespace FieldRules.Format

/-- A pattern whose text is known to be well formed. -/
def pattern (source : String) (h : (Regex.parse? source.toList).isSome = true) : Pattern :=
  ⟨source, (Regex.parse? source.toList).get h, (Option.some_get h).symm⟩

/-- A component of a colour as a byte. -/
def colorByte : String := "(?:0|[1-9]\\d?|1\\d\\d|2[0-4]\\d|25[0-5])"

/-- A component of a colour as a percentage. -/
def colorPercent : String := "(?:0|[1-9]\\d?|100)%"

/-- The opacity of a colour. -/
def colorAlpha : String := "(?:0|1|0?\\.\\d+)"

/-- Three components of one kind, between commas. -/
def colorTriple (component : String) : String :=
  component ++ "\\s*,\\s*" ++ component ++ "\\s*,\\s*" ++ component

/-- The open parenthesis and the three components. -/
def colorBody : String :=
  "\\(\\s*(?:" ++ colorTriple colorByte ++ "|" ++ colorTriple colorPercent ++ ")"

def emailSource : String :=
  "^[a-zA-Z0-9.!#$%&'*+/=?^_`\x7b|\x7d~-]+@[a-zA-Z0-9](?:[a-zA-Z0-9-]\x7b0,61\x7d[a-zA-Z0-9])?" ++
    "(?:\\.[a-zA-Z0-9](?:[a-zA-Z0-9-]\x7b0,61\x7d[a-zA-Z0-9])?)*$"

def urlSource : String := "^https?://[^\\s/$.?#].[^\\s]*$"

def uuidSource : String :=
  "^[0-9a-fA-F]\x7b8\x7d-[0-9a-fA-F]\x7b4\x7d-[0-9a-fA-F]\x7b4\x7d-[0-9a-fA-F]\x7b4\x7d-" ++
    "[0-9a-fA-F]\x7b12\x7d$"

def hexColorSource : String :=
  "^#(?:[0-9a-fA-F]\x7b3\x7d|[0-9a-fA-F]\x7b4\x7d|[0-9a-fA-F]\x7b6\x7d|[0-9a-fA-F]\x7b8\x7d)$"

def rgbColorSource : String := "^rgb" ++ colorBody ++ "\\s*\\)$"

def rgbaColorSource : String := "^rgba" ++ colorBody ++ "\\s*,\\s*" ++ colorAlpha ++ "\\s*\\)$"

def base64Source : String :=
  "^(?:[A-Za-z0-9+/]\x7b4\x7d)*" ++
    "(?:[A-Za-z0-9+/]\x7b2\x7d==|[A-Za-z0-9+/]\x7b3\x7d=|[A-Za-z0-9+/]\x7b4\x7d)$"

def base64UrlSource : String :=
  "^(?:[A-Za-z0-9_-]\x7b4\x7d)*" ++
    "(?:[A-Za-z0-9_-]\x7b2\x7d==|[A-Za-z0-9_-]\x7b3\x7d=|[A-Za-z0-9_-]\x7b4\x7d)$"

def asciiSource : String := "^[\\x00-\\x7F]*$"

def printableAsciiSource : String := "^[\\x20-\\x7E]*$"

def alphaSource : String := "^[a-zA-Z]+$"

def alphaNumericSource : String := "^[a-zA-Z0-9]+$"

def numberSource : String := "^[-+]?[0-9]+(?:\\.[0-9]+)?$"

/-- The formats given by patterns. -/
def patternFormats : List Format := [
  .ofPattern ["email"] (pattern emailSource (by decide +kernel)),
  .ofPattern ["url"] (pattern urlSource (by decide +kernel)),
  .ofPattern ["uuid"] (pattern uuidSource (by decide +kernel)),
  .ofPattern ["hex-color", "hexColor"] (pattern hexColorSource (by decide +kernel)),
  .ofPattern ["rgb-color", "rgbColor"] (pattern rgbColorSource (by decide +kernel)),
  .ofPattern ["rgba-color", "rgbaColor"] (pattern rgbaColorSource (by decide +kernel)),
  .ofPattern ["base64"] (pattern base64Source (by decide +kernel)),
  .ofPattern ["base64-url", "base64URL"] (pattern base64UrlSource (by decide +kernel)),
  .ofPattern ["ascii"] (pattern asciiSource (by decide +kernel)),
  .ofPattern ["printable-ascii", "printableASCII"] (pattern printableAsciiSource (by decide +kernel)),
  .ofPattern ["alpha"] (pattern alphaSource (by decide +kernel)),
  .ofPattern ["alpha-numeric", "alphaNumeric"] (pattern alphaNumericSource (by decide +kernel)),
  .ofPattern ["number", "numeric"] (pattern numberSource (by decide +kernel))]

/-- The formats given by tests. -/
def testFormats : List Format := [
  .ofTest ["hostname"] "an RFC 1123 hostname" isHostname,
  .ofTest ["ipv4"] "an IPv4 address" isIpv4,
  .ofTest ["ipv6"] "an IPv6 address" isIpv6]

/-- All formats that need no registration. -/
def builtin : List Format :=
  patternFormats ++ testFormats

end FieldRules.Format
