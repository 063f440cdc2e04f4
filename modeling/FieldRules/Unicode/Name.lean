import FieldRules.Unicode.Age
import FieldRules.Unicode.Break
import FieldRules.Unicode.ScriptExtension

/-!
# Sets of characters by name

The sets that a pattern can name: general categories, scripts, listed and derived properties, and the values of
properties that have several. Names are compared without case, spaces, hyphens, underscores and a leading "is"
(`normalizeName`).
-/

namespace FieldRules.Unicode

/-- A name without a leading "is", case and separators; characters beyond ASCII are left out. -/
def normalizeName (name : List Char) : String :=
  let (prefixed, rest) := match name with
    | i :: s :: rest => if i.toLower = 'i' ∧ s.toLower = 's' then (true, rest) else (false, name)
    | _ => (false, name)
  let letters := (rest.filter fun c => c.toNat < 0x80 && c != ' ' && c != '_' && c != '-').map Char.toLower
  if prefixed && letters == ['c'] then "isc" else String.ofList letters

private def categoryNames : List (List String × List Category) := [
  (["l", "letter"], [.lu, .ll, .lt, .lm, .lo]),
  (["lc", "casedletter"], [.lu, .ll, .lt]),
  (["lu", "uppercaseletter"], [.lu]), (["ll", "lowercaseletter"], [.ll]), (["lt", "titlecaseletter"], [.lt]),
  (["lm", "modifierletter"], [.lm]), (["lo", "otherletter"], [.lo]),
  (["m", "mark", "combiningmark"], [.mn, .mc, .me]),
  (["mn", "nonspacingmark"], [.mn]), (["mc", "spacingmark"], [.mc]), (["me", "enclosingmark"], [.me]),
  (["n", "number"], [.nd, .nl, .no]),
  (["nd", "decimalnumber", "digit"], [.nd]), (["nl", "letternumber"], [.nl]), (["no", "othernumber"], [.no]),
  (["p", "punctuation", "punct"], [.pc, .pd, .ps, .pe, .pi, .pf, .po]),
  (["pc", "connectorpunctuation"], [.pc]), (["pd", "dashpunctuation"], [.pd]),
  (["ps", "openpunctuation"], [.ps]), (["pe", "closepunctuation"], [.pe]),
  (["pi", "initialpunctuation"], [.pi]), (["pf", "finalpunctuation"], [.pf]),
  (["po", "otherpunctuation"], [.po]),
  (["s", "symbol"], [.sm, .sc, .sk, .so]),
  (["sm", "mathsymbol"], [.sm]), (["sc", "currencysymbol"], [.sc]), (["sk", "modifiersymbol"], [.sk]),
  (["so", "othersymbol"], [.so]),
  (["z", "separator"], [.zs, .zl, .zp]),
  (["zs", "spaceseparator"], [.zs]), (["zl", "lineseparator"], [.zl]), (["zp", "paragraphseparator"], [.zp]),
  (["c", "other"], [.cc, .cf, .co, .cn]),
  (["cc", "control", "cntrl"], [.cc]), (["cf", "format"], [.cf]), (["co", "privateuse"], [.co]),
  (["cn", "unassigned"], [.cn])]

namespace CharSet

/-- The properties that a character has or has not, by normalized name. -/
def property? (name : String) : Option CharSet :=
  match name with
  | "alphabetic" | "alpha" => some alphabetic
  | "lowercase" | "lower" => some lowercase
  | "uppercase" | "upper" => some uppercase
  | "cased" => some cased
  | "caseignorable" | "ci" => some caseIgnorable
  | "changeswhencasefolded" | "cwcf" => some changesFolded
  | "changeswhencasemapped" | "cwcm" => some changesInCase
  | "changeswhenlowercased" | "cwl" => some changesLowercased
  | "changeswhentitlecased" | "cwt" => some changesTitlecased
  | "changeswhenuppercased" | "cwu" => some changesUppercased
  | "graphemeextend" | "grext" => some graphemeExtend
  | "graphemebase" | "grbase" => some graphemeBase
  | "idstart" | "ids" => some identifierStart
  | "idcontinue" | "idc" => some identifierPart
  | "xidstart" | "xids" => some stableIdentifierStart
  | "xidcontinue" | "xidc" => some stableIdentifierPart
  | "math" => some math
  | "otheralphabetic" | "oalpha" => some (.ranges otherAlphabetic)
  | "othergraphemeextend" | "ogrext" => some (.ranges otherGraphemeExtend)
  | "otheridcontinue" | "oidc" => some (.ranges otherIdentifierPart)
  | "otheridstart" | "oids" => some (.ranges otherIdentifierStart)
  | "otherlowercase" | "olower" => some (.ranges otherLowercase)
  | "othermath" | "omath" => some (.ranges otherMath)
  | "otheruppercase" | "oupper" => some (.ranges otherUppercase)
  | _ => (listed? name).map .ranges

/-- The general categories and their unions, by normalized name. -/
def category? (name : String) : Option CharSet :=
  match name with
  | "any" => some any
  | "ascii" => some ascii
  | "assigned" => some assigned
  | _ => (categoryNames.find? fun e => e.1.contains name).map fun e => .categories e.2

/-- The scripts, by normalized name. -/
def script? (name : String) : Option CharSet :=
  (Unicode.script? name).map .ranges

/-- The characters used in a script, by its normalized name. -/
def scriptExtension? (name : String) : Option CharSet := do
  let (names, own) ← scriptNamed? name
  if names.contains "zyyy" || names.contains "zinh" then
    return .diff (.ranges own) (.ranges (extensions.flatMap (·.2)))
  else
    let more := extensions.find? fun e => names.head? == some e.1
    return .union (.ranges own) (.ranges ((more.map (·.2)).getD []))

/-- The set that a lone name denotes: a property, a category or a script. -/
def ofName? (name : List Char) : Option CharSet :=
  let name := normalizeName name
  (property? name <|> category? name) <|> script? name

/-- The set that a name and a value denote, as in `script=greek`. -/
def ofPair? (name value : List Char) : Option CharSet :=
  let value := normalizeName value
  match normalizeName name with
  | "generalcategory" | "gc" => category? value
  | "script" | "sc" => script? value
  | "scriptextensions" | "scx" => scriptExtension? value
  | "age" => (age? value).map .ranges
  | "graphemeclusterbreak" | "gcb" => graphemeBreak? value
  | "wordbreak" | "wb" => wordBreak? value
  | "sentencebreak" | "sb" => sentenceBreak? value
  | _ => Option.none

end CharSet

end FieldRules.Unicode
