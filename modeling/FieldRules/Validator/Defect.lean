/-!
# Defects of rules

Why a rule that can be read means nothing for the family it names. `Defect.message` gives the wording.
-/

namespace FieldRules

/-- Why a rule cannot be given a meaning. -/
inductive Defect
  /-- The family has no use for a part of the rule. -/
  | partNotTaken (rule part : String)
  | unknownWidth (suffix : String)
  | widthOutOfRange (text : String)
  | widthParams
  | notInteger (text : String)
  | doesNotFit (text : String) (width : String)
  | notFinite (text : String)
  | tooManyDigits (text : String) (max : String)
  | multipleOfZero
  | minAboveMax (min max : String)
  | digitCountNotNumber (text : String)
  | digitCountIsRule
  | digitCountParams
  | maxDigitsOutOfRange (max limit : String)
  | decimalsExceedMax (decimals max : String)
  | unknownLengthMode (text : String)
  | lengthModeParams
  | lengthNotNatural (text : String)
  | itemParams
  | arrayLength (length : String)
  | entryParams
  | paramNotRule (text : String)
  | nothingToWrap
  | endlessExpansion
  deriving DecidableEq, Repr

/-- The wording. -/
def Defect.message : Defect → String
  | partNotTaken rule part => "`@" ++ rule ++ "` does not take " ++ part
  | unknownWidth suffix => "unknown bit size `" ++ suffix ++ "`"
  | widthOutOfRange text => "bit size `" ++ text ++ "` is not in 1..=64"
  | widthParams => "expected a single bit size param"
  | notInteger text => "`" ++ text ++ "` is not an integer"
  | doesNotFit text width => "`" ++ text ++ "` does not fit " ++ width
  | notFinite text => "`" ++ text ++ "` is not a finite number"
  | tooManyDigits text max => "`" ++ text ++ "` needs more than " ++ max ++ " digits"
  | multipleOfZero => "multiple of zero"
  | minAboveMax min max => "min " ++ min ++ " is larger than max " ++ max
  | digitCountNotNumber text => "digit count `" ++ text ++ "` is not a number"
  | digitCountIsRule => "digit counts must be numbers"
  | digitCountParams => "expected at most two digit params"
  | maxDigitsOutOfRange max limit => "max digits " ++ max ++ " is not in 1..=" ++ limit
  | decimalsExceedMax decimals max => "decimal digits " ++ decimals ++ " exceed max digits " ++ max
  | unknownLengthMode text => "unknown length mode `" ++ text ++ "`"
  | lengthModeParams => "expected a single length mode param"
  | lengthNotNatural text => "length `" ++ text ++ "` is not a non-negative integer"
  | itemParams => "expected at most one element rule"
  | arrayLength length => "array of length " ++ length ++ " needs a maximum length of " ++ length
  | entryParams => "expected at most a key rule and an element rule"
  | paramNotRule text => "param `" ++ text ++ "` must be a rule"
  | nothingToWrap => "nothing to wrap"
  | endlessExpansion => "rules expand into one another without end"

end FieldRules
