/-!
# Faults of a pattern

What can be wrong with the text of a regular expression, and where. A `Fault` has a cause and the
stretch of the pattern that it concerns; where a thing is given twice it also marks the first one.
-/

namespace Munch.Regex

/-- A stretch of a pattern. Both ends are counted in characters that follow them, so text put in
front of a pattern moves nothing in it. -/
structure Extent where
  start : Nat
  stop : Nat
  deriving DecidableEq, Inhabited, Repr

/-- What is wrong with a pattern. -/
inductive Cause where
  | groupUnclosed
  | groupUnopened
  | groupNameUnended
  | groupNameEmpty
  | groupNameInvalid
  | groupNameDuplicate
  | lookAround
  | classUnclosed
  | classRangeInvalid
  | classRangeBoundary
  | classEscapeInvalid
  | repetitionMissing
  | countUnclosed
  | countMissing
  | countInvalid
  | decimalInvalid
  | escapeUnended
  | escapeUnrecognized
  | backreference
  | hexEmpty
  | hexInvalid
  | hexDigitInvalid
  | propertyInvalid
  | flagUnended
  | flagUnrecognized
  | flagDuplicate
  | negationDangling
  | negationRepeated
  | boundaryUnended
  | boundaryUnclosed
  | boundaryUnrecognized
  | nestedTooDeep (limit : Nat)
  | propertyUnknown
  | propertyValueUnknown
  | unicodeNotAllowed
  | invalidUtf8
  deriving DecidableEq, Inhabited, Repr

/-- The cause in words. -/
def Cause.message : Cause → String
  | groupUnclosed => "unclosed group"
  | groupUnopened => "unopened group"
  | groupNameUnended => "unclosed capture group name"
  | groupNameEmpty => "empty capture group name"
  | groupNameInvalid => "invalid capture group character"
  | groupNameDuplicate => "duplicate capture group name"
  | lookAround => "look-around, including look-ahead and look-behind, is not supported"
  | classUnclosed => "unclosed character class"
  | classRangeInvalid => "invalid character class range, the start must be <= the end"
  | classRangeBoundary => "invalid range boundary, must be a literal"
  | classEscapeInvalid => "invalid escape sequence found in character class"
  | repetitionMissing => "repetition operator missing expression"
  | countUnclosed => "unclosed counted repetition"
  | countMissing => "repetition quantifier expects a valid decimal"
  | countInvalid => "invalid repetition count range, the start must be <= the end"
  | decimalInvalid => "decimal literal invalid"
  | escapeUnended => "incomplete escape sequence, reached end of pattern prematurely"
  | escapeUnrecognized => "unrecognized escape sequence"
  | backreference => "backreferences are not supported"
  | hexEmpty => "hexadecimal literal empty"
  | hexInvalid => "hexadecimal literal is not a Unicode scalar value"
  | hexDigitInvalid => "invalid hexadecimal digit"
  | propertyInvalid => "invalid Unicode character class"
  | flagUnended => "expected flag but got end of regex"
  | flagUnrecognized => "unrecognized flag"
  | flagDuplicate => "duplicate flag"
  | negationDangling => "dangling flag negation operator"
  | negationRepeated => "flag negation operator repeated"
  | boundaryUnended =>
    "found either the beginning of a special word boundary or a bounded repetition on a \\b " ++
    "with an opening brace, but no closing brace"
  | boundaryUnclosed =>
    "special word boundary assertion is either unclosed or contains an invalid character"
  | boundaryUnrecognized =>
    "unrecognized special word boundary assertion, valid choices are: start, end, start-half " ++
    "or end-half"
  | nestedTooDeep limit =>
    "exceed the maximum number of nested parentheses/brackets (" ++ toString limit ++ ")"
  | propertyUnknown => "Unicode property not found"
  | propertyValueUnknown => "Unicode property value not found"
  | unicodeNotAllowed => "Unicode not allowed here"
  | invalidUtf8 => "pattern can match invalid UTF-8"

/-- A fault of a pattern: its cause, where it is, and for a thing given twice the first place. -/
structure Fault where
  cause : Cause
  extent : Extent
  first : Option Extent := none
  deriving DecidableEq, Inhabited, Repr

end Munch.Regex
