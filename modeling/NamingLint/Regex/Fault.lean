/-!
# Faults of patterns
-/

namespace NamingLint.Regex

/-- Why a text is no regular expression. -/
inductive Fault where
  | unopenedGroup
  | unclosedGroup
  | unclosedClass
  | badGroupName
  | repeatedGroupName
  | badFlags
  | lookAround
  | backReference
  | nothingToRepeat
  | badCount
  | badEscape
  | badCodePoint
  | badRange
  | unknownClass
  /-- A set of bytes instead of characters. -/
  | notText
  | nestedTooDeeply
  | tooLarge
  deriving DecidableEq, Repr, Inhabited

/-- The wording of a fault. -/
def Fault.message : Fault → String
  | unopenedGroup => "unopened group"
  | unclosedGroup => "unclosed group"
  | unclosedClass => "unclosed character class"
  | badGroupName => "invalid capture group name"
  | repeatedGroupName => "duplicate capture group name"
  | badFlags => "invalid flags"
  | lookAround => "look-around is not supported"
  | backReference => "backreferences are not supported"
  | nothingToRepeat => "repetition operator missing expression"
  | badCount => "invalid repetition count"
  | badEscape => "unrecognized escape sequence"
  | badCodePoint => "invalid hexadecimal code point"
  | badRange => "invalid character class range"
  | unknownClass => "unknown character class"
  | notText => "pattern can match invalid text"
  | nestedTooDeeply => "exceeded the maximum nesting depth"
  | tooLarge => "compiled pattern is too large"

end NamingLint.Regex
