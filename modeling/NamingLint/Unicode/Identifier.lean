import NamingLint.Unicode.Category

/-!
# Identifier characters

The properties XID_Start and XID_Continue: letters and letter numbers start an identifier, marks,
digits and connector punctuation continue it, up to two short lists of exceptions.
-/

namespace NamingLint.Unicode

/-- Compatibility characters that neither start nor continue an identifier, because their
normal forms would not. -/
def identifierExclusions : Array (Nat × Nat) := #[
  (0x37A, 0x37A), (0x2E2F, 0x2E2F), (0xFC5E, 0xFC63), (0xFDFA, 0xFDFB), (0xFE70, 0xFE70),
  (0xFE72, 0xFE72), (0xFE74, 0xFE74), (0xFE76, 0xFE76), (0xFE78, 0xFE78), (0xFE7A, 0xFE7A),
  (0xFE7C, 0xFE7C), (0xFE7E, 0xFE7E)]

/-- Letters that continue an identifier and do not start one. -/
def identifierContinueOnly : Array (Nat × Nat) := #[
  (0xE33, 0xE33), (0xEB3, 0xEB3), (0xFF9E, 0xFF9F)]

/-- Characters outside the letter categories that may start an identifier. -/
def otherIdentifierStart : Array (Nat × Nat) := #[
  (0x1885, 0x1886), (0x2118, 0x2118), (0x212E, 0x212E)]

/-- Characters outside the letter, mark, digit and connector categories that may continue an
identifier. -/
def otherIdentifierContinue : Array (Nat × Nat) := #[
  (0xB7, 0xB7), (0x387, 0x387), (0x1369, 0x1371), (0x19DA, 0x19DA), (0x200C, 0x200D),
  (0x2118, 0x2118), (0x212E, 0x212E), (0x30FB, 0x30FB), (0xFF65, 0xFF65)]

/-- The property XID_Start. -/
def isIdentifierStart (c : Char) : Bool :=
  if c.toNat < 128 then c.isAlpha
  else
    let general := category c
    ((general.isLetter || general == .letterNumber) &&
        !inRanges identifierExclusions c.toNat && !inRanges identifierContinueOnly c.toNat) ||
      inRanges otherIdentifierStart c.toNat

/-- The property XID_Continue. -/
def isIdentifierContinue (c : Char) : Bool :=
  if c.toNat < 128 then c.isAlphanum || c == '_'
  else
    let general := category c
    ((general.isLetter || general == .letterNumber || general == .nonspacingMark ||
        general == .spacingMark || general == .decimalNumber ||
        general == .connectorPunctuation) &&
        !inRanges identifierExclusions c.toNat) ||
      inRanges otherIdentifierContinue c.toNat

/-- A compatibility character that may stand in an identifier unless the identifier is to stay one
under normalization. U+2E2F is punctuation in spite of its category. -/
def isUnstableInIdentifier (c : Char) : Bool :=
  c.toNat == 0x309B || c.toNat == 0x309C ||
    (inRanges identifierExclusions c.toNat && c.toNat != 0x2E2F)

end NamingLint.Unicode
