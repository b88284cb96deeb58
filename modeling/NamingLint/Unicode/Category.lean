import NamingLint.Unicode.CategoryRuns
import NamingLint.Unicode.Lookup

/-!
# General categories

Every character has exactly one general category, `category c`. The predicates on characters that
the other modules need are unions of categories, here or beside the table of their exceptions.
-/

namespace NamingLint.Unicode

/-- The general categories, in the order of the codes of `categoryRuns`. -/
inductive Category where
  | uppercaseLetter | lowercaseLetter | titlecaseLetter | modifierLetter | otherLetter
  | nonspacingMark | spacingMark | enclosingMark
  | decimalNumber | letterNumber | otherNumber
  | connectorPunctuation | dashPunctuation | openPunctuation | closePunctuation
  | initialPunctuation | finalPunctuation | otherPunctuation
  | mathSymbol | currencySymbol | modifierSymbol | otherSymbol
  | spaceSeparator | lineSeparator | paragraphSeparator
  | control | format | surrogate | privateUse | unassigned
  deriving DecidableEq, Repr, Inhabited

namespace Category

/-- The category that a run with this code gives to a code point. -/
def ofRun (code codePoint : Nat) : Category :=
  match code with
  | 0 => uppercaseLetter | 1 => lowercaseLetter | 2 => titlecaseLetter | 3 => modifierLetter
  | 4 => otherLetter | 5 => nonspacingMark | 6 => spacingMark | 7 => enclosingMark
  | 8 => decimalNumber | 9 => letterNumber | 10 => otherNumber
  | 11 => connectorPunctuation | 12 => dashPunctuation | 13 => openPunctuation
  | 14 => closePunctuation | 15 => initialPunctuation | 16 => finalPunctuation
  | 17 => otherPunctuation | 18 => mathSymbol | 19 => currencySymbol | 20 => modifierSymbol
  | 21 => otherSymbol | 22 => spaceSeparator | 23 => lineSeparator | 24 => paragraphSeparator
  | 25 => control | 26 => format | 27 => surrogate | 28 => privateUse
  | 30 => if codePoint % 2 = 0 then uppercaseLetter else lowercaseLetter
  | 31 => if codePoint % 2 = 0 then lowercaseLetter else uppercaseLetter
  | _ => unassigned

/-- One of the letter categories. -/
def isLetter : Category → Bool
  | uppercaseLetter | lowercaseLetter | titlecaseLetter | modifierLetter | otherLetter => true
  | _ => false

/-- One of the mark categories. -/
def isMark : Category → Bool
  | nonspacingMark | spacingMark | enclosingMark => true
  | _ => false

/-- A control, a separator or a code point without a character of its own. -/
def isInvisible : Category → Bool
  | spaceSeparator | lineSeparator | paragraphSeparator => true
  | control | format | surrogate | privateUse | unassigned => true
  | _ => false

end Category

/-- The general category of a character. -/
def category (c : Char) : Category :=
  match lastAtMost? categoryRuns (· / 256) c.toNat with
  | some entry => Category.ofRun (entry % 256) c.toNat
  | none => .unassigned

/-- A letter of category Ll. The feminine ordinal and other lower-case characters outside that
category do not count. -/
def isLowercaseLetter (c : Char) : Bool :=
  category c == .lowercaseLetter

/-- A digit of category Nd. Roman numerals, superscripts and fractions do not count. -/
def isDecimalDigit (c : Char) : Bool :=
  category c == .decimalNumber

end NamingLint.Unicode
