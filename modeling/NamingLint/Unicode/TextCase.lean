import NamingLint.Unicode.Alphabetic

/-!
# Lowering texts

A text is lowered character by character, but for the capital sigma: at the end of a word it is
lowered to the final form of the letter. What stands around it decides whether it ends a word.
-/

namespace NamingLint.Unicode

/-- The derived property Cased. -/
def isCased (c : Char) : Bool :=
  isLowercase c || isUppercase c || category c == .titlecaseLetter

/-- Punctuation that may stand inside a word. -/
def wordPunctuation : Array (Nat × Nat) := #[
  (0x27, 0x27), (0x2E, 0x2E), (0x3A, 0x3A), (0xB7, 0xB7), (0x387, 0x387), (0x55F, 0x55F),
  (0x5F4, 0x5F4), (0x2018, 0x2019), (0x2024, 0x2024), (0x2027, 0x2027), (0xFE13, 0xFE13),
  (0xFE52, 0xFE52), (0xFE55, 0xFE55), (0xFF07, 0xFF07), (0xFF0E, 0xFF0E), (0xFF1A, 0xFF1A)]

/-- The derived property Case_Ignorable. -/
def isCaseIgnorable (c : Char) : Bool :=
  match category c with
  | .nonspacingMark | .enclosingMark | .format | .modifierLetter | .modifierSymbol => true
  | _ => inRanges wordPunctuation c.toNat

/-- The first character that is not ignored is cased. -/
def leadsToCased (chars : List Char) : Bool :=
  (chars.dropWhile isCaseIgnorable).head?.any isCased

/-- The capital sigma. -/
def capitalSigma : Char := Char.ofNat 0x3A3

/-- The small sigma that ends a word. -/
def finalSigma : Char := Char.ofNat 0x3C2

/-- Lower characters behind others, of which the nearest comes first. -/
def lowerBehind (before : List Char) : List Char → List Char
  | [] => []
  | c :: rest =>
    let endsWord := leadsToCased before && !leadsToCased rest
    (if c = capitalSigma && endsWord then [finalSigma] else lowercase c) ++
      lowerBehind (c :: before) rest

/-- Lower a text. -/
def lowercaseText (text : String) : String :=
  String.ofList (lowerBehind [] text.toList)

end NamingLint.Unicode
