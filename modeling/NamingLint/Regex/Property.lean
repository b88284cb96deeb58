import NamingLint.Unicode.Blank
import NamingLint.Unicode.CaseFold
import NamingLint.Unicode.Identifier
import NamingLint.Unicode.Script
import NamingLint.Unicode.TextCase

/-!
# Named sets of characters

The classes that a pattern may name: the short ones such as `\d`, the ones in brackets such as
`[:alpha:]`, and properties of Unicode. Of these, a pattern may name the general categories, the
scripts and the properties in `propertySet?`. The age of a character, the kinds of breaks (between
graphemes, words and sentences), the further scripts that a character is used in, and all other
properties that a character has or lacks, such as `Emoji` and `Math`, are left out: a pattern that
names one of them counts as one that names an unknown class.
-/

namespace NamingLint.Regex

open NamingLint.Unicode

/-- A set of characters. -/
abbrev CharSet := Char → Bool

namespace CharSet

/-- The characters between two. -/
def range (first last : Char) : CharSet := fun c => first ≤ c && c ≤ last

/-- All characters that are not in a set. -/
def complement (set : CharSet) : CharSet := fun c => !set c

/-- The members of a set and their case variants. -/
def withVariants (set : CharSet) : CharSet := fun c => (caseVariants c).any set

/-- The members of a set and their case variants among the letters of ASCII. -/
def withAsciiVariants (set : CharSet) : CharSet := fun c =>
  set c || (c.isLower && set c.toUpper) || (c.isUpper && set c.toLower)

end CharSet

/-- A set that has a name. How many runs of neighbouring characters it is made of tells how much an
automaton takes for it. -/
structure NamedSet where
  members : CharSet
  runs : Nat

/-- The classes named by one letter behind a backslash. -/
inductive ShortClass where
  | digit
  | space
  | word
  deriving DecidableEq, Repr

namespace ShortClass

/-- The members among all characters. -/
def unicode : ShortClass → NamedSet
  | digit => ⟨isDecimalDigit, 72⟩
  | space => ⟨isWhiteSpace, 10⟩
  | word => ⟨isWordCharacter, 802⟩

/-- The members among the characters of ASCII. -/
def ascii : ShortClass → NamedSet
  | digit => ⟨Char.isDigit, 1⟩
  | space => ⟨fun c => c == ' ' || ('\t' ≤ c && c ≤ '\r'), 2⟩
  | word => ⟨fun c => c.isAlphanum || c == '_', 4⟩

end ShortClass

/-- The classes of ASCII that are named between colons. -/
def bracketClass? (name : String) : Option NamedSet :=
  match name with
  | "alnum" => some ⟨Char.isAlphanum, 3⟩
  | "alpha" => some ⟨Char.isAlpha, 2⟩
  | "ascii" => some ⟨fun c => c.toNat < 128, 1⟩
  | "blank" => some ⟨fun c => c == '\t' || c == ' ', 2⟩
  | "cntrl" => some ⟨fun c => c.toNat < 32 || c.toNat == 127, 2⟩
  | "digit" => some ShortClass.digit.ascii
  | "graph" => some ⟨fun c => '!' ≤ c && c ≤ '~', 1⟩
  | "lower" => some ⟨Char.isLower, 1⟩
  | "print" => some ⟨fun c => ' ' ≤ c && c ≤ '~', 1⟩
  | "punct" => some ⟨fun c => '!' ≤ c && c ≤ '~' && !c.isAlphanum, 4⟩
  | "space" => some ShortClass.space.ascii
  | "upper" => some ⟨Char.isUpper, 1⟩
  | "word" => some ShortClass.word.ascii
  | "xdigit" =>
    some ⟨fun c => c.isDigit || ('a' ≤ c && c ≤ 'f') || ('A' ≤ c && c ≤ 'F'), 3⟩
  | _ => none

/-- The names of the general categories, each with the categories that it covers. -/
def categoryNames : List (List String × List Category) := [
  (["l", "letter"],
    [.uppercaseLetter, .lowercaseLetter, .titlecaseLetter, .modifierLetter, .otherLetter]),
  (["lc", "casedletter"], [.uppercaseLetter, .lowercaseLetter, .titlecaseLetter]),
  (["lu", "uppercaseletter"], [.uppercaseLetter]),
  (["ll", "lowercaseletter"], [.lowercaseLetter]),
  (["lt", "titlecaseletter"], [.titlecaseLetter]),
  (["lm", "modifierletter"], [.modifierLetter]),
  (["lo", "otherletter"], [.otherLetter]),
  (["m", "mark", "combiningmark"], [.nonspacingMark, .spacingMark, .enclosingMark]),
  (["mn", "nonspacingmark"], [.nonspacingMark]),
  (["mc", "spacingmark"], [.spacingMark]),
  (["me", "enclosingmark"], [.enclosingMark]),
  (["n", "number"], [.decimalNumber, .letterNumber, .otherNumber]),
  (["nd", "decimalnumber", "digit"], [.decimalNumber]),
  (["nl", "letternumber"], [.letterNumber]),
  (["no", "othernumber"], [.otherNumber]),
  (["p", "punctuation", "punct"],
    [.connectorPunctuation, .dashPunctuation, .openPunctuation, .closePunctuation,
      .initialPunctuation, .finalPunctuation, .otherPunctuation]),
  (["pc", "connectorpunctuation"], [.connectorPunctuation]),
  (["pd", "dashpunctuation"], [.dashPunctuation]),
  (["ps", "openpunctuation"], [.openPunctuation]),
  (["pe", "closepunctuation"], [.closePunctuation]),
  (["pi", "initialpunctuation"], [.initialPunctuation]),
  (["pf", "finalpunctuation"], [.finalPunctuation]),
  (["po", "otherpunctuation"], [.otherPunctuation]),
  (["s", "symbol"], [.mathSymbol, .currencySymbol, .modifierSymbol, .otherSymbol]),
  (["sm", "mathsymbol"], [.mathSymbol]),
  (["sc", "currencysymbol"], [.currencySymbol]),
  (["sk", "modifiersymbol"], [.modifierSymbol]),
  (["so", "othersymbol"], [.otherSymbol]),
  (["z", "separator"], [.spaceSeparator, .lineSeparator, .paragraphSeparator]),
  (["zs", "spaceseparator"], [.spaceSeparator]),
  (["zl", "lineseparator"], [.lineSeparator]),
  (["zp", "paragraphseparator"], [.paragraphSeparator]),
  (["c", "other"], [.control, .format, .surrogate, .privateUse, .unassigned]),
  (["cc", "control", "cntrl"], [.control]),
  (["cf", "format"], [.format]),
  (["cs", "surrogate"], [.surrogate]),
  (["co", "privateuse"], [.privateUse]),
  (["cn", "unassigned"], [.unassigned])]

/-- How many runs of neighbouring characters have one of some categories, among the last runs of
`categoryRuns`. The flag tells whether the character in front of these has one. -/
def categoryRunCount (members : List Category) (inside : Bool) : List Nat → Nat
  | [] => 0
  | entry :: rest =>
    let start := entry / 256
    let width := (rest.head?.map (· / 256)).getD 0x110000 - start
    let first := members.contains (Category.ofRun (entry % 256) start)
    let second := members.contains (Category.ofRun (entry % 256) (start + 1))
    let joined := if inside && first then 1 else 0
    if first = second then
      (if first then 1 - joined else 0) + categoryRunCount members first rest
    else
      -- where two categories alternate, each member is a run of its own
      let count := if first then (width + 1) / 2 else width / 2
      count - joined + categoryRunCount members (if width % 2 = 0 then second else first) rest

/-- The set of the characters with one of some categories. -/
def setOfCategories (members : List Category) : NamedSet :=
  ⟨fun c => members.contains (category c), categoryRunCount members false categoryRuns.toList⟩

/-- The set of a general category. -/
def categorySet? (name : String) : Option NamedSet :=
  match name with
  | "any" => some ⟨fun _ => true, 1⟩
  | "assigned" =>
    let unassigned := setOfCategories [.unassigned]
    some ⟨CharSet.complement unassigned.members, unassigned.runs + 1⟩
  | "ascii" => bracketClass? name
  | _ =>
    (categoryNames.find? fun entry => entry.1.contains name).map fun entry =>
      setOfCategories entry.2

/-- The set of a script. -/
def scriptSet? (name : String) : Option NamedSet :=
  (script? name).map fun found =>
    ⟨fun c => scriptOf c == found, scriptRuns.toList.countP fun entry => entry % 256 == found⟩

/-- The set of a property that a character has or lacks. -/
def propertySet? (name : String) : Option NamedSet :=
  match name with
  | "alphabetic" | "alpha" => some ⟨isAlphabetic, 761⟩
  | "lowercase" | "lower" => some ⟨isLowercase, 677⟩
  | "uppercase" | "upper" => some ⟨isUppercase, 660⟩
  | "cased" => some ⟨isCased, 158⟩
  | "whitespace" | "wspace" | "space" => some ShortClass.space.unicode
  | "xidstart" | "xids" => some ⟨isIdentifierStart, 691⟩
  | "xidcontinue" | "xidc" => some ⟨isIdentifierContinue, 806⟩
  | "idstart" | "ids" =>
    some ⟨fun c => isIdentifierStart c || isUnstableInIdentifier c ||
      inRanges identifierContinueOnly c.toNat, 684⟩
  | "idcontinue" | "idc" => some ⟨fun c => isIdentifierContinue c || isUnstableInIdentifier c, 799⟩
  | "asciihexdigit" | "ahex" => bracketClass? "xdigit"
  | "joincontrol" | "joinc" => some ⟨fun c => c.toNat == 0x200C || c.toNat == 0x200D, 1⟩
  | _ => none

/-- Names of properties are compared without regard to letter case, separators and the word `is` in
front. -/
def normalizeName (name : List Char) : String :=
  let isWordInFront := match name with
    | first :: second :: _ => first.toLower == 'i' && second.toLower == 's'
    | _ => false
  let rest := if isWordInFront then name.drop 2 else name
  let kept := (rest.filter fun c =>
    c.toNat < 128 && c != ' ' && c != '_' && c != '-').map Char.toLower
  if isWordInFront && kept == ['c'] then "isc" else String.ofList kept

/-- The set that a property's name stands for. -/
def namedSet? (name : List Char) : Option NamedSet :=
  let normal := normalizeName name
  ((propertySet? normal).orElse fun _ => categorySet? normal).orElse fun _ => scriptSet? normal

/-- The set of the characters whose property has a value. -/
def valuedSet? (property value : List Char) : Option NamedSet :=
  match normalizeName property with
  | "gc" | "generalcategory" => categorySet? (normalizeName value)
  | "sc" | "script" | "scx" | "scriptextensions" => scriptSet? (normalizeName value)
  | _ => none

end NamingLint.Regex
