import NamingLint.Location
import NamingLint.Unicode.Category

/-!
# The lower-case rule

`evaluate` decides whether the name of a declaration has to be reported because it does not begin
with a lower-case letter. The decision depends on the name's first two characters, on what
encloses the declaration and on one optional exemption.
-/

namespace NamingLint.Naming

/-- The name token of a declaration. -/
structure Identifier where
  /-- The name itself, without the marker of a raw identifier. -/
  text : String
  /-- Where the token starts. -/
  location : Location
  /-- False for a token that stands in for one that the source lacks. -/
  present : Bool := true
  deriving DecidableEq, Repr, Inhabited

/-- The placeholder for a token that the source lacks. -/
def Identifier.missing (location : Location) : Identifier :=
  ⟨"", location, false⟩

/-- What kind of container encloses a declaration. -/
inductive Container where
  /-- A module, implementation or trait without special obligations. -/
  | ordinary
  /-- A holder of native functions, whose names follow the platform. -/
  | native
  deriving DecidableEq, Repr, Inhabited

/-- The surroundings of a declaration, as far as naming depends on them. -/
structure Context where
  container : Container := .ordinary
  /-- The declaration fulfils a member that a trait requires. -/
  implementsMember : Bool := false
  deriving DecidableEq, Repr, Inhabited

/-- Optional exemptions, on top of those that every rule grants. -/
structure Exemptions where
  /-- Accept names that begin with an underscore and a decimal digit. -/
  underscoreDigit : Bool := false
  deriving DecidableEq, Repr, Inhabited

/-- A name that breaks the lower-case rule. -/
structure Violation where
  text : String
  location : Location
  deriving DecidableEq, Repr, Inhabited

/-- The first character is an underscore and the second a decimal digit. -/
def startsWithUnderscoreDigit : List Char → Bool
  | '_' :: second :: _ => Unicode.isDecimalDigit second
  | _ => false

/-- The first character is a lower-case letter. -/
def startsWithLowercase : List Char → Bool
  | first :: _ => Unicode.isLowercaseLetter first
  | [] => false

/-- The violation of the lower-case rule by a name in its surroundings, if it is one. Absent and
empty names are never reported. -/
def evaluate (identifier : Identifier) (context : Context) (exemptions : Exemptions) :
    Option Violation :=
  let chars := identifier.text.toList
  if !identifier.present || chars.isEmpty then none
  else if startsWithLowercase chars then none
  else if exemptions.underscoreDigit && startsWithUnderscoreDigit chars then none
  else if context.container = .native then none
  else if context.implementsMember then none
  else some ⟨identifier.text, identifier.location⟩

end NamingLint.Naming
