import NamingLint.Regex.Expr
import NamingLint.Regex.Fault
import NamingLint.Regex.Property

/-!
# Reading single characters and sets of a pattern

A `Reader` consumes the text of a pattern. This module reads what stands for one character: escapes,
short classes, named properties and sets in brackets.

A pattern is refused if its automaton would take too much memory. How many states the automaton has
is estimated and not counted: a character takes one state for each byte of its encoding, a run of
neighbouring characters in a set takes two. Close to the limit, which is an approximate one itself,
the estimate may decide otherwise than the size of the automaton.
-/

namespace NamingLint.Regex

/-- The flags that are in force at some point of a pattern. -/
structure Flags where
  caseless : Bool := false
  multiLine : Bool := false
  /-- A dot also stands for the end of a line. -/
  dotAll : Bool := false
  unicode : Bool := true
  /-- Lines may end in a carriage return. -/
  returns : Bool := false
  /-- Blanks and comments between the parts of the pattern are skipped. -/
  verbose : Bool := false
  deriving DecidableEq, Repr, Inhabited

/-- The text left to read, the flags in force and the names of groups so far. -/
structure ReaderState where
  rest : List Char
  flags : Flags := {}
  names : List (List Char) := []
  deriving Inhabited

/-- A reader of a pattern. -/
abbrev Reader := StateT ReaderState (Except Fault)

/-- A part of a pattern as it was read: its meaning, how deeply it is nested, and an estimate of the
number of states of its automaton. -/
structure Part where
  expr : Expr
  depth : Nat := 0
  states : Nat
  deriving Inhabited

namespace Reader

/-! ## Moving -/

/-- The text left to read. -/
def upcoming : Reader (List Char) := do
  return (← get).rest

/-- The flags in force. -/
def flags : Reader Flags := do
  return (← get).flags

/-- Go behind some characters. -/
def skip (count : Nat) : Reader Unit :=
  modify fun state => { state with rest := state.rest.drop count }

/-- The text behind blanks and comments. -/
def withoutBlanks : Bool → List Char → List Char
  | _, [] => []
  | true, c :: rest => withoutBlanks (c != '\n') rest
  | false, c :: rest =>
    if Unicode.isWhiteSpace c then withoutBlanks false rest
    else if c == '#' then withoutBlanks true rest
    else c :: rest

/-- Go behind blanks and comments if the flags say so. -/
def skipBlanks : Reader Unit :=
  modify fun state =>
    if state.flags.verbose then { state with rest := withoutBlanks false state.rest } else state

/-- Go behind one character and what may be skipped behind it. -/
def advance : Reader Unit := do
  skip 1
  skipBlanks

/-- Read a text if it comes next. -/
def optText (text : String) : Reader Bool := do
  if text.toList.isPrefixOf (← upcoming) then
    skip text.length
    return true
  else return false

/-- Characters as long as they pass a test; each is followed by what may be skipped. At most a given
number of them. -/
def takeUpTo (test : Char → Bool) : Nat → Reader (List Char)
  | 0 => return []
  | count + 1 => do
    match ← upcoming with
    | c :: _ =>
      if test c then
        advance
        return c :: (← takeUpTo test count)
      else return []
    | [] => return []

/-- Characters as long as they pass a test; each is followed by what may be skipped. -/
def takeWhile (test : Char → Bool) : Reader (List Char) := do
  takeUpTo test (← upcoming).length

/-! ## Escapes -/

/-- The value of a hexadecimal digit. -/
def hexValue? (c : Char) : Option Nat :=
  if c.isDigit then some (c.toNat - '0'.toNat)
  else if 'a' ≤ c && c ≤ 'f' then some (c.toNat - 'a'.toNat + 10)
  else if 'A' ≤ c && c ≤ 'F' then some (c.toNat - 'A'.toNat + 10)
  else none

/-- The number that hexadecimal digits make up. -/
def hexNumber? (digits : List Char) : Option Nat :=
  digits.foldlM (fun value c => (hexValue? c).map fun digit => value * 16 + digit) 0

/-- The character with a code point in hexadecimal digits. -/
def charOfHex (digits : List Char) : Reader Char :=
  match hexNumber? digits with
  | some code => if code.isValidChar then return Char.ofNat code else throw .badCodePoint
  | none => throw .badCodePoint

/-- What a backslash introduces. -/
inductive Escape where
  /-- A character; the flag tells whether it is written as a byte. -/
  | char (c : Char) (byte : Bool)
  | short (found : ShortClass) (negated : Bool)
  | property (found : NamedSet) (negated : Bool)
  | assertion (make : Bool → Assertion × (Char → Bool))

/-- A character given by hexadecimal digits, of which there are as many as the argument says unless
they stand in braces. -/
def hexEscape (digits : Nat) : Reader Escape := do
  advance
  match ← upcoming with
  | '\x7b' :: _ =>
    advance
    let found ← takeWhile fun c => c != '\x7d'
    match ← upcoming with
    | '\x7d' :: _ =>
      advance
      if found.isEmpty then throw .badCodePoint
      return .char (← charOfHex found) false
    | _ => throw .badEscape
  | _ =>
    let found ← takeUpTo (fun c => (hexValue? c).isSome) digits
    if found.length < digits then throw .badCodePoint
    return .char (← charOfHex found) (digits = 2)

/-- The text in front of a separator and behind it, if it occurs. -/
def splitAt? (separator : List Char) : List Char → Option (List Char × List Char)
  | [] => none
  | c :: rest =>
    if separator.isPrefixOf (c :: rest) then some ([], (c :: rest).drop separator.length)
    else (splitAt? separator rest).map fun (before, after) => (c :: before, after)

/-- The set that the content of a property's braces stands for, and whether it is inverted. -/
def propertyOfText? (content : List Char) : Option (NamedSet × Bool) :=
  match splitAt? ['!', '='] content with
  | some (name, value) => (valuedSet? name value).map fun set => (set, true)
  | none =>
    match (splitAt? [':'] content).orElse fun _ => splitAt? ['='] content with
    | some (name, value) => (valuedSet? name value).map fun set => (set, false)
    | none => (namedSet? content).map fun set => (set, false)

/-- A property behind its letter. -/
def propertyEscape (negated : Bool) : Reader Escape := do
  advance
  let content ← match ← upcoming with
    | [] => throw .badEscape
    | '\x7b' :: _ =>
      advance
      let content ← takeWhile fun c => c != '\x7d'
      if (← upcoming).isEmpty then throw .badEscape
      skip 1
      pure content
    | c :: _ =>
      if c == '\\' then throw .badEscape
      advance
      pure [c]
  match propertyOfText? content with
  | some (set, inverted) =>
    if !(← flags).unicode then throw .notText
    return .property set (negated != inverted)
  | none => throw .unknownClass

/-- The letters and hyphens that name a kind of word boundary. -/
def isBoundaryLetter (c : Char) : Bool :=
  c.isAlpha || c == '-'

/-- The special word boundary in braces, if there is one rather than a repetition. -/
def boundaryInBraces : Reader (Option Assertion) := do
  let before ← get
  advance
  match ← upcoming with
  | [] => throw .badCount
  | c :: _ =>
    if !isBoundaryLetter c then
      set before
      return none
    let name ← takeWhile isBoundaryLetter
    match ← upcoming with
    | '\x7d' :: _ =>
      skip 1
      match String.ofList name with
      | "start" => return some .wordStart
      | "end" => return some .wordEnd
      | "start-half" => return some .wordStartHalf
      | "end-half" => return some .wordEndHalf
      | _ => throw .badEscape
    | _ => throw .badEscape

/-- An assertion about words, which goes by Unicode or by ASCII. -/
def wordAssertion (found : Assertion) : Escape :=
  .assertion fun unicode =>
    (found, (if unicode then ShortClass.word.unicode else ShortClass.word.ascii).members)

/-- A character of ASCII that stands for itself behind a backslash. -/
def isEscapable (c : Char) : Bool :=
  c.toNat < 128 && !c.isAlphanum && c != '<' && c != '>'

/-- An escape of one letter that is no class. -/
def letterEscape (c : Char) : Reader Escape := do
  skip 1
  if isEscapable c then return .char c false
  match c with
  | 'a' => return .char '\x07' false
  | 'f' => return .char '\x0c' false
  | 't' => return .char '\t' false
  | 'n' => return .char '\n' false
  | 'r' => return .char '\r' false
  | 'v' => return .char '\x0b' false
  | 'A' => return .assertion fun _ => (.textStart, fun _ => false)
  | 'z' => return .assertion fun _ => (.textEnd, fun _ => false)
  | 'b' =>
    match ← upcoming with
    | '\x7b' :: _ => return wordAssertion ((← boundaryInBraces).getD .wordBoundary)
    | _ => return wordAssertion .wordBoundary
  | 'B' => return wordAssertion .noWordBoundary
  | '<' => return wordAssertion .wordStart
  | '>' => return wordAssertion .wordEnd
  | _ => throw .badEscape

/-- What a backslash introduces, the backslash included. -/
def escape : Reader Escape := do
  skip 1
  match ← upcoming with
  | [] => throw .badEscape
  | c :: _ =>
    if c.isDigit then throw .backReference
    match c with
    | 'x' => hexEscape 2
    | 'u' => hexEscape 4
    | 'U' => hexEscape 8
    | 'p' => propertyEscape false
    | 'P' => propertyEscape true
    | 'd' => skip 1; return .short .digit false
    | 'D' => skip 1; return .short .digit true
    | 's' => skip 1; return .short .space false
    | 'S' => skip 1; return .short .space true
    | 'w' => skip 1; return .short .word false
    | 'W' => skip 1; return .short .word true
    | _ => letterEscape c

/-! ## Sets -/

/-- A set as it was read: its members, how deeply it is nested, and about how many runs of neighbouring
characters it is made of. -/
structure SetPart where
  members : CharSet
  depth : Nat := 0
  runs : Nat := 1

namespace SetPart

/-- No characters. -/
def none : SetPart := { members := fun _ => false, runs := 0 }

/-- All characters together count as this many runs, one for each form of their encodings. -/
def runsOfAll : Nat := 9

/-- What an inversion adds to a set's runs. -/
def inversionRuns (negated : Bool) : Nat :=
  if negated then runsOfAll else 0

/-- The union of sets. A union of several sets is one level deeper than they are. -/
def unionOf : List SetPart → SetPart
  | [] => none
  | [only] => only
  | parts => {
      members := fun c => parts.any fun part => part.members c
      depth := 1 + (parts.map depth).foldl max 0
      runs := (parts.map runs).foldl (· + ·) 0 }

end SetPart

/-- Add case variants if the flags say so, and invert the set if asked. A set of bytes must not be
inverted. -/
def foldAndNegate (negated : Bool) (set : CharSet) : Reader CharSet := do
  let flags ← flags
  let folded :=
    if !flags.caseless then set
    else if flags.unicode then CharSet.withVariants set
    else CharSet.withAsciiVariants set
  if negated then
    if flags.unicode then return CharSet.complement folded else throw .notText
  else return folded

/-- A short class under the flags in force. -/
def shortClassSet (found : ShortClass) (negated : Bool) : Reader SetPart := do
  if (← flags).unicode then
    let set := found.unicode
    return {
      members := if negated then CharSet.complement set.members else set.members
      runs := set.runs + SetPart.inversionRuns negated }
  else if negated then throw .notText
  else return { members := found.ascii.members, runs := found.ascii.runs }

/-- A named set under the flags in force. -/
def namedSet (found : NamedSet) (negated : Bool) : Reader SetPart := do
  return {
    members := ← foldAndNegate negated found.members
    runs := found.runs + SetPart.inversionRuns negated }

/-- The characters of a range within a set. Without Unicode only ASCII can be in a set. -/
def charRange (first last : Char) : Reader SetPart := do
  if !(← flags).unicode && last.toNat ≥ 128 then throw .notText
  return { members := CharSet.range first last }

/-- One member of a set: a character, or a class that is a set by itself. -/
def setMember : Reader (Sum Char SetPart) := do
  match ← upcoming with
  | '\\' :: _ =>
    match ← escape with
    | .char c _ => return .inl c
    | .short found negated => return .inr (← shortClassSet found negated)
    | .property found negated => return .inr (← namedSet found negated)
    | .assertion _ => throw .badEscape
  | c :: _ =>
    skip 1
    return .inl c
  | [] => throw .unclosedClass

/-- The character behind the next one that is not skipped. -/
def peekBehind : Reader (Option Char) := do
  let rest := (← upcoming).drop 1
  if (← flags).verbose then
    match rest.dropWhile Unicode.isWhiteSpace with
    | '#' :: more =>
      return ((more.dropWhile Unicode.isWhiteSpace).head?).orElse fun _ => rest.head?
    | c :: _ => return some c
    | [] => return rest.head?
  else return rest.head?

/-- A range or a single member of a set. -/
def setRange : Reader SetPart := do
  let first ← setMember
  skipBlanks
  let rest ← upcoming
  if rest.isEmpty then throw .unclosedClass
  let behind ← peekBehind
  if rest.head? ≠ some '-' || behind = some ']' || behind = some '-' then
    match first with
    | .inl c => charRange c c
    | .inr part => return part
  else
    advance
    if (← upcoming).isEmpty then throw .unclosedClass
    match first, ← setMember with
    | .inl low, .inl high => if low ≤ high then charRange low high else throw .badRange
    | _, _ => throw .badRange

/-- A class of ASCII between colons, if the text at a bracket is one: the set, whether it is
inverted, and the text behind it. -/
def bracketClassAt? (text : List Char) : Option (NamedSet × Bool × List Char) :=
  match text with
  | '[' :: ':' :: rest =>
    let (negated, rest) := match rest with
      | '^' :: more => (true, more)
      | _ => (false, rest)
    let name := rest.takeWhile fun c => c != ':'
    match rest.drop name.length with
    | ':' :: ']' :: behind =>
      (bracketClass? (String.ofList name)).map fun set => (set, negated, behind)
    | _ => none
  | _ => none

/-- The operators between the operands of a set. -/
inductive SetOperator where
  | intersection
  | difference
  | symmetricDifference
  deriving DecidableEq

namespace SetOperator

/-- The characters of two sets combined. -/
def combine (operator : SetOperator) (left right : CharSet) : CharSet := fun c =>
  match operator with
  | intersection => left c && right c
  | difference => left c && !right c
  | symmetricDifference => left c != right c

end SetOperator

/-- The operand that is complete, and the members of the one that is being read, the last one
first. -/
structure SetProgress where
  finished : Option (SetPart × SetOperator) := none
  members : List SetPart := []

namespace SetProgress

/-- Apply the operator in front of the operand that has been read. -/
def close (progress : SetProgress) : Reader SetPart := do
  let operand := SetPart.unionOf progress.members.reverse
  match progress.finished with
  | none => return operand
  | some (left, operator) =>
    let leftSet ← foldAndNegate false left.members
    let rightSet ← foldAndNegate false operand.members
    return {
      members := operator.combine leftSet rightSet
      depth := 1 + max left.depth operand.depth
      runs := left.runs + operand.runs }

/-- Add a member to the operand that is being read. -/
def add (progress : SetProgress) (part : SetPart) : SetProgress :=
  { progress with members := part :: progress.members }

end SetProgress

/-- The operator between operands that comes next, if one does. -/
def setOperatorAt? : List Char → Option SetOperator
  | '&' :: '&' :: _ => some .intersection
  | '-' :: '-' :: _ => some .difference
  | '~' :: '~' :: _ => some .symmetricDifference
  | _ => none

/-- Hyphens at the start of a set, at most a given number of them. -/
def leadingHyphens : Nat → SetProgress → Reader SetProgress
  | 0, progress => return progress
  | count + 1, progress => do
    match ← upcoming with
    | '-' :: _ =>
      advance
      if (← upcoming).isEmpty then throw .unclosedClass
      leadingHyphens count (progress.add (← charRange '-' '-'))
    | _ => return progress

/-- The start of a set behind its bracket: whether it is inverted, and the hyphens or the bracket
that stand for themselves there. -/
def setOpening : Reader (Bool × SetProgress) := do
  advance
  let negated := (← upcoming).head? = some '^'
  if negated then advance
  if (← upcoming).isEmpty then throw .unclosedClass
  let progress ← leadingHyphens (← upcoming).length {}
  match progress.members, ← upcoming with
  | [], ']' :: _ =>
    advance
    if (← upcoming).isEmpty then throw .unclosedClass
    return (negated, progress.add (← charRange ']' ']'))
  | _, _ => return (negated, progress)

/-- The members of a set up to its closing bracket; at most a given number of steps. The first
argument reads a set within the set. -/
def setMembers (inner : Reader SetPart) : Nat → SetProgress → Reader SetPart
  | 0, _ => throw .unclosedClass
  | count + 1, progress => do
    skipBlanks
    let rest ← upcoming
    match rest with
    | [] => throw .unclosedClass
    | ']' :: _ =>
      skip 1
      progress.close
    | '[' :: _ =>
      match bracketClassAt? rest with
      | some (set, negated, behind) =>
        modify fun state => { state with rest := behind }
        setMembers inner count (progress.add (← namedSet set negated))
      | none => setMembers inner count (progress.add (← inner))
    | _ =>
      match setOperatorAt? rest with
      | some operator =>
        skip 2
        let left ← progress.close
        setMembers inner count { finished := some (left, operator) }
      | none => setMembers inner count (progress.add (← setRange))

/-- A set in brackets, nested at most as deeply as the argument says. -/
def bracketSet : Nat → Reader SetPart
  | 0 => throw .nestedTooDeeply
  | depth + 1 => do
    let (negated, progress) ← setOpening
    let content ← setMembers (bracketSet depth) ((← upcoming).length + 1) progress
    return {
      members := ← foldAndNegate negated content.members
      depth := content.depth + 1
      runs := content.runs + SetPart.inversionRuns negated }

end Reader

end NamingLint.Regex
