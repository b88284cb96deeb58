import NamingLint.Regex.Reader

/-!
# Reading patterns

`Regex.parse` reads the text of a regular expression, and `Regex.isMatch` tells whether it matches
somewhere in a text.
-/

namespace NamingLint.Regex.Reader

/-! ## Single characters -/

/-- A character that stands for itself, and for its case variants if the flags say so. -/
def charPart (c : Char) : Reader Part := do
  let flags ← flags
  let set : CharSet :=
    if !flags.caseless then fun d => d == c
    else if flags.unicode then CharSet.withVariants fun d => d == c
    else CharSet.withAsciiVariants fun d => d == c
  return { expr := .oneOf set, states := c.utf8Size }

/-- The part that a set is by itself. -/
def partOfSet (set : SetPart) : Part :=
  { expr := .oneOf set.members, depth := set.depth, states := 2 * set.runs }

/-- A dot. -/
def dotPart : Reader Part := do
  let flags ← flags
  if !flags.unicode then throw .notText
  let set : CharSet :=
    if flags.dotAll then fun _ => true
    else if flags.returns then fun c => c != '\n' && c != '\r'
    else fun c => c != '\n'
  return partOfSet { members := set, runs := SetPart.runsOfAll }

/-- An assertion about lines or words. -/
def assertionPart (assertion : Assertion) (isWord : Char → Bool) : Part :=
  { expr := .assertion assertion isWord, states := 1 }

/-- The start of the text, or of a line if the flags say so. -/
def startPart : Reader Part := do
  let flags ← flags
  let assertion :=
    if !flags.multiLine then Assertion.textStart
    else if flags.returns then .lineStartWithReturn
    else .lineStart
  return assertionPart assertion fun _ => false

/-- The end of the text, or of a line if the flags say so. -/
def endPart : Reader Part := do
  let flags ← flags
  let assertion :=
    if !flags.multiLine then Assertion.textEnd
    else if flags.returns then .lineEndWithReturn
    else .lineEnd
  return assertionPart assertion fun _ => false

/-- An escape outside of sets. -/
def escapePart : Reader Part := do
  match ← escape with
  | .char c byte =>
    if byte && !(← flags).unicode && c.toNat ≥ 128 then throw .notText
    charPart c
  | .short found negated => return partOfSet (← shortClassSet found negated)
  | .property found negated => return partOfSet (← namedSet found negated)
  | .assertion make =>
    let (assertion, isWord) := make (← flags).unicode
    return assertionPart assertion isWord

/-- A set in brackets. -/
def setPart : Reader Part := do
  return partOfSet (← bracketSet ((← upcoming).length + 1))

/-- A part that is neither a group nor an operator. -/
def singlePart : Reader Part := do
  match ← upcoming with
  | '[' :: _ => setPart
  | '\\' :: _ => escapePart
  | '.' :: _ => skip 1; dotPart
  | '^' :: _ => skip 1; startPart
  | '$' :: _ => skip 1; endPart
  | c :: _ => skip 1; charPart c
  | [] => throw .unclosedGroup

/-! ## Repetition -/

/-- The parts of a sequence that have been read, the last one first. A setting of flags is no
part. -/
abbrev Parts := List (Option Part)

/-- Repeat the last part. -/
def repeatLast (parts : Parts) (least : Nat) (most : Option Nat) : Reader Parts := do
  match parts with
  | some last :: before =>
    return some {
      expr := .repetition last.expr least most
      depth := last.depth + 1
      states := 2 + last.states * max 1 (most.getD (least + 1)) } :: before
  | _ => throw .nothingToRepeat

/-- Read a question mark that makes a repetition as short as possible, which has no effect on
whether there is a match. -/
def optLazy : Reader Unit := do
  let _ ← optText "?"

/-- A number within a counted repetition; blanks around it are skipped. -/
def count : Reader (Option Nat) := do
  modify fun state => { state with rest := state.rest.dropWhile Unicode.isWhiteSpace }
  let digits ← takeWhile Char.isDigit
  let _ ← takeWhile Unicode.isWhiteSpace
  if digits.isEmpty then return none
  let value := digits.foldl (fun value c => value * 10 + (c.toNat - '0'.toNat)) 0
  if value < 4294967296 then return some value else throw .badCount

/-- A repetition with its bounds in braces. -/
def countedRepetition (parts : Parts) : Reader Parts := do
  match parts with
  | some _ :: _ => pure ()
  | _ => throw .nothingToRepeat
  advance
  match ← count with
  | none => throw .badCount
  | some least =>
    let most ← match ← upcoming with
      | ',' :: _ =>
        advance
        match ← upcoming with
        | '\x7d' :: _ => pure none
        | _ =>
          match ← count with
          | some most => pure (some most)
          | none => throw .badCount
      | _ => pure (some least)
    match ← upcoming with
    | '\x7d' :: _ =>
      advance
      optLazy
      if (most.any fun most => most < least) then throw .badCount
      repeatLast parts least most
    | _ => throw .badCount

/-! ## Groups -/

/-- A character of a group's name. -/
def isNameCharacter (first : Bool) (c : Char) : Bool :=
  c == '_' || Unicode.isAlphabetic c ||
    (!first && (Unicode.isNumeric c || c == '.' || c == '[' || c == ']'))

/-- The name of a group up to its closing bracket. -/
def groupName : Reader Unit := do
  let name := (← upcoming).takeWhile fun c => c != '>'
  skip name.length
  if !(← optText ">") then throw .badGroupName
  match name with
  | [] => throw .badGroupName
  | first :: rest =>
    if !isNameCharacter true first || !rest.all (isNameCharacter false) then throw .badGroupName
  if (← get).names.contains name then throw .repeatedGroupName
  modify fun state => { state with names := name :: state.names }

/-- Set the flag that a letter stands for. -/
def setFlag? (flags : Flags) (letter : Char) (value : Bool) : Option Flags :=
  match letter with
  | 'i' => some { flags with caseless := value }
  | 'm' => some { flags with multiLine := value }
  | 's' => some { flags with dotAll := value }
  | 'U' => some flags
  | 'u' => some { flags with unicode := value }
  | 'R' => some { flags with returns := value }
  | 'x' => some { flags with verbose := value }
  | _ => none

/-- The flags that a list of letters sets; those behind a hyphen are taken back. No letter and no
hyphen may occur twice, and a hyphen must not be the last. -/
def changeFlags (flags : Flags) (negated : Bool) (seen : List Char) : List Char → Reader Flags
  | [] => if seen.head? = some '-' then throw .badFlags else return flags
  | letter :: rest => do
    if seen.contains letter then throw .badFlags
    if letter == '-' then changeFlags flags true (letter :: seen) rest
    else
      match setFlag? flags letter (!negated) with
      | some flags => changeFlags flags negated (letter :: seen) rest
      | none => throw .badFlags

/-- What opens a group. -/
inductive Opening where
  /-- Flags for what follows, instead of a group. -/
  | flags
  | group

/-- The opening of a group, or a setting of flags as a whole. The flags of a group are in force from
here on. -/
def groupOpening : Reader Opening := do
  skip 1
  skipBlanks
  for lookAround in ["?=", "?!", "?<=", "?<!"] do
    if lookAround.toList.isPrefixOf (← upcoming) then throw .lookAround
  if (← optText "?P<") || (← optText "?<") then
    groupName
    return .group
  else if ← optText "?" then
    let letters := (← upcoming).takeWhile fun c => c != ':' && c != ')'
    skip letters.length
    let changed ← changeFlags (← flags) false [] letters
    modify fun state => { state with flags := changed }
    match ← upcoming with
    | ':' :: _ =>
      skip 1
      return .group
    | ')' :: _ =>
      skip 1
      if letters.isEmpty then throw .nothingToRepeat
      return .flags
    | _ => throw .unclosedGroup
  else return .group

/-! ## Sequences and alternatives -/

/-- The sequence of parts. -/
def sequencePart (parts : Parts) : Part :=
  let found := parts.reverse.filterMap fun part => part
  let depth := (found.map Part.depth).foldl max 0
  { expr := .sequenceOf (found.map Part.expr)
    depth := if parts.length ≤ 1 then depth else depth + 1
    states := (found.map Part.states).foldl (· + ·) 0 }

/-- The choice between parts. -/
def alternativesPart (parts : List Part) : Part :=
  let depth := (parts.map Part.depth).foldl max 0
  { expr := .alternativesOf (parts.map Part.expr)
    depth := if parts.length ≤ 1 then depth else depth + 1
    states := (parts.map Part.states).foldl (· + ·) 1 }

/-- Alternatives up to the end or a closing parenthesis; at most a given number of steps. The first
argument reads a group, the last two hold what has been read, the last one first. -/
def alternativesUpTo (group : Reader (Option Part)) :
    Nat → List Part → Parts → Reader Part
  | 0, _, _ => throw .nestedTooDeeply
  | count + 1, finished, parts => do
    skipBlanks
    match ← upcoming with
    | [] => return alternativesPart (sequencePart parts :: finished).reverse
    | ')' :: _ => return alternativesPart (sequencePart parts :: finished).reverse
    | '|' :: _ =>
      skip 1
      alternativesUpTo group count (sequencePart parts :: finished) []
    | '(' :: _ => alternativesUpTo group count finished ((← group) :: parts)
    | '?' :: _ =>
      skip 1
      optLazy
      alternativesUpTo group count finished (← repeatLast parts 0 (some 1))
    | '*' :: _ =>
      skip 1
      optLazy
      alternativesUpTo group count finished (← repeatLast parts 0 none)
    | '+' :: _ =>
      skip 1
      optLazy
      alternativesUpTo group count finished (← repeatLast parts 1 none)
    | '\x7b' :: _ => alternativesUpTo group count finished (← countedRepetition parts)
    | _ => alternativesUpTo group count finished (some (← singlePart) :: parts)

/-- Alternatives up to the end or a closing parenthesis. -/
def alternatives (group : Reader (Option Part)) : Reader Part := do
  alternativesUpTo group ((← upcoming).length + 1) [] []

/-- A group or a setting of flags, which is no part; nested at most as deeply as the argument says.
Flags that are set within a group are in force up to its end. -/
def group : Nat → Reader (Option Part)
  | 0 => throw .nestedTooDeeply
  | depth + 1 => do
    let outer ← flags
    match ← groupOpening with
    | .flags => return none
    | .group =>
      let content ← alternatives (group depth)
      if !(← optText ")") then throw .unclosedGroup
      modify fun state => { state with flags := outer }
      return some { content with depth := content.depth + 1, states := content.states + 2 }

/-- How deeply the parts of a pattern may be nested. -/
def nestingLimit : Nat := 250

/-- How many states of 32 bytes an automaton may have: it may take ten mebibytes. -/
def stateLimit : Nat := 10 * 1024 * 1024 / 32

/-- A whole pattern. -/
def pattern : Reader Part := do
  let part ← alternatives (group ((← upcoming).length + 1))
  if !(← upcoming).isEmpty then throw .unopenedGroup
  if part.depth > nestingLimit then throw .nestedTooDeeply
  if part.states > stateLimit then throw .tooLarge
  return part

end NamingLint.Regex.Reader

namespace NamingLint

/-- A regular expression that has been read. -/
structure Regex where
  expr : Regex.Expr
  deriving Inhabited

namespace Regex

/-- The regular expression that a text stands for. -/
def parse (text : String) : Except Fault Regex :=
  (Reader.pattern.run { rest := text.toList }).map fun (part, _) => ⟨part.expr⟩

/-- The expression matches somewhere in a text. -/
def isMatch (regex : Regex) (text : String) : Bool :=
  regex.expr.occursIn text.toList

end Regex

end NamingLint
