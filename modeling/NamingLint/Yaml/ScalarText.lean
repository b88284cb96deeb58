import NamingLint.Yaml.Token

/-!
# Scalars of YAML

Scalars may go on over several lines. A single line break between two lines then stands for a space,
and of several line breaks the first one is left out.
-/

namespace NamingLint.Yaml.Scan

/-! ## Gaps between words -/

/-- Blanks and line breaks between two words. -/
structure Gap where
  /-- The blanks in front of the first line break, the last one first. -/
  blanks : List Char := []
  /-- The gap goes over a line break, be it an escaped one. -/
  overLine : Bool := false
  firstBreak : Option Char := none
  /-- The line breaks behind the first one, the last one first. -/
  moreBreaks : List Char := []
  deriving Repr, Inhabited

/-- What a gap stands for. -/
def Gap.text (gap : Gap) : List Char :=
  if !gap.overLine then gap.blanks.reverse
  else
    match gap.firstBreak with
    | some '\n' => if gap.moreBreaks.isEmpty then [' '] else gap.moreBreaks.reverse
    | some c => c :: gap.moreBreaks.reverse
    | none => gap.moreBreaks.reverse

/-- Go on with a gap; at most a given number of characters. No tab may stand in front of the column
`margin` on a further line. -/
def gapUpTo (margin : Nat) : Nat → Gap → Scan Gap
  | 0, gap => return gap
  | count + 1, gap => do
    match ← peek with
    | some c =>
      if isBlank c then
        if gap.overLine then
          if c == '\t' && (← get).column < margin then failure
          skip
          gapUpTo margin count gap
        else
          skip
          gapUpTo margin count { gap with blanks := c :: gap.blanks }
      else if isBreak c then
        let found ← takeBreak
        if gap.overLine then
          gapUpTo margin count { gap with moreBreaks := found :: gap.moreBreaks }
        else gapUpTo margin count { gap with overLine := true, firstBreak := some found }
      else return gap
    | none => return gap

/-- Go on with a gap. -/
def gapFrom (margin : Nat) (gap : Gap) : Scan Gap := do
  gapUpTo margin (← remaining) gap

/-- The text starts with three of the same character that separate documents. -/
def startsDocumentMark (text : List Char) (c : Char) : Bool :=
  [c, c, c].isPrefixOf text && isBlankOrEnd text[3]?

/-- A mark that separates documents comes next. -/
def atDocumentMark : Scan Bool := do
  let state ← get
  return state.column == 0 &&
    (startsDocumentMark state.rest '-' || startsDocumentMark state.rest '.')

/-! ## Plain scalars -/

/-- The characters that end a word within a flow collection. -/
def flowIndicators : List Char := [',', '[', ']', '\x7b', '\x7d']

/-- The characters of a plain scalar up to a blank or an indicator; at most a given number of
them. -/
def plainWordUpTo : Nat → Scan (List Char)
  | 0 => return []
  | count + 1 => do
    match ← peek with
    | some c =>
      if isBlank c || isBreak c then return []
      let following ← peekAt 1
      let flow ← inFlow
      if flow && c == ':' && following.any fun d => d == '?' || flowIndicators.contains d then
        failure
      if (c == ':' && isBlankOrEnd following) || (flow && flowIndicators.contains c) then return []
      skip
      return c :: (← plainWordUpTo count)
    | none => return []

/-- Words and the gaps between them; at most a given number of words. The gap comes first, and the
gap behind the last word is given as well. -/
def plainWordsUpTo (margin : Nat) : Nat → Gap → Scan (List Char × Gap)
  | 0, gap => return ([], gap)
  | count + 1, gap => do
    if (← atDocumentMark) || (← next (· == '#')) then return ([], gap)
    match ← plainWordUpTo (← remaining) with
    | [] => return ([], gap)
    | word =>
      if !(← next fun c => isBlank c || isBreak c) then return (gap.text ++ word, {})
      let following ← gapFrom margin {}
      if !(← inFlow) && (← get).column < margin then return (gap.text ++ word, following)
      let (more, last) ← plainWordsUpTo margin count following
      return (gap.text ++ word ++ more, last)

/-- A plain scalar. A key may follow it on a new line. -/
def plainScalar : Scan String := do
  let margin := match (← get).indent with
    | some indent => indent + 1
    | none => 0
  let (text, gap) ← plainWordsUpTo margin (← remaining) {}
  if gap.overLine then allowKey true
  return String.ofList text

/-! ## Quoted scalars -/

/-- The value of a hexadecimal digit. -/
def hexValue? (c : Char) : Option Nat :=
  if c.isDigit then some (c.toNat - '0'.toNat)
  else if 'a' ≤ c && c ≤ 'f' then some (c.toNat - 'a'.toNat + 10)
  else if 'A' ≤ c && c ≤ 'F' then some (c.toNat - 'A'.toNat + 10)
  else none

/-- A number in a fixed count of hexadecimal digits. -/
def hexNumber : Nat → Nat → Scan Nat
  | 0, value => return value
  | count + 1, value => do
    match (← peek).bind hexValue? with
    | some digit =>
      skip
      hexNumber count (value * 16 + digit)
    | none => failure

/-- A character given by its code point. -/
def codePoint (digits : Nat) : Scan Char := do
  let value ← hexNumber digits 0
  if value.isValidChar then return Char.ofNat value else failure

/-- The character that an escape stands for, behind its backslash. -/
def escapedChar : Scan Char := do
  match ← peek with
  | some c =>
    skip
    match c with
    | '0' => return '\x00'
    | 'a' => return '\x07'
    | 'b' => return '\x08'
    | 't' => return '\t'
    | '\t' => return '\t'
    | 'n' => return '\n'
    | 'v' => return '\x0b'
    | 'f' => return '\x0c'
    | 'r' => return '\r'
    | 'e' => return '\x1b'
    | ' ' => return ' '
    | '"' => return '"'
    | '/' => return '/'
    | '\\' => return '\\'
    | 'N' => return Char.ofNat 0x85
    | '_' => return Char.ofNat 0xA0
    | 'L' => return Char.ofNat 0x2028
    | 'P' => return Char.ofNat 0x2029
    | 'x' => codePoint 2
    | 'u' => codePoint 4
    | 'U' => codePoint 8
    | _ => failure
  | none => failure

/-- The characters of a quoted scalar up to a blank or the closing quote; at most a given number of
them. The flag tells whether an escaped line break has ended them. -/
def quotedWordUpTo (quote : Char) : Nat → Scan (List Char × Bool)
  | 0 => return ([], false)
  | count + 1 => do
    match ← peek with
    | some c =>
      if isBlank c || isBreak c then return ([], false)
      else if c == quote then
        if quote == '\'' && (← peekAt 1) = some '\'' then
          skipMany 2
          let (more, escaped) ← quotedWordUpTo quote count
          return ('\'' :: more, escaped)
        else return ([], false)
      else if quote == '"' && c == '\\' then
        skip
        if ← next isBreak then
          skipLine
          return ([], true)
        let found ← escapedChar
        let (more, escaped) ← quotedWordUpTo quote count
        return (found :: more, escaped)
      else
        skip
        let (more, escaped) ← quotedWordUpTo quote count
        return (c :: more, escaped)
    | none => return ([], false)

/-- Words of a quoted scalar and the gaps between them up to the closing quote; at most a given
number of words. -/
def quotedWordsUpTo (quote : Char) : Nat → Scan (List Char)
  | 0 => failure
  | count + 1 => do
    if ← atDocumentMark then failure
    if (← peek).isNone then failure
    let (word, escaped) ← quotedWordUpTo quote (← remaining)
    if ← next (· == quote) then
      skip
      return word
    let gap ← gapFrom 0 { overLine := escaped }
    return word ++ gap.text ++ (← quotedWordsUpTo quote count)

/-- A quoted scalar, the opening quote included. -/
def quotedScalar (quote : Char) : Scan String := do
  skip
  return String.ofList (← quotedWordsUpTo quote (← remaining))

/-! ## Block scalars -/

/-- What becomes of the line breaks at the end of a block scalar. -/
inductive Chomping where
  | strip
  | clip
  | keep
  deriving DecidableEq, Repr

/-- The indication of what becomes of line breaks at the end, if it comes next. -/
def optChomping : Scan (Option Chomping) := do
  match ← peek with
  | some '+' =>
    skip
    return some .keep
  | some '-' =>
    skip
    return some .strip
  | _ => return none

/-- The indication of the indentation, if it comes next. -/
def optIndentation : Scan (Option Nat) := do
  match ← peek with
  | some c =>
    if c.isDigit then
      if c == '0' then failure
      skip
      return some (c.toNat - '0'.toNat)
    else return none
  | none => return none

/-- The indications behind the character that opens a block scalar, in either order. -/
def blockHeader : Scan (Chomping × Option Nat) := do
  match ← optChomping with
  | some chomping => return (chomping, ← optIndentation)
  | none =>
    let indentation ← optIndentation
    match ← if indentation.isSome then optChomping else pure none with
    | some chomping => return (chomping, indentation)
    | none => return (.clip, indentation)

/-- Empty lines and the indentation of the line behind them; at most a given number of steps. It
gives the line breaks, and the deepest column that was reached. -/
def blockBreaksUpTo (margin : Option Nat) : Nat → Nat → Scan (List Char × Nat)
  | 0, deepest => return ([], deepest)
  | count + 1, deepest => do
    let inMargin (column : Nat) : Bool := margin.all fun margin => column < margin
    let column := (← get).column
    let left ← remaining
    let _ ← takeUpTo (· == ' ') (margin.elim left fun margin => margin - column)
    let column := (← get).column
    let deepest := max deepest column
    if inMargin column && (← next (· == '\t')) then failure
    if ← next isBreak then
      let found ← takeBreak
      let (more, deepest) ← blockBreaksUpTo margin count deepest
      return (found :: more, deepest)
    else return ([], deepest)

/-- Empty lines and the indentation of the line behind them. -/
def blockBreaks (margin : Nat) : Scan (List Char) := do
  let (breaks, _) ← blockBreaksUpTo (some margin) (← remaining) 0
  return breaks

/-- A line break as it is kept, if the text goes on. -/
def optBreak : Scan (List Char) := do
  if (← peek).isSome then return [← takeBreak] else return []

/-- The lines of a block scalar; at most a given number of them. `lineEnd` is the end of the line
before, `breaks` are the empty lines since, and `indented` tells whether that line starts with a
blank. It also gives the end of the last line and the empty lines behind it. -/
def blockLinesUpTo (folded : Bool) (margin : Nat) :
    Nat → List Char → List Char → Bool → Scan (List Char × List Char × List Char)
  | 0, lineEnd, breaks, _ => return ([], lineEnd, breaks)
  | count + 1, lineEnd, breaks, indented => do
    if (← get).column != margin || (← peek).isNone then return ([], lineEnd, breaks)
    let blank ← next isBlank
    let joined :=
      if folded && lineEnd.head? = some '\n' && !indented && !blank then
        if breaks.isEmpty then [' '] else breaks
      else lineEnd ++ breaks
    let line ← takeWhile fun c => !isBreak c
    let lineEnd ← optBreak
    let breaks ← blockBreaks margin
    let (more, last) ← blockLinesUpTo folded margin count lineEnd breaks blank
    return (joined ++ line ++ more, last)

/-- The column at which the lines of a block scalar start, and the empty lines in front of the first
one. If the column is not given it is that of the first line, but deeper than the block around. -/
def blockMargin (indentation : Option Nat) : Scan (Nat × List Char) := do
  let indent := (← get).indent
  match indentation with
  | some more =>
    let margin := match indent with
      | some indent => indent + more
      | none => more
    return (margin, ← blockBreaks margin)
  | none =>
    let (breaks, deepest) ← blockBreaksUpTo none (← remaining) 0
    let least := match indent with
      | some indent => indent + 1
      | none => 1
    return (max deepest least, breaks)

/-- A block scalar, the character that opens it included. -/
def blockScalar (folded : Bool) : Scan String := do
  skip
  let (chomping, indentation) ← blockHeader
  skipToNextLine
  let (margin, breaks) ← blockMargin indentation
  let (text, lineEnd, breaks) ← blockLinesUpTo folded margin (← remaining) [] breaks false
  let tail := match chomping with
    | .strip => []
    | .clip => lineEnd
    | .keep => lineEnd ++ breaks
  return String.ofList (text ++ tail)

end NamingLint.Yaml.Scan
