/-!
# Tokens of YAML

The tokens of a YAML text, and the state of the scan that finds them. The indentation of blocks
shows in tokens of its own. That a text is the key of a mapping shows only at the colon behind it;
the token for the key is then put in front of it.
-/

namespace NamingLint.Yaml

/-- How a scalar is written. -/
inductive Style where
  | plain
  | singleQuoted
  | doubleQuoted
  | literal
  | folded
  deriving DecidableEq, Repr, Inhabited

/-- A token. -/
inductive Token where
  | version (major minor : Nat)
  | tagShorthand (handle start : String)
  | documentStart
  | documentEnd
  | blockSequenceStart
  | blockMappingStart
  | blockEnd
  | flowSequenceStart
  | flowSequenceEnd
  | flowMappingStart
  | flowMappingEnd
  | blockEntry
  | flowEntry
  | key
  | value
  | alias (name : String)
  | anchor (name : String)
  | tag (handle suffix : String)
  | scalar (text : String) (style : Style)
  deriving DecidableEq, Repr, Inhabited

/-- A place where the key of a mapping may have started. -/
structure KeyStart where
  /-- The indentation says that there has to be a key. -/
  required : Bool
  /-- The number of tokens in front. -/
  tokens : Nat
  index : Nat
  line : Nat
  column : Nat
  deriving Repr, Inhabited

/-- The state of a scan. -/
structure ScanState where
  rest : List Char
  index : Nat := 0
  line : Nat := 0
  column : Nat := 0
  tokens : Array Token := #[]
  /-- The column of the innermost block; none outside of all blocks. -/
  indent : Option Nat := none
  outerIndents : List (Option Nat) := []
  /-- Where a key may have started, outside of flow collections. -/
  blockKey : Option KeyStart := none
  /-- Where a key may have started, for each flow collection that is open, the innermost first. -/
  flowKeys : List (Option KeyStart) := []
  /-- A key may start here. -/
  keyAllowed : Bool := true
  deriving Inhabited

/-- A step of a scan, which may fail. -/
abbrev Scan := StateT ScanState Option

/-! ## Characters -/

/-- A character that a text may hold. -/
def isAllowed (c : Char) : Bool :=
  let n := c.toNat
  n == 9 || n == 10 || n == 13 || (32 ≤ n && n ≤ 126) || n == 0x85 || (0xA0 ≤ n && n ≤ 0xD7FF) ||
    (0xE000 ≤ n && n ≤ 0xFFFD && n != 0xFEFF) || 0x10000 ≤ n

/-- A space or a tab. -/
def isBlank (c : Char) : Bool := c == ' ' || c == '\t'

/-- A character that ends a line. -/
def isBreak (c : Char) : Bool :=
  c == '\n' || c == '\r' || c.toNat == 0x85 || c.toNat == 0x2028 || c.toNat == 0x2029

/-- A blank, a line break or the end of the text. -/
def isBlankOrEnd : Option Char → Bool
  | some c => isBlank c || isBreak c
  | none => true

/-- A character of names. -/
def isNameChar (c : Char) : Bool :=
  c.isAlphanum || c == '_' || c == '-'

/-- The line break that a character stands for in the content of a scalar. -/
def breakOf (c : Char) : Char :=
  if c.toNat == 0x2028 || c.toNat == 0x2029 then c else '\n'

namespace Scan

/-! ## Moving -/

/-- The character at a distance. -/
def peekAt (distance : Nat) : Scan (Option Char) := do
  return (← get).rest[distance]?

/-- The next character. -/
def peek : Scan (Option Char) := do
  return (← get).rest.head?

/-- The number of characters left to read. -/
def remaining : Scan Nat := do
  return (← get).rest.length

/-- Whether the next character passes a test. -/
def next (test : Char → Bool) : Scan Bool := do
  return (← peek).any test

/-- Go behind a character that ends no line. -/
def skip : Scan Unit :=
  modify fun state => {
    state with
    rest := state.rest.drop 1
    index := state.index + 1
    column := state.column + 1 }

/-- Go behind several characters that end no line. -/
def skipMany : Nat → Scan Unit
  | 0 => return
  | count + 1 => do
    skip
    skipMany count

/-- Go behind a line break. A carriage return and a line feed are one. -/
def skipLine : Scan Unit :=
  modify fun state =>
    let length := match state.rest with
      | '\r' :: '\n' :: _ => 2
      | _ => 1
    { state with
      rest := state.rest.drop length
      index := state.index + length
      line := state.line + 1
      column := 0 }

/-- Go behind a line break and give what it stands for. -/
def takeBreak : Scan Char := do
  match ← peek with
  | some c =>
    skipLine
    return breakOf c
  | none => failure

/-- Characters as long as they pass a test; at most a given number of them. -/
def takeUpTo (test : Char → Bool) : Nat → Scan (List Char)
  | 0 => return []
  | count + 1 => do
    match ← peek with
    | some c =>
      if test c then
        skip
        return c :: (← takeUpTo test count)
      else return []
    | none => return []

/-- Characters as long as they pass a test, none of which ends a line. -/
def takeWhile (test : Char → Bool) : Scan (List Char) := do
  takeUpTo test (← remaining)

/-- Go behind characters as long as they pass a test. -/
def skipWhile (test : Char → Bool) : Scan Unit := do
  let _ ← takeWhile test

/-- Go behind blanks, a comment and the end of the line. -/
def skipToNextLine : Scan Unit := do
  skipWhile isBlank
  if ← next (· == '#') then skipWhile fun c => !isBreak c
  match ← peek with
  | some c => if isBreak c then skipLine else failure
  | none => return

/-! ## Tokens and keys -/

/-- Whether a flow collection is open. -/
def inFlow : Scan Bool := do
  return !(← get).flowKeys.isEmpty

/-- Add a token. -/
def emit (token : Token) : Scan Unit :=
  modify fun state => { state with tokens := state.tokens.push token }

/-- Put a token behind a number of others. -/
def insert (position : Nat) (token : Token) : Scan Unit :=
  modify fun state => {
    state with
    tokens := (state.tokens.extract 0 position).push token ++
      state.tokens.extract position state.tokens.size }

/-- Say whether a key may start here. -/
def allowKey (allowed : Bool) : Scan Unit :=
  modify fun state => { state with keyAllowed := allowed }

/-- The place where a key of the innermost collection may have started. -/
def currentKey : Scan (Option KeyStart) := do
  let state ← get
  match state.flowKeys with
  | [] => return state.blockKey
  | key :: _ => return key

/-- Replace the place where a key of the innermost collection may have started. -/
def setKey (key : Option KeyStart) : Scan Unit :=
  modify fun state =>
    match state.flowKeys with
    | [] => { state with blockKey := key }
    | _ :: outer => { state with flowKeys := key :: outer }

/-- Give up the place where a key may have started, unless it is required to be one. -/
def dropKey : Scan Unit := do
  if (← currentKey).any KeyStart.required then failure
  setKey none

/-- Remember that a key may start here, if it may. -/
def saveKey : Scan Unit := do
  let state ← get
  if state.keyAllowed then
    dropKey
    setKey (some {
      required := state.flowKeys.isEmpty && state.indent = some state.column
      tokens := state.tokens.size
      index := state.index
      line := state.line
      column := state.column })

/-- A key must be on one line and shorter than 1024 characters. -/
def isStale (state : ScanState) (key : KeyStart) : Bool :=
  key.line < state.line || key.index + 1024 < state.index

/-- Give up the places where keys may have started that lie too far back. -/
def dropStaleKeys : Scan Unit := do
  let state ← get
  let stale := (state.blockKey :: state.flowKeys).filterMap fun key => key.filter (isStale state)
  if stale.any KeyStart.required then failure
  let keep (key : Option KeyStart) := key.filter fun key => !isStale state key
  set { state with blockKey := keep state.blockKey, flowKeys := state.flowKeys.map keep }

/-! ## Indentation -/

/-- Open a block at a column that lies deeper than the innermost one. Its token goes to the given
position among the tokens. -/
def openBlock (column : Nat) (position : Nat) (token : Token) : Scan Unit := do
  let state ← get
  let deeper := match state.indent with
    | some indent => indent < column
    | none => true
  if state.flowKeys.isEmpty && deeper then
    set { state with indent := some column, outerIndents := state.indent :: state.outerIndents }
    insert position token

/-- Close the blocks that lie deeper than a column; at most a given number of them. -/
def closeUpTo (column : Option Nat) : Nat → Scan Unit
  | 0 => return
  | count + 1 => do
    let state ← get
    match state.indent, state.outerIndents with
    | some indent, outer :: others =>
      if column.all fun column => column < indent then
        set { state with
          indent := outer
          outerIndents := others
          tokens := state.tokens.push .blockEnd }
        closeUpTo column count
    | _, _ => return

/-- Close the blocks that lie deeper than a column, or all blocks. -/
def closeBlocks (column : Option Nat) : Scan Unit := do
  let state ← get
  if state.flowKeys.isEmpty then closeUpTo column state.outerIndents.length

end Scan

end NamingLint.Yaml
