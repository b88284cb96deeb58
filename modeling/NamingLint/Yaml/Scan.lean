import NamingLint.Yaml.ScalarText

/-!
# Scanning YAML

`tokens?` gives the tokens of a text, or nothing if it is no well-formed one.
-/

namespace NamingLint.Yaml

namespace Scan

/-! ## Directives -/

/-- A decimal number of at most nine digits. -/
def versionNumber : Scan Nat := do
  let digits ← takeWhile Char.isDigit
  if digits.isEmpty || digits.length > 9 then failure
  return digits.foldl (fun value c => value * 10 + (c.toNat - '0'.toNat)) 0

/-- One character. -/
def expect (c : Char) : Scan Unit := do
  if ← next (· == c) then skip else failure

/-- The handle of a tag, with its exclamation marks. In a directive it has to end in one. -/
def tagHandle (inDirective : Bool) : Scan (List Char) := do
  expect '!'
  let name ← takeWhile isNameChar
  if ← next (· == '!') then
    skip
    return '!' :: name ++ ['!']
  else if inDirective && !name.isEmpty then failure
  else return '!' :: name

/-- The characters of a tag other than letters, digits and escapes. -/
def tagCharacters : List Char :=
  [';', '/', '?', ':', '@', '&', '=', '+', '$', '.', '!', '~', '*', '\'', '(', ')']

/-- A byte that is escaped in a tag. -/
def escapedByte : Scan UInt8 := do
  expect '%'
  return UInt8.ofNat (← hexNumber 2 0)

/-- The number of bytes that a character takes, by its first byte. -/
def byteCount (first : UInt8) : Nat :=
  if first < 0x80 then 1
  else if first &&& 0xE0 == 0xC0 then 2
  else if first &&& 0xF0 == 0xE0 then 3
  else if first &&& 0xF8 == 0xF0 then 4
  else 0

/-- A number of escaped bytes. -/
def escapedBytes : Nat → Scan (List UInt8)
  | 0 => return []
  | count + 1 => do
    let first ← escapedByte
    return first :: (← escapedBytes count)

/-- A character that is escaped in a tag. -/
def escapedTagChar : Scan (List Char) := do
  let first ← escapedByte
  let bytes := first :: (← escapedBytes (byteCount first - 1))
  match String.fromUTF8? ⟨bytes.toArray⟩ with
  | some text => return text.toList
  | none => failure

/-- The characters of a tag; at most a given number of them. -/
def tagTextUpTo (verbatim : Bool) : Nat → Scan (List Char)
  | 0 => return []
  | count + 1 => do
    match ← peek with
    | some '%' =>
      let found ← escapedTagChar
      return found ++ (← tagTextUpTo verbatim count)
    | some c =>
      if isNameChar c || tagCharacters.contains c || (verbatim && [',', '[', ']'].contains c) then
        skip
        return c :: (← tagTextUpTo verbatim count)
      else return []
    | none => return []

/-- The characters of a tag. -/
def tagText (verbatim : Bool) : Scan (List Char) := do
  tagTextUpTo verbatim (← remaining)

/-- A directive. -/
def directive : Scan Unit := do
  closeBlocks none
  dropKey
  allowKey false
  skip
  let name ← takeWhile isNameChar
  if !isBlankOrEnd (← peek) then failure
  match String.ofList name with
  | "YAML" =>
    skipWhile isBlank
    let major ← versionNumber
    expect '.'
    emit (.version major (← versionNumber))
  | "TAG" =>
    skipWhile isBlank
    let handle ← tagHandle true
    if !(← next isBlank) then failure
    skipWhile isBlank
    let start ← tagText true
    if start.isEmpty || !isBlankOrEnd (← peek) then failure
    emit (.tagShorthand (String.ofList handle) (String.ofList start))
  | _ => failure
  skipToNextLine

/-- A mark that separates documents. -/
def documentMark (token : Token) : Scan Unit := do
  closeBlocks none
  dropKey
  allowKey false
  skipMany 3
  emit token

/-! ## Collections -/

/-- The start of a flow collection. -/
def flowStart (token : Token) : Scan Unit := do
  saveKey
  modify fun state => { state with flowKeys := none :: state.flowKeys }
  allowKey true
  skip
  emit token

/-- The end of a flow collection. -/
def flowEnd (token : Token) : Scan Unit := do
  dropKey
  modify fun state => { state with flowKeys := state.flowKeys.drop 1 }
  allowKey false
  skip
  emit token

/-- A comma between the entries of a flow collection. -/
def flowEntry : Scan Unit := do
  dropKey
  allowKey true
  skip
  emit .flowEntry

/-- Open a block at the next character, where a key may start. -/
def openBlockHere (token : Token) : Scan Unit := do
  if !(← inFlow) then
    let state ← get
    if !state.keyAllowed then failure
    openBlock state.column state.tokens.size token

/-- A hyphen in front of an entry of a block. -/
def blockEntry : Scan Unit := do
  openBlockHere .blockSequenceStart
  dropKey
  allowKey true
  skip
  emit .blockEntry

/-- A question mark in front of a key. -/
def explicitKey : Scan Unit := do
  openBlockHere .blockMappingStart
  dropKey
  allowKey (!(← inFlow))
  skip
  emit .key

/-- A colon in front of a value. It may show that a text before it is a key. -/
def value : Scan Unit := do
  match ← currentKey with
  | some key =>
    insert key.tokens .key
    openBlock key.column key.tokens .blockMappingStart
    setKey none
    allowKey false
  | none =>
    openBlockHere .blockMappingStart
    allowKey (!(← inFlow))
  skip
  emit .value

/-! ## Names and tags -/

/-- The name of an anchor behind its sign. -/
def anchorName : Scan String := do
  saveKey
  allowKey false
  skip
  let name ← takeWhile isNameChar
  let following ← peek
  let ends := isBlankOrEnd following ||
    following.any fun c => ['?', ':', ',', ']', '\x7d', '%', '@', Char.ofNat 96].contains c
  if name.isEmpty || !ends then failure
  return String.ofList name

/-- A tag. -/
def tag : Scan Unit := do
  saveKey
  allowKey false
  if (← peekAt 1) = some '<' then
    skipMany 2
    let text ← tagText true
    if text.isEmpty then failure
    expect '>'
    emit (.tag "" (String.ofList text))
  else
    let handle ← tagHandle false
    if handle.length > 1 && handle.getLast? = some '!' then
      let suffix ← tagText false
      if suffix.isEmpty then failure
      emit (.tag (String.ofList handle) (String.ofList suffix))
    else
      let suffix := handle.drop 1 ++ (← tagText false)
      emit (if suffix.isEmpty then .tag "" "!" else .tag "!" (String.ofList suffix))
  if !isBlankOrEnd (← peek) && !((← inFlow) && (← next (· == ','))) then failure

/-! ## All tokens -/

/-- Go behind blanks, comments and line breaks; at most a given number of lines. A tab must not
stand where a key of a block may start. -/
def skipToTokenUpTo : Nat → Scan Unit
  | 0 => return
  | count + 1 => do
    let tabs := (← inFlow) || !(← get).keyAllowed
    skipWhile fun c => c == ' ' || (tabs && c == '\t')
    if ← next (· == '#') then skipWhile fun c => !isBreak c
    if ← next isBreak then
      skipLine
      if !(← inFlow) then allowKey true
      skipToTokenUpTo count

/-- A scalar that may be a key. -/
def keyScalar (style : Style) (read : Scan String) : Scan Unit := do
  saveKey
  allowKey false
  emit (.scalar (← read) style)

/-- A block scalar, behind which a key may start. -/
def blockScalarToken (style : Style) : Scan Unit := do
  dropKey
  allowKey true
  emit (.scalar (← blockScalar (style = .folded)) style)

/-- Characters that start no plain scalar unless something other than a blank follows some of
them. -/
def indicators : List Char :=
  ['-', '?', ':', ',', '[', ']', '\x7b', '\x7d', '#', '&', '*', '!', '|', '>', '\'', '"', '%', '@',
    Char.ofNat 96]

/-- A plain scalar starts with this character, which another one follows. -/
def startsPlain (flow : Bool) (c : Char) (following : Option Char) : Bool :=
  !indicators.contains c && !isBlank c && !isBreak c ||
    (c == '-' && !following.any isBlank) ||
    (!flow && (c == '?' || c == ':') && !isBlankOrEnd following)

/-- The token that starts with the next character. -/
def token (c : Char) : Scan Unit := do
  let state ← get
  let following ← peekAt 1
  let flow ← inFlow
  let blankFollows := isBlankOrEnd following
  if state.column == 0 && c == '%' then directive
  else if state.column == 0 && startsDocumentMark state.rest '-' then documentMark .documentStart
  else if state.column == 0 && startsDocumentMark state.rest '.' then documentMark .documentEnd
  else if c == '[' then flowStart .flowSequenceStart
  else if c == '\x7b' then flowStart .flowMappingStart
  else if c == ']' then flowEnd .flowSequenceEnd
  else if c == '\x7d' then flowEnd .flowMappingEnd
  else if c == ',' then flowEntry
  else if c == '-' && blankFollows then blockEntry
  else if c == '?' && (flow || blankFollows) then explicitKey
  else if c == ':' && (flow || blankFollows) then value
  else if c == '*' then emit (.alias (← anchorName))
  else if c == '&' then emit (.anchor (← anchorName))
  else if c == '!' then tag
  else if c == '|' && !flow then blockScalarToken .literal
  else if c == '>' && !flow then blockScalarToken .folded
  else if c == '\'' then keyScalar .singleQuoted (quotedScalar '\'')
  else if c == '"' then keyScalar .doubleQuoted (quotedScalar '"')
  else if startsPlain flow c following then keyScalar .plain plainScalar
  else failure

/-- All tokens up to the end of the text; at most a given number of them. -/
def tokensUpTo : Nat → Scan Unit
  | 0 => failure
  | count + 1 => do
    skipToTokenUpTo ((← remaining) + 1)
    dropStaleKeys
    closeBlocks (some (← get).column)
    match ← peek with
    | some c =>
      token c
      tokensUpTo count
    | none =>
      closeBlocks none
      dropKey

end Scan

/-- The tokens of a text. -/
def tokens? (text : String) : Option (List Token) :=
  let chars := text.toList
  if chars.all isAllowed then
    ((Scan.tokensUpTo (chars.length + 1)).run { rest := chars }).map fun (_, state) =>
      state.tokens.toList
  else none

end NamingLint.Yaml
