import NamingLint.Source.Outline

/-!
# Reading token forests

A `Parse` reads tokens from the front of a forest. As it goes it prints what it has read, in the
spacing of a printed syntax tree, and collects the outlines that it meets. A parse that fails has no
result at all, so that any alternative starts from the state before it.
-/

namespace NamingLint.Source

/-- The tokens left to read, and what has been printed and met so far, the last one first. -/
structure ParseState where
  rest : List TokenTree
  printed : List TokenTree := []
  met : List Outline := []
  deriving Inhabited

/-- A reader of tokens that may fail. -/
abbrev Parse (α : Type) := StateT ParseState Option α

namespace Parse

/-! ## Looking ahead -/

/-- The tokens left to read. -/
def upcoming : Parse (List TokenTree) := do
  return (← get).rest

/-- Whether the upcoming tokens pass a test. -/
def next (test : List TokenTree → Bool) : Parse Bool := do
  return test (← get).rest

/-- The next token is this keyword. -/
def isKeyword (word : String) : List TokenTree → Bool
  | .ident name false _ :: _ => name == word
  | _ => false

/-- The next token is one of these keywords. -/
def isOneOf (words : List String) : List TokenTree → Bool
  | .ident name false _ :: _ => words.contains name
  | _ => false

/-- The next tokens are these punctuation characters, all but the last one joint. -/
def isPunctChars : List Char → List TokenTree → Bool
  | [], _ => true
  | [c], .punct d _ :: _ => c == d
  | c :: more, .punct d true :: rest => c == d && isPunctChars more rest
  | _, _ => false

/-- The next tokens are this punctuation. -/
def isPunct (text : String) (tokens : List TokenTree) : Bool :=
  isPunctChars text.toList tokens

/-- The next token is a group in these brackets. -/
def isGroup (delimiter : Delimiter) : List TokenTree → Bool
  | .group found _ :: _ => found = delimiter
  | _ => false

/-- The next token is a group in any brackets. -/
def isAnyGroup : List TokenTree → Bool
  | .group _ _ :: _ => true
  | _ => false

/-- Words that are no identifiers unless they are raw. -/
def reserved : List String := [
  "_", "abstract", "as", "async", "await", "become", "box", "break", "const", "continue", "crate",
  "do", "dyn", "else", "enum", "extern", "false", "final", "fn", "for", "if", "impl", "in", "let",
  "loop", "macro", "match", "mod", "move", "mut", "override", "priv", "pub", "ref", "return",
  "Self", "self", "static", "struct", "super", "trait", "true", "try", "type", "typeof", "unsafe",
  "unsized", "use", "virtual", "where", "while", "yield"]

/-- The next token is an identifier and no reserved word. -/
def isIdent : List TokenTree → Bool
  | .ident name raw _ :: _ => raw || !reserved.contains name
  | _ => false

/-- The next token is an identifier or any word. -/
def isWord : List TokenTree → Bool
  | .ident _ _ _ :: _ => true
  | _ => false

/-- The next tokens are a lifetime. -/
def isLifetime : List TokenTree → Bool
  | .punct '\'' true :: .ident _ _ _ :: _ => true
  | _ => false

/-- The text is a number. -/
def isNumberText (text : String) : Bool :=
  text.toList.head?.any Char.isDigit

/-- The text is a string literal of characters. -/
def isStringText (text : String) : Bool :=
  text.toList.head?.any fun c => c == '"' || c == 'r'

/-- The next tokens are a literal: a literal token, a truth value or a negative number. -/
def isLiteral : List TokenTree → Bool
  | .literal _ :: _ => true
  | .ident name false _ :: _ => name == "true" || name == "false"
  | .punct '-' _ :: .literal text :: _ => isNumberText text
  | _ => false

/-- The next token is a string literal. -/
def isStringLiteral : List TokenTree → Bool
  | .literal text :: _ => isStringText text
  | _ => false

/-- The tokens behind the next one; a lifetime counts as one token. -/
def behind : List TokenTree → List TokenTree
  | .punct '\'' true :: .ident _ _ _ :: rest => rest
  | _ :: rest => rest
  | [] => []

/-- The next token but one passes a test. -/
def second (test : List TokenTree → Bool) (tokens : List TokenTree) : Bool :=
  !tokens.isEmpty && test (behind tokens)

/-- The next token but two passes a test. -/
def third (test : List TokenTree → Bool) (tokens : List TokenTree) : Bool :=
  !(behind tokens).isEmpty && second (fun rest => test (behind rest)) tokens

/-! ## Printing and taking -/

/-- Print tokens without reading any. -/
def print (tokens : List TokenTree) : Parse Unit :=
  modify fun state => { state with printed := tokens.reverseAux state.printed }

/-- Meet outlines without reading any tokens. -/
def meet (outlines : List Outline) : Parse Unit :=
  modify fun state => { state with met := outlines.reverseAux state.met }

/-- Read one token and print nothing. -/
def takeSilently : Parse TokenTree := do
  let state ← get
  match state.rest with
  | token :: rest =>
    set { state with rest }
    return token
  | [] => failure

/-- Read one token and print it as it is. -/
def take : Parse TokenTree := do
  let token ← takeSilently
  print [token]
  return token

/-- The printed form of punctuation: all characters but the last one are joint. -/
def punctTokens : List Char → List TokenTree
  | [] => []
  | [c] => [.punct c false]
  | c :: rest => .punct c true :: punctTokens rest

/-- Read this punctuation. -/
def punct (text : String) : Parse Unit := do
  let state ← get
  let chars := text.toList
  if isPunctChars chars state.rest then
    set { state with rest := state.rest.drop chars.length }
    print (punctTokens chars)
  else failure

/-- Read this keyword. -/
def keyword (word : String) : Parse Unit := do
  if ← next (isKeyword word) then
    let _ ← take
  else failure

/-- Read this punctuation if it comes next. -/
def optPunct (text : String) : Parse Bool := do
  if ← next (isPunct text) then
    punct text
    return true
  else return false

/-- Read this keyword if it comes next. -/
def optKeyword (word : String) : Parse Bool := do
  if ← next (isKeyword word) then
    keyword word
    return true
  else return false

/-- Read an identifier or any word. -/
def word : Parse TokenTree := do
  if ← next isWord then take else failure

/-- Read an identifier. -/
def ident : Parse TokenTree := do
  if ← next isIdent then take else failure

/-- Read a lifetime and give its name. -/
def lifetime : Parse String := do
  if ← next isLifetime then
    let _ ← take
    match ← take with
    | .ident name _ _ => return name
    | _ => failure
  else failure

/-- Read a lifetime if it comes next. -/
def optLifetime : Parse (Option String) := do
  if ← next isLifetime then return some (← lifetime) else return none

/-- Read a literal. The sign of a number becomes a token of its own. -/
def literal : Parse Unit := do
  if ← next isLiteral then
    if ← next (isPunct "-") then punct "-"
    let _ ← take
  else failure

/-! ## Combining -/

/-- Try a parse; where it fails nothing has been read. -/
def attempt {α : Type} (parse : Parse α) : Parse (Option α) := fun state =>
  match parse.run state with
  | some (value, after) => some (some value, after)
  | none => some (none, state)

/-- Whether a parse succeeds here, without reading anything. -/
def isAhead {α : Type} (parse : Parse α) : Parse Bool := fun state =>
  some ((parse.run state).isSome, state)

/-- Run a parse and hold back the outlines that it meets. -/
def holdingMet {α : Type} (parse : Parse α) : Parse (α × List Outline) := do
  let before := (← get).met
  modify fun state => { state with met := [] }
  let value ← parse
  let found := (← get).met.reverse
  modify fun state => { state with met := before }
  return (value, found)

/-- Run a parse and hold back what it prints. -/
def holdingPrinted {α : Type} (parse : Parse α) : Parse (α × List TokenTree) := do
  let before := (← get).printed
  modify fun state => { state with printed := [] }
  let value ← parse
  let printed := (← get).printed.reverse
  modify fun state => { state with printed := before }
  return (value, printed)

/-- Run a parse and also give what it prints. -/
def withPrinted {α : Type} (parse : Parse α) : Parse (α × List TokenTree) := do
  let (value, printed) ← holdingPrinted parse
  print printed
  return (value, printed)

/-- Run a parse and print nothing. -/
def silently {α : Type} (parse : Parse α) : Parse α := do
  let (value, _) ← holdingPrinted parse
  return value

/-- Take back what has been printed and met since a state, and print the tokens read since then as
they were written. -/
def verbatimSince (before : ParseState) : Parse Unit := do
  let after := (← get).rest
  set { before with rest := after }
  print (before.rest.take (before.rest.length - after.length))

/-- Run a parse, print the tokens that it has read as they were written, and meet nothing. -/
def verbatim {α : Type} (parse : Parse α) : Parse α := do
  let before ← get
  let value ← parse
  verbatimSince before
  return value

/-- Run a parse that answers whether what it has read counts as uninterpreted. If so, print it as it
was written and meet nothing. -/
def verbatimIf (parse : Parse Bool) : Parse Unit := do
  let before ← get
  if ← parse then verbatimSince before

/-- Read a group in these brackets, whose content the parse has to read up to its end. -/
def group {α : Type} (delimiter : Delimiter) (parse : Parse α) : Parse α := do
  match ← takeSilently with
  | .group found content =>
    if found = delimiter then
      let outer ← get
      set { outer with rest := content, printed := [] }
      let value ← parse
      let inner ← get
      if inner.rest.isEmpty then
        set { inner with rest := outer.rest, printed := outer.printed }
        print [.group delimiter inner.printed.reverse]
        return value
      else failure
    else failure
  | _ => failure

/-- Read a group in any brackets and print its content as it is. -/
def anyGroup : Parse Delimiter := do
  match ← take with
  | .group delimiter _ => return delimiter
  | _ => failure

/-- Whether all tokens have been read. -/
def atEnd : Parse Bool :=
  next List.isEmpty

/-- Run a parse as long as it answers true, at most a given number of times. -/
def repeatUpTo (parse : Parse Bool) : Nat → Parse Unit
  | 0 => failure
  | count + 1 => do
    if ← parse then repeatUpTo parse count

/-- Run a parse as long as it answers true. Each run but the last reads at least one token. -/
def loop (parse : Parse Bool) : Parse Unit := do
  repeatUpTo parse ((← upcoming).length + 2)

/-- Collect what a parse gives as long as it asks to go on, at most a given number of times. -/
def gatherUpTo {α : Type} (parse : Parse (Option (α × Bool))) : Nat → Parse (List α)
  | 0 => failure
  | count + 1 => do
    match ← parse with
    | none => return []
    | some (value, true) => return value :: (← gatherUpTo parse count)
    | some (value, false) => return [value]

/-- Collect what a parse gives as long as it asks to go on. Each run but the last reads at least one
token. -/
def gather {α : Type} (parse : Parse (Option (α × Bool))) : Parse (List α) := do
  gatherUpTo parse ((← upcoming).length + 2)

/-- Read items up to the end, with a separator behind each but possibly the last. -/
def terminated (item : Parse Unit) (separator : String) : Parse Unit :=
  loop do
    if ← atEnd then return false
    item
    if ← atEnd then return false
    punct separator
    return true

/-- Collect what a parse gives up to the end. -/
def gatherUntilEnd {α : Type} (parse : Parse α) : Parse (List α) :=
  gather do
    if ← atEnd then return none
    return some (← parse, true)

/-- Read items up to the end. -/
def untilEnd (item : Parse Unit) : Parse Unit :=
  loop do
    if ← atEnd then return false
    item
    return true

end Parse

end NamingLint.Source
