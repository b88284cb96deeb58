import NamingLint.Source.Grammar.Path

/-!
# Patterns
-/

namespace NamingLint.Source.Grammar

open Parse

/-- The decimal parts of a number between its dots, if each is an integer without a suffix. -/
def tupleIndices? (text : String) : Option (List String) :=
  (text.splitOn ".").mapM fun part =>
    if !part.isEmpty && part.toList.all Char.isDigit then
      part.toNat?.map fun index => toString index
    else none

/-- The name or the index of a field. The answer tells whether it is a name. -/
def fieldMember : Parse Bool := do
  let tokens ← upcoming
  if isIdent tokens then
    let _ ← ident
    return true
  else
    match ← takeSilently with
    | .literal text =>
      match tupleIndices? text with
      | some [index] =>
        print [.literal index]
        return false
      | _ => failure
    | _ => failure

/-- A single `|`, not the start of another operator. -/
def isVerticalBar (tokens : List TokenTree) : Bool :=
  isPunct "|" tokens && !isPunct "||" tokens && !isPunct "|=" tokens

/-- Alternatives of a pattern separated by `|`, one of which may also stand in front. -/
def patternAlternatives (knot : Knot) : Parse PatternShape := do
  let leading ← optPunct "|"
  let first ← knot.pattern
  if leading || (← next isVerticalBar) then
    loop do
      if ← next isVerticalBar then
        punct "|"
        let _ ← knot.pattern
        return true
      else return false
    return .plain
  else return first

/-- A block in braces behind the word `const`. -/
def constBlock (knot : Knot) : Parse Unit := do
  keyword "const"
  attributedBlock knot

/-- The bound of a range in a pattern, if there is one. -/
def rangeBound (knot : Knot) : Parse Bool := do
  let tokens ← upcoming
  if tokens.isEmpty || isPunct "|" tokens || isPunct "=" tokens ||
      (isPunct ":" tokens && !isPunct "::" tokens) || isPunct "," tokens || isPunct ";" tokens ||
      isKeyword "if" tokens then
    return false
  else if isLiteral tokens then
    literal
    return true
  else if isPlainPathStart tokens || isPunct "::" tokens || isPunct "<" tokens then
    outerAttributes knot
    let _ ← qualifiedPath knot true
    return true
  else if isKeyword "const" tokens then
    constBlock knot
    return true
  else failure

/-- The dots of a range behind its start and the end of the range. Three dots are printed as two
and an equals sign. A closed range needs an end. -/
def rangeRest (knot : Knot) : Parse PatternShape := do
  let closed ←
    if ← optPunct "..=" then pure true
    else if ← next (isPunct "...") then
      silently (punct "...")
      print (punctTokens ['.', '.', '='])
      pure true
    else
      punct ".."
      pure false
  let hasEnd ← rangeBound knot
  if closed && !hasEnd then failure
  return if hasEnd then .plain else .openRange

/-- A range without a start, or the pattern that stands for all that is left. -/
def rangeWithoutStart (knot : Knot) : Parse PatternShape := do
  let closed ←
    if ← optPunct "..=" then pure true
    else
      punct ".."
      pure false
  if ← rangeBound knot then return .openRange
  if closed then failure
  return .rest

/-- A pattern for a field of a struct, behind its attributes. -/
def fieldPattern (knot : Knot) : Parse Unit :=
  do
    let state ← get
    let boxed ← optKeyword "box"
    let byReference ← optKeyword "ref"
    let mutable ← optKeyword "mut"
    let decorated := boxed || byReference || mutable
    let named ← if decorated then (do let _ ← ident; pure true) else fieldMember
    if (!decorated && (← next (isPunct ":"))) || !named then
      punct ":"
      let _ ← patternAlternatives knot
    else if boxed then
      let after := (← get).rest
      set { state with rest := after }
      print (state.rest.take (state.rest.length - after.length))

/-- The fields of a struct pattern. -/
def structPattern (knot : Knot) : Parse Unit :=
  group .brace do
    loop do
      if ← atEnd then return false
      outerAttributes knot
      if ← optPunct ".." then return false
      fieldPattern knot
      if ← atEnd then return false
      punct ","
      return true

/-- A pattern that starts with a path. -/
def pathPattern (knot : Knot) : Parse PatternShape := do
  let found ← qualifiedPath knot true
  if (← optMacroArguments found).isSome then return .plain
  let tokens ← upcoming
  if isGroup .brace tokens then structPattern knot
  else if isGroup .parenthesis tokens then
    group .parenthesis (terminated (do let _ ← patternAlternatives knot) ",")
  else if isPunct ".." tokens then return ← rangeRest knot
  return .plain

/-- A pattern in parentheses or a tuple of patterns. -/
def parenthesizedPattern (knot : Knot) : Parse Unit :=
  group .parenthesis (terminated (do let _ ← patternAlternatives knot) ",")

/-- A pattern in brackets. A range in it may not lack an end. -/
def slicePattern (knot : Knot) : Parse Unit :=
  group .bracket (terminated (do
    if (← patternAlternatives knot) = .openRange then failure) ",")

/-- A name that is bound, perhaps to what a further pattern covers. -/
def bindingPattern (knot : Knot) : Parse Unit := do
  let _ ← optKeyword "ref"
  let _ ← optKeyword "mut"
  if ← next (isKeyword "self") then keyword "self"
  else
    let _ ← ident
  if ← optPunct "@" then
    let _ ← knot.pattern

/-- The next tokens are an identifier and something that makes it the start of a path. -/
def isPathPatternStart (tokens : List TokenTree) : Bool :=
  (isIdent tokens && second (fun rest => isPunct "::" rest || isPunct "!" rest ||
      isGroup .brace rest || isGroup .parenthesis rest || isPunct ".." rest) tokens) ||
    (isKeyword "self" tokens && second (isPunct "::") tokens) ||
    isPunct "::" tokens || isPunct "<" tokens || isOneOf ["Self", "super", "crate"] tokens

/-- A pattern without alternatives. -/
def pattern (knot : Knot) : Parse PatternShape := do
  let tokens ← upcoming
  if isPathPatternStart tokens then pathPattern knot
  else if isKeyword "_" tokens then
    keyword "_"
    return .plain
  else if isKeyword "box" tokens then
    verbatim do
      keyword "box"
      let _ ← knot.pattern
    return .plain
  else if isPunct "-" tokens || isLiteral tokens || isKeyword "const" tokens then
    if !(← rangeBound knot) then failure
    if ← next (isPunct "..") then rangeRest knot else return .plain
  else if isOneOf ["ref", "mut", "self"] tokens || isIdent tokens then
    bindingPattern knot
    return .plain
  else if isPunct "&" tokens then
    punct "&"
    let _ ← optKeyword "mut"
    let _ ← knot.pattern
    return .plain
  else if isGroup .parenthesis tokens then
    parenthesizedPattern knot
    return .plain
  else if isGroup .bracket tokens then
    slicePattern knot
    return .plain
  else if isPunct ".." tokens && !isPunct "..." tokens then rangeWithoutStart knot
  else failure

end NamingLint.Source.Grammar
