import NamingLint.Source.Grammar.Pattern
import NamingLint.Source.Grammar.Type

/-!
# Expressions
-/

namespace NamingLint.Source.Grammar

open Parse

/-! ## Precedence -/

/-- The precedences of operators that the grammar compares, the weakest first. -/
def assignPrecedence : Nat := 1

/-- The precedence of ranges. -/
def rangePrecedence : Nat := 2

/-- The precedence of comparisons. -/
def comparePrecedence : Nat := 6

/-- The precedence of casts. -/
def castPrecedence : Nat := 13

/-- The binary operators with their precedences. An operator stands before those that start it. -/
def binaryOperators : List (String × Nat) := [
  ("+=", 1), ("-=", 1), ("*=", 1), ("/=", 1), ("%=", 1), ("^=", 1), ("&=", 1), ("|=", 1),
  ("<<=", 1), (">>=", 1), ("&&", 4), ("||", 3), ("<<", 10), (">>", 10), ("==", 6), ("<=", 6),
  ("!=", 6), (">=", 6), ("+", 11), ("-", 11), ("*", 12), ("/", 12), ("%", 12), ("^", 8), ("&", 9),
  ("|", 7), ("<", 6), (">", 6)]

/-- The binary operator that comes next. -/
def binaryOperator? (tokens : List TokenTree) : Option (String × Nat) :=
  binaryOperators.find? fun entry => isPunct entry.1 tokens

/-- A single equals sign, not the start of an arrow. -/
def isAssignment (tokens : List TokenTree) : Bool :=
  isPunct "=" tokens && !isPunct "=>" tokens

/-- The precedence of the operator that comes next, 0 if none does. -/
def upcomingPrecedence (tokens : List TokenTree) : Nat :=
  match binaryOperator? tokens with
  | some (_, precedence) => precedence
  | none =>
    if isAssignment tokens then assignPrecedence
    else if isPunct ".." tokens then rangePrecedence
    else if isKeyword "as" tokens then castPrecedence
    else 0

/-- A dot that is not the start of a range. -/
def isDot (tokens : List TokenTree) : Bool :=
  isPunct "." tokens && !isPunct ".." tokens

/-! ## Operators -/

/-- The operand behind an operator of some precedence, with the operators that bind stronger. -/
def rightOperand (knot : Knot) (allowStruct : Bool) (precedence : Nat) : Parse Unit := do
  let first ← knot.unary allowStruct
  let rec goOn (shape : ExprShape) : Nat → Parse Unit
    | 0 => failure
    | count + 1 => do
      let tokens ← upcoming
      let following := upcomingPrecedence tokens
      if following > precedence || (following = precedence && precedence = assignPrecedence) then
        let shape ← knot.operators shape allowStruct following
        if (← upcoming).length = tokens.length then return
        goOn shape count
  goOn first ((← upcoming).length + 2)

/-- The next token ends a range without an end. -/
def endsRange (allowStruct : Bool) (tokens : List TokenTree) : Bool :=
  tokens.isEmpty || isPunct "," tokens || isPunct ";" tokens || isDot tokens ||
    isPunct "?" tokens || isPunct "=>" tokens || (!allowStruct && isGroup .brace tokens) ||
    isPunct "=" tokens || isPunct "+" tokens || isPunct "/" tokens || isPunct "%" tokens ||
    isPunct "^" tokens || isPunct ">" tokens || isPunct "<=" tokens || isPunct "!=" tokens ||
    isPunct "-=" tokens || isPunct "*=" tokens || isPunct "&=" tokens || isPunct "|=" tokens ||
    isPunct "<<=" tokens || isKeyword "as" tokens

/-- The dots of a range and its end. Only an open range may lack an end. -/
def rangeTail (knot : Knot) (allowStruct : Bool) : Parse Unit := do
  if ← optPunct "..=" then rightOperand knot allowStruct rangePrecedence
  else if ← next (isPunct "...") then failure
  else
    punct ".."
    if !(← next (endsRange allowStruct)) then rightOperand knot allowStruct rangePrecedence

/-- The next token may not follow a cast. -/
def clashesWithCast (tokens : List TokenTree) : Bool :=
  isDot tokens || isPunct "?" tokens || isGroup .bracket tokens || isGroup .parenthesis tokens

/-- One operator of at least a precedence with its right operand, if there is one. -/
def operatorStep (knot : Knot) (shape : ExprShape) (allowStruct : Bool) (least : Nat) :
    Parse (Option ExprShape) := do
  if shape = .range then return none
  let tokens ← upcoming
  match binaryOperator? tokens with
  | some (operator, precedence) =>
    if precedence < least then return none
    if precedence = comparePrecedence && shape = .comparison then failure
    punct operator
    rightOperand knot allowStruct precedence
    return some (if precedence = comparePrecedence then .comparison else .plain)
  | none =>
    if least ≤ assignPrecedence && isAssignment tokens then
      punct "="
      rightOperand knot allowStruct assignPrecedence
      return some .plain
    else if least ≤ rangePrecedence && isPunct ".." tokens then
      rangeTail knot allowStruct
      return some .range
    else if least ≤ castPrecedence && isKeyword "as" tokens then
      keyword "as"
      let _ ← knot.type false
      if ← next clashesWithCast then failure
      return some .plain
    else return none

/-- The operators of at least a precedence that follow an operand. -/
def operators (knot : Knot) (shape : ExprShape) (allowStruct : Bool) (least : Nat) :
    Parse ExprShape := do
  let rec goOn (shape : ExprShape) : Nat → Parse ExprShape
    | 0 => failure
    | count + 1 => do
      match ← operatorStep knot shape allowStruct least with
      | some shape => goOn shape count
      | none => return shape
  goOn shape ((← upcoming).length + 2)

/-- An expression. -/
def expression (knot : Knot) (allowStruct : Bool) : Parse ExprShape := do
  let shape ← knot.unary allowStruct
  knot.operators shape allowStruct 0

/-! ## Control flow -/

/-- A condition or a subject, which is followed by a block and therefore no struct literal. -/
def condition (knot : Knot) : Parse Unit := do
  let _ ← knot.expression false

/-- A conditional with its alternatives. -/
def ifExpression (knot : Knot) : Parse Unit :=
  loop do
    keyword "if"
    condition knot
    plainBlock knot
    if ← optKeyword "else" then
      if ← next (isKeyword "if") then return true
      plainBlock knot
      return false
    else return false

/-- A header and a block behind it. The attributes of the block are met before the header. -/
def headedBlock (knot : Knot) (header : Parse Unit) : Parse Unit := do
  let ((), before) ← holdingMet header
  let (attributes, body) ← blockParts knot
  meet attributes
  meet before
  meet [.block body]

/-- A loop behind its label. -/
def loopExpression (knot : Knot) : Parse Unit := do
  let tokens ← upcoming
  if isKeyword "while" tokens then
    headedBlock knot do
      keyword "while"
      condition knot
  else if isKeyword "for" tokens then
    headedBlock knot do
      keyword "for"
      let _ ← patternAlternatives knot
      keyword "in"
      condition knot
  else
    headedBlock knot (keyword "loop")

/-- A loop or block behind a label. -/
def labeledExpression (knot : Knot) : Parse ExprShape := do
  let _ ← lifetime
  punct ":"
  let tokens ← upcoming
  if isOneOf ["while", "for", "loop"] tokens then loopExpression knot
  else attributedBlock knot
  return .blockLike

/-- An arm of a `match`. -/
def matchArm (knot : Knot) : Parse Unit := do
  outerAttributes knot
  let _ ← patternAlternatives knot
  if ← optKeyword "if" then
    let _ ← knot.expression true
  punct "=>"
  let shape ← knot.statementExpression
  if shape ≠ .blockLike && !(← atEnd) then punct ","
  else
    let _ ← optPunct ","

/-- A `match` with its arms. The attributes in the braces are met before the subject. -/
def matchExpression (knot : Knot) : Parse Unit := do
  let ((), subject) ← holdingMet do
    keyword "match"
    condition knot
  let (attributes, arms) ← group .brace do
    let ((), attributes) ← holdingMet (innerAttributes knot)
    let ((), arms) ← holdingMet (untilEnd (matchArm knot))
    return (attributes, arms)
  meet attributes
  meet subject
  meet arms

/-! ## Closures -/

/-- A parameter of a closure. -/
def closureParameter (knot : Knot) : Parse Unit := do
  outerAttributes knot
  let _ ← knot.pattern
  if ← optPunct ":" then
    let _ ← knot.type true

/-- A closure. -/
def closureExpression (knot : Knot) (allowStruct : Bool) : Parse Unit := do
  let _ ← optBoundLifetimes knot
  let _ ← optKeyword "const"
  let _ ← optKeyword "static"
  let _ ← optKeyword "async"
  let _ ← optKeyword "move"
  punct "|"
  loop do
    if ← next (isPunct "|") then return false
    closureParameter knot
    if ← next (isPunct "|") then return false
    punct ","
    return true
  punct "|"
  if ← optPunct "->" then
    let _ ← knot.type true
    plainBlock knot
  else
    let _ ← knot.expression allowStruct

/-! ## Atoms -/

/-- The next token starts an expression. -/
def startsExpression (tokens : List TokenTree) : Bool :=
  (isWord tokens && !isKeyword "as" tokens) || isAnyGroup tokens || isLiteral tokens ||
    (isPunct "!" tokens && !isPunct "!=" tokens) ||
    (isPunct "-" tokens && !isPunct "-=" tokens && !isPunct "->" tokens) ||
    (isPunct "*" tokens && !isPunct "*=" tokens) || (isPunct "|" tokens && !isPunct "|=" tokens) ||
    (isPunct "&" tokens && !isPunct "&=" tokens) || isPunct ".." tokens ||
    (isPunct "<" tokens && !isPunct "<=" tokens && !isPunct "<<=" tokens) ||
    isPunct "::" tokens || isLifetime tokens || isPunct "#" tokens

/-- The value that a word such as `return` takes, if there is one. -/
def optValue (knot : Knot) : Parse Unit := do
  if ← next startsExpression then
    let _ ← knot.expression true

/-- A `break` with its label and value. A labeled loop as its value needs parentheses. -/
def breakExpression (knot : Knot) (allowStruct : Bool) : Parse Unit := do
  keyword "break"
  let name ← optLifetime
  if name.isSome && (← next (isPunct ":")) then failure
  if ← next (fun tokens => startsExpression tokens && (allowStruct || !isGroup .brace tokens)) then
    let _ ← knot.expression true

/-- The fields of a struct literal. -/
def structFields (knot : Knot) : Parse Unit :=
  group .brace do
    loop do
      if ← atEnd then return false
      if ← optPunct ".." then
        if !(← atEnd) then
          let _ ← knot.expression true
        return false
      outerAttributes knot
      let named ← fieldMember
      if !named || (← next (isPunct ":")) then
        punct ":"
        let _ ← knot.expression true
      if ← atEnd then return false
      punct ","
      return true

/-- A path, a macro call or a struct literal. -/
def pathExpression (knot : Knot) (allowStruct : Bool) : Parse ExprShape := do
  let found ← qualifiedPath knot true
  if let some delimiter ← optMacroArguments found then return .macroCall delimiter
  if allowStruct && (← next (isGroup .brace)) then structFields knot
  return .plain

/-- Expressions separated by commas. -/
def expressionList (knot : Knot) : Parse Unit :=
  terminated (do let _ ← knot.expression true) ","

/-- An array, written by its elements or by one element and a length. -/
def arrayExpression (knot : Knot) : Parse Unit :=
  group .bracket do
    if ← atEnd then return
    let _ ← knot.expression true
    if ← atEnd then return
    if ← optPunct ";" then
      let _ ← knot.expression true
    else
      punct ","
      expressionList knot

/-- A use of a built-in operation, which is left uninterpreted. -/
def builtinExpression : Parse Unit :=
  verbatim do
    keyword "builtin"
    punct "#"
    let _ ← ident
    if ← next (isGroup .parenthesis) then
      let _ ← anyGroup
    else failure

/-- The next tokens start a closure. -/
def startsClosure (tokens : List TokenTree) : Bool :=
  isPunct "|" tokens || isKeyword "move" tokens ||
    (isKeyword "for" tokens && startsGenerics (behind tokens)) ||
    (isKeyword "const" tokens && !second (isGroup .brace) tokens) || isKeyword "static" tokens ||
    (isKeyword "async" tokens &&
      (second (isPunct "|") tokens || second (isKeyword "move") tokens))

/-- The next tokens start an asynchronous block. -/
def startsAsyncBlock (tokens : List TokenTree) : Bool :=
  isKeyword "async" tokens && (second (isGroup .brace) tokens ||
    (second (isKeyword "move") tokens && third (isGroup .brace) tokens))

/-- The next tokens start a path, a macro call or a struct literal. -/
def startsPathExpression (tokens : List TokenTree) : Bool :=
  isIdent tokens || isPunct "::" tokens || isPunct "<" tokens ||
    isOneOf ["self", "Self", "super", "crate"] tokens ||
    (isKeyword "try" tokens && (second (isPunct "!") tokens || second (isPunct "::") tokens))

/-- An expression that is recognised by its first word. -/
def wordExpression (knot : Knot) (allowStruct : Bool) : Parse ExprShape := do
  let tokens ← upcoming
  if isKeyword "break" tokens then
    breakExpression knot allowStruct
    return .plain
  else if isKeyword "continue" tokens then
    keyword "continue"
    let _ ← optLifetime
    return .plain
  else if isKeyword "return" tokens then
    keyword "return"
    optValue knot
    return .plain
  else if isKeyword "become" tokens then
    verbatim do
      keyword "become"
      let _ ← knot.expression true
    return .plain
  else if isKeyword "let" tokens then
    keyword "let"
    let _ ← patternAlternatives knot
    punct "="
    let shape ← knot.unary allowStruct
    let _ ← knot.operators shape allowStruct comparePrecedence
    return .plain
  else if isKeyword "if" tokens then
    ifExpression knot
    return .blockLike
  else if isOneOf ["while", "for", "loop"] tokens then
    loopExpression knot
    return .blockLike
  else if isKeyword "match" tokens then
    matchExpression knot
    return .blockLike
  else if isKeyword "yield" tokens then
    keyword "yield"
    optValue knot
    return .plain
  else if isOneOf ["unsafe", "const"] tokens then
    let _ ← word
    attributedBlock knot
    return .blockLike
  else if isKeyword "_" tokens then
    keyword "_"
    return .plain
  else failure

/-- An expression without operators. -/
def atom (knot : Knot) (allowStruct : Bool) : Parse ExprShape := do
  let tokens ← upcoming
  if isLiteral tokens then
    literal
    return .plain
  else if startsAsyncBlock tokens then
    keyword "async"
    let _ ← optKeyword "move"
    plainBlock knot
    return .plain
  else if isKeyword "try" tokens && second (isGroup .brace) tokens then
    keyword "try"
    plainBlock knot
    return .blockLike
  else if startsClosure tokens then
    closureExpression knot allowStruct
    return .plain
  else if isKeyword "builtin" tokens && second (isPunct "#") tokens then
    builtinExpression
    return .plain
  else if startsPathExpression tokens then pathExpression knot allowStruct
  else if isGroup .parenthesis tokens then
    group .parenthesis (expressionList knot)
    return .plain
  else if isGroup .bracket tokens then
    arrayExpression knot
    return .plain
  else if isGroup .brace tokens then
    attributedBlock knot
    return .blockLike
  else if isPunct ".." tokens then
    rangeTail knot allowStruct
    return .range
  else if isLifetime tokens then labeledExpression knot
  else wordExpression knot allowStruct

/-! ## Suffixes -/

/-- A field, a method call or `await` behind a dot. -/
def memberAccess (knot : Knot) : Parse Unit := do
  punct "."
  let tokens ← upcoming
  match tokens with
  | .literal text :: _ =>
    let _ ← takeSilently
    let trailing := text.endsWith "."
    match tupleIndices? (if trailing then (text.dropEnd 1).toString else text) with
    | some indices =>
      print ((indices.map TokenTree.literal).intersperse (.punct '.' false))
      if trailing then
        print [.punct '.' false]
        memberName
    | none => failure
  | _ => memberName
where
  /-- A name behind a dot. -/
  memberName : Parse Unit := do
    if ← optKeyword "await" then return
    if ← fieldMember then
      let turbofish ← next (isPunct "::")
      if turbofish then
        punct "::"
        angleArguments knot
      if turbofish || (← next (isGroup .parenthesis)) then
        group .parenthesis (expressionList knot)

/-- The calls, members, indices and question marks behind an atom. -/
def suffixes (knot : Knot) (shape : ExprShape) : Parse ExprShape := do
  let rec goOn (shape : ExprShape) : Nat → Parse ExprShape
    | 0 => failure
    | count + 1 => do
      let tokens ← upcoming
      if isGroup .parenthesis tokens then
        group .parenthesis (expressionList knot)
        goOn .plain count
      else if isDot tokens && shape ≠ .range then
        memberAccess knot
        goOn .plain count
      else if isGroup .bracket tokens then
        group .bracket do
          let _ ← knot.expression true
        goOn .plain count
      else if isPunct "?" tokens && shape ≠ .range then
        punct "?"
        goOn .plain count
      else return shape
  goOn shape ((← upcoming).length + 2)

/-- An operand with the operators in front of and behind it. -/
def unary (knot : Knot) (allowStruct : Bool) : Parse ExprShape := do
  let attributed ← next (isPunct "#")
  outerAttributes knot
  let tokens ← upcoming
  if isPunct "&" tokens then
    punct "&"
    let raw ← next fun tokens => isKeyword "raw" tokens &&
      second (fun rest => isKeyword "mut" rest || isKeyword "const" rest) tokens
    if raw then keyword "raw"
    let mutable ← optKeyword "mut"
    if raw && !mutable then keyword "const"
    let _ ← knot.unary allowStruct
    return .plain
  else if isPunct "*" tokens || isPunct "!" tokens || isPunct "-" tokens then
    if !(← optPunct "*") then
      if !(← optPunct "!") then punct "-"
    let _ ← knot.unary allowStruct
    return .plain
  else
    let first ← atom knot allowStruct
    let shape ← suffixes knot first
    if attributed && shape = .range then failure
    return shape

/-- The next tokens start an expression that can end a statement by its closing brace. -/
def startsBlockLike (tokens : List TokenTree) : Bool :=
  isOneOf ["if", "while", "loop", "match", "unsafe"] tokens ||
    (isKeyword "for" tokens && !(second (isPunct "<") tokens &&
      (third isLifetime tokens || third (isPunct ">") tokens))) ||
    (isOneOf ["try", "const"] tokens && second (isGroup .brace) tokens) ||
    isGroup .brace tokens || isLifetime tokens

/-- An expression that ends where a statement can end: behind a closing brace, unless a dot or a
question mark goes on. -/
def statementExpression (knot : Knot) : Parse ExprShape := do
  outerAttributes knot
  if ← next startsBlockLike then
    let shape ←
      if ← next (isOneOf ["while", "for", "loop"]) then
        loopExpression knot
        pure .blockLike
      else atom knot true
    if ← next (fun tokens => isDot tokens || isPunct "?" tokens) then
      let shape ← suffixes knot shape
      knot.operators shape true 0
    else return shape
  else
    let shape ← knot.unary true
    knot.operators shape true 0

end NamingLint.Source.Grammar
